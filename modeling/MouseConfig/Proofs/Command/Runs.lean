import MouseConfig.Command.Standard
import MouseConfig.Proofs.Command.Checks
import MouseConfig.Proofs.Command.Outcome
import MouseConfig.Proofs.Files.Store
import MouseConfig.Proofs.Service.Shelf

/-! # Runs of lines

What a line writes back is a device that it has opened, with an update that sets what is well-formed.
So devices stay well-formed in any run of lines one after the other, whether or not they fail.
-/

namespace MouseConfig

/-! ## What is written -/

variable {σ : Type} [DeviceService σ]

/-- A service as it is, or as one commit of an admissible update over an opened device leaves it. -/
def Rewritten (service service' : σ) : Prop :=
  service' = service ∨ ∃ path d, ∃ u : Update, loader service path = .ok d ∧ u.Admissible d ∧
    service' = (DeviceService.commit service path (u.apply d)).2

variable {s s' : Session σ} {failure : Option CommandError}

/-- A task leaves the service as it is, or commits what it has planned over the open device. -/
theorem Task.service_of_outcome {t : Task} {command : String}
    (h : t.Outcome command s failure s') :
    s'.service = s.service ∨ ∃ p u o, t.plan? command s.context s.args = some (.ok p) ∧
      p.update = some u ∧ s.context.device = some o ∧
      s'.service = (DeviceService.commit s.service o.path (u.apply o.model)).2 := by
  cases h with
  | surplus | undiscovered | listed | recorded | refused | shown | closed => exact .inl rfl
  | uncommitted hp hu ho => exact .inr ⟨_, _, _, hp, hu, ho, rfl⟩
  | committed hp hu ho => exact .inr ⟨_, _, _, hp, hu, ho, rfl⟩

theorem Task.rewritten_of_outcome {t : Task} {command : String}
    (hs : ∀ o, s.context.device = some o → loader s.service o.path = .ok o.model)
    (h : t.Outcome command s failure s') : Rewritten s.service s'.service := by
  rcases Task.service_of_outcome h with same | ⟨p, u, o, hp, hu, ho, written⟩
  · exact .inl same
  · have hd : s.context.openModel = .ok o.model := Context.openModel_eq_ok_iff.mpr ⟨o.path, ho⟩
    have checked : p.Admissible s.context := Plan.checked_of_plan hp
    exact .inr ⟨o.path, o.model, u, hs o ho, checked o.model u hd hu, written⟩

theorem Node.rewritten_of_outcome {n : Node} (hs : s.stand.Sound (loader s.service))
    (h : n.Outcome s failure s') : Rewritten s.service s'.service := by
  have sound := n.seek_sound (loader s.service) s.stand hs
  cases h with
  | lost => exact .inl rfl
  | @arrived t p log _ _ hr ht =>
      rw [hr] at sound
      have opened : ∀ o, (s.moved p log).context.device = some o →
          loader s.service o.path = .ok o.model := sound.opened
      exact Task.rewritten_of_outcome (s := s.moved p log) opened ht

namespace Tree

/-- A line, done or failed, commits once at most. -/
theorem rewritten_released (t : Tree) (service : σ) (v : Verbosity) (words : List String) :
    Rewritten service (t.run service v words).released.service := by
  obtain ⟨log, h⟩ := t.exists_released service v words
  rw [h]
  exact Node.rewritten_of_outcome (Stand.Sound.start _ words) (t.outcome service v words)

/-- The service when lines have been run on it one after the other, each in a session of its own. -/
def runAll (t : Tree) (service : σ) (lines : List (Verbosity × List String)) : σ :=
  lines.foldl (fun service line => (t.run service line.1 line.2).released.service) service

@[simp] theorem runAll_cons (t : Tree) (service : σ) (line : Verbosity × List String)
    (rest : List (Verbosity × List String)) : t.runAll service (line :: rest) =
      t.runAll (t.run service line.1 line.2).released.service rest := rfl

/-- The commit of an admissible update over an opened device keeps a property of services. -/
def KeptByCommits (P : σ → Prop) : Prop :=
  ∀ service path d (u : Update), P service → loader service path = .ok d → u.Admissible d →
    P (DeviceService.commit service path (u.apply d)).2

variable {P : σ → Prop} (t : Tree) (hP : KeptByCommits P) {service : σ} (h : P service)

include hP h

theorem run_keeps (v : Verbosity) (words : List String) :
    P (t.run service v words).released.service := by
  rcases t.rewritten_released service v words with same | ⟨path, d, u, hd, hu, written⟩
  · rw [same]
    exact h
  · rw [written]
    exact hP service path d u h hd hu

/-- What one line keeps, all lines together keep. -/
theorem runAll_keeps (lines : List (Verbosity × List String)) : P (t.runAll service lines) := by
  induction lines generalizing service with
  | nil => exact h
  | cons line rest ih =>
      rw [runAll_cons]
      exact ih (t.run_keeps hP h line.1 line.2)

end Tree

/-! ## Well-formed devices -/

/-- All devices on a shelf are well-formed. -/
def Shelf.WellFormed (s : Shelf) : Prop := ∀ e ∈ s.devices, e.2.WellFormed

instance : DecidablePred Shelf.WellFormed := fun s =>
  inferInstanceAs (Decidable (∀ e ∈ s.devices, e.2.WellFormed))

/-- All devices that files describe are well-formed. -/
def FileStore.WellFormed (s : FileStore) : Prop := ∀ path d, (s.load path).1 = .ok d → d.WellFormed

theorem Shelf.WellFormed.commit {s : Shelf} (h : s.WellFormed) {path : Path} {d : Device}
    {u : Update} (hd : s.load path = .ok d) (hu : u.Admissible d) :
    (s.commit path (u.apply d)).2.WellFormed := by
  intro e he
  rcases mem_devices_of_commit he with same | he
  · obtain ⟨q, hq⟩ := exists_mem_of_load hd
    have opened : d.WellFormed := h _ hq
    rw [same]
    exact opened.apply hu
  · exact h e he

theorem FileStore.WellFormed.commit {s : FileStore} (hg : s.files.Grounded) (h : s.WellFormed)
    {path : Path} {d : Device} {u : Update} (hd : (s.load path).1 = .ok d) (hu : u.Admissible d) :
    (s.commit path (u.apply d)).2.files.Grounded ∧ (s.commit path (u.apply d)).2.WellFormed := by
  obtain ⟨grounded, loaded⟩ := loaded_of_commit (d := u.apply d) hg hd
  refine ⟨grounded, fun q x hx => ?_⟩
  rcases loaded q x hx with rfl | hx
  · exact (h path d hd).apply hu
  · exact h q x hx

namespace Commands

/-- Any lines, one after the other and whether or not they fail, leave well-formed devices where all
devices were well-formed, on a shelf and in files. -/
theorem runs_keep_wellFormed :
    (∀ (shelf : Shelf) (lines : List (Verbosity × List String)), shelf.WellFormed →
      (tree.runAll shelf lines).WellFormed) ∧
    ∀ (store : FileStore) (lines : List (Verbosity × List String)), store.files.Grounded →
      store.WellFormed → (tree.runAll store lines).WellFormed := by
  refine ⟨fun shelf lines h => ?_, fun store lines hg h => ?_⟩
  · have kept : Tree.KeptByCommits Shelf.WellFormed := fun s path d u h hd hu => h.commit hd hu
    exact tree.runAll_keeps kept h lines
  · have kept : Tree.KeptByCommits fun s : FileStore => s.files.Grounded ∧ s.WellFormed :=
      fun s path d u h hd hu => h.2.commit h.1 hd hu
    exact (tree.runAll_keeps kept ⟨hg, h⟩ lines).2

/-- Two dpi settings, one out of range, and a mapping to a key sequence, on a shelf and in a file. -/
theorem runs_keep_wellFormed_of_mouse :
    let d : Device := {
      name := "M", capabilities := [.switchableResolution, .buttonKey, .buttonMacros]
      dpiRange := some ⟨100, 1600⟩
      profiles := [{
        active := true, resolutions := [{ dpi := 400, active := true }, { dpi := 800 }]
        buttons := [{ action := .key "KEY_A" }] }] }
    let shelf : Shelf := { entries := [(⟨"m"⟩, .device d), (⟨"n"⟩, .malformed "no name")] }
    let text :=
      "name = 'M'\n[[profile]]\nactive = true\n[[profile.resolution]]\ndpi = 0\nrate = 0\nactive = true"
    let store : FileStore := {
      files := { entries := [(["m"], .text text)] }, inputDir := ⟨""⟩, nodePrefix := "" }
    let lines := [(.normal, ["dpi", "set", "800", "m"]), (.normal, ["dpi", "set", "8000", "m"]),
      (.raw, ["button", "0", "set", "macro", "paste:KEY_LEFTCTRL,KEY_V", "m"])]
    (tree.runAll shelf lines).WellFormed ∧ (tree.runAll store lines).WellFormed := by
  intro d shelf text store lines
  have onShelf : shelf.WellFormed := by decide
  have grounded : store.files.Grounded := by decide
  let e : Device := {
    name := "M", profiles := [{ active := true, resolutions := [{ dpi := 0, active := true }] }] }
  have read : (Device.ofDescription text).toOption = some e := by decide +kernel
  have inFile : store.WellFormed := by
    intro path x hx
    obtain ⟨text', hs, hx⟩ := FileStore.load_eq_ok_iff.mp hx
    obtain ⟨l, -, hl⟩ := FileSystem.stat_eq_ok_iff.mp hs
    have only : text' = text := by
      by_cases hroot : l = []
      · simp [hroot] at hl
      · by_cases hm : l = ["m"]
        · subst hm
          exact (Entry.text.inj (Option.some.inj hl)).symm
        · simp [store, FileSystem.get?, List.lookup_cons, hroot, beq_false_of_ne hm] at hl
    rw [only] at hx
    rw [hx] at read
    cases read
    decide
  exact ⟨runs_keep_wellFormed.1 shelf lines onShelf,
    runs_keep_wellFormed.2 store lines grounded inFile⟩

end Commands

end MouseConfig
