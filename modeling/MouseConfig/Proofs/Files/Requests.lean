import MouseConfig.Proofs.Files.Store

/-! # Calls on devices in files

Devices in files make a store: what is loaded from a path is what was last committed to the file that
the path leads to, or what the file was at first.  New content is written beside a file, so for this
the files beside the files in use have to be out of use.
-/

namespace MouseConfig

/-- A call on a store of devices. -/
inductive Request where
  | load (path : Path)
  | commit (path : Path) (d : Device)
  | discover
deriving DecidableEq, Repr

/-- The path that a call is about. -/
def Request.path? : Request → Option Path
  | load path | commit path _ => some path
  | discover => none

/-- Nothing is beside the files that paths lead to, and none of the paths leads to a place beside the
file of another one. -/
structure FileSystem.Apart (fs : FileSystem) (paths : List Path) : Prop where
  free : ∀ p ∈ paths, ∀ e, fs.stat (staging p) ≠ .ok e
  beside : ∀ p ∈ paths, ∀ q ∈ paths, p ≠ q → ∀ k, fs.locate (staging p) = .ok k →
    fs.locate q ≠ .ok k

namespace FileSystem.Apart

variable {fs : FileSystem} {paths : List Path} {p q : Path} {k : Location}

theorem get?_eq_none (h : fs.Apart paths) (hp : p ∈ paths) (hk : fs.locate (staging p) = .ok k) :
    fs.get? k = none := by
  cases hs : fs.get? k with
  | none => rfl
  | some e => exact absurd (stat_eq_ok_iff.mpr ⟨k, hk, hs⟩) (h.free p hp e)

theorem locate_ne (h : fs.Apart paths) (hp : p ∈ paths) (hq : q ∈ paths)
    (hk : fs.locate (staging p) = .ok k) : fs.locate q ≠ .ok k := by
  intro hl
  by_cases same : p = q
  · subst same
    exact locate_ne_of_staging hk hl rfl
  · exact h.beside p hp q hq same k hk hl

end FileSystem.Apart

namespace FileStore

/-! ## Runs of calls -/

/-- The store after a call. -/
def perform (s : FileStore) : Request → FileStore
  | .commit path d => (s.commit path d).2
  | .load _ | .discover => s

def performAll (s : FileStore) (rs : List Request) : FileStore := rs.foldl perform s

/-- What a call has stored, and at which place. -/
def stored? (s : FileStore) : Request → Option (Location × Device)
  | .commit path d =>
    match (s.commit path d).1.1, s.files.locate path with
    | .ok (), .ok l => some (l, d)
    | _, _ => none
  | .load _ | .discover => none

/-- All that calls have stored one after the other, the last first. -/
def history (s : FileStore) : List Request → List (Location × Device)
  | [] => []
  | r :: rs => (s.perform r).history rs ++ (s.stored? r).toList

/-- The device last committed to the file that a path leads to. -/
def latest? (s : FileStore) (rs : List Request) (path : Path) : Option Device :=
  match s.files.locate path with
  | .ok l => (s.history rs).lookup l
  | .error _ => none

/-- What is loaded from a path as long as nothing is committed. -/
inductive Opens (s : FileStore) (path : Path) : Except DeviceError Device → Prop
  | notSupported (h : ∀ e, s.files.stat path = .ok e → e = .directory) :
      Opens s path (.error (.notSupported path))
  | unreadable {bytes : List UInt8} (h : s.files.stat path = .ok (.binary bytes)) :
      Opens s path (.error (.unreadable path (FileError.read path .notText).message))
  | malformed {text : String} {f : Toml.Fault} (h : s.files.stat path = .ok (.text text))
      (hf : Device.ofDescription text = .error f) :
      Opens s path (.error (.malformed path f.message))
  | described {text : String} {d : Device} (h : s.files.stat path = .ok (.text text))
      (hd : Device.ofDescription text = .ok d) : Opens s path (.ok d)

variable {s t : FileStore} {p : Path} {d : Device} {paths : List Path}

theorem latest?_eq_some_iff {rs : List Request} :
    s.latest? rs p = some d ↔ ∃ l, s.files.locate p = .ok l ∧ (s.history rs).lookup l = some d := by
  rw [latest?]
  cases s.files.locate p <;> simp

theorem opens_load (s : FileStore) (p : Path) : s.Opens p (s.load p).1 := by
  rw [load]
  rcases hs : s.files.stat p with fault | _ | text | bytes
  · exact .notSupported fun e he => by cases hs.symm.trans he
  · exact .notSupported fun e he => (Except.ok.inj (hs.symm.trans he)).symm
  · dsimp only
    rw [parse]
    cases hd : Device.ofDescription text with
    | ok d => exact .described hs hd
    | error f => exact .malformed hs hd
  · exact .unreadable hs

/-! ## Commits -/

/-- A commit that comes to its end changes one file, and one that fails changes none, if there is
nothing beside the file. -/
theorem commit_changes (free : ∀ k, s.files.locate (FileSystem.staging p) = .ok k →
    s.files.get? k = none) :
    ((s.commit p d).1.1 = .ok () ∧ ∃ text l, d.description? = some text ∧
      s.files.locate p = .ok l ∧ ∀ m, (s.commit p d).2.files.get? m =
        if m = l then some (.text text) else s.files.get? m) ∨
    (s.commit p d).1.1 ≠ .ok () ∧ ∀ m, (s.commit p d).2.files.get? m = s.files.get? m := by
  cases hd : d.description? with
  | none =>
      refine .inr ?_
      rw [commit, hd]
      exact ⟨by simp, fun m => rfl⟩
  | some text =>
      have replacement := s.files.replacement p text
      rw [commit, hd]
      dsimp only
      rcases hr : s.files.replace p text with ⟨fault | _, files⟩
      · rw [hr] at replacement
        exact .inr ⟨by simp, replacement.get?_of_error free⟩
      · rw [hr] at replacement
        obtain ⟨k, l, hk, hl, -, get⟩ := replacement.exists_place
        refine .inl ⟨rfl, text, l, rfl, hl, fun m => ?_⟩
        refine (get m).trans ?_
        by_cases hm : m = k
        · rw [if_pos hm, hm, free k hk]
        · rw [if_neg hm]

/-- A device that can be described is committed to a file that is there. -/
theorem commit_ok (hg : s.files.Grounded) (hd : d.buttonCount.toNat < Toml.integerBound)
    {e : Entry} (hs : s.files.stat p = .ok e) (hf : e ≠ .directory) (room : FileSystem.Roomy p)
    (free : ∀ k, s.files.locate (FileSystem.staging p) = .ok k → s.files.get? k = none) :
    (s.commit p d).1.1 = .ok () := by
  obtain ⟨text, described, -⟩ := Device.exists_description hd
  obtain ⟨l, hl, -⟩ := FileSystem.stat_eq_ok_iff.mp hs
  obtain ⟨k, hk⟩ := FileSystem.exists_locate_staging hl room
  have written : s.files.write (FileSystem.staging p) text =
      .ok (s.files.put k (.text text)) :=
    FileSystem.write_eq_ok_iff.mpr ⟨k, hk, by simp [free k hk], rfl⟩
  obtain ⟨l', k', -, -, -, replaced⟩ := hg.replace_eq hs hf written
  rw [commit, described]
  dsimp only
  rw [replaced]

/-- No commit comes to its end where there is no room for the file beside the file. -/
theorem roomy_of_commit (h : (s.commit p d).1.1 = .ok ()) : FileSystem.Roomy p := by
  obtain ⟨text, -, hr⟩ := exists_text_of_commit h
  have replacement := s.files.replacement p text
  rw [hr] at replacement
  obtain ⟨k, l, hk, -⟩ := replacement.exists_place
  exact FileSystem.roomy_of_locate_staging hk

/-! ## What the files hold -/

/-- The files hold what has been stored in them, and for the rest what they held at first. -/
structure Holds (s : FileStore) (paths : List Path) (stored : List (Location × Device))
    (t : FileStore) : Prop where
  directories : s.files.SameDirectories t.files
  places : ∀ e ∈ stored, ∃ p ∈ paths, s.files.locate p = .ok e.1
  content : ∀ l, match stored.lookup l with
    | some d => ∃ text, d.description? = some text ∧ t.files.get? l = some (.text text)
    | none => t.files.get? l = s.files.get? l

namespace Holds

variable {stored : List (Location × Device)}

theorem refl (s : FileStore) (paths : List Path) : s.Holds paths [] s :=
  ⟨.refl s.files, nofun, fun _ => rfl⟩

theorem get?_of_lookup_eq_none (h : s.Holds paths stored t) {l : Location}
    (hl : stored.lookup l = none) : t.files.get? l = s.files.get? l := by
  have content := h.content l
  rwa [hl] at content

/-- Still nothing is beside the files. -/
theorem free (h : s.Holds paths stored t) (apart : s.files.Apart paths) (hp : p ∈ paths)
    {k : Location} (hk : t.files.locate (FileSystem.staging p) = .ok k) :
    t.files.get? k = none := by
  have hk := h.directories.locate_iff.mp hk
  have unused : stored.lookup k = none := by
    rw [List.lookup_eq_none_iff]
    intro e he
    obtain ⟨q, hq, hl⟩ := h.places e he
    have other : k ≠ e.1 := fun same => apart.locate_ne hp hq hk (same ▸ hl)
    simpa using other
  rw [h.get?_of_lookup_eq_none unused, apart.get?_eq_none hp hk]

/-- One more call. -/
theorem perform (h : s.Holds paths stored t) (apart : s.files.Apart paths) {r : Request}
    (hr : ∀ p ∈ r.path?, p ∈ paths) :
    s.Holds paths ((t.stored? r).toList ++ stored) (t.perform r) := by
  cases r with
  | load | discover => exact h
  | commit p d =>
      have hp : p ∈ paths := hr p rfl
      have dirs := h.directories.trans (t.sameDirectories_commit p d)
      rcases commit_changes (d := d) fun k hk => h.free apart hp hk with
        ⟨ok, text, l, hd, hl, get⟩ | ⟨failed, get⟩
      · have new : t.stored? (.commit p d) = some (l, d) := by simp [stored?, ok, hl]
        rw [new]
        refine ⟨dirs, fun e he => ?_, fun m => ?_⟩
        · rcases List.mem_cons.mp he with rfl | he
          · exact ⟨p, hp, h.directories.locate_iff.mp hl⟩
          · exact h.places e he
        · by_cases hm : m = l
          · subst hm
            simpa [List.lookup_cons] using ⟨text, hd, (get m).trans (if_pos rfl)⟩
          · have content := h.content m
            rw [← (get m).trans (if_neg hm)] at content
            have skipped : ((some (l, d)).toList ++ stored).lookup m = stored.lookup m := by
              simp [List.lookup_cons, beq_false_of_ne hm]
            rw [skipped]
            exact content
      · have new : t.stored? (.commit p d) = none := by
          rw [stored?]
          split
          · next ok _ => exact absurd ok failed
          · rfl
        rw [new]
        refine ⟨dirs, h.places, fun m => ?_⟩
        have content := h.content m
        rw [← get m] at content
        exact content

theorem performAll (h : s.Holds paths stored t) (apart : s.files.Apart paths) {rs : List Request}
    (hrs : ∀ r ∈ rs, ∀ p ∈ r.path?, p ∈ paths) :
    s.Holds paths (t.history rs ++ stored) (t.performAll rs) := by
  induction rs generalizing t stored with
  | nil => exact h
  | cons r rs ih =>
      have next := h.perform apart (hrs r List.mem_cons_self)
      have rest := ih next fun x hx => hrs x (List.mem_cons_of_mem r hx)
      rw [← List.append_assoc] at rest
      exact rest

/-- What is stored at the place of a path is loaded from it. -/
theorem load (h : s.Holds paths stored t) {l : Location} (hl : s.files.locate p = .ok l)
    (hs : stored.lookup l = some d) : (t.load p).1 = .ok d := by
  have content := h.content l
  rw [hs] at content
  obtain ⟨text, hd, there⟩ := content
  exact load_eq_ok_iff.mpr ⟨text, FileSystem.stat_eq_ok_iff.mpr
    ⟨l, h.directories.locate_iff.mpr hl, there⟩, Device.ofDescription_of_description? hd⟩

end Holds

/-- Whatever calls are made on paths that are apart, what is loaded is the device last committed to the
file, or what the file was at first.  Only files that are committed to change, nothing stays beside
them, and a device that can be described is committed to any file that leaves room for it. -/
theorem behaves_as_store {s : FileStore} {paths : List Path} {rs : List Request}
    (apart : s.files.Apart paths) (hrs : ∀ r ∈ rs, ∀ p ∈ r.path?, p ∈ paths) :
    let t := s.performAll rs
    (∀ p ∈ paths, (∀ d, s.latest? rs p = some d → (t.load p).1 = .ok d) ∧
      (s.latest? rs p = none → s.Opens p (t.load p).1)) ∧
    (∀ r : Request, (∀ p d, r ≠ .commit p d) → t.perform r = t) ∧
    (∀ l, (s.history rs).lookup l = none → t.files.get? l = s.files.get? l) ∧
    (∀ p ∈ paths, ∀ e, t.files.stat (FileSystem.staging p) ≠ .ok e) ∧
    (s.files.Anchored → ∀ p ∈ paths, ∀ d e, d.buttonCount.toNat < Toml.integerBound →
      t.files.stat p = .ok e → e ≠ .directory → FileSystem.Roomy p →
      (t.commit p d).1.1 = .ok ()) := by
  have holds : s.Holds paths (s.history rs) (s.performAll rs) := by
    have run := (Holds.refl s paths).performAll apart hrs
    rwa [List.append_nil] at run
  refine ⟨fun p hp => ⟨fun d hd => ?_, fun hn => ?_⟩, fun r hr => ?_,
    fun l => holds.get?_of_lookup_eq_none, fun p hp e he => ?_,
    fun anchored p hp d e hd hs hf room => ?_⟩
  · obtain ⟨l, hl, hd⟩ := latest?_eq_some_iff.mp hd
    exact holds.load hl hd
  · have same : ((s.performAll rs).load p).1 = (s.load p).1 := by
      refine load_congr_of_get? holds.directories fun l hl => holds.get?_of_lookup_eq_none ?_
      rwa [latest?, hl] at hn
    rw [same]
    exact s.opens_load p
  · cases r with
    | load | discover => rfl
    | commit p d => exact absurd rfl (hr p d)
  · obtain ⟨k, hk, there⟩ := FileSystem.stat_eq_ok_iff.mp he
    exact absurd ((holds.free apart hp hk).symm.trans there) nofun
  · have grounded := (anchored.of_sameDirectories holds.directories).grounded
    exact commit_ok grounded hd hs hf room fun k => holds.free apart hp

/-- A file that cannot be committed to, as its name leaves no room for the one beside it; and a file
beside another one that is lost when the other is committed, for all that its path looks otherwise. -/
theorem lost_beside_or_without_room :
    let d : Device := { name := "M" }
    let name := String.ofList (List.replicate 252 'a')
    let s : FileStore := {
      files := { entries := [([name], .text "name = 'M'")] }, inputDir := ⟨""⟩, nodePrefix := "" }
    let m : Path := ⟨"m"⟩
    let beside : Path := ⟨"./m.tmp"⟩
    let empty : FileStore := { files := {}, inputDir := ⟨""⟩, nodePrefix := "" }
    let rs : List Request := [.commit beside d, .commit m d]
    ((s.load ⟨name⟩).1 = .ok d ∧ (∀ e, s.files.stat (FileSystem.staging ⟨name⟩) ≠ .ok e) ∧
      (s.commit ⟨name⟩ d).1.1 ≠ .ok ()) ∧
    (∀ p ∈ [m, beside], ∀ e, empty.files.stat (FileSystem.staging p) ≠ .ok e) ∧
      (∀ p ∈ [m, beside], ∀ q ∈ [m, beside], q ≠ FileSystem.staging p) ∧
      empty.latest? rs beside = some d ∧ ((empty.performAll rs).load beside).1 ≠ .ok d := by
  intro d name s m beside empty rs
  have plain : ∀ c, c ≠ 'a' → c ∉ name.toList := by
    intro c hc hmem
    rw [String.toList_ofList] at hmem
    exact hc (List.eq_of_mem_replicate hmem)
  have proper : FileSystem.Proper name := by
    refine ⟨?_, ?_, ?_⟩ <;> decide +kernel
  have place : s.files.locate ⟨name⟩ = .ok [name] :=
    FileSystem.locate_name proper (plain '/' (by decide)) (plain '\x00' (by decide))
      (by decide +kernel) rfl
  have found : s.files.stat ⟨name⟩ = .ok (.text "name = 'M'") :=
    FileSystem.stat_eq_ok_iff.mpr ⟨[name], place, by simp [s, FileSystem.get?]⟩
  have full : ¬ FileSystem.Roomy ⟨name⟩ :=
    FileSystem.not_roomy_of_name (plain '/' (by decide)) (by decide +kernel)
  have free : ∀ p ∈ [m, beside], empty.files.stat (FileSystem.staging p) = .error .notFound := by
    decide +kernel
  refine ⟨⟨?_, fun e he => ?_, fun h => full (roomy_of_commit h)⟩, fun p hp e he => ?_,
    by decide +kernel, by decide +kernel, by decide +kernel⟩
  · exact load_eq_ok_iff.mpr ⟨_, found, by decide +kernel⟩
  · obtain ⟨k, hk, -⟩ := FileSystem.stat_eq_ok_iff.mp he
    exact full (FileSystem.roomy_of_locate_staging hk)
  · cases (free p hp).symm.trans he

/-- A mouse is set up anew, and one more is added. -/
theorem behaves_as_store_with_two :
    let d : Device := { name := "M", buttonCount := 3 }
    let s : FileStore := {
      files := { entries := [(["m"], .text "name = 'M'")] }, inputDir := ⟨""⟩, nodePrefix := "" }
    let rs : List Request := [.load ⟨"n"⟩, .commit ⟨"m"⟩ d, .discover, .commit ⟨"n"⟩ d]
    s.Opens ⟨"n"⟩ (s.load ⟨"n"⟩).1 ∧ ((s.performAll rs).load ⟨"m"⟩).1 = .ok d ∧
      ((s.performAll rs).commit ⟨"n"⟩ d).1.1 = .ok () := by
  intro d s rs
  have free : ∀ p ∈ [⟨"m"⟩, ⟨"n"⟩], s.files.stat (FileSystem.staging p) = .error .notFound := by
    decide +kernel
  have places : ∀ p ∈ [⟨"m"⟩, ⟨"n"⟩], ∀ q ∈ [⟨"m"⟩, ⟨"n"⟩],
      s.files.locate (FileSystem.staging p) ≠ s.files.locate q := by decide +kernel
  have apart : s.files.Apart [⟨"m"⟩, ⟨"n"⟩] :=
    ⟨fun p hp e he => absurd ((free p hp).symm.trans he) nofun,
      fun p hp q hq _ k hk hl => places p hp q hq (hk.trans hl.symm)⟩
  have last : ∀ p ∈ [⟨"m"⟩, ⟨"n"⟩], s.latest? rs p = some d := by decide +kernel
  have unset : s.latest? [] ⟨"n"⟩ = none := by decide +kernel
  obtain ⟨loads, -, -, -, commits⟩ := @behaves_as_store s _ rs apart (by decide)
  obtain ⟨initial, -⟩ := @behaves_as_store s _ [] apart (by decide)
  have onN := (loads ⟨"n"⟩ (by decide)).1 d (last ⟨"n"⟩ (by decide))
  obtain ⟨text, there, -⟩ := load_eq_ok_iff.mp onN
  refine ⟨(initial ⟨"n"⟩ (by decide)).2 unset, (loads ⟨"m"⟩ (by decide)).1 d (last ⟨"m"⟩ (by decide)), ?_⟩
  exact commits (by decide) ⟨"n"⟩ (by decide) d _ (by decide) there nofun (by decide)

end FileStore

end MouseConfig
