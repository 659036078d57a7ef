import MouseConfig.Proofs.Command.Account
import MouseConfig.Proofs.Command.Failure
import MouseConfig.Proofs.Command.Recall
import MouseConfig.Proofs.Device.VolumeKeys
import MouseConfig.Proofs.Service.Restored

/-! # Switching the volume keys twice

A line that flips the volume keys of a device leaves it so that the same line flips them back.  Both
commit the device, or neither does, and what is stored is what it was.
-/

namespace MouseConfig

/-! ## Flips of the active profile -/

namespace VolumeKeys

/-- The calls by which a flip with this outcome is committed. -/
def Outcome.commits (path : Path) : Outcome → List (Path × Bool)
  | unchanged => []
  | enabled | disabled => [(path, true)]

/-- The device has its volume keys flipped in its active profile, with this outcome. -/
structure Flips (d : Device) (i : Nat) (outcome : Outcome) : Prop where
  can : d.has .switchableProfile
  active : d.activeProfile? = some i
  toggles : ∃ p q, d.profiles[i]? = some p ∧ toggle p = some (outcome, q)

theorem Flips.back {d : Device} {i : Nat} {outcome : Outcome} (h : Flips d i outcome) :
    Flips ((Update.toggleVolumeKeys i).apply d) i outcome.back := by
  obtain ⟨p, q, hp, ht⟩ := h.toggles
  have changed := Device.getElem?_modifyProfile hp toggled
  rw [toggled_eq ht] at changed
  exact ⟨h.can, (Device.activeProfile?_modifyProfile active_toggled d i).trans h.active,
    q, p, changed, toggle_toggle ht⟩

end VolumeKeys

open VolumeKeys

namespace Plan

variable {path : Path} {d : Device} {i : Nat} {outcome : Outcome}

/-- What is planned for a device whose volume keys are to be flipped. -/
def flip (path : Path) (d : Device) : Except CommandError Plan :=
  activeProfile d >>= fun i =>
    switchVolumeKeys "switch-etekcity" { device := some ⟨path, d⟩, profile := some i } []

theorem exists_flips_of_ok {p : Plan} (h : flip path d = .ok p) :
    ∃ i outcome, Flips d i outcome ∧ p.update = outcome.update i := by
  obtain ⟨i, hi, h⟩ := bind_eq_ok_iff.mp h
  obtain ⟨-, can, _, q, outcome, q', ⟨⟩, hq, ht, hu⟩ := exists_toggle_of_switchVolumeKeys rfl h
  exact ⟨i, outcome, ⟨can, activeProfile_eq_ok_iff.mp hi, q, q', hq, ht⟩, hu⟩

theorem exists_ok_of_flips (path : Path) (h : Flips d i outcome) :
    ∃ output, flip path d = .ok { update := outcome.update i, output } := by
  obtain ⟨p, q, hp, ht⟩ := h.toggles
  have active := activeProfile_eq_ok_iff.mpr h.active
  have selected := Context.selectedProfile_of_opened
    { device := some ⟨path, d⟩, profile := some i } path rfl hp
  have opened : ({ device := some ⟨path, d⟩, profile := some i } : Context).openModel = .ok d := rfl
  have able := @expectCapability_of_has d _ .noSwitchableProfiles h.can
  simp only [flip, active, switchVolumeKeys, opened, able, selected, ofExcept_ok, ht, noArguments,
    if_pos, bind, Except.bind]
  cases outcome <;> exact ⟨_, rfl⟩

end Plan

/-! ## Lines -/

theorem Line.of_account {σ : Type} {l : Line σ} {a : Account σ} (h : l.account = a) :
    l.failure = a.failure ∧ l.released.commits = a.calls.filterMap Call.commit? ∧
      l.released.service = a.service := by
  subst h
  exact ⟨rfl, rfl, rfl⟩

namespace Commands

variable {σ : Type} [DeviceService σ] {s : σ} {v w : Verbosity} {path : String} {d : Device}
  {i : Nat} {outcome : VolumeKeys.Outcome}

theorem switchVolumeKeys_mem_onDevice : switchVolumeKeys ∈ onDevice := by simp [onDevice]

/-- A line that flips the volume keys of the device at a path. -/
def switched (s : σ) (v : Verbosity) (path : String) : Line σ :=
  tree.run s v ["switch-etekcity", path]

theorem account_switched (v : Verbosity) (hd : loader s ⟨path⟩ = .ok d) :
    (switched s v path).account = .opened s ⟨path⟩ d (Plan.flip ⟨path⟩ d) := by
  have line : (tree.run s v ("switch-etekcity" :: ([] ++ [path]))).account =
      .opened s ⟨path⟩ d (Plan.flip ⟨path⟩ d) :=
    account_in_active switchVolumeKeys_mem_onDevice rfl v hd fun _ _ => .arrived rfl rfl rfl
  exact line

theorem account_switched_of_refused {e : DeviceError} (v : Verbosity)
    (hd : loader s ⟨path⟩ = .error e) : (switched s v path).account = .unopened s ⟨path⟩ e :=
  account_of_refused switchVolumeKeys_mem_onDevice v [] hd

/-- The verbosity does not count. -/
theorem account_switched_congr (s : σ) (v w : Verbosity) (path : String) :
    (switched s v path).account = (switched s w path).account := by
  cases hd : loader s ⟨path⟩ with
  | error e => rw [account_switched_of_refused v hd, account_switched_of_refused w hd]
  | ok d => rw [account_switched v hd, account_switched w hd]

theorem service_of_failure (S : Storage σ) (hs : S.Sound s) {words : List String}
    {e : CommandError} (h : (tree.run s v words).failure = some e) :
    (tree.run s v words).released.service = s := by
  have steady : Steady s := fun _ _ _ _ => S.unchanged hs
  rw [(released_same tree s v words).1]
  exact (Tree.unwritten_of_failure h).service_eq steady

/-- What succeeds has flipped the volume keys of the device. -/
theorem exists_flips_of_success (h : (switched s v path).failure = none) :
    ∃ d i outcome, loader s ⟨path⟩ = .ok d ∧ Flips d i outcome ∧ ∀ u ∈ outcome.update i,
      (DeviceService.commit s ⟨path⟩ (u.apply d)).1.1 = .ok () := by
  have h : (switched s v path).account.failure = none := h
  cases hd : loader s ⟨path⟩ with
  | error e =>
      rw [account_switched_of_refused v hd] at h
      cases h
  | ok d =>
      rw [account_switched v hd] at h
      obtain ⟨p, hp, hc⟩ := Account.exists_plan_of_opened h
      obtain ⟨i, outcome, flips, hu⟩ := Plan.exists_flips_of_ok hp
      exact ⟨d, i, outcome, rfl, flips, hu ▸ hc⟩

/-- With nothing to change, nothing is changed. -/
theorem switched_of_unchanged (v : Verbosity) (hd : loader s ⟨path⟩ = .ok d)
    (flips : Flips d i .unchanged) :
    (switched s v path).failure = none ∧ (switched s v path).released.commits = [] ∧
      (switched s v path).released.service = s := by
  have account := account_switched v hd
  obtain ⟨output, hp⟩ := Plan.exists_ok_of_flips ⟨path⟩ flips
  rw [hp] at account
  exact Line.of_account account

theorem switched_of_changed (v : Verbosity) (hd : loader s ⟨path⟩ = .ok d)
    (flips : Flips d i outcome) {u : Update} (hu : outcome.update i = some u)
    (hc : (DeviceService.commit s ⟨path⟩ (u.apply d)).1.1 = .ok ()) :
    (switched s v path).failure = none ∧ (switched s v path).released.commits = [(⟨path⟩, true)] ∧
      (switched s v path).released.service = (DeviceService.commit s ⟨path⟩ (u.apply d)).2 := by
  have account := account_switched v hd
  obtain ⟨output, hp⟩ := Plan.exists_ok_of_flips ⟨path⟩ flips
  rw [hp, hu, Account.opened_of_committed hc] at account
  exact Line.of_account account

/-! ## Two lines in a row -/

/-- Two lines in a row that flip the volume keys of the device at a path, and what is left by them. -/
structure SwitchedTwice (s : σ) (v w : Verbosity) (path : String) (left : σ → Prop) : Prop where
  stored : left (switched (switched s v path).released.service w path).released.service
  succeeds : (switched s v path).failure = none →
    (switched (switched s v path).released.service w path).failure = none
  commits : (switched s v path).failure = none → ∃ d i p q outcome, loader s ⟨path⟩ = .ok d ∧
    d.activeProfile? = some i ∧ d.profiles[i]? = some p ∧ toggle p = some (outcome, q) ∧
    (switched s v path).released.commits = outcome.commits ⟨path⟩ ∧
    (switched (switched s v path).released.service w path).released.commits =
      outcome.commits ⟨path⟩

theorem SwitchedTwice.mono {left left' : σ → Prop} (h : SwitchedTwice s v w path left)
    (weaker : ∀ t, left t → left' t) : SwitchedTwice s v w path left' :=
  ⟨weaker _ h.stored, h.succeeds, h.commits⟩

variable (S : Storage σ)

/-- The device that has been committed flipped is committed as it was, if the commit was no
failure. -/
theorem commit_flipped_back (hs : S.Sound s) (hd : loader s ⟨path⟩ = .ok d) {u : Update}
    (hc : (DeviceService.commit s ⟨path⟩ (u.apply d)).1.1 = .ok ()) :
    (DeviceService.commit (DeviceService.commit s ⟨path⟩ (u.apply d)).2 ⟨path⟩ d).1.1 = .ok () :=
  (S.result_after hs (S.spares_of_same (S.same_self hd)) hd hd _ (u.buttonCount_apply d).symm).trans
    hc

theorem switchedTwice_of_success (hs : S.Sound s) (v w : Verbosity) (path : String)
    (h : (switched s v path).failure = none) : SwitchedTwice s v w path (Restored s ⟨path⟩) := by
  obtain ⟨d, i, outcome, hd, flips, hc⟩ := exists_flips_of_success h
  obtain ⟨p, q, hp, ht⟩ := flips.toggles
  suffices both : Restored s ⟨path⟩
        (switched (switched s v path).released.service w path).released.service ∧
      (switched (switched s v path).released.service w path).failure = none ∧
      (switched s v path).released.commits = outcome.commits ⟨path⟩ ∧
      (switched (switched s v path).released.service w path).released.commits =
        outcome.commits ⟨path⟩ from
    ⟨both.1, fun _ => both.2.1, fun _ => ⟨d, i, p, q, outcome, hd, flips.active, hp, ht, both.2.2⟩⟩
  cases outcome with
  | unchanged =>
      obtain ⟨-, commits, left⟩ := switched_of_unchanged v hd flips
      obtain ⟨done, commits', left'⟩ := switched_of_unchanged w hd flips
      rw [left, left']
      exact ⟨.same, done, commits, commits'⟩
  | enabled | disabled =>
      -- The second line opens what the first has committed, and commits what the first has opened.
      have hc := hc (.toggleVolumeKeys i) rfl
      obtain ⟨-, commits, left⟩ := switched_of_changed v hd flips rfl hc
      have changed := S.load_commit hs (S.same_self hd) hd hc
      have back := commit_flipped_back S hs hd hc
      have twice := Update.toggleVolumeKeys_apply_apply d i
      obtain ⟨done, commits', left'⟩ := switched_of_changed w changed flips.back rfl
        ((congrArg (fun x => (DeviceService.commit _ ⟨path⟩ x).1.1) twice).trans back)
      rw [twice] at left'
      rw [left, left']
      exact ⟨.back hd hc back, done, commits, commits'⟩

theorem switchedTwice (hs : S.Sound s) (v w : Verbosity) (path : String) :
    SwitchedTwice s v w path (Restored s ⟨path⟩) := by
  cases h : (switched s v path).failure with
  | none => exact switchedTwice_of_success S hs v w path h
  | some e =>
      have left : (switched s v path).released.service = s := service_of_failure S hs h
      have again : (switched s w path).failure = some e :=
        (congrArg Account.failure (account_switched_congr s w v path)).trans h
      have left' : (switched s w path).released.service = s := service_of_failure S hs again
      refine ⟨?_, fun h' => absurd (h.symm.trans h') nofun, fun h' => absurd (h.symm.trans h') nofun⟩
      rw [left, left']
      exact .same

/-- To flip the volume keys twice changes nothing, in a profile and in what is stored.  Both lines
commit the device once, or neither does.  Only what is in the file beside that of the device may be
lost to the commits. -/
theorem switching_twice_restores :
    (∀ p : Profile, SelfInverse p) ∧
    (∀ (σ : Type) [DeviceService σ] (S : Storage σ) (s : σ) (v w : Verbosity) (path : String),
      S.KeepsPaths → S.Sound s → SwitchedTwice s v w path fun t =>
        ∀ q, S.Spares s ⟨path⟩ q → loader t q = loader s q) ∧
    (∀ (shelf : Shelf) (v w : Verbosity) (path : String),
      SwitchedTwice shelf v w path (· = shelf)) ∧
    ∀ (store : FileStore) (v w : Verbosity) (path : String), store.files.Grounded →
      SwitchedTwice store v w path fun t =>
        ∀ q, store.Harmless ⟨path⟩ q → loader t q = loader store q :=
  ⟨selfInverse,
    fun _ _ S _ v w path keeps hs => (switchedTwice S hs v w path).mono fun _ restored _ spares =>
      S.load_of_restored keeps hs spares restored,
    fun _ v w path => (switchedTwice Shelf.storage trivial v w path).mono fun _ restored =>
      Shelf.eq_of_restored restored,
    fun _ v w path hg => (switchedTwice FileStore.storage hg v w path).mono
      fun _ restored _ harmless => FileStore.load_of_restored hg harmless restored⟩

/-- Two buttons that are mapped to nothing, on a shelf and in a file. -/
theorem switching_twice_restores_of_mouse :
    let p : Profile := { active := true, buttons := List.replicate 8 {} }
    let d : Device := { name := "M", capabilities := [.switchableProfile], profiles := [p] }
    let shelf : Shelf := { entries := [(⟨"m"⟩, .device d)] }
    let text := "name = 'M'\ncapabilities = ['switchable-profile']\n[[profile]]\nactive = true\n" ++
      "button = [\x7b\x7d, \x7b\x7d, \x7b\x7d, \x7b\x7d, \x7b\x7d, \x7b\x7d, \x7b\x7d, \x7b\x7d]\n"
    let store : FileStore := {
      files := { entries := [(["m"], .text text)] }, inputDir := ⟨""⟩, nodePrefix := "" }
    toggled (toggled p) = p ∧ (switched shelf .normal "m").released.commits = [(⟨"m"⟩, true)] ∧
      (switched (switched shelf .normal "m").released.service .raw "m").failure = none ∧
      SwitchedTwice shelf .normal .raw "m" (fun t => t = shelf ∧ loader t ⟨"m/"⟩ = .ok d) ∧
      (switched store .normal "m").failure = none ∧
      SwitchedTwice store .normal .raw "m" fun t => loader t ⟨"./m"⟩ = loader store ⟨"./m"⟩ := by
  intro p d shelf text store
  obtain ⟨profiles, services, shelves, stores⟩ := switching_twice_restores
  have grounded : store.files.Grounded := by decide
  have harmless : store.Harmless ⟨"m"⟩ ⟨"./m"⟩ := by
    have apart : store.files.locate (FileSystem.staging ⟨"m"⟩) ≠ store.files.locate ⟨"./m"⟩ := by
      decide +kernel
    exact fun k hk hq => absurd (hk.trans hq.symm) apart
  have onShelf := shelves shelf .normal .raw "m"
  have kept := services Shelf Shelf.storage shelf .normal .raw "m" Shelf.storage_keepsPaths trivial
  have inFile := stores store .normal .raw "m" grounded
  have flips : (switched shelf .normal "m").failure = none := by decide +kernel
  have loaded : loader shelf ⟨"m/"⟩ = .ok d := by decide +kernel
  refine ⟨(profiles p).back, by decide +kernel, onShelf.succeeds flips, ?_, by decide +kernel,
    inFile.mono fun _ same => same ⟨"./m"⟩ harmless⟩
  exact ⟨⟨onShelf.stored, (kept.stored ⟨"m/"⟩ trivial).trans loaded⟩, kept.succeeds, kept.commits⟩

end Commands

end MouseConfig
