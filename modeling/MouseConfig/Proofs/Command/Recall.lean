import MouseConfig.Proofs.Command.Reading
import MouseConfig.Proofs.Command.Success

/-! # Recall

What a line has set, the line that gets it prints next.  The two find what they are about on their
own, each in the device that it opens, so this rests on a service that keeps what is committed.
-/

namespace MouseConfig

variable {σ : Type} [DeviceService σ] {service : σ}

/-! ## Services that keep what is committed -/

/-- What is committed over a device is loaded afterwards. -/
def Retentive (service : σ) : Prop :=
  ∀ path d₀ d, loader service path = .ok d₀ → (DeviceService.commit service path d).1.1 = .ok () →
    loader (DeviceService.commit service path d).2 path = .ok d

theorem Shelf.retentive (shelf : Shelf) : Retentive shelf :=
  fun _ _ _ _ h => load_eq_ok_iff.mpr (get?_commit h)

theorem FileStore.retentive {store : FileStore} (hg : store.files.Grounded) : Retentive store :=
  fun _ _ _ hd h => load_commit hg hd h

theorem Session.Stored.loader_eq {s : Session σ} {path : Path} {d : Device} {u : Option Update}
    (hr : Retentive service) (hd : loader service path = .ok d)
    (h : s.Stored service path (u.map (·.apply d))) :
    loader s.service path = .ok ((u.map (·.apply d)).getD d) := by
  cases u with
  | none =>
      rw [h.1]
      exact hd
  | some u =>
      obtain ⟨hok, hs, -⟩ := h
      rw [hs]
      exact hr path d (u.apply d) hd hok

/-! ## Lines that print -/

/-- A plan with no update is carried out by printing. -/
theorem Task.output_of_outcome {t : Task} {command : String} {s s' : Session σ} {p : Plan}
    {failure : Option CommandError} (hp : t.plan? command s.context s.args = some (.ok p))
    (hu : p.update = none) (h : t.Outcome command s failure s') :
    failure = none ∧ s'.output = s.output ++ p.output := by
  cases h with
  | surplus ht | undiscovered ht | listed ht | recorded ht =>
      subst ht
      cases hp
  | refused hp' => cases hp.symm.trans hp'
  | shown hp' =>
      cases hp.symm.trans hp'
      exact ⟨rfl, rfl⟩
  | closed hp' hu' | uncommitted hp' hu' | committed hp' hu' =>
      cases hp.symm.trans hp'
      cases hu.symm.trans hu'

theorem Context.selectedProfile_of_opened (c : Context) (path : Path) {d : Device} {i : Nat}
    {p : Profile} (hi : c.profile = some i) (hp : d.profiles[i]? = some p) :
    { c with device := some ⟨path, d⟩ }.selectedProfile = .ok p :=
  selectedProfile_eq_ok_iff.mpr ⟨d, i, openModel_eq_ok_iff.mpr ⟨path, rfl⟩, hi, hp⟩

namespace Plan

variable {c : Context} {d : Device}

theorem dpiGet_eq {r : Resolution} (h : c.selectedResolution = .ok r) (command : String) :
    dpiGet command c [] = .ok { output := toString r.dpi ++ "\n" } := by
  rw [dpiGet, h]
  rfl

theorem activeResolutionGet_eq {p : Profile} {m : Nat} (hp : c.selectedProfile = .ok p)
    (hm : p.activeResolution? = some m) (command : String) :
    activeResolutionGet command c [] = .ok { output := toString m ++ "\n" } := by
  have active : activeResolution p = .ok m := by rw [activeResolution, hm]
  rw [activeResolutionGet, hp, ofExcept_ok]
  exact bind_eq_ok_iff.mpr ⟨(), rfl, bind_eq_ok_iff.mpr ⟨p, rfl, bind_eq_ok_iff.mpr ⟨m, active, rfl⟩⟩⟩

/-- A device with one profile has no other to be active. -/
theorem activeProfileGet_eq {n : Nat} (hd : c.openModel = .ok d) (can : d.has .switchableProfile)
    (hn : d.activeProfile? = some n) (hlt : n < d.profiles.length) (command : String) :
    activeProfileGet command c [] = .ok { output := toString n ++ "\n" } := by
  have active := activeProfile_eq_ok_iff.mpr hn
  rw [activeProfileGet, hd, ofExcept_ok]
  refine bind_eq_ok_iff.mpr ⟨(), rfl, bind_eq_ok_iff.mpr ⟨d, rfl, ?_⟩⟩
  by_cases several : 1 < d.profiles.length
  · rw [if_pos (by simp [can, several])]
    exact bind_eq_ok_iff.mpr ⟨n, active, rfl⟩
  · have first : n = 0 := by omega
    rw [if_neg (by simp [several]), first]
    rfl

theorem buttonGet_eq {p : Profile} {b : Nat} {x : Button} (hb : c.button = some b)
    (hp : c.selectedProfile = .ok p) (hx : p.buttons[b]? = some x) (command : String) :
    buttonGet command c [] = .ok { output := x.line b ++ "\n" } :=
  bind_eq_ok_iff.mpr ⟨(), rfl, bind_eq_ok_iff.mpr ⟨b, selectedButton_eq_ok_iff.mpr hb,
    bind_eq_ok_iff.mpr ⟨x, profileButton_eq_ok_iff.mpr ⟨p, hp, hx⟩, rfl⟩⟩⟩

end Plan

namespace Commands

/-- A line succeeds and prints a text, with any detail. -/
def Prints (service : σ) (words : List String) (text : String) : Prop :=
  ∀ v, (tree.run service v words).failure = none ∧ (tree.run service v words).released.output = text

variable {w : Wording} {c : Context} {d : Device} {front : List String} {path : String}

/-- A line prints what its task has planned to. -/
theorem prints_of_plan {text : String} (hd : loader service ⟨path⟩ = .ok d)
    (hc : w.select? d = some c)
    (hp : w.task.plan? w.command { c with device := some ⟨⟨path⟩, d⟩ } [] =
      some (.ok { output := text })) :
    Prints service (w.words ++ [path]) text := by
  intro v
  have arrives := run_seek_root.mpr (.inr ⟨w, [], path, d, c, by rw [List.append_nil], hd, hc, rfl, rfl⟩)
  obtain ⟨log, released⟩ := tree.exists_released service v (w.words ++ [path])
  have outcome := tree.outcome service v (w.words ++ [path])
  rw [released]
  generalize (tree.run service v (w.words ++ [path])).failure = failure at outcome ⊢
  generalize (tree.run service v (w.words ++ [path])).dispatched = s' at outcome ⊢
  cases outcome with
  | lost h => cases arrives.symm.trans h
  | arrived h ht =>
      cases arrives.symm.trans h
      obtain ⟨done, printed⟩ := Task.output_of_outcome hp rfl ht
      exact ⟨done, printed.trans String.empty_append⟩

/-- The line that gets something has the words of the line that sets it, but for the last. -/
theorem prints_of_reading {lead : List String} {text : String}
    (hw : w.words = (front ++ lead) ++ ["set"]) (hd : loader service ⟨path⟩ = .ok d)
    (hc : w.select? d = some c)
    (hp : w.reading.task.plan? w.reading.command { c with device := some ⟨⟨path⟩, d⟩ } [] =
      some (.ok { output := text })) :
    Prints service (front ++ (lead ++ ["get", path])) text := by
  have words : front ++ (lead ++ ["get", path]) = w.reading.words ++ [path] := by
    rw [Wording.words_reading hw]
    simp
  rw [words]
  exact prints_of_plan hd ((w.select?_reading d).trans hc) hp

/-! ## What is printed once it is stored -/

section Stored

variable {lead : List String} {i : Nat} {p : Profile} (hw : w.words = (front ++ lead) ++ ["set"])
  (hc : w.select? d = some c)

include hw hc

theorem prints_of_setDpi {j : Nat} {r : Resolution} {dpi : UInt32} (ht : w.task = .dpiSet)
    (hi : c.profile = some i) (hj : c.resolution = some j) (hp : d.profiles[i]? = some p)
    (hr : p.resolutions[j]? = some r)
    (stored : loader service ⟨path⟩ = .ok ((Update.setDpi i j dpi).apply d)) :
    Prints service (front ++ (lead ++ ["get", path])) (toString dpi ++ "\n") := by
  have selected := (Wording.select?_congr (Update.marks_setDpi d i j dpi) w).trans hc
  have changed := Device.getElem?_modifyProfile hp (·.modifyResolution j (·.setDpi dpi))
  have found : (p.modifyResolution j (·.setDpi dpi)).resolutions[j]? = some (r.setDpi dpi) := by
    simp [Profile.modifyResolution, hr]
  have resolution := Context.selectedResolution_eq_ok_iff.mpr
    ⟨_, j, c.selectedProfile_of_opened ⟨path⟩ hi changed, hj, found⟩
  refine prints_of_reading hw stored selected ?_
  rw [Wording.task_reading, ht]
  exact congrArg some (Plan.dpiGet_eq resolution _)

theorem prints_of_activateResolution {m : Nat} (ht : w.task = .activeResolutionSet)
    (hi : c.profile = some i) (hp : d.profiles[i]? = some p) (hm : m < p.resolutions.length)
    (stored : loader service ⟨path⟩ = .ok ((Update.activateResolution i m).apply d)) :
    Prints service (front ++ (lead ++ ["get", path])) (toString m ++ "\n") := by
  obtain ⟨c', selected, hi'⟩ := Wording.exists_select?_activateResolution ht hc hi hp hm
  have changed := Device.getElem?_modifyProfile hp (·.activate m)
  have reads := Plan.activeResolutionGet_eq (c'.selectedProfile_of_opened ⟨path⟩ hi' changed)
    (Profile.activeResolution?_activate hm)
  refine prints_of_reading hw stored selected ?_
  rw [Wording.task_reading, ht]
  exact congrArg some (reads _)

/-- The profile may have been the active one before. -/
theorem prints_of_activeProfile {n : Nat} (ht : w.task = .activeProfileSet)
    (can : d.has .switchableProfile) (ha : d.activeProfile? = some n) (hn : n < d.profiles.length)
    (stored : loader service ⟨path⟩ = .ok d) :
    Prints service (front ++ (lead ++ ["get", path])) (toString n ++ "\n") := by
  refine prints_of_reading hw stored hc ?_
  have opened : { c with device := some ⟨⟨path⟩, d⟩ }.openModel = .ok d :=
    Context.openModel_eq_ok_iff.mpr ⟨⟨path⟩, rfl⟩
  rw [Wording.task_reading, ht]
  exact congrArg some (Plan.activeProfileGet_eq opened can ha hn _)

theorem prints_of_activateProfile {n : Nat} (ht : w.task = .activeProfileSet)
    (can : d.has .switchableProfile) (hn : n < d.profiles.length)
    (stored : loader service ⟨path⟩ = .ok ((Update.activateProfile n).apply d)) :
    Prints service (front ++ (lead ++ ["get", path])) (toString n ++ "\n") := by
  obtain ⟨c', selected⟩ : ∃ c', w.select? (d.activate n) = some c' := by
    obtain ⟨x, rfl⟩ := Wording.eq_of_activeProfileSet ht
    exact Wording.exists_select?_activateProfile hc hn
  have can : (d.activate n).has .switchableProfile := by rwa [d.activate_eq n]
  refine prints_of_activeProfile hw selected ht can (Device.activeProfile?_activate hn) ?_ stored
  rwa [Device.length_profiles_activate]

theorem prints_of_setAction {b : Nat} {x : Button} {a : Action} (ht : w.task = .buttonSet)
    (hi : c.profile = some i) (hb : c.button = some b) (hp : d.profiles[i]? = some p)
    (hx : p.buttons[b]? = some x)
    (stored : loader service ⟨path⟩ = .ok ((Update.setAction i b a).apply d)) :
    Prints service (front ++ (lead ++ ["get", path]))
      (s!"Button: {b} type {x.role.text} is mapped to '{a.text}'" ++ "\n") := by
  have selected := (Wording.select?_congr (Update.marks_setAction d i b a) w).trans hc
  have changed := Device.getElem?_modifyProfile hp (·.setAction b a)
  have found : (p.setAction b a).buttons[b]? = some { x with action := a } := by
    rw [Profile.getElem?_setAction, if_pos rfl, hx]
    rfl
  have button : { c with
      device := some ⟨⟨path⟩, d.modifyProfile i (·.setAction b a)⟩ }.button = some b := hb
  have reads := Plan.buttonGet_eq button (c.selectedProfile_of_opened ⟨path⟩ hi changed) found
  refine prints_of_reading hw stored selected ?_
  rw [Wording.task_reading, ht]
  exact congrArg some (reads _)

end Stored

end Commands

/-! ## Lines that set something -/

/-- No task takes `set` among its words, unless as the last of them. -/
theorem Grant.eq_nil_of_set {c : Context} {d : Device} {t : Task} {more args : List String}
    {u : Option Update} (h : Grant c d t (more ++ "set" :: args) u) : args = [] := by
  have read : Numeral.index? "set" = none := by decide
  have refused (arg : String) (a : Action) : Action.ofWords? "set" arg ≠ .ok a := nofun
  generalize hw : more ++ "set" :: args = words at h
  have behind (hl : words.length ≤ more.length + 1) : args = [] := by
    rw [← hw, List.length_append, List.length_cons] at hl
    exact List.eq_nil_of_length_eq_zero (by omega)
  cases h with
  | info | buttonGet | activeProfileGet | activeResolutionGet | dpiGet | switchVolumeKeys
  | keepVolumeKeys => simp at hw
  | dpiSet | activeResolutionSet | activeProfileSet | activeProfileStay => exact behind (by simp)
  | buttonSet can plays hi hb hp hx ha =>
      rcases more with _ | ⟨kind, more⟩
      · cases hw
        exact absurd ha (refused _ _)
      · exact behind (by simp)
  | changeButton can plays hi hb hp hx ha =>
      rcases more with _ | ⟨word, _ | ⟨kind, more⟩⟩
      · cases hw
        cases read.symm.trans hb
      · cases hw
        exact absurd ha (refused _ _)
      · exact behind (by simp)

namespace Commands

variable {front args words : List String} {path : String} {v : Verbosity}

/-- A line that sets something is a wording that ends there.  What it has set, the service keeps. -/
theorem exists_grant_of_set (hr : Retentive service)
    (hw : words = front ++ "set" :: args ++ [path]) (ha : args ≠ [])
    (h : (tree.run service v words).failure = none) :
    ∃ w d c, ∃ u : Option Update, Wording.words w = front ++ ["set"] ∧
      loader service ⟨path⟩ = .ok d ∧ w.select? d = some c ∧
      Grant { c with device := some ⟨⟨path⟩, d⟩ } d w.task args u ∧
      loader (tree.run service v words).released.service ⟨path⟩ =
        .ok ((u.map (·.apply d)).getD d) := by
  rcases granted_of_success h with ⟨hl, -⟩ | ⟨w, rest, last, d, c, u, hl, hd, hc, granted, stored⟩
  · have short := congrArg List.length (hw.symm.trans hl)
    simp only [List.length_append, List.length_cons, List.length_nil] at short
    omega
  · obtain ⟨line, hlast⟩ := List.append_inj' (hl.symm.trans hw) rfl
    cases List.singleton_inj.mp hlast
    rcases Wording.words_append_eq line with ⟨ends, rfl⟩ | ⟨more, -, rfl⟩
    · exact ⟨w, d, c, u, ends, hd, hc, granted, stored.loader_eq hr hd⟩
    · exact absurd granted.eq_nil_of_set ha

end Commands

/-! ## What is set is read -/

/-- The profile that a prefix chooses: the one it names, or else the active one. -/
def Device.chosen? (d : Device) : List String → Option Nat
  | ["profile", word] => Numeral.index? word
  | _ => d.activeProfile?

namespace Commands

/-- When a line has succeeded that sets something, behind any prefix, then the line with the same
prefix that gets it succeeds next, and prints just that. -/
structure Recalls (service : σ) : Prop where
  /-- The dpi of a resolution, as a decimal number. -/
  dpi (v : Verbosity) (front : List String) (word path : String) :
    let s := tree.run service v (front ++ ["dpi", "set", word, path])
    s.failure = none → ∃ dpi, Numeral.word? word = some dpi ∧
      Prints s.released.service (front ++ ["dpi", "get", path]) (toString dpi ++ "\n")
  /-- The active resolution, or the active profile. -/
  active (v : Verbosity) (front : List String) (word path : String) :
    let s := tree.run service v (front ++ ["active", "set", word, path])
    s.failure = none → ∃ index, Numeral.index? word = some index ∧
      Prints s.released.service (front ++ ["active", "get", path]) (toString index ++ "\n")
  /-- The mapping of a button in the profile that the prefix chooses. -/
  button (v : Verbosity) (front : List String) (word kind arg path : String) :
    let s := tree.run service v (front ++ ["button", word, "set", kind, arg, path])
    s.failure = none → ∃ d i p b x a, loader service ⟨path⟩ = .ok d ∧ d.chosen? front = some i ∧
      d.profiles[i]? = some p ∧ Numeral.index? word = some b ∧ p.buttons[b]? = some x ∧
      Action.ofWords? kind arg = .ok a ∧
      Prints s.released.service (front ++ ["button", word, "get", path])
        (s!"Button: {b} type {x.role.text} is mapped to '{a.text}'" ++ "\n")

/-- What the words before `set` choose is what their wording selects. -/
theorem chosen_of_select? {front : List String} {word : String} {w : Wording} {d : Device}
    {c : Context} {b : Nat}
    (hw : w.words = front ++ ["button", word, "set"]) (ht : w.task = .buttonSet)
    (hc : w.select? d = some c) (hb : c.button = some b) :
    d.chosen? front = c.profile ∧ Numeral.index? word = some b := by
  obtain ⟨y, rfl | ⟨z, rfl⟩⟩ := Wording.eq_of_buttonSet ht
  · rw [Wording.select?, Option.bind_eq_bind, Option.bind_eq_some_iff] at hc
    obtain ⟨i, hi, hc⟩ := hc
    cases hc
    obtain ⟨y, rfl, rfl⟩ := Option.map_eq_some_iff.mp hb
    have line : [] ++ ["button", y.word, "set"] = front ++ ["button", word, "set"] := hw
    obtain ⟨rfl, same⟩ := List.append_inj' line rfl
    cases same
    exact ⟨hi, y.reads⟩
  · rw [Wording.select?, Option.bind_eq_bind, Option.bind_eq_some_iff] at hc
    obtain ⟨i, hi, hc⟩ := hc
    cases hc
    obtain ⟨y, rfl, rfl⟩ := Option.map_eq_some_iff.mp hb
    have line : ("profile" :: IndexWord.words z) ++ ["button", y.word, "set"] =
        front ++ ["button", word, "set"] := hw
    obtain ⟨rfl, same⟩ := List.append_inj' line rfl
    cases same
    refine ⟨?_, y.reads⟩
    cases z with
    | none => exact hi
    | some z =>
        rw [IndexWord.select?] at hi
        split at hi
        · cases hi
          exact z.reads
        · cases hi

theorem recalls (hr : Retentive service) : Recalls service where
  dpi v front word path := by
    intro s h
    have line : front ++ ["dpi", "set", word, path] =
        (front ++ ["dpi"]) ++ "set" :: [word] ++ [path] := by simp
    obtain ⟨w, d, c, u, hw, -, hc, granted, stored⟩ := exists_grant_of_set hr line (by simp) h
    obtain ⟨lead, hl⟩ := w.exists_ends
    have ends : front ++ ["dpi", "set"] = lead ++ w.task.ends := by simp [← hl, hw]
    generalize ht : w.task = t at granted ends
    cases granted with
    | activeResolutionSet | activeProfileSet | activeProfileStay =>
        exact absurd (List.append_inj' ends rfl).2 (by decide)
    | dpiSet _ _ hi hj hp hres hn =>
        exact ⟨_, hn, prints_of_setDpi hw hc ht hi hj hp hres stored⟩
  active v front word path := by
    intro s h
    have line : front ++ ["active", "set", word, path] =
        (front ++ ["active"]) ++ "set" :: [word] ++ [path] := by simp
    obtain ⟨w, d, c, u, hw, -, hc, granted, stored⟩ := exists_grant_of_set hr line (by simp) h
    obtain ⟨lead, hl⟩ := w.exists_ends
    have ends : front ++ ["active", "set"] = lead ++ w.task.ends := by simp [← hl, hw]
    generalize ht : w.task = t at granted ends
    cases granted with
    | dpiSet => exact absurd (List.append_inj' ends rfl).2 (by decide)
    | activeResolutionSet _ hi hp hn hm =>
        exact ⟨_, hn, prints_of_activateResolution hw hc ht hi hp hm stored⟩
    | activeProfileSet can hn hlt =>
        exact ⟨_, hn, prints_of_activateProfile hw hc ht can hlt stored⟩
    | activeProfileStay can hn hlt ha =>
        exact ⟨_, hn, prints_of_activeProfile hw hc ht can ha hlt stored⟩
  button v front word kind arg path := by
    intro s h
    have line : front ++ ["button", word, "set", kind, arg, path] =
        (front ++ ["button", word]) ++ "set" :: [kind, arg] ++ [path] := by simp
    obtain ⟨w, d, c, u, hw, hd, hc, granted, stored⟩ := exists_grant_of_set hr line (by simp) h
    generalize ht : w.task = t at granted
    cases granted with
    | buttonSet _ _ hi hb hp hx ha =>
        obtain ⟨chosen, hword⟩ := chosen_of_select? (by simpa using hw) ht hc hb
        exact ⟨d, _, _, _, _, _, hd, chosen.trans hi, hp, hword, hx, ha,
          prints_of_setAction hw hc ht hi hb hp hx stored⟩

/-- What was set is what is read next, on any service that keeps what is committed.  A shelf does,
and so do files. -/
theorem what_is_set_is_read :
    (∀ (σ : Type) [DeviceService σ] (service : σ), Retentive service → Recalls service) ∧
    (∀ shelf : Shelf, Recalls shelf) ∧
    ∀ store : FileStore, store.files.Grounded → Recalls store :=
  ⟨fun _ _ _ hr => recalls hr, fun shelf => recalls shelf.retentive,
    fun _ hg => recalls (FileStore.retentive hg)⟩

/-- The dpi of the second resolution, the active profile, and the mapping of a button. -/
theorem what_is_set_is_read_of_mouse :
    let d : Device := {
      name := "M", capabilities := [.switchableResolution, .switchableProfile, .buttonKey]
      profiles := [
        { active := true, resolutions := [{ dpi := 400, active := true }, { dpi := 800 }] },
        { resolutions := [{ dpi := 400, active := true }], buttons := [{}] }] }
    let shelf : Shelf := { entries := [(⟨"m"⟩, .device d)] }
    let text := "name = 'M'\ncapabilities = ['switchable-resolution']\n[[profile]]\nactive = true\n" ++
      "[[profile.resolution]]\ndpi = 400\nactive = true\n[[profile.resolution]]\ndpi = 800\n"
    let store : FileStore := {
      files := { entries := [(["m"], .text text)] }, inputDir := ⟨""⟩, nodePrefix := "" }
    let dpi := ["resolution", "1", "dpi", "set", "+0900", "m"]
    let profile := ["profile", "active", "set", "01", "m"]
    let button := ["profile", "1", "button", "00", "set", "key", "KEY_A", "m"]
    Prints (tree.run shelf .normal dpi).released.service ["resolution", "1", "dpi", "get", "m"]
        "900\n" ∧
      Prints (tree.run shelf .normal profile).released.service ["profile", "active", "get", "m"]
        "1\n" ∧
      Prints (tree.run shelf .raw button).released.service ["profile", "1", "button", "00", "get", "m"]
        "Button: 0 type unknown is mapped to 'key KEY_A'\n" ∧
      Prints (tree.run store .normal dpi).released.service ["resolution", "1", "dpi", "get", "m"]
        "900\n" := by
  intro d shelf text store dpi profile button
  have grounded : store.files.Grounded := by decide
  have onShelf := what_is_set_is_read.1 Shelf shelf shelf.retentive
  have inFile := what_is_set_is_read.2.2 store grounded
  refine ⟨?_, ?_, ?_, ?_⟩
  · obtain ⟨n, hn, prints⟩ := onShelf.dpi .normal ["resolution", "1"] "+0900" "m" (by decide)
    have value : Numeral.word? "+0900" = some 900 := by decide
    cases hn.symm.trans value
    exact prints
  · obtain ⟨n, hn, prints⟩ := onShelf.active .normal ["profile"] "01" "m" (by decide)
    have value : Numeral.index? "01" = some 1 := by decide
    cases hn.symm.trans value
    exact prints
  · obtain ⟨d', i, p, b, x, a, hd, hi, hp, hb, hx, ha, prints⟩ :=
      onShelf.button .raw ["profile", "1"] "00" "key" "KEY_A" "m" (by decide +kernel)
    have loaded : shelf.load ⟨"m"⟩ = .ok d := by decide
    have first : Numeral.index? "00" = some 0 := by decide
    have second : Numeral.index? "1" = some 1 := by decide
    have action : Action.ofWords? "key" "KEY_A" = .ok (.key "KEY_A") := by decide +kernel
    cases hd.symm.trans loaded
    cases hi.symm.trans second
    cases hp
    cases hb.symm.trans first
    cases hx
    cases ha.symm.trans action
    exact prints
  · obtain ⟨n, hn, prints⟩ := inFile.dpi .normal ["resolution", "1"] "+0900" "m" (by decide +kernel)
    have value : Numeral.word? "+0900" = some 900 := by decide
    have line : ["resolution", "1"] ++ ["dpi", "set", "+0900", "m"] = dpi := rfl
    rw [Option.some.inj (hn.symm.trans value), line] at prints
    exact prints

end Commands

end MouseConfig
