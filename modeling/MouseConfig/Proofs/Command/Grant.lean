import MouseConfig.Proofs.Command.Plan

/-! # Grants

Whatever a task has checked before it plans an update: the words left to it, what is selected, and
the capabilities of the open device.
-/

namespace MouseConfig

/-- What a flip of the volume keys of a profile changes when it comes to this. -/
def VolumeKeys.Outcome.update (i : Nat) : VolumeKeys.Outcome → Option Update
  | unchanged => none
  | enabled | disabled => some (.toggleVolumeKeys i)

/-- The update that a task is granted on the open device; `none` where there is nothing to change. -/
inductive Grant (c : Context) (d : Device) : Task → List String → Option Update → Prop
  | info : Grant c d .info [] none
  | buttonGet : Grant c d .buttonGet [] none
  | activeProfileGet : Grant c d .activeProfileGet [] none
  | activeResolutionGet : Grant c d .activeResolutionGet [] none
  | dpiGet : Grant c d .dpiGet [] none
  | dpiSet {i j : Nat} {p : Profile} {r : Resolution} {word : String} {dpi : UInt32}
      (can : d.has .switchableResolution) (fits : ∀ range ∈ d.dpiRange, range.contains dpi)
      (hi : c.profile = some i) (hj : c.resolution = some j) (hp : d.profiles[i]? = some p)
      (hr : p.resolutions[j]? = some r) (hw : Numeral.word? word = some dpi) :
      Grant c d .dpiSet [word] (some (.setDpi i j dpi))
  | activeResolutionSet {i m : Nat} {p : Profile} {word : String}
      (can : d.has .switchableResolution) (hi : c.profile = some i) (hp : d.profiles[i]? = some p)
      (hw : Numeral.index? word = some m) (hm : m < p.resolutions.length) :
      Grant c d .activeResolutionSet [word] (some (.activateResolution i m))
  | activeProfileSet {n : Nat} {word : String} (can : d.has .switchableProfile)
      (hw : Numeral.index? word = some n) (hn : n < d.profiles.length)
      (ha : d.activeProfile? ≠ some n) :
      Grant c d .activeProfileSet [word] (some (.activateProfile n))
  /-- The profile is the first active one already. -/
  | activeProfileStay {n : Nat} {word : String} (can : d.has .switchableProfile)
      (hw : Numeral.index? word = some n) (hn : n < d.profiles.length)
      (ha : d.activeProfile? = some n) : Grant c d .activeProfileSet [word] none
  | buttonSet {i b : Nat} {p : Profile} {x : Button} {kind arg : String} {a : Action}
      (can : d.has .buttonKey) (plays : a.isSequence → d.has .buttonMacros)
      (hi : c.profile = some i) (hb : c.button = some b) (hp : d.profiles[i]? = some p)
      (hx : p.buttons[b]? = some x) (ha : Action.ofWords? kind arg = .ok a) :
      Grant c d .buttonSet [kind, arg] (some (.setAction i b a))
  | changeButton {i b : Nat} {p : Profile} {x : Button} {word kind arg : String} {a : Action}
      (can : d.has .buttonKey) (plays : a.isSequence → d.has .buttonMacros)
      (hi : c.profile = some i) (hb : Numeral.index? word = some b) (hp : d.profiles[i]? = some p)
      (hx : p.buttons[b]? = some x) (ha : Action.ofWords? kind arg = .ok a) :
      Grant c d .changeButton [word, kind, arg] (some (.setAction i b a))
  | switchVolumeKeys {i : Nat} {p q : Profile} {outcome : VolumeKeys.Outcome}
      (can : d.has .switchableProfile) (hi : c.profile = some i) (hp : d.profiles[i]? = some p)
      (ht : VolumeKeys.toggle p = some (outcome, q)) (changed : outcome ≠ .unchanged) :
      Grant c d .switchVolumeKeys [] (some (.toggleVolumeKeys i))
  /-- The two buttons have mappings of their own. -/
  | keepVolumeKeys : Grant c d .switchVolumeKeys [] none

namespace Plan

variable {c : Context} {d : Device} {command : String} {args : List String} {p : Plan}

theorem expectCapability_eq_ok_iff {capability : Capability} {r : String → Refusal} {u : Unit} :
    expectCapability d capability r = .ok u ↔ d.has capability := by
  cases h : d.has capability <;> simp [expectCapability, h, refuse]

theorem expectCapability_of_has {x : Capability} {r : String → Refusal} (h : d.has x) :
    expectCapability d x r = .ok () := if_pos h

theorem expectCapability_of_not_has {x : Capability} {r : String → Refusal} (h : ¬ d.has x) :
    expectCapability d x r = refuse (r d.name) := if_neg h

/-- What is selected, as positions in the open device. -/
theorem exists_profile_of_ok {r : Profile} (hd : c.openModel = .ok d)
    (h : c.selectedProfile = .ok r) : ∃ i, c.profile = some i ∧ d.profiles[i]? = some r := by
  obtain ⟨d', i, hd', hi, hr⟩ := Context.selectedProfile_eq_ok_iff.mp h
  cases hd.symm.trans hd'
  exact ⟨i, hi, hr⟩

/-! ## Tasks that only look -/

theorem grant_of_info (h : info command c args = .ok p) : Grant c d .info args p.update := by
  simp only [info, bind_eq_ok_iff, noArguments_eq_ok_iff] at h
  obtain ⟨-, rfl, d', -, h⟩ := h
  cases h
  exact .info

theorem grant_of_buttonGet (h : buttonGet command c args = .ok p) :
    Grant c d .buttonGet args p.update := by
  simp only [buttonGet, bind_eq_ok_iff, noArguments_eq_ok_iff] at h
  obtain ⟨-, rfl, b, -, x, -, h⟩ := h
  cases h
  exact .buttonGet

theorem grant_of_activeProfileGet (h : activeProfileGet command c args = .ok p) :
    Grant c d .activeProfileGet args p.update := by
  rw [activeProfileGet, bind_eq_ok_iff] at h
  obtain ⟨u, hargs, h⟩ := h
  rw [bind_eq_ok_iff] at h
  obtain ⟨d', -, h⟩ := h
  obtain rfl := noArguments_eq_ok_iff.mp hargs
  split at h
  · obtain ⟨n, -, h⟩ := bind_eq_ok_iff.mp h
    cases h
    exact .activeProfileGet
  · cases h
    exact .activeProfileGet

theorem grant_of_activeResolutionGet (h : activeResolutionGet command c args = .ok p) :
    Grant c d .activeResolutionGet args p.update := by
  simp only [activeResolutionGet, bind_eq_ok_iff, noArguments_eq_ok_iff] at h
  obtain ⟨-, rfl, r, -, j, -, h⟩ := h
  cases h
  exact .activeResolutionGet

theorem grant_of_dpiGet (h : dpiGet command c args = .ok p) :
    Grant c d .dpiGet args p.update := by
  simp only [dpiGet, bind_eq_ok_iff, noArguments_eq_ok_iff] at h
  obtain ⟨-, rfl, r, -, h⟩ := h
  cases h
  exact .dpiGet

/-! ## Tasks that select -/

theorem grant_of_dpiSet (hd : c.openModel = .ok d) (h : dpiSet command c args = .ok p) :
    Grant c d .dpiSet args p.update := by
  rw [dpiSet, bind_eq_ok_iff] at h
  obtain ⟨word, hargs, h⟩ := h
  obtain rfl := oneArgument_eq_ok_iff.mp hargs
  cases hw : Numeral.word? word with
  | none => simp [hw, misuse] at h
  | some dpi =>
      simp only [hw, hd, bind_eq_ok_iff, ofExcept_eq_ok_iff, expectCapability_eq_ok_iff] at h
      obtain ⟨_, ⟨⟩, -, can, h⟩ := h
      have found : (∀ range ∈ d.dpiRange, range.contains dpi) ∧
          ∃ r, c.selectedResolution = .ok r ∧ (Except.ok {
            update := c.profile.bind fun i => c.resolution.map fun j => .setDpi i j dpi } :
              Except CommandError Plan) = .ok p := by
        cases hr : d.dpiRange with
        | none =>
            simp only [hr] at h
            obtain ⟨r, hsel, h⟩ := bind_eq_ok_iff.mp h
            exact ⟨by simp, r, ofExcept_eq_ok_iff.mp hsel, h⟩
        | some range =>
            cases hc : range.contains dpi with
            | false => simp [hr, hc, refuse, bind, Except.bind] at h
            | true =>
                simp only [hr, hc, if_true] at h
                obtain ⟨r, hsel, h⟩ := bind_eq_ok_iff.mp h
                exact ⟨by simp [hc], r, ofExcept_eq_ok_iff.mp hsel, h⟩
      obtain ⟨fits, r, hr, h⟩ := found
      obtain ⟨q, j, hq, hj, hr⟩ := Context.selectedResolution_eq_ok_iff.mp hr
      obtain ⟨i, hi, hq⟩ := exists_profile_of_ok hd hq
      simp only [hi, hj] at h
      cases h
      exact .dpiSet can fits hi hj hq hr hw

theorem grant_of_activeResolutionSet (hd : c.openModel = .ok d)
    (h : activeResolutionSet command c args = .ok p) :
    Grant c d .activeResolutionSet args p.update := by
  rw [activeResolutionSet, bind_eq_ok_iff] at h
  obtain ⟨word, hargs, h⟩ := h
  obtain rfl := oneArgument_eq_ok_iff.mp hargs
  cases hw : Numeral.index? word with
  | none => simp [hw, misuse] at h
  | some m =>
      simp only [hw, hd, bind_eq_ok_iff, ofExcept_eq_ok_iff, expectCapability_eq_ok_iff] at h
      obtain ⟨_, ⟨⟩, -, can, q, hq, h⟩ := h
      obtain ⟨i, hi, hq⟩ := exists_profile_of_ok hd hq
      by_cases hm : m < q.resolutions.length
      · simp only [hm, if_true, hi] at h
        cases h
        exact .activeResolutionSet can hi hq hw hm
      · simp [hm, refuse, bind, Except.bind] at h

theorem grant_of_activeProfileSet (hd : c.openModel = .ok d)
    (h : activeProfileSet command c args = .ok p) :
    Grant c d .activeProfileSet args p.update := by
  rw [activeProfileSet, bind_eq_ok_iff] at h
  obtain ⟨word, hargs, h⟩ := h
  obtain rfl := oneArgument_eq_ok_iff.mp hargs
  cases hw : Numeral.index? word with
  | none => simp [hw, misuse] at h
  | some n =>
      simp only [hw, hd, bind_eq_ok_iff, ofExcept_eq_ok_iff, expectCapability_eq_ok_iff] at h
      obtain ⟨_, ⟨⟩, -, can, h⟩ := h
      by_cases hn : n < d.profiles.length
      · by_cases ha : d.activeProfile? = some n
        · simp only [hn, ha, if_true] at h
          cases h
          exact .activeProfileStay can hw hn ha
        · simp only [hn, ha, if_true, if_false] at h
          cases h
          exact .activeProfileSet can hw hn ha
      · simp [hn, refuse, bind, Except.bind] at h

/-! ## Tasks that map buttons -/

/-- Both commands that map a button make the same checks and the same update. -/
theorem exists_button_of_mapButton {index : Nat} {a : Action} (hd : c.openModel = .ok d)
    (h : mapButton c index a = .ok p) :
    d.has .buttonKey ∧ (a.isSequence → d.has .buttonMacros) ∧
      ∃ i q x, c.profile = some i ∧ d.profiles[i]? = some q ∧ q.buttons[index]? = some x ∧
        p.update = some (.setAction i index a) := by
  simp only [mapButton, hd, bind_eq_ok_iff, ofExcept_eq_ok_iff, expectCapability_eq_ok_iff] at h
  obtain ⟨_, ⟨⟩, -, can, h⟩ := h
  have found : (a.isSequence → d.has .buttonMacros) ∧ ∃ x, profileButton c index = .ok x ∧
      (Except.ok { update := c.profile.map fun i => .setAction i index a } :
        Except CommandError Plan) = .ok p := by
    cases hs : a.isSequence with
    | false =>
        simp only [hs] at h
        exact ⟨by simp, bind_eq_ok_iff.mp h⟩
    | true =>
        simp only [hs, if_true, bind_eq_ok_iff, expectCapability_eq_ok_iff] at h
        obtain ⟨-, plays, h⟩ := h
        exact ⟨fun _ => plays, h⟩
  obtain ⟨plays, x, hx, h⟩ := found
  obtain ⟨q, hq, hx⟩ := profileButton_eq_ok_iff.mp hx
  obtain ⟨i, hi, hq⟩ := exists_profile_of_ok hd hq
  simp only [hi] at h
  cases h
  exact ⟨can, plays, i, q, x, hi, hq, hx, rfl⟩

theorem grant_of_buttonSet (hd : c.openModel = .ok d) (h : buttonSet command c args = .ok p) :
    Grant c d .buttonSet args p.update := by
  rcases args with _ | ⟨kind, _ | ⟨arg, _ | ⟨word, rest⟩⟩⟩
  case cons.cons.nil =>
    simp only [buttonSet, bind_eq_ok_iff, selectedButton_eq_ok_iff, parsedAction_eq_ok_iff] at h
    obtain ⟨b, hb, a, ha, h⟩ := h
    obtain ⟨can, plays, i, q, x, hi, hq, hx, hu⟩ := exists_button_of_mapButton hd h
    rw [hu]
    exact .buttonSet can plays hi hb hq hx ha
  all_goals simp [buttonSet, misuse] at h

theorem grant_of_changeButton (hd : c.openModel = .ok d)
    (h : changeButton command c args = .ok p) : Grant c d .changeButton args p.update := by
  rcases args with _ | ⟨button, _ | ⟨kind, _ | ⟨arg, _ | ⟨word, rest⟩⟩⟩⟩
  case cons.cons.cons.nil =>
    cases hb : Numeral.index? button with
    | none => simp [changeButton, hb, misuse] at h
    | some b =>
        simp only [changeButton, hb, bind_eq_ok_iff, parsedAction_eq_ok_iff] at h
        obtain ⟨a, ha, h⟩ := h
        obtain ⟨can, plays, i, q, x, hi, hq, hx, hu⟩ := exists_button_of_mapButton hd h
        rw [hu]
        exact .changeButton can plays hi hb hq hx ha
  all_goals simp [changeButton, misuse] at h

/-- What has been checked, and how the flip comes out. -/
theorem exists_toggle_of_switchVolumeKeys (hd : c.openModel = .ok d)
    (h : switchVolumeKeys command c args = .ok p) :
    args = [] ∧ d.has .switchableProfile ∧ ∃ i q outcome q', c.profile = some i ∧
      d.profiles[i]? = some q ∧ VolumeKeys.toggle q = some (outcome, q') ∧
      p.update = outcome.update i := by
  rw [switchVolumeKeys, bind_eq_ok_iff] at h
  obtain ⟨u, hargs, h⟩ := h
  simp only [hd, bind_eq_ok_iff, ofExcept_eq_ok_iff, expectCapability_eq_ok_iff] at h
  obtain ⟨_, ⟨⟩, -, can, q, hq, h⟩ := h
  obtain ⟨i, hi, hq⟩ := exists_profile_of_ok hd hq
  rcases ht : VolumeKeys.toggle q with _ | ⟨outcome, q'⟩
  · simp [ht, refuse] at h
  · refine ⟨noArguments_eq_ok_iff.mp hargs, can, i, q, outcome, q', hi, hq, ht, ?_⟩
    simp only [ht, hi] at h
    cases outcome <;> cases h <;> rfl

theorem grant_of_switchVolumeKeys (hd : c.openModel = .ok d)
    (h : switchVolumeKeys command c args = .ok p) :
    Grant c d .switchVolumeKeys args p.update := by
  obtain ⟨rfl, can, i, q, outcome, q', hi, hq, ht, hu⟩ := exists_toggle_of_switchVolumeKeys hd h
  rw [hu]
  cases outcome with
  | unchanged => exact .keepVolumeKeys
  | enabled | disabled => exact .switchVolumeKeys can hi hq ht (by decide)

/-- A plan makes no update but the one that its task is granted. -/
theorem grant_of_ok {t : Task} (hd : c.openModel = .ok d)
    (h : t.plan? command c args = some (.ok p)) : Grant c d t args p.update := by
  cases t with
  | info => exact grant_of_info (Option.some.inj h)
  | changeButton => exact grant_of_changeButton hd (Option.some.inj h)
  | switchVolumeKeys => exact grant_of_switchVolumeKeys hd (Option.some.inj h)
  | buttonGet => exact grant_of_buttonGet (Option.some.inj h)
  | buttonSet => exact grant_of_buttonSet hd (Option.some.inj h)
  | activeProfileGet => exact grant_of_activeProfileGet (Option.some.inj h)
  | activeProfileSet => exact grant_of_activeProfileSet hd (Option.some.inj h)
  | activeResolutionGet => exact grant_of_activeResolutionGet (Option.some.inj h)
  | activeResolutionSet => exact grant_of_activeResolutionSet hd (Option.some.inj h)
  | dpiGet => exact grant_of_dpiGet (Option.some.inj h)
  | dpiSet => exact grant_of_dpiSet hd (Option.some.inj h)
  | list | record => cases h

end Plan

end MouseConfig
