import MouseConfig.Proofs.Command.Grant

/-! # Effects

What a task that succeeds makes of the open device, by the words left to it and what is selected.
-/

namespace MouseConfig

/-- What is written back when a task has succeeded; `none` if nothing is. -/
inductive Effect (c : Context) (d : Device) : Task → List String → Option Device → Prop
  | info : Effect c d .info [] none
  | buttonGet : Effect c d .buttonGet [] none
  | activeProfileGet : Effect c d .activeProfileGet [] none
  | activeResolutionGet : Effect c d .activeResolutionGet [] none
  | dpiGet : Effect c d .dpiGet [] none
  | dpiSet {i j : Nat} {p : Profile} {r : Resolution} {word : String} {dpi : UInt32}
      (hi : c.profile = some i) (hj : c.resolution = some j) (hp : d.profiles[i]? = some p)
      (hr : p.resolutions[j]? = some r) (hw : Numeral.word? word = some dpi) :
      Effect c d .dpiSet [word] (some { d with
        profiles := d.profiles.set i { p with
          resolutions := p.resolutions.set j { r with dpi := dpi, dpiY := none } } })
  | activeResolutionSet {i m : Nat} {p : Profile} {word : String}
      (hi : c.profile = some i) (hp : d.profiles[i]? = some p) (hw : Numeral.index? word = some m)
      (hm : m < p.resolutions.length) :
      Effect c d .activeResolutionSet [word] (some { d with
        profiles := d.profiles.set i { p with
          resolutions := p.resolutions.mapIdx fun k r => { r with active := k == m } } })
  | activeProfileSet {n : Nat} {word : String} (hw : Numeral.index? word = some n)
      (hn : n < d.profiles.length) (ha : d.activeProfile? ≠ some n) :
      Effect c d .activeProfileSet [word] (some { d with
        profiles := d.profiles.mapIdx fun k p => { p with active := k == n } })
  /-- The profile is the first active one already. -/
  | activeProfileStay {n : Nat} {word : String} (hw : Numeral.index? word = some n)
      (ha : d.activeProfile? = some n) : Effect c d .activeProfileSet [word] none
  | buttonSet {i b : Nat} {p : Profile} {x : Button} {kind arg : String} {a : Action}
      (hi : c.profile = some i) (hb : c.button = some b) (hp : d.profiles[i]? = some p)
      (hx : p.buttons[b]? = some x) (ha : Action.ofWords? kind arg = .ok a) :
      Effect c d .buttonSet [kind, arg] (some { d with
        profiles := d.profiles.set i { p with buttons := p.buttons.set b { x with action := a } } })
  | changeButton {i b : Nat} {p : Profile} {x : Button} {word kind arg : String} {a : Action}
      (hi : c.profile = some i) (hb : Numeral.index? word = some b)
      (hp : d.profiles[i]? = some p) (hx : p.buttons[b]? = some x)
      (ha : Action.ofWords? kind arg = .ok a) :
      Effect c d .changeButton [word, kind, arg] (some { d with
        profiles := d.profiles.set i { p with buttons := p.buttons.set b { x with action := a } } })
  | switchVolumeKeys {i : Nat} {p : Profile} {x y : Button} (a a' : Action)
      (hi : c.profile = some i) (hp : d.profiles[i]? = some p) (hx : p.buttons[6]? = some x)
      (hy : p.buttons[7]? = some y) :
      Effect c d .switchVolumeKeys [] (some { d with
        profiles := d.profiles.set i { p with
          buttons := (p.buttons.set 6 { x with action := a }).set 7 { y with action := a' } } })
  /-- The two buttons have mappings of their own. -/
  | keepVolumeKeys : Effect c d .switchVolumeKeys [] none

/-! ## Changes in place -/

/-- To modify an entry that is there is to set it. -/
theorem modify_eq_set {α : Type} {l : List α} {i : Nat} {x : α} (h : l[i]? = some x) (f : α → α) :
    l.modify i f = l.set i (f x) := by
  refine List.ext_getElem? fun k => ?_
  rw [List.getElem?_modify, List.getElem?_set]
  obtain ⟨hi, rfl⟩ := List.getElem?_eq_some_iff.mp h
  by_cases hk : i = k
  · subst hk
    simp [hi]
  · simp [hk]

theorem Device.modifyProfile_eq {d : Device} {i : Nat} {p : Profile} (h : d.profiles[i]? = some p)
    (f : Profile → Profile) :
    d.modifyProfile i f = { d with profiles := d.profiles.set i (f p) } := by
  rw [Device.modifyProfile, modify_eq_set h]

theorem Profile.modifyResolution_eq {p : Profile} {j : Nat} {r : Resolution}
    (h : p.resolutions[j]? = some r) (f : Resolution → Resolution) :
    p.modifyResolution j f = { p with resolutions := p.resolutions.set j (f r) } := by
  rw [Profile.modifyResolution, modify_eq_set h]

theorem Profile.setAction_eq {p : Profile} {b : Nat} {x : Button} (h : p.buttons[b]? = some x)
    (a : Action) :
    p.setAction b a = { p with buttons := p.buttons.set b { x with action := a } } := by
  rw [Profile.setAction, modify_eq_set h]

/-! ## The effects of updates -/

/-- To flip the volume keys is to map the two buttons, or to leave them alone. -/
theorem VolumeKeys.exists_actions_of_toggle {q q' : Profile} {outcome : VolumeKeys.Outcome}
    (h : VolumeKeys.toggle q = some (outcome, q')) :
    ∃ x y, q.buttons[6]? = some x ∧ q.buttons[7]? = some y ∧
      (outcome ≠ .unchanged → ∃ a a', q' = { q with
        buttons := (q.buttons.set 6 { x with action := a }).set 7 { y with action := a' } }) := by
  obtain ⟨x, y, hx, hy, hq⟩ := VolumeKeys.cases_of_toggle h
  refine ⟨x, y, hx, hy, fun ho => ?_⟩
  have assigned (a a' : Action) : VolumeKeys.assign q a a' = { q with
      buttons := (q.buttons.set 6 { x with action := a }).set 7 { y with action := a' } } := by
    have hy' : (q.setAction 6 a).buttons[7]? = some y := by
      rw [Profile.setAction_eq hx]
      simpa using hy
    have both : VolumeKeys.assign q a a' = (q.setAction 6 a).setAction 7 a' := rfl
    rw [both, Profile.setAction_eq hy', Profile.setAction_eq hx]
  rcases hq with ⟨-, -, rfl⟩ | ⟨-, -, rfl⟩ | ⟨rfl, -⟩
  · exact ⟨_, _, assigned _ _⟩
  · exact ⟨_, _, assigned _ _⟩
  · exact absurd rfl ho

/-- The update that a task is granted has the effect of the task. -/
theorem Grant.effect {c : Context} {d : Device} {t : Task} {args : List String} {u : Option Update}
    (h : Grant c d t args u) : Effect c d t args (u.map (·.apply d)) := by
  cases h with
  | info => exact .info
  | buttonGet => exact .buttonGet
  | activeProfileGet => exact .activeProfileGet
  | activeResolutionGet => exact .activeResolutionGet
  | dpiGet => exact .dpiGet
  | dpiSet _ _ hi hj hp hr hw =>
      have e := Effect.dpiSet hi hj hp hr hw
      simpa [Update.apply, Device.modifyProfile_eq hp, Profile.modifyResolution_eq hr,
        Resolution.setDpi] using e
  | activeResolutionSet _ hi hp hw hm =>
      have e := Effect.activeResolutionSet hi hp hw hm
      simpa [Update.apply, Device.modifyProfile_eq hp, Profile.activate_of_lt hm] using e
  | activeProfileSet _ hw hn ha =>
      have e := Effect.activeProfileSet (c := c) hw hn ha
      simpa [Update.apply, Device.activate_of_lt hn] using e
  | activeProfileStay _ hw _ ha => exact .activeProfileStay hw ha
  | buttonSet _ _ hi hb hp hx ha =>
      have e := Effect.buttonSet hi hb hp hx ha
      simpa [Update.apply, Device.modifyProfile_eq hp, Profile.setAction_eq hx] using e
  | changeButton _ _ hi hb hp hx ha =>
      have e := Effect.changeButton hi hb hp hx ha
      simpa [Update.apply, Device.modifyProfile_eq hp, Profile.setAction_eq hx] using e
  | @switchVolumeKeys i p q outcome _ hi hp ht changed =>
      obtain ⟨x, y, hx, hy, mapped⟩ := VolumeKeys.exists_actions_of_toggle ht
      obtain ⟨a, a', rfl⟩ := mapped changed
      have e := Effect.switchVolumeKeys a a' hi hp hx hy
      simpa [Update.apply, Device.modifyProfile_eq hp, VolumeKeys.toggled_eq ht] using e
  | keepVolumeKeys => exact .keepVolumeKeys

end MouseConfig
