import MouseConfig.Session

/-! # What is selected

A selection succeeds exactly when every index on the way points into the open device.
-/

namespace MouseConfig.Context

variable {c : Context}

theorem openModel_eq_ok_iff {d : Device} :
    c.openModel = .ok d ↔ ∃ path, c.device = some ⟨path, d⟩ := by
  rw [openModel, openDevice]
  cases hc : c.device with
  | none => simp [Except.map]
  | some o =>
      constructor
      · intro h
        cases h
        exact ⟨o.path, rfl⟩
      · rintro ⟨path, h⟩
        cases h
        rfl

theorem selectedProfile_eq_ok_iff {p : Profile} :
    c.selectedProfile = .ok p ↔
      ∃ d i, c.openModel = .ok d ∧ c.profile = some i ∧ d.profiles[i]? = some p := by
  rw [selectedProfile]
  cases hi : c.profile with
  | none => simp [throw, throwThe, MonadExceptOf.throw]
  | some i =>
      cases hd : c.openModel with
      | error e => simp [bind, Except.bind]
      | ok d =>
          cases hp : d.profiles[i]? with
          | none => simp [bind, Except.bind, hp, throw, throwThe, MonadExceptOf.throw]
          | some q => simp [bind, Except.bind, hp, pure, Except.pure]

theorem selectedResolution_eq_ok_iff {r : Resolution} :
    c.selectedResolution = .ok r ↔
      ∃ p j, c.selectedProfile = .ok p ∧ c.resolution = some j ∧ p.resolutions[j]? = some r := by
  rw [selectedResolution]
  cases hj : c.resolution with
  | none => simp [throw, throwThe, MonadExceptOf.throw]
  | some j =>
      cases hp : c.selectedProfile with
      | error e => simp [bind, Except.bind]
      | ok p =>
          cases hr : p.resolutions[j]? with
          | none => simp [bind, Except.bind, hr, throw, throwThe, MonadExceptOf.throw]
          | some q => simp [bind, Except.bind, hr, pure, Except.pure]

/-- What is selected without the selected profile cannot lie in one. -/
theorem exists_profile_of_selectedProfile {p : Profile} (h : c.selectedProfile = .ok p) :
    ∃ i, c.profile = some i := by
  obtain ⟨d, i, -, hi, -⟩ := selectedProfile_eq_ok_iff.mp h
  exact ⟨i, hi⟩

/-! ## Selecting -/

/-- The selection of something that is there; of buttons anything can be selected. -/
inductive Selects (c : Context) : Context → Prop
  | profile {d : Device} {p : Profile} {i : Nat} (hd : c.openModel = .ok d)
      (hp : d.profiles[i]? = some p) : Selects c { c with profile := some i }
  | resolution {p : Profile} {r : Resolution} {j : Nat} (hp : c.selectedProfile = .ok p)
      (hr : p.resolutions[j]? = some r) : Selects c { c with resolution := some j }
  | button (b : Nat) : Selects c { c with button := some b }

/-- The device stays open. -/
theorem Selects.device_eq {c' : Context} (h : c.Selects c') : c'.device = c.device := by
  cases h <;> rfl

/-! ## Changes of what is open -/

theorem modifyProfile_eq {i : Nat} (h : c.profile = some i) (f : Profile → Profile) :
    c.modifyProfile f = c.modifyModel (·.modifyProfile i f) := by
  rw [modifyProfile, h]

theorem modifyResolution_eq {i j : Nat} (hi : c.profile = some i) (hj : c.resolution = some j)
    (f : Resolution → Resolution) :
    c.modifyResolution f = c.modifyModel (·.modifyProfile i (·.modifyResolution j f)) := by
  rw [modifyResolution, hj]
  exact modifyProfile_eq hi _

/-- Only what a change does to the open device counts. -/
theorem modifyModel_congr {d : Device} {f g : Device → Device} (hd : c.openModel = .ok d)
    (h : f d = g d) : c.modifyModel f = c.modifyModel g := by
  obtain ⟨path, hc⟩ := openModel_eq_ok_iff.mp hd
  simp [modifyModel, hc, h]

end MouseConfig.Context
