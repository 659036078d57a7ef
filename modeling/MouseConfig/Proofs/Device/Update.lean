import MouseConfig.Device.VolumeKeys

/-! # Updates of a device

Everything that a command may change, as data.  An update that points outside a device changes
nothing.
-/

namespace MouseConfig

/-- A change of a device; profiles, resolutions and buttons by position. -/
inductive Update where
  | activateProfile (index : Nat)
  | activateResolution (profile index : Nat)
  | setDpi (profile resolution : Nat) (dpi : UInt32)
  | setAction (profile button : Nat) (action : Action)
  | toggleVolumeKeys (profile : Nat)
deriving DecidableEq, Repr

/-- The profile with its volume keys flipped, if it has any. -/
def VolumeKeys.toggled (p : Profile) : Profile := ((toggle p).map (·.2)).getD p

/-- To change a profile in two ways that agree on it is the same. -/
theorem Device.modifyProfile_congr {d : Device} {i : Nat} {p : Profile} {f g : Profile → Profile}
    (hp : d.profiles[i]? = some p) (h : f p = g p) : d.modifyProfile i f = d.modifyProfile i g := by
  have same : d.profiles.modify i f = d.profiles.modify i g := by
    refine List.ext_getElem? fun k => ?_
    rw [List.getElem?_modify, List.getElem?_modify]
    by_cases hk : i = k
    · subst hk
      simp [hp, h]
    · simp [hk]
  rw [Device.modifyProfile, Device.modifyProfile, same]

theorem VolumeKeys.toggled_eq {p q : Profile} {outcome : Outcome}
    (h : toggle p = some (outcome, q)) : toggled p = q := by
  simp [toggled, h]

/-- What a flip of the volume keys may come to, if both buttons are there. -/
theorem VolumeKeys.cases_of_toggle {p q : Profile} {outcome : Outcome}
    (h : toggle p = some (outcome, q)) :
    ∃ x y, p.buttons[6]? = some x ∧ p.buttons[7]? = some y ∧
      ((x.action = up ∧ y.action = down) ∧ outcome = .disabled ∧ q = assign p .disabled .disabled ∨
        (x.action = .disabled ∧ y.action = .disabled) ∧ outcome = .enabled ∧ q = assign p up down ∨
        outcome = .unchanged ∧ q = p) := by
  rw [toggle, Option.bind_eq_bind, Option.bind_eq_some_iff] at h
  obtain ⟨x, hx, h⟩ := h
  rw [Option.bind_eq_some_iff] at h
  obtain ⟨y, hy, h⟩ := h
  refine ⟨x, y, hx, hy, ?_⟩
  by_cases hset : x.action = up ∧ y.action = down
  · rw [if_pos hset] at h
    cases h
    exact .inl ⟨hset, rfl, rfl⟩
  · rw [if_neg hset] at h
    by_cases hfree : x.action = .disabled ∧ y.action = .disabled
    · rw [if_pos hfree] at h
      cases h
      exact .inr (.inl ⟨hfree, rfl, rfl⟩)
    · rw [if_neg hfree] at h
      cases h
      exact .inr (.inr ⟨rfl, rfl⟩)

/-- To flip the volume keys changes nothing but buttons. -/
theorem VolumeKeys.toggled_eq_buttons (p : Profile) :
    toggled p = { p with buttons := (toggled p).buttons } := by
  rcases ht : toggle p with _ | ⟨outcome, q⟩
  · rw [toggled, ht]
    rfl
  · rw [toggled_eq ht]
    obtain ⟨-, -, -, -, ⟨-, -, rfl⟩ | ⟨-, -, rfl⟩ | ⟨-, rfl⟩⟩ := cases_of_toggle ht <;> rfl

@[simp] theorem VolumeKeys.resolutions_toggled (p : Profile) :
    (toggled p).resolutions = p.resolutions := by
  rw [toggled_eq_buttons]

@[simp] theorem VolumeKeys.active_toggled (p : Profile) : (toggled p).active = p.active := by
  rw [toggled_eq_buttons]

namespace Update

def apply : Update → Device → Device
  | activateProfile index, d => d.activate index
  | activateResolution profile index, d => d.modifyProfile profile (·.activate index)
  | setDpi profile resolution dpi, d =>
    d.modifyProfile profile (·.modifyResolution resolution (·.setDpi dpi))
  | setAction profile button action, d => d.modifyProfile profile (·.setAction button action)
  | toggleVolumeKeys profile, d => d.modifyProfile profile VolumeKeys.toggled

/-- An update changes nothing but profiles. -/
theorem apply_eq (u : Update) (d : Device) : u.apply d = { d with profiles := (u.apply d).profiles } := by
  cases u with
  | activateProfile index => exact d.activate_eq index
  | activateResolution | setDpi | setAction | toggleVolumeKeys => rfl

@[simp] theorem name_apply (u : Update) (d : Device) : (u.apply d).name = d.name := by
  rw [apply_eq]

@[simp] theorem buttonCount_apply (u : Update) (d : Device) :
    (u.apply d).buttonCount = d.buttonCount := by
  rw [apply_eq]

/-- Updates one after the other. -/
def applyAll (us : List Update) (d : Device) : Device := us.foldl (fun d u => u.apply d) d

theorem buttonCount_applyAll (us : List Update) (d : Device) :
    (applyAll us d).buttonCount = d.buttonCount := by
  induction us generalizing d with
  | nil => rfl
  | cons u us ih => exact (ih (u.apply d)).trans (buttonCount_apply u d)

end Update

end MouseConfig
