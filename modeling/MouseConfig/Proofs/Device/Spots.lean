import MouseConfig.Proofs.Device.Guarded

/-! # What settings set

A setting of one profile sets one spot: the action of a button, the dpi of a resolution, or which
resolution is active.  Settings of different spots commute, and of two settings of one spot the last
one counts.  None changes the frame that other settings are checked against.
-/

namespace MouseConfig

/-- What a setting sets; profiles, buttons and resolutions by position. -/
inductive Spot where
  | action (profile button : Nat)
  | dpi (profile resolution : Nat)
  | activeResolution (profile : Nat)
deriving DecidableEq, Repr

/-- An update that sets a spot of a device.  A resolution that is made active is there. -/
inductive Update.Sets (d : Device) : Update → Spot → Prop
  | action (i b : Nat) (a : Action) : Sets d (.setAction i b a) (.action i b)
  | dpi (i j : Nat) (dpi : UInt32) : Sets d (.setDpi i j dpi) (.dpi i j)
  | activeResolution {i m : Nat} {p : Profile} (hp : d.profiles[i]? = some p)
      (hm : m < p.resolutions.length) : Sets d (.activateResolution i m) (.activeResolution i)

/-! ## Profiles -/

namespace Profile

variable (p : Profile)

theorem activate_setAction (m b : Nat) (a : Action) :
    (p.setAction b a).activate m = (p.activate m).setAction b a := by
  rcases Nat.lt_or_ge m p.resolutions.length with h | h
  · have h' : m < (p.setAction b a).resolutions.length := h
    rw [activate_of_lt h, activate_of_lt h']
    rfl
  · have h' : (p.setAction b a).resolutions.length ≤ m := h
    rw [activate_of_le h, activate_of_le h']

theorem activate_setDpi (m j : Nat) (dpi : UInt32) :
    (p.modifyResolution j (·.setDpi dpi)).activate m =
      (p.activate m).modifyResolution j (·.setDpi dpi) := by
  have count : (p.modifyResolution j (·.setDpi dpi)).resolutions.length = p.resolutions.length := by
    simp [modifyResolution]
  rcases Nat.lt_or_ge m p.resolutions.length with h | h
  · rw [activate_of_lt h, activate_of_lt (count.symm ▸ h)]
    refine congrArg (fun rs => { p with resolutions := rs }) (List.ext_getElem? fun k => ?_)
    simp only [modifyResolution, List.getElem?_mapIdx, List.getElem?_modify]
    by_cases hk : j = k
    · cases p.resolutions[k]? <;> simp [hk, Resolution.setDpi]
    · simp [hk]
  · rw [activate_of_le h, activate_of_le (count.symm ▸ h)]

theorem setAction_comm {b b' : Nat} (h : b ≠ b') (a a' : Action) :
    (p.setAction b a).setAction b' a' = (p.setAction b' a').setAction b a := by
  rw [setAction, setAction, setAction, setAction, List.modify_modify_ne _ _ _ h]

theorem setDpi_comm {j j' : Nat} (h : j ≠ j') (dpi dpi' : UInt32) :
    (p.modifyResolution j (·.setDpi dpi)).modifyResolution j' (·.setDpi dpi') =
      (p.modifyResolution j' (·.setDpi dpi')).modifyResolution j (·.setDpi dpi) := by
  rw [modifyResolution, modifyResolution, modifyResolution, modifyResolution,
    List.modify_modify_ne _ _ _ h]

/-! The last setting counts. -/

theorem setAction_setAction (b : Nat) (a a' : Action) :
    (p.setAction b a).setAction b a' = p.setAction b a' := by
  rw [setAction, setAction, List.modify_modify_eq]
  rfl

theorem setDpi_setDpi (j : Nat) (dpi dpi' : UInt32) :
    (p.modifyResolution j (·.setDpi dpi)).modifyResolution j (·.setDpi dpi') =
      p.modifyResolution j (·.setDpi dpi') := by
  rw [modifyResolution, modifyResolution, List.modify_modify_eq]
  rfl

theorem activate_activate {m' : Nat} (m : Nat) (h : m' < p.resolutions.length) :
    (p.activate m).activate m' = p.activate m' := by
  rcases Nat.lt_or_ge m p.resolutions.length with hm | hm
  · have h' : m' < (p.activate m).resolutions.length := by rwa [length_resolutions_activate]
    rw [activate_of_lt h', activate_of_lt hm, activate_of_lt h, List.mapIdx_mapIdx]
    rfl
  · rw [activate_of_le hm]

end Profile

/-! ## Devices -/

namespace Device

variable {d : Device} {i i' : Nat} {f g : Profile → Profile}

theorem modifyProfile_modifyProfile (d : Device) (i : Nat) (f g : Profile → Profile) :
    (d.modifyProfile i f).modifyProfile i g = d.modifyProfile i fun p => g (f p) := by
  rw [modifyProfile, modifyProfile, List.modify_modify_eq]
  rfl

/-- Changes of profiles commute if they are of different ones, or commute on each profile. -/
theorem modifyProfile_comm (h : i ≠ i' ∨ ∀ p, g (f p) = f (g p)) :
    (d.modifyProfile i f).modifyProfile i' g = (d.modifyProfile i' g).modifyProfile i f := by
  by_cases hi : i = i'
  · subst hi
    have each : ∀ p, g (f p) = f (g p) := h.resolve_left (absurd rfl)
    rw [modifyProfile_modifyProfile, modifyProfile_modifyProfile]
    exact congrArg (d.modifyProfile i) (funext each)
  · rw [modifyProfile, modifyProfile, modifyProfile, modifyProfile, List.modify_modify_ne _ _ _ hi]

/-- What settings are checked against, and what their commits depend on. -/
structure SameFrame (d d' : Device) : Prop where
  name : d'.name = d.name
  capabilities : d'.capabilities = d.capabilities
  buttonCount : d'.buttonCount = d.buttonCount
  dpiRange : d'.dpiRange = d.dpiRange
  counts : d'.profiles.map (fun p => (p.resolutions.length, p.buttons.length)) =
    d.profiles.map fun p => (p.resolutions.length, p.buttons.length)

theorem SameFrame.refl (d : Device) : d.SameFrame d := ⟨rfl, rfl, rfl, rfl, rfl⟩

theorem SameFrame.buttonCount_apply {d' : Device} (h : d.SameFrame d') (u : Update) :
    (u.apply d').buttonCount = (u.apply d).buttonCount := by
  rw [u.buttonCount_apply, u.buttonCount_apply, h.buttonCount]

theorem sameFrame_modifyProfile (d : Device) (i : Nat) {f : Profile → Profile}
    (hr : ∀ p, (f p).resolutions.length = p.resolutions.length)
    (hb : ∀ p, (f p).buttons.length = p.buttons.length) : d.SameFrame (d.modifyProfile i f) :=
  ⟨rfl, rfl, rfl, rfl, map_modify_of_eq (fun p => by rw [hr, hb]) d.profiles i⟩

end Device

namespace Update

variable {d : Device} {u u' : Update} {s s' : Spot}

/-- Settings of different spots commute. -/
theorem apply_comm (h : u.Sets d s) (h' : u'.Sets d s') (hne : s ≠ s') :
    u'.apply (u.apply d) = u.apply (u'.apply d) := by
  cases h with
  | action i b a =>
      cases h' with
      | action i' b' a' =>
          refine Device.modifyProfile_comm ?_
          by_cases hi : i = i'
          · subst hi
            exact .inr fun p => p.setAction_comm (fun hb => hne (by rw [hb])) a a'
          · exact .inl hi
      | dpi => exact Device.modifyProfile_comm (.inr fun p => rfl)
      | @activeResolution i' m =>
          exact Device.modifyProfile_comm (.inr fun p => p.activate_setAction m b a)
  | dpi i j v =>
      cases h' with
      | action => exact Device.modifyProfile_comm (.inr fun p => rfl)
      | dpi i' j' v' =>
          refine Device.modifyProfile_comm ?_
          by_cases hi : i = i'
          · subst hi
            exact .inr fun p => p.setDpi_comm (fun hj => hne (by rw [hj])) v v'
          · exact .inl hi
      | @activeResolution i' m =>
          exact Device.modifyProfile_comm (.inr fun p => p.activate_setDpi m j v)
  | @activeResolution i m =>
      cases h' with
      | action i' b a =>
          exact Device.modifyProfile_comm (.inr fun p => (p.activate_setAction m b a).symm)
      | dpi i' j v =>
          exact Device.modifyProfile_comm (.inr fun p => (p.activate_setDpi m j v).symm)
      | activeResolution => exact Device.modifyProfile_comm (.inl fun hi => hne (by rw [hi]))

/-- Of two settings of one spot, only the last counts. -/
theorem apply_apply_of_sets (h : u.Sets d s) (h' : u'.Sets d s) :
    u'.apply (u.apply d) = u'.apply d := by
  cases h with
  | action i b a =>
      cases h' with
      | action _ _ a' =>
          refine (d.modifyProfile_modifyProfile i _ _).trans ?_
          exact congrArg (d.modifyProfile i) (funext fun p => p.setAction_setAction b a a')
  | dpi i j v =>
      cases h' with
      | dpi _ _ v' =>
          refine (d.modifyProfile_modifyProfile i _ _).trans ?_
          exact congrArg (d.modifyProfile i) (funext fun p => p.setDpi_setDpi j v v')
  | @activeResolution i m =>
      cases h' with
      | activeResolution hp hm =>
          refine (d.modifyProfile_modifyProfile i _ _).trans ?_
          exact Device.modifyProfile_congr hp (Profile.activate_activate _ m hm)

/-- No setting changes what the others are checked against. -/
theorem Sets.sameFrame (h : u.Sets d s) : d.SameFrame (u.apply d) := by
  cases h with
  | action i b a => exact d.sameFrame_modifyProfile i (fun p => rfl) fun p => by simp
  | dpi i j v =>
      exact d.sameFrame_modifyProfile i (fun p => by simp [Profile.modifyResolution]) fun p => rfl
  | @activeResolution i m =>
      exact d.sameFrame_modifyProfile i (fun p => p.length_resolutions_activate m) fun p => by simp

end Update

end MouseConfig
