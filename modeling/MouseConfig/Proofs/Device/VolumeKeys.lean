import MouseConfig.Proofs.Device.Spots

/-! # Flipping the volume keys twice

What a flip makes of a profile depends on the actions of two buttons alone, and it leaves them mapped
to what the next flip turns back.  So two flips give back the profile, whatever it is.
-/

namespace MouseConfig

/-! ## Actions of buttons -/

namespace Profile

variable {p : Profile}

/-- To map a button to its action changes nothing. -/
theorem setAction_of_eq {b : Nat} {x : Button} (h : p.buttons[b]? = some x) :
    p.setAction b x.action = p := by
  have same : (p.setAction b x.action).buttons = p.buttons := by
    refine List.ext_getElem? fun k => ?_
    rw [getElem?_setAction]
    by_cases hk : b = k
    · subst hk
      simp [h]
    · rw [if_neg hk]
  exact congrArg (fun buttons => { p with buttons }) same

end Profile

namespace VolumeKeys

variable {p q : Profile} {outcome : Outcome}

theorem assign_assign (p : Profile) (a a' b b' : Action) :
    assign (assign p a a') b b' = assign p b b' := by
  have apart : downButton ≠ upButton := by decide
  rw [assign, assign, assign, Profile.setAction_comm _ apart, Profile.setAction_setAction,
    Profile.setAction_setAction]

theorem assign_of_eq {x y : Button} (hx : p.buttons[upButton]? = some x)
    (hy : p.buttons[downButton]? = some y) : assign p x.action y.action = p := by
  rw [assign, Profile.setAction_of_eq hx, Profile.setAction_of_eq hy]

/-! ## Flips -/

/-- The actions of the two buttons settle what a flip comes to. -/
theorem toggle_of_pair {a a' : Action} (h : pair p = (some a, some a')) :
    toggle p = some (if a = up ∧ a' = down then (.disabled, assign p .disabled .disabled)
      else if a = .disabled ∧ a' = .disabled then (.enabled, assign p up down)
      else (.unchanged, p)) := by
  obtain ⟨x, hx, rfl⟩ := Option.map_eq_some_iff.mp (congrArg Prod.fst h)
  obtain ⟨y, hy, rfl⟩ := Option.map_eq_some_iff.mp (congrArg Prod.snd h)
  simp only [toggle, hx, hy, Option.bind_eq_bind, Option.bind_some]
  split
  · rfl
  · split <;> rfl

/-- The second of the two buttons is there only if the first is. -/
theorem exists_pair (h : 7 < p.buttons.length) : ∃ a a', pair p = (some a, some a') := by
  have hx := List.getElem?_eq_getElem (Nat.lt_of_succ_lt h)
  have hy := List.getElem?_eq_getElem h
  exact ⟨_, _, pair_eq hx hy⟩

theorem toggle_eq_none_iff : toggle p = none ↔ p.buttons.length ≤ 7 := by
  constructor
  · intro h
    refine Nat.not_lt.mp fun room => ?_
    obtain ⟨a, a', hp⟩ := exists_pair room
    cases h.symm.trans (toggle_of_pair hp)
  · intro short
    have absent : p.buttons[downButton]? = none := List.getElem?_eq_none short
    cases hx : p.buttons[upButton]? with
    | none => simp [toggle, hx]
    | some x => simp [toggle, hx, absent]

theorem exists_enabled_iff :
    (∃ q, toggle p = some (.enabled, q)) ↔ pair p = (some .disabled, some .disabled) := by
  constructor
  · rintro ⟨q, h⟩
    obtain ⟨x, y, hx, hy, ⟨-, ⟨⟩, -⟩ | ⟨⟨hup, hdown⟩, -, -⟩ | ⟨⟨⟩, -⟩⟩ := cases_of_toggle h
    rw [pair_eq hx hy, hup, hdown]
  · intro h
    rw [toggle_of_pair h, if_neg (by decide), if_pos ⟨rfl, rfl⟩]
    exact ⟨_, rfl⟩

theorem exists_disabled_iff :
    (∃ q, toggle p = some (.disabled, q)) ↔ pair p = (some up, some down) := by
  constructor
  · rintro ⟨q, h⟩
    obtain ⟨x, y, hx, hy, ⟨⟨hup, hdown⟩, -, -⟩ | ⟨-, ⟨⟩, -⟩ | ⟨⟨⟩, -⟩⟩ := cases_of_toggle h
    rw [pair_eq hx hy, hup, hdown]
  · intro h
    rw [toggle_of_pair h, if_pos ⟨rfl, rfl⟩]
    exact ⟨_, rfl⟩

/-- What a flip comes to after one that came to this. -/
def Outcome.back : Outcome → Outcome
  | enabled => disabled
  | disabled => enabled
  | unchanged => unchanged

theorem toggle_toggle (h : toggle p = some (outcome, q)) : toggle q = some (outcome.back, p) := by
  obtain ⟨x, y, hx, hy, ⟨⟨hup, hdown⟩, rfl, rfl⟩ | ⟨⟨hup, hdown⟩, rfl, rfl⟩ | ⟨rfl, rfl⟩⟩ :=
    cases_of_toggle h
  · have back := toggle_of_pair (Profile.Guarded.pair_assign hx hy .disabled .disabled)
    have restored : assign p up down = p := by
      have same := assign_of_eq hx hy
      rwa [hup, hdown] at same
    rw [back, if_neg (by decide), if_pos ⟨rfl, rfl⟩, assign_assign, restored]
    rfl
  · have back := toggle_of_pair (Profile.Guarded.pair_assign hx hy up down)
    have restored : assign p .disabled .disabled = p := by
      have same := assign_of_eq hx hy
      rwa [hup, hdown] at same
    rw [back, if_pos ⟨rfl, rfl⟩, assign_assign, restored]
    rfl
  · exact h

theorem toggled_of_none (h : toggle p = none) : toggled p = p := by
  rw [toggled, h]
  rfl

theorem toggled_toggled (p : Profile) : toggled (toggled p) = p := by
  rcases h : toggle p with _ | ⟨outcome, q⟩
  · rw [toggled_of_none h, toggled_of_none h]
  · rw [toggled_eq h, toggled_eq (toggle_toggle h)]

/-- One flip changes two actions at most, and another one changes them back. -/
structure SelfInverse (p : Profile) : Prop where
  back : toggled (toggled p) = p
  /-- There is no outcome where a button is missing. -/
  outcomes : ((toggle p).map (·.1), (toggle (toggled p)).map (·.1)) ∈
    [(some .enabled, some .disabled), (some .disabled, some .enabled),
      (some .unchanged, some .unchanged), (none, none)]
  missing : toggle p = none ↔ p.buttons.length ≤ 7
  enables : (∃ q, toggle p = some (.enabled, q)) ↔ pair p = (some .disabled, some .disabled)
  disables : (∃ q, toggle p = some (.disabled, q)) ↔ pair p = (some up, some down)
  rest : toggled p = { p with buttons := (toggled p).buttons }
  roles : (toggled p).buttons.map (·.role) = p.buttons.map (·.role)
  buttons (b : Nat) : b ≠ 6 → b ≠ 7 → (toggled p).buttons[b]? = p.buttons[b]?

/-- A flip changes what it may on a device that can do nothing but switch profiles. -/
theorem guarded_toggled (p : Profile) :
    Profile.Guarded (· == .switchableProfile) p (toggled p) := .toggled rfl p

theorem selfInverse (p : Profile) : SelfInverse p where
  back := toggled_toggled p
  outcomes := by
    rcases h : toggle p with _ | ⟨outcome, q⟩
    · rw [toggled_of_none h, h]
      decide
    · rw [toggled_eq h, toggle_toggle h]
      cases outcome <;> simp [Outcome.back]
  missing := toggle_eq_none_iff
  enables := exists_enabled_iff
  disables := exists_disabled_iff
  rest := toggled_eq_buttons p
  roles := (guarded_toggled p).roles
  buttons := (guarded_toggled p).mappings rfl

end VolumeKeys

/-! ## Devices -/

namespace Device

theorem modifyProfile_id (d : Device) (i : Nat) : (d.modifyProfile i fun p => p) = d := by
  have same : d.profiles.modify i (fun p => p) = d.profiles := List.modify_id i d.profiles
  rw [modifyProfile, same]

end Device

theorem Update.toggleVolumeKeys_apply_apply (d : Device) (i : Nat) :
    (toggleVolumeKeys i).apply ((toggleVolumeKeys i).apply d) = d := by
  have both := d.modifyProfile_modifyProfile i VolumeKeys.toggled VolumeKeys.toggled
  refine both.trans ?_
  simp only [VolumeKeys.toggled_toggled, Device.modifyProfile_id]

end MouseConfig
