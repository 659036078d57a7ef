import MouseConfig.Proofs.Command.Reading

/-! # Devices without their marks

What is left of a device without its marks is what two devices have in common that differ at most in
which profiles and resolutions are active.
-/

namespace MouseConfig

def Resolution.unmarked (r : Resolution) : Resolution := { r with active := false }

def Profile.unmarked (p : Profile) : Profile :=
  { p with active := false, resolutions := p.resolutions.map Resolution.unmarked }

/-- The device with nothing marked as active. -/
def Device.unmarked (d : Device) : Device := { d with profiles := d.profiles.map Profile.unmarked }

/-! ## Changes of the rest -/

theorem map_modify_comm {α β : Type} {g : α → β} {f : α → α} {f' : β → β}
    (h : ∀ x, g (f x) = f' (g x)) (l : List α) (i : Nat) :
    (l.modify i f).map g = (l.map g).modify i f' := by
  induction l generalizing i with
  | nil => simp
  | cons x rest ih =>
      cases i with
      | zero => simp [List.modify_zero_cons, h]
      | succ i => simp [List.modify_succ_cons, ih]

theorem Profile.unmarked_modifyResolution {f : Resolution → Resolution}
    (h : ∀ r, (f r).unmarked = f r.unmarked) (p : Profile) (j : Nat) :
    (p.modifyResolution j f).unmarked = p.unmarked.modifyResolution j f :=
  congrArg (fun rs => { p with active := false, resolutions := rs })
    (map_modify_comm h p.resolutions j)

theorem Device.unmarked_modifyProfile {f : Profile → Profile}
    (h : ∀ p, (f p).unmarked = f p.unmarked) (d : Device) (i : Nat) :
    (d.modifyProfile i f).unmarked = d.unmarked.modifyProfile i f :=
  congrArg (fun ps => { d with profiles := ps }) (map_modify_comm h d.profiles i)

/-- The update leaves the marks as they are, and does not depend on them. -/
structure Update.Unmarked (u : Update) : Prop where
  marks (d : Device) : (u.apply d).marks = d.marks
  unmarked (d : Device) : (u.apply d).unmarked = u.apply d.unmarked

namespace Update.Unmarked

theorem setDpi (i j : Nat) (dpi : UInt32) : (Update.setDpi i j dpi).Unmarked where
  marks d := marks_setDpi d i j dpi
  unmarked d := by
    have resolution (r : Resolution) : (r.setDpi dpi).unmarked = r.unmarked.setDpi dpi := rfl
    have profile (p : Profile) := p.unmarked_modifyResolution resolution j
    exact d.unmarked_modifyProfile profile i

theorem setAction (i b : Nat) (a : Action) : (Update.setAction i b a).Unmarked where
  marks d := marks_setAction d i b a
  unmarked d := by
    have profile (p : Profile) : (p.setAction b a).unmarked = p.unmarked.setAction b a := rfl
    exact d.unmarked_modifyProfile profile i

variable {u : Update}

/-- Devices that have the rest in common have it in common afterwards. -/
theorem apply_congr (h : u.Unmarked) {d d' : Device} (hd : d.unmarked = d'.unmarked) :
    (u.apply d).unmarked = (u.apply d').unmarked := by
  rw [h.unmarked, h.unmarked, hd]

end Update.Unmarked

end MouseConfig
