import Mathlib.Data.List.Forall2
import MouseConfig.Proofs.Device.Update

/-! # What capabilities guard

An update is permitted on a device that has the capabilities which its command asks for.  Whatever
permitted updates make of a device, it keeps its shape, and it keeps what it lacks the capability to
change.
-/

namespace MouseConfig

variable {α β : Type}

/-! ## Changes at one position and at all -/

/-- What is seen of the entries stays when one of them is changed without being seen. -/
theorem map_modify_of_eq {g : α → β} {f : α → α} (h : ∀ x, g (f x) = g x) (l : List α) (i : Nat) :
    (l.modify i f).map g = l.map g := by
  induction l generalizing i with
  | nil => simp
  | cons x rest ih =>
      cases i with
      | zero => simp [List.modify_zero_cons, h]
      | succ i => simp [List.modify_succ_cons, ih]

theorem map_mapIdx_of_eq {g : α → β} {f : Nat → α → α} (h : ∀ k x, g (f k x) = g x) (l : List α) :
    (l.mapIdx f).map g = l.map g := by
  refine List.ext_getElem? fun k => ?_
  cases hk : l[k]? <;> simp [hk, h]

theorem forall₂_modify {R : α → α → Prop} {f : α → α} (refl : ∀ x, R x x) (hf : ∀ x, R x (f x))
    (l : List α) (i : Nat) : List.Forall₂ R l (l.modify i f) := by
  induction l generalizing i with
  | nil => simp
  | cons x rest ih =>
      cases i with
      | zero => exact .cons (hf x) (List.forall₂_same.mpr fun y _ => refl y)
      | succ i => exact .cons (refl x) (ih i)

theorem forall₂_mapIdx {R : α → α → Prop} {f : Nat → α → α} (hf : ∀ k x, R x (f k x))
    (l : List α) : List.Forall₂ R l (l.mapIdx f) := by
  induction l generalizing f with
  | nil => simp
  | cons x rest ih =>
      rw [List.mapIdx_cons]
      exact .cons (hf 0 x) (ih fun k => hf (k + 1))

theorem forall₂_trans {R : α → α → Prop} (trans : ∀ x y z, R x y → R y z → R x z)
    {l₁ l₂ l₃ : List α} (h : List.Forall₂ R l₁ l₂) (h' : List.Forall₂ R l₂ l₃) :
    List.Forall₂ R l₁ l₃ := by
  induction h generalizing l₃ with
  | nil => exact h'
  | cons hx _ ih =>
      cases h' with
      | cons hy h' => exact .cons (trans _ _ _ hx hy) (ih h')

/-! ## Profiles -/

/-- What no command changes in a resolution. -/
def Resolution.traits (r : Resolution) : UInt32 × Bool × List ResolutionCapability :=
  (r.rate, r.default, r.capabilities)

namespace VolumeKeys

/-- What the two buttons are mapped to. -/
def pair (p : Profile) : Option Action × Option Action :=
  (p.buttons[upButton]?.map (·.action), p.buttons[downButton]?.map (·.action))

theorem pair_eq {p : Profile} {x y : Button} (hx : p.buttons[upButton]? = some x)
    (hy : p.buttons[downButton]? = some y) : pair p = (some x.action, some y.action) := by
  rw [pair, hx, hy]
  rfl

/-- The two buttons are mapped to nothing, or to the volume keys. -/
def Switched (p : Profile) : Prop :=
  pair p = (some .disabled, some .disabled) ∨ pair p = (some up, some down)

end VolumeKeys

theorem Profile.getElem?_setAction (p : Profile) (index : Nat) (a : Action) (b : Nat) :
    (p.setAction index a).buttons[b]? =
      if index = b then p.buttons[b]?.map fun x => { x with action := a } else p.buttons[b]? := by
  rw [setAction, List.getElem?_modify]
  by_cases h : index = b <;> simp [h]

/-- Of a profile on a device that `can` do some things, what it keeps when commands make another
of it. -/
structure Profile.Guarded (can : Capability → Bool) (p p' : Profile) : Prop where
  default : p'.default = p.default
  resolutions : p'.resolutions.map Resolution.traits = p.resolutions.map Resolution.traits
  roles : p'.buttons.map (·.role) = p.buttons.map (·.role)
  active : can .switchableProfile = false → p'.active = p.active
  tuning : can .switchableResolution = false → p'.resolutions = p.resolutions
  sequences : can .buttonMacros = false → ∀ (b : Nat) (x : Button), p'.buttons[b]? = some x →
    x.action.isSequence → p.buttons[b]? = some x
  mappings : can .buttonKey = false → ∀ b : Nat, b ≠ VolumeKeys.upButton →
    b ≠ VolumeKeys.downButton → p'.buttons[b]? = p.buttons[b]?
  volumeKeys : can .buttonKey = false →
    VolumeKeys.pair p' = VolumeKeys.pair p ∨ VolumeKeys.Switched p ∧ VolumeKeys.Switched p'
  buttons : can .buttonKey = false → can .switchableProfile = false → p'.buttons = p.buttons

namespace Profile.Guarded

variable {can : Capability → Bool} {p p' p'' : Profile}

/-- As long as the buttons stay, only what is seen of the rest counts. -/
theorem of_buttons_eq (default : p'.default = p.default) (buttons : p'.buttons = p.buttons)
    (resolutions : p'.resolutions.map Resolution.traits = p.resolutions.map Resolution.traits)
    (active : can .switchableProfile = false → p'.active = p.active)
    (tuning : can .switchableResolution = false → p'.resolutions = p.resolutions) :
    Guarded can p p' where
  default := default
  resolutions := resolutions
  roles := by rw [buttons]
  active := active
  tuning := tuning
  sequences _ b x hx _ := buttons ▸ hx
  mappings _ b _ _ := by rw [buttons]
  volumeKeys _ := .inl (by rw [VolumeKeys.pair, VolumeKeys.pair, buttons])
  buttons _ _ := buttons

theorem refl (can : Capability → Bool) (p : Profile) : Guarded can p p :=
  of_buttons_eq rfl rfl rfl (fun _ => rfl) fun _ => rfl

theorem trans (h : Guarded can p p') (h' : Guarded can p' p'') : Guarded can p p'' where
  default := h'.default.trans h.default
  resolutions := h'.resolutions.trans h.resolutions
  roles := h'.roles.trans h.roles
  active hc := (h'.active hc).trans (h.active hc)
  tuning hc := (h'.tuning hc).trans (h.tuning hc)
  sequences hc b x hx hs := h.sequences hc b x (h'.sequences hc b x hx hs) hs
  mappings hc b hu hd := (h'.mappings hc b hu hd).trans (h.mappings hc b hu hd)
  volumeKeys hc := by
    rcases h.volumeKeys hc with same | ⟨before, between⟩
    · rcases h'.volumeKeys hc with same' | ⟨between, after⟩
      · exact .inl (same'.trans same)
      · rw [VolumeKeys.Switched, same] at between
        exact .inr ⟨between, after⟩
    · rcases h'.volumeKeys hc with same' | ⟨-, after⟩
      · rw [VolumeKeys.Switched, ← same'] at between
        exact .inr ⟨before, between⟩
      · exact .inr ⟨before, after⟩
  buttons hc hc' := (h'.buttons hc hc').trans (h.buttons hc hc')

/-! ### Updates of profiles -/

theorem setActive (h : can .switchableProfile) (p : Profile) (b : Bool) :
    Guarded can p { p with active := b } :=
  of_buttons_eq rfl rfl rfl (fun hc => absurd (hc.symm.trans h) nofun) fun _ => rfl

theorem activate (h : can .switchableResolution) (p : Profile) (index : Nat) :
    Guarded can p (p.activate index) := by
  rcases Nat.lt_or_ge index p.resolutions.length with hi | hi
  · rw [Profile.activate_of_lt hi]
    have traits (k : Nat) (r : Resolution) : { r with active := k == index }.traits = r.traits := rfl
    exact of_buttons_eq rfl rfl (map_mapIdx_of_eq traits _) (fun _ => rfl)
      fun hc => absurd (hc.symm.trans h) nofun
  · rw [Profile.activate_of_le hi]
    exact refl can p

theorem setDpi (h : can .switchableResolution) (p : Profile) (j : Nat) (dpi : UInt32) :
    Guarded can p (p.modifyResolution j (·.setDpi dpi)) :=
  have traits (r : Resolution) : (r.setDpi dpi).traits = r.traits := rfl
  of_buttons_eq rfl rfl (map_modify_of_eq traits _ j) (fun _ => rfl)
    fun hc => absurd (hc.symm.trans h) nofun

theorem roles_setAction (p : Profile) (index : Nat) (a : Action) :
    (p.setAction index a).buttons.map (·.role) = p.buttons.map (·.role) :=
  have role (x : Button) : { x with action := a }.role = x.role := rfl
  map_modify_of_eq role _ index

/-- A key sequence that is there after a mapping to something else was there before. -/
theorem sequence_of_setAction {index : Nat} {a : Action} (ha : a.isSequence = false) {b : Nat}
    {x : Button} (hx : (p.setAction index a).buttons[b]? = some x) (hs : x.action.isSequence) :
    p.buttons[b]? = some x := by
  rw [getElem?_setAction] at hx
  split at hx
  · obtain ⟨y, -, rfl⟩ := Option.map_eq_some_iff.mp hx
    exact absurd (ha.symm.trans hs) nofun
  · exact hx

theorem setAction (h : can .buttonKey) {a : Action} (hs : a.isSequence → can .buttonMacros)
    (p : Profile) (index : Nat) : Guarded can p (p.setAction index a) where
  default := rfl
  resolutions := rfl
  roles := roles_setAction p index a
  active _ := rfl
  tuning _ := rfl
  sequences hc b x hx hseq := by
    refine sequence_of_setAction (Bool.eq_false_iff.mpr fun ha => ?_) hx hseq
    exact absurd (hc.symm.trans (hs ha)) nofun
  mappings hc := absurd (hc.symm.trans h) nofun
  volumeKeys hc := absurd (hc.symm.trans h) nofun
  buttons hc := absurd (hc.symm.trans h) nofun

theorem pair_assign {x y : Button} (hx : p.buttons[VolumeKeys.upButton]? = some x)
    (hy : p.buttons[VolumeKeys.downButton]? = some y) (a a' : Action) :
    VolumeKeys.pair (VolumeKeys.assign p a a') = (some a, some a') := by
  have apart : VolumeKeys.upButton ≠ VolumeKeys.downButton := by decide
  simp [VolumeKeys.pair, VolumeKeys.assign, getElem?_setAction, hx, hy, apart, apart.symm]

/-- The two buttons are mapped to what switches between nothing and the volume keys. -/
theorem assign (h : can .switchableProfile) {a a' : Action} (ha : a.isSequence = false)
    (ha' : a'.isSequence = false) (before : VolumeKeys.Switched p)
    (after : VolumeKeys.Switched (VolumeKeys.assign p a a')) :
    Guarded can p (VolumeKeys.assign p a a') where
  default := rfl
  resolutions := rfl
  roles := (roles_setAction _ _ _).trans (roles_setAction _ _ _)
  active _ := rfl
  tuning _ := rfl
  sequences _ b x hx hs := sequence_of_setAction ha (sequence_of_setAction ha' hx hs) hs
  mappings _ b hu hd := by
    rw [VolumeKeys.assign, getElem?_setAction, if_neg hd.symm, getElem?_setAction, if_neg hu.symm]
  volumeKeys _ := .inr ⟨before, after⟩
  buttons _ hc := absurd (hc.symm.trans h) nofun

theorem toggled (h : can .switchableProfile) (p : Profile) :
    Guarded can p (VolumeKeys.toggled p) := by
  rcases ht : VolumeKeys.toggle p with _ | ⟨outcome, q⟩
  · have same : VolumeKeys.toggled p = p := by simp [VolumeKeys.toggled, ht]
    rw [same]
    exact refl can p
  · rw [VolumeKeys.toggled_eq ht]
    obtain ⟨x, y, hx, hy, ⟨⟨hup, hdown⟩, -, rfl⟩ | ⟨⟨hup, hdown⟩, -, rfl⟩ | ⟨-, rfl⟩⟩ :=
      VolumeKeys.cases_of_toggle ht
    · have before : VolumeKeys.pair p = (some VolumeKeys.up, some VolumeKeys.down) := by
        rw [VolumeKeys.pair_eq hx hy, hup, hdown]
      exact assign h rfl rfl (.inr before) (.inl (pair_assign hx hy _ _))
    · have before : VolumeKeys.pair p = (some .disabled, some .disabled) := by
        rw [VolumeKeys.pair_eq hx hy, hup, hdown]
      exact assign h rfl rfl (.inl before) (.inr (pair_assign hx hy _ _))
    · exact refl can q

end Profile.Guarded

/-! ## Devices -/

/-- The device has the capabilities that the update asks for. -/
def Update.Permitted (d : Device) : Update → Prop
  | activateProfile _ | toggleVolumeKeys _ => d.has .switchableProfile
  | activateResolution _ _ | setDpi _ _ _ => d.has .switchableResolution
  | setAction _ _ a => d.has .buttonKey ∧ (a.isSequence → d.has .buttonMacros)

/-- What a device keeps when commands make another of it. -/
structure Device.Guarded (d d' : Device) : Prop where
  name : d'.name = d.name
  capabilities : d'.capabilities = d.capabilities
  buttonCount : d'.buttonCount = d.buttonCount
  dpiRange : d'.dpiRange = d.dpiRange
  profiles : List.Forall₂ (Profile.Guarded d.has) d.profiles d'.profiles

namespace Device.Guarded

variable {d d' d'' : Device}

theorem refl (d : Device) : d.Guarded d :=
  ⟨rfl, rfl, rfl, rfl, List.forall₂_same.mpr fun p _ => .refl d.has p⟩

theorem trans (h : d.Guarded d') (h' : d'.Guarded d'') : d.Guarded d'' where
  name := h'.name.trans h.name
  capabilities := h'.capabilities.trans h.capabilities
  buttonCount := h'.buttonCount.trans h.buttonCount
  dpiRange := h'.dpiRange.trans h.dpiRange
  profiles := by
    have can : d'.has = d.has := by
      funext c
      rw [Device.has, Device.has, h.capabilities]
    have profiles := h'.profiles
    rw [can] at profiles
    exact forall₂_trans (fun _ _ _ => .trans) h.profiles profiles

theorem modifyProfile {f : Profile → Profile} (hf : ∀ p, Profile.Guarded d.has p (f p)) (i : Nat) :
    d.Guarded (d.modifyProfile i f) :=
  ⟨rfl, rfl, rfl, rfl, forall₂_modify (Profile.Guarded.refl d.has) hf d.profiles i⟩

theorem activate (h : d.has .switchableProfile) (index : Nat) : d.Guarded (d.activate index) := by
  rcases Nat.lt_or_ge index d.profiles.length with hi | hi
  · rw [Device.activate_of_lt hi]
    exact ⟨rfl, rfl, rfl, rfl, forall₂_mapIdx (fun k p => .setActive h p (k == index)) _⟩
  · rw [Device.activate_of_le hi]
    exact refl d

/-- Permitted updates leave alone what the capabilities guard. -/
theorem apply {u : Update} (h : u.Permitted d) : d.Guarded (u.apply d) := by
  cases u with
  | activateProfile index => exact activate h index
  | activateResolution i index => exact modifyProfile (fun p => .activate h p index) i
  | setDpi i j dpi => exact modifyProfile (fun p => .setDpi h p j dpi) i
  | setAction i b a => exact modifyProfile (fun p => .setAction h.1 h.2 p b) i
  | toggleVolumeKeys i => exact modifyProfile (.toggled h) i

end Device.Guarded

end MouseConfig
