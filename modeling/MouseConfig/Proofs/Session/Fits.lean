import MouseConfig.Command.Requirement
import MouseConfig.Proofs.Device.Update
import MouseConfig.Proofs.Session.Context

/-! # Selections that fit

Positions fit if they point into the open device.  A context that holds what a level of needs asks
for holds just that, and no position of it points outside.  Updates keep the number of profiles and
of their resolutions, and with them what fits.
-/

namespace MouseConfig

/-- What is selected is there. -/
structure Context.Fits (c : Context) : Prop where
  profile : ∀ i, c.profile = some i → ∃ o, c.device = some o ∧ i < o.model.profiles.length
  resolution : ∀ j, c.resolution = some j → ∃ i o p, c.profile = some i ∧ c.device = some o ∧
    o.model.profiles[i]? = some p ∧ j < p.resolutions.length

/-! ## Updates -/

/-- How many resolutions each profile has. -/
def Device.layout (d : Device) : List Nat := d.profiles.map (·.resolutions.length)

namespace Device

variable {d d' : Device}

theorem layout_activate (d : Device) (index : Nat) : (d.activate index).layout = d.layout := by
  rcases Nat.lt_or_ge index d.profiles.length with h | h
  · rw [activate_of_lt h]
    refine List.ext_getElem? fun k => ?_
    simp [layout, Function.comp_def]
  · rw [activate_of_le h]

theorem layout_modifyProfile (d : Device) (index : Nat) {f : Profile → Profile}
    (hf : ∀ p, (f p).resolutions.length = p.resolutions.length) :
    (d.modifyProfile index f).layout = d.layout := by
  refine List.ext_getElem? fun k => ?_
  simp only [layout, modifyProfile, List.getElem?_map, List.getElem?_modify]
  by_cases hk : index = k
  · simp [hk, Function.comp_def, hf]
  · simp [hk]

theorem length_profiles_of_layout (h : d'.layout = d.layout) :
    d'.profiles.length = d.profiles.length := by
  simpa [layout] using congrArg List.length h

theorem exists_profile_of_layout (h : d'.layout = d.layout) {i : Nat} {p : Profile}
    (hp : d.profiles[i]? = some p) :
    ∃ p', d'.profiles[i]? = some p' ∧ p'.resolutions.length = p.resolutions.length := by
  have entry : d'.layout[i]? = some p.resolutions.length := by
    rw [h, layout, List.getElem?_map, hp]
    rfl
  rw [layout, List.getElem?_map] at entry
  exact Option.map_eq_some_iff.mp entry

end Device

/-- No update adds or removes a profile or a resolution. -/
theorem Update.layout_apply (u : Update) (d : Device) : (u.apply d).layout = d.layout := by
  cases u with
  | activateProfile index => exact d.layout_activate index
  | activateResolution profile index =>
      exact d.layout_modifyProfile profile fun p => p.length_resolutions_activate index
  | setDpi profile resolution dpi =>
      exact d.layout_modifyProfile profile fun p => by simp [Profile.modifyResolution]
  | setAction profile button action => exact d.layout_modifyProfile profile fun p => rfl
  | toggleVolumeKeys profile =>
      exact d.layout_modifyProfile profile fun p => by simp

/-- What fits still does after a change that keeps the layout. -/
theorem Context.Fits.modifyModel {c : Context} (h : c.Fits) {f : Device → Device}
    (hf : ∀ d, (f d).layout = d.layout) : (c.modifyModel f).Fits where
  profile i hi := by
    obtain ⟨o, ho, hlt⟩ := h.profile i hi
    refine ⟨{ o with model := f o.model }, by rw [Context.modifyModel, ho]; rfl, ?_⟩
    rw [Device.length_profiles_of_layout (hf o.model)]
    exact hlt
  resolution j hj := by
    obtain ⟨i, o, p, hi, ho, hp, hlt⟩ := h.resolution j hj
    obtain ⟨p', hp', hlen⟩ := Device.exists_profile_of_layout (hf o.model) hp
    exact ⟨i, { o with model := f o.model }, p', hi, by rw [Context.modifyModel, ho]; rfl, hp',
      hlen ▸ hlt⟩

/-! ## Levels of needs -/

/-- Just what a level of needs asks for is selected, and it fits. -/
inductive Context.Holds (c : Context) : Requirement → Prop
  | nothing (ho : c.device = none) (hi : c.profile = none) (hj : c.resolution = none) :
      Holds c .nothing
  | device {o : OpenDevice} (ho : c.device = some o) (hi : c.profile = none)
      (hj : c.resolution = none) : Holds c .device
  | profile {o : OpenDevice} {i : Nat} {p : Profile} (ho : c.device = some o)
      (hi : c.profile = some i) (hp : o.model.profiles[i]? = some p) (hj : c.resolution = none) :
      Holds c .profile
  | resolution {o : OpenDevice} {i j : Nat} {p : Profile} {r : Resolution}
      (ho : c.device = some o) (hi : c.profile = some i) (hp : o.model.profiles[i]? = some p)
      (hj : c.resolution = some j) (hr : p.resolutions[j]? = some r) : Holds c .resolution

/-- Looking at a selection that some needs ask for fails. -/
inductive Context.Lacks (c : Context) (needs : Requirement) (e : DeviceError) : Prop
  | device (hn : .device ≤ needs) (h : c.openModel = .error e)
  | profile (hn : .profile ≤ needs) (h : c.selectedProfile = .error e)
  | resolution (hn : .resolution ≤ needs) (h : c.selectedResolution = .error e)

namespace Context.Holds

variable {c : Context} {level needs : Requirement}

theorem fits (h : c.Holds level) : c.Fits := by
  cases h with
  | nothing _ hi hj =>
      refine ⟨fun i h => ?_, fun j h => ?_⟩
      · cases hi.symm.trans h
      · cases hj.symm.trans h
  | device _ hi hj =>
      refine ⟨fun i h => ?_, fun j h => ?_⟩
      · cases hi.symm.trans h
      · cases hj.symm.trans h
  | @profile o i p ho hi hp hj =>
      refine ⟨fun i' h => ?_, fun j h => ?_⟩
      · cases hi.symm.trans h
        exact ⟨o, ho, (List.getElem?_eq_some_iff.mp hp).1⟩
      · cases hj.symm.trans h
  | @resolution o i j p r ho hi hp hj hr =>
      refine ⟨fun i' h => ?_, fun j' h => ?_⟩
      · cases hi.symm.trans h
        exact ⟨o, ho, (List.getElem?_eq_some_iff.mp hp).1⟩
      · cases hj.symm.trans h
        exact ⟨i, o, p, hi, ho, hp, (List.getElem?_eq_some_iff.mp hr).1⟩

theorem exists_device (h : c.Holds level) (hl : .device ≤ level) :
    ∃ o, c.device = some o := by
  cases h with
  | nothing => exact absurd hl (by decide)
  | device ho => exact ⟨_, ho⟩
  | profile ho => exact ⟨_, ho⟩
  | resolution ho => exact ⟨_, ho⟩

theorem exists_model (h : c.Holds level) (hl : .device ≤ level) : ∃ d, c.openModel = .ok d := by
  obtain ⟨o, ho⟩ := h.exists_device hl
  exact ⟨o.model, openModel_eq_ok_iff.mpr ⟨o.path, ho⟩⟩

theorem exists_profile (h : c.Holds level) (hl : .profile ≤ level) :
    ∃ p, c.selectedProfile = .ok p := by
  have selected {o : OpenDevice} {i : Nat} {p : Profile} (ho : c.device = some o)
      (hi : c.profile = some i) (hp : o.model.profiles[i]? = some p) :
      ∃ p, c.selectedProfile = .ok p :=
    ⟨p, selectedProfile_eq_ok_iff.mpr
      ⟨o.model, i, openModel_eq_ok_iff.mpr ⟨o.path, ho⟩, hi, hp⟩⟩
  cases h with
  | nothing => exact absurd hl (by decide)
  | device => exact absurd hl (by decide)
  | profile ho hi hp => exact selected ho hi hp
  | resolution ho hi hp => exact selected ho hi hp

theorem exists_resolution (h : c.Holds level) (hl : .resolution ≤ level) :
    ∃ r, c.selectedResolution = .ok r := by
  cases h with
  | nothing => exact absurd hl (by decide)
  | device => exact absurd hl (by decide)
  | profile => exact absurd hl (by decide)
  | @resolution o i j p r ho hi hp hj hr =>
      have selected : c.selectedProfile = .ok p :=
        selectedProfile_eq_ok_iff.mpr ⟨o.model, i, openModel_eq_ok_iff.mpr ⟨o.path, ho⟩, hi, hp⟩
      exact ⟨r, selectedResolution_eq_ok_iff.mpr ⟨p, j, selected, hj, hr⟩⟩

/-- Nothing that the level asks for is missing. -/
theorem not_lacks {e : DeviceError} (h : c.Holds level) (hl : needs ≤ level) :
    ¬ c.Lacks needs e := by
  rintro (⟨hn, he⟩ | ⟨hn, he⟩ | ⟨hn, he⟩)
  · obtain ⟨d, hd⟩ := h.exists_model (Nat.le_trans hn hl)
    cases he.symm.trans hd
  · obtain ⟨p, hp⟩ := h.exists_profile (Nat.le_trans hn hl)
    cases he.symm.trans hp
  · obtain ⟨r, hr⟩ := h.exists_resolution (Nat.le_trans hn hl)
    cases he.symm.trans hr

/-- A profile can be selected, or another one, as long as no resolution of it is. -/
theorem selectProfile {d : Device} {p : Profile} {i : Nat} (h : c.Holds level)
    (hl : level ≤ .profile) (hd : c.openModel = .ok d) (hp : d.profiles[i]? = some p) :
    ({ c with profile := some i } : Context).Holds .profile := by
  obtain ⟨path, ho⟩ := openModel_eq_ok_iff.mp hd
  cases h with
  | nothing ho' => cases ho.symm.trans ho'
  | device _ _ hj => exact .profile ho rfl hp hj
  | profile _ _ _ hj => exact .profile ho rfl hp hj
  | resolution => exact absurd hl (by decide)

theorem selectResolution {p : Profile} {r : Resolution} {j : Nat}
    (hs : c.selectedProfile = .ok p) (hr : p.resolutions[j]? = some r) :
    ({ c with resolution := some j } : Context).Holds .resolution := by
  obtain ⟨d, i, hd, hi, hp⟩ := selectedProfile_eq_ok_iff.mp hs
  obtain ⟨path, ho⟩ := openModel_eq_ok_iff.mp hd
  exact .resolution ho hi hp rfl hr

/-- The button is nothing that anything needs. -/
theorem selectButton {b : Nat} (h : c.Holds level) :
    ({ c with button := some b } : Context).Holds level := by
  cases h with
  | nothing ho hi hj => exact .nothing ho hi hj
  | device ho hi hj => exact .device ho hi hj
  | profile ho hi hp hj => exact .profile ho hi hp hj
  | resolution ho hi hp hj hr => exact .resolution ho hi hp hj hr

end Context.Holds

end MouseConfig
