import MouseConfig.Proofs.Service.MarkBlind

/-! # Plans that do not look at marks

Once all is selected, what concerns the dpi and the buttons is planned on the device without marks.
None of it fails for want of something active.
-/

namespace MouseConfig

variable {c : Context} {command : String} {args : List String}

/-! ## Contexts without marks -/

/-- The context with nothing marked as active in the open device. -/
def Context.unmarked (c : Context) : Context := c.modifyModel Device.unmarked

namespace Context

theorem openModel_unmarked (c : Context) : c.unmarked.openModel = c.openModel.map Device.unmarked := by
  obtain ⟨device, profile, resolution, button⟩ := c
  cases device <;> rfl

theorem selectedProfile_unmarked (c : Context) :
    c.unmarked.selectedProfile = c.selectedProfile.map Profile.unmarked := by
  have positions : c.unmarked.profile = c.profile := rfl
  rw [selectedProfile, selectedProfile, openModel_unmarked, positions]
  cases c.profile with
  | none => rfl
  | some i =>
      cases c.openModel with
      | error e => rfl
      | ok d =>
          have entry : d.unmarked.profiles[i]? = d.profiles[i]?.map Profile.unmarked :=
            List.getElem?_map
          simp only [Except.map, bind, Except.bind, entry]
          cases d.profiles[i]? <;> rfl

theorem selectedResolution_unmarked (c : Context) :
    c.unmarked.selectedResolution = c.selectedResolution.map Resolution.unmarked := by
  have positions : c.unmarked.resolution = c.resolution := rfl
  rw [selectedResolution, selectedResolution, selectedProfile_unmarked, positions]
  cases c.resolution with
  | none => rfl
  | some j =>
      cases c.selectedProfile with
      | error e => rfl
      | ok p =>
          have entry : p.unmarked.resolutions[j]? = p.resolutions[j]?.map Resolution.unmarked :=
            List.getElem?_map
          simp only [Except.map, bind, Except.bind, entry]
          cases p.resolutions[j]? <;> rfl

/-! What is not selected is missed, whether or not something is active. -/

variable {e : DeviceError}

theorem not_inactive_of_openModel (h : c.openModel = .error e) : ¬ e.Inactive := by
  rw [openModel, openDevice] at h
  cases hd : c.device with
  | some o =>
      rw [hd] at h
      cases h
  | none =>
      rw [hd] at h
      cases h
      exact not_false

theorem not_inactive_of_selectedProfile (h : c.selectedProfile = .error e) : ¬ e.Inactive := by
  rw [selectedProfile] at h
  cases hi : c.profile with
  | none =>
      rw [hi] at h
      cases h
      exact not_false
  | some i =>
      cases hd : c.openModel with
      | error e' =>
          rw [hi, hd] at h
          cases h
          exact not_inactive_of_openModel hd
      | ok d =>
          rw [hi, hd] at h
          cases hp : d.profiles[i]? <;> simp only [bind, Except.bind, hp] at h <;> cases h
          exact not_false

theorem not_inactive_of_selectedResolution (h : c.selectedResolution = .error e) :
    ¬ e.Inactive := by
  rw [selectedResolution] at h
  cases hj : c.resolution with
  | none =>
      rw [hj] at h
      cases h
      exact not_false
  | some j =>
      cases hp : c.selectedProfile with
      | error e' =>
          rw [hj, hp] at h
          cases h
          exact not_inactive_of_selectedProfile hp
      | ok p =>
          rw [hj, hp] at h
          cases hr : p.resolutions[j]? <;> simp only [bind, Except.bind, hr] at h <;> cases h
          exact not_false

end Context

/-! ## Plans without marks -/

namespace Plan

theorem dpiGet_unmarked : dpiGet command c.unmarked args = dpiGet command c args := by
  rw [dpiGet, dpiGet, c.selectedResolution_unmarked]
  cases c.selectedResolution <;> rfl

theorem dpiSet_unmarked : dpiSet command c.unmarked args = dpiSet command c args := by
  rw [dpiSet, dpiSet, c.openModel_unmarked, c.selectedResolution_unmarked]
  cases c.openModel <;> cases c.selectedResolution <;> rfl

theorem profileButton_unmarked (index : Nat) :
    profileButton c.unmarked index = profileButton c index := by
  rw [profileButton, profileButton, c.selectedProfile_unmarked]
  cases c.selectedProfile <;> rfl

theorem buttonGet_unmarked : buttonGet command c.unmarked args = buttonGet command c args := by
  simp only [buttonGet, profileButton_unmarked]
  rfl

theorem mapButton_unmarked (index : Nat) (a : Action) :
    mapButton c.unmarked index a = mapButton c index a := by
  simp only [mapButton, profileButton_unmarked, c.openModel_unmarked]
  cases c.openModel <;> rfl

theorem buttonSet_unmarked : buttonSet command c.unmarked args = buttonSet command c args := by
  rcases args with _ | ⟨kind, _ | ⟨arg, _ | ⟨word, rest⟩⟩⟩
  case cons.cons.nil =>
    simp only [buttonSet, mapButton_unmarked]
    rfl
  all_goals rfl

/-! ## Plans that need nothing active -/

variable {α β : Type}

/-- It does not fail for want of something active. -/
def Indifferent (x : Except CommandError α) : Prop :=
  ∀ e : DeviceError, x = .error (.device e) → ¬ e.Inactive

namespace Indifferent

variable {x : Except CommandError α} {f : α → Except CommandError β}

theorem ok (a : α) : Indifferent (.ok a) := by
  intro e h
  cases h

theorem refuse (r : Refusal) : Indifferent (Plan.refuse r : Except CommandError α) := by
  intro e h
  cases h

theorem misuse (e : UsageError) : Indifferent (Plan.misuse e : Except CommandError α) := by
  intro e' h
  cases h

theorem bind (h : Indifferent x) (hf : ∀ a, Indifferent (f a)) : Indifferent (x >>= f) := by
  cases x with
  | error e => exact fun e' h' => h e' (congrArg Except.error (Except.error.inj h'))
  | ok a => exact hf a

theorem ofExcept {x : Except DeviceError α} (h : ∀ e, x = .error e → ¬ e.Inactive) :
    Indifferent (Plan.ofExcept x) := by
  cases x with
  | error e =>
      intro e' h'
      cases h'
      exact h e rfl
  | ok a => exact ok a

theorem openModel (c : Context) : Indifferent (Plan.ofExcept c.openModel) :=
  ofExcept fun _ => Context.not_inactive_of_openModel

theorem selectedProfile (c : Context) : Indifferent (Plan.ofExcept c.selectedProfile) :=
  ofExcept fun _ => Context.not_inactive_of_selectedProfile

theorem selectedResolution (c : Context) : Indifferent (Plan.ofExcept c.selectedResolution) :=
  ofExcept fun _ => Context.not_inactive_of_selectedResolution

theorem selectedButton (c : Context) : Indifferent (Plan.selectedButton c) := by
  rw [Plan.selectedButton]
  cases c.button with
  | none => exact misuse _
  | some index => exact ok index

theorem profileButton (c : Context) (index : Nat) : Indifferent (Plan.profileButton c index) := by
  refine bind (selectedProfile c) fun p => ?_
  cases p.buttons[index]? with
  | none => exact refuse _
  | some b => exact ok b

theorem noArguments (command : String) (args : List String) :
    Indifferent (Plan.noArguments command args) := by
  rw [Plan.noArguments]
  split
  · exact ok ()
  · exact misuse _

theorem oneArgument (command : String) (args : List String) :
    Indifferent (Plan.oneArgument command args) := by
  rcases args with _ | ⟨word, _ | ⟨word', rest⟩⟩
  · exact misuse _
  · exact ok word
  · exact misuse _

theorem parsedAction (kind arg : String) : Indifferent (Plan.parsedAction kind arg) := by
  rw [Plan.parsedAction]
  cases Action.ofWords? kind arg with
  | error e => exact misuse (.action e)
  | ok a => exact ok a

theorem expectCapability (d : Device) (capability : Capability) (r : String → Refusal) :
    Indifferent (Plan.expectCapability d capability r) := by
  rw [Plan.expectCapability]
  split
  · exact ok ()
  · exact refuse _

theorem dpiGet : Indifferent (Plan.dpiGet command c args) :=
  bind (noArguments command args) fun _ => bind (selectedResolution c) fun _ => ok _

theorem dpiSet : Indifferent (Plan.dpiSet command c args) := by
  refine bind (oneArgument command args) fun word => ?_
  cases Numeral.word? word with
  | none => exact misuse _
  | some dpi =>
      refine bind (openModel c) fun d => bind (expectCapability d _ _) fun _ => ?_
      have rest := bind (selectedResolution c) fun _ => ok (α := Plan)
        { update := c.profile.bind fun i => c.resolution.map fun j => .setDpi i j dpi }
      cases d.dpiRange with
      | none => exact rest
      | some range =>
          dsimp only
          split
          · exact rest
          · exact refuse _

theorem buttonGet : Indifferent (Plan.buttonGet command c args) :=
  bind (noArguments command args) fun _ => bind (selectedButton c) fun index =>
    bind (profileButton c index) fun _ => ok _

theorem buttonSet : Indifferent (Plan.buttonSet command c args) := by
  rcases args with _ | ⟨kind, _ | ⟨arg, _ | ⟨word, rest⟩⟩⟩
  case cons.cons.nil =>
    refine bind (selectedButton c) fun index => bind (parsedAction kind arg) fun action =>
      bind (openModel c) fun d => bind (expectCapability d _ _) fun _ => ?_
    have rest := bind (profileButton c index) fun _ => ok (α := Plan)
      { update := c.profile.map fun i => .setAction i index action }
    split
    · exact bind (expectCapability d _ _) fun _ => rest
    · exact rest
  all_goals exact misuse _

end Indifferent

end Plan

end MouseConfig
