import MouseConfig.Proofs.Command.Level
import MouseConfig.Proofs.Command.Plan
import MouseConfig.Proofs.Device.WellFormed

/-! # Checks before a plan

A task looks at what is selected and at the words left to it before it plans anything.  It fails for
want of a selection only if that is not there, and what it sets in the open device is well-formed.
-/

namespace MouseConfig

variable {α β : Type}

namespace Plan

/-- The update of a plan, if there is one, sets what is well-formed in the open device. -/
def Admissible (c : Context) (p : Plan) : Prop :=
  ∀ d u, c.openModel = .ok d → p.update = some u → u.Admissible d

/-- Checks that succeed with `Q`, or fail for want of a selection only if the context lacks it. -/
def Checked (c : Context) (needs : Requirement) (Q : α → Prop) : Except CommandError α → Prop
  | .ok a => Q a
  | .error e => ∀ what, e = .device (.notSelected what) → c.Lacks needs (.notSelected what)

namespace Checked

variable {c : Context} {needs : Requirement} {Q : α → Prop} {R : β → Prop}

theorem ok {a : α} (h : Q a) : Checked c needs Q (.ok a) := h

theorem refuse (r : Refusal) : Checked c needs Q (Plan.refuse r) := nofun

theorem misuse (e : UsageError) : Checked c needs Q (Plan.misuse e) := nofun

theorem bind {x : Except CommandError α} {f : α → Except CommandError β}
    (hx : Checked c needs Q x) (hf : ∀ a, Q a → Checked c needs R (f a)) :
    Checked c needs R (x >>= f) := by
  cases x with
  | error e => exact hx
  | ok a => exact hf a hx

/-! ## What is selected -/

theorem found {x : Except DeviceError α} (h : ∀ e, x = .error e → c.Lacks needs e) :
    Checked c needs (fun a => x = .ok a) (ofExcept x) := by
  cases x with
  | ok a => exact ok rfl
  | error e =>
      intro what he
      cases he
      exact h _ rfl

theorem device (h : .device ≤ needs) :
    Checked c needs (fun d => c.openModel = .ok d) (ofExcept c.openModel) :=
  found fun _ => .device h

theorem profile (h : .profile ≤ needs) :
    Checked c needs (fun p => c.selectedProfile = .ok p) (ofExcept c.selectedProfile) :=
  found fun _ => .profile h

theorem resolution (h : .resolution ≤ needs) :
    Checked c needs (fun r => c.selectedResolution = .ok r) (ofExcept c.selectedResolution) :=
  found fun _ => .resolution h

theorem selectedButton (c : Context) :
    Checked c needs (fun _ => True) (Plan.selectedButton c) := by
  rw [Plan.selectedButton]
  cases c.button with
  | some index => exact ok trivial
  | none => exact misuse _

theorem profileButton {index : Nat} (h : .profile ≤ needs) :
    Checked c needs (fun _ => True) (Plan.profileButton c index) := by
  refine bind (profile h) fun p _ => ?_
  cases p.buttons[index]? with
  | some b => exact ok trivial
  | none => exact refuse _

/-! ## Words, capabilities and what is active -/

theorem noArguments (command : String) (args : List String) :
    Checked c needs (fun _ => True) (Plan.noArguments command args) := by
  by_cases h : args = []
  · rw [Plan.noArguments, if_pos h]
    exact ok trivial
  · rw [Plan.noArguments, if_neg h]
    exact misuse _

theorem oneArgument (command : String) (args : List String) :
    Checked c needs (fun _ => True) (Plan.oneArgument command args) := by
  rcases args with _ | ⟨word, _ | ⟨word', rest⟩⟩
  · exact misuse _
  · exact ok trivial
  · exact misuse _

/-- Actions are read from words. -/
theorem parsedAction (kind arg : String) :
    Checked c needs Action.WellFormed (Plan.parsedAction kind arg) := by
  rw [Plan.parsedAction]
  cases ha : Action.ofWords? kind arg with
  | ok a => exact ok (Action.wellFormed_of_ofWords? ha)
  | error e => exact misuse _

theorem expectCapability (d : Device) (capability : Capability) (r : String → Refusal) :
    Checked c needs (fun _ => True) (Plan.expectCapability d capability r) := by
  rw [Plan.expectCapability]
  cases d.has capability with
  | true => exact ok trivial
  | false => exact refuse _

theorem activeProfile (d : Device) : Checked c needs (fun _ => True) (Plan.activeProfile d) := by
  rw [Plan.activeProfile]
  cases d.activeProfile? with
  | some index => exact ok trivial
  | none =>
      intro what h
      cases h

theorem activeResolution (p : Profile) :
    Checked c needs (fun _ => True) (Plan.activeResolution p) := by
  rw [Plan.activeResolution]
  cases p.activeResolution? with
  | some index => exact ok trivial
  | none =>
      intro what h
      cases h

/-! ## Plans -/

theorem shown (text : String) : Checked c needs (Admissible c) (.ok { output := text }) :=
  ok fun _ _ _ h => nomatch h

/-- The update is made where something is selected. -/
theorem updated {x : Option α} {f : α → Update}
    (h : ∀ a d, c.openModel = .ok d → (f a).Admissible d) (text : String) :
    Checked c needs (Admissible c) (.ok { update := x.map f, output := text }) := by
  refine ok fun d u hd hu => ?_
  obtain ⟨a, -, rfl⟩ := Option.map_eq_some_iff.mp hu
  exact h a d hd

variable {command : String} {args : List String}

theorem info : Checked c .device (Admissible c) (Plan.info command c args) :=
  bind (noArguments command args) fun _ _ => bind (device (by decide)) fun _ _ => shown _

theorem mapButton {index : Nat} {a : Action} (ha : a.WellFormed) :
    Checked c .profile (Admissible c) (Plan.mapButton c index a) := by
  refine bind (device (by decide)) fun d _ => bind (expectCapability d _ _) fun _ _ => ?_
  have rest : Checked c .profile (Admissible c) (Plan.profileButton c index >>= fun _ =>
      .ok { update := c.profile.map fun i => .setAction i index a }) := by
    refine bind (profileButton (by decide)) fun _ _ => updated (fun i _ _ => ?_) ""
    exact ha
  cases a.isSequence with
  | false => exact rest
  | true => exact bind (expectCapability d _ _) fun _ _ => rest

theorem changeButton : Checked c .profile (Admissible c) (Plan.changeButton command c args) := by
  rcases args with _ | ⟨button, _ | ⟨kind, _ | ⟨arg, _ | ⟨word, rest⟩⟩⟩⟩
  case cons.cons.cons.nil =>
    simp only [Plan.changeButton]
    cases Numeral.index? button with
    | none => exact misuse _
    | some index => exact bind (parsedAction kind arg) fun a ha => mapButton ha
  all_goals exact misuse _

theorem buttonSet : Checked c .profile (Admissible c) (Plan.buttonSet command c args) := by
  rcases args with _ | ⟨kind, _ | ⟨arg, _ | ⟨word, rest⟩⟩⟩
  case cons.cons.nil =>
    exact bind (selectedButton c) fun index _ => bind (parsedAction kind arg) fun a ha =>
      mapButton ha
  all_goals exact misuse _

theorem buttonGet : Checked c .profile (Admissible c) (Plan.buttonGet command c args) :=
  bind (noArguments command args) fun _ _ => bind (selectedButton c) fun _ _ =>
    bind (profileButton (by decide)) fun _ _ => shown _

theorem switchVolumeKeys :
    Checked c .profile (Admissible c) (Plan.switchVolumeKeys command c args) := by
  refine bind (noArguments command args) fun _ _ => bind (device (by decide)) fun d _ =>
    bind (expectCapability d _ _) fun _ _ => bind (profile (by decide)) fun p _ => ?_
  have flipped (text : String) : Checked c .profile (Admissible c)
      (.ok { update := c.profile.map .toggleVolumeKeys, output := text }) := by
    refine updated (fun i _ _ => ?_) text
    trivial
  rcases VolumeKeys.toggle p with _ | ⟨_ | _ | _, q⟩
  · exact refuse _
  · exact flipped _
  · exact flipped _
  · exact shown _

theorem activeProfileGet :
    Checked c .device (Admissible c) (Plan.activeProfileGet command c args) := by
  refine bind (noArguments command args) fun _ _ => bind (device (by decide)) fun d _ => ?_
  cases d.has .switchableProfile && decide (1 < d.profiles.length) with
  | true => exact bind (activeProfile d) fun _ _ => shown _
  | false => exact shown _

theorem activeProfileSet :
    Checked c .device (Admissible c) (Plan.activeProfileSet command c args) := by
  refine bind (oneArgument command args) fun word _ => ?_
  cases Numeral.index? word with
  | none => exact misuse _
  | some index =>
      refine bind (device (by decide)) fun d _ => bind (expectCapability d _ _) fun _ _ => ?_
      by_cases hi : index < d.profiles.length
      · by_cases ha : d.activeProfile? = some index
        · simp only [hi, ha, if_true]
          exact shown _
        · simp only [hi, ha, if_true, if_false]
          exact updated (x := some index) (f := .activateProfile) (fun _ _ _ => trivial) _
      · simp only [hi, if_false]
        exact refuse _

theorem activeResolutionGet :
    Checked c .profile (Admissible c) (Plan.activeResolutionGet command c args) :=
  bind (noArguments command args) fun _ _ => bind (profile (by decide)) fun p _ =>
    bind (activeResolution p) fun _ _ => shown _

theorem activeResolutionSet :
    Checked c .profile (Admissible c) (Plan.activeResolutionSet command c args) := by
  refine bind (oneArgument command args) fun word _ => ?_
  cases Numeral.index? word with
  | none => exact misuse _
  | some index =>
      refine bind (device (by decide)) fun d _ => bind (expectCapability d _ _) fun _ _ =>
        bind (profile (by decide)) fun p _ => ?_
      by_cases hi : index < p.resolutions.length
      · simp only [hi, if_true]
        refine updated (fun i _ _ => ?_) _
        trivial
      · simp only [hi, if_false]
        exact refuse _

theorem dpiGet : Checked c .resolution (Admissible c) (Plan.dpiGet command c args) :=
  bind (noArguments command args) fun _ _ => bind (resolution (by decide)) fun _ _ => shown _

/-- The range that the dpi is checked against is that of the open device. -/
theorem dpiSet : Checked c .resolution (Admissible c) (Plan.dpiSet command c args) := by
  refine bind (oneArgument command args) fun word _ => ?_
  cases Numeral.word? word with
  | none => exact misuse _
  | some dpi =>
      refine bind (device (by decide)) fun d hd => bind (expectCapability d _ _) fun _ _ => ?_
      have rest (h : ∀ range ∈ d.dpiRange, range.contains dpi) : Checked c .resolution (Admissible c)
          (ofExcept c.selectedResolution >>= fun _ =>
            .ok { update := c.profile.bind fun i => c.resolution.map fun j => .setDpi i j dpi }) := by
        refine bind (resolution (by decide)) fun _ _ => ok fun d' u hd' hu => ?_
        cases hd.symm.trans hd'
        obtain ⟨i, -, hu⟩ := Option.bind_eq_some_iff.mp hu
        obtain ⟨j, -, rfl⟩ := Option.map_eq_some_iff.mp hu
        exact h
      cases hr : d.dpiRange with
      | none => exact rest (by simp [hr])
      | some range =>
          cases hc : range.contains dpi with
          | true =>
              simp only [hc, if_true]
              exact rest (by simp [hr, hc])
          | false =>
              simp only [hc]
              exact refuse _

end Checked

/-- All plans are checked for what their tasks look at. -/
theorem checked_of_plan {t : Task} {command : String} {c : Context} {args : List String}
    {x : Except CommandError Plan} (h : t.plan? command c args = some x) :
    Checked c t.needs (Admissible c) x := by
  cases t with
  | info => cases h; exact Checked.info
  | changeButton => cases h; exact Checked.changeButton
  | switchVolumeKeys => cases h; exact Checked.switchVolumeKeys
  | buttonGet => cases h; exact Checked.buttonGet
  | buttonSet => cases h; exact Checked.buttonSet
  | activeProfileGet => cases h; exact Checked.activeProfileGet
  | activeProfileSet => cases h; exact Checked.activeProfileSet
  | activeResolutionGet => cases h; exact Checked.activeResolutionGet
  | activeResolutionSet => cases h; exact Checked.activeResolutionSet
  | dpiGet => cases h; exact Checked.dpiGet
  | dpiSet => cases h; exact Checked.dpiSet
  | list | record => cases h

end Plan

end MouseConfig
