import MouseConfig.Proofs.Command.Plan
import MouseConfig.Proofs.Session.Oblivious

/-! # Tasks carry out plans

The checks of a task leave the session alone and depend only on what is selected and on the words
left.  `Task.run_plan` says for each task that it fails as planned, or carries its plan out, with
only the log in between.  What has been logged before, and how much detail was asked for, makes no
difference.
-/

namespace MouseConfig

variable {σ : Type} {α β : Type}

/-- The session with more events in its log. -/
def Session.noted (s : Session σ) (log : List Log.Event) : Session σ :=
  { s with log := s.log ++ log }

/-! ## Checks -/

namespace Step

/-- Do nothing but fail or return. -/
def ofVerdict : Except CommandError α → Step σ α
  | .ok a => pure a
  | .error e => throw e

@[simp] theorem run_ofVerdict_ok (a : α) (s : Session σ) :
    (ofVerdict (.ok a) : Step σ α).run s = .ok a s := rfl

@[simp] theorem run_ofVerdict_error (e : CommandError) (s : Session σ) :
    (ofVerdict (.error e) : Step σ α).run s = .error e s := rfl

/-- In a session, whatever its log, a step comes to a verdict and does nothing else. -/
def Judges (m : Step σ α) (x : Except CommandError α) (s : Session σ) : Prop :=
  ∀ v log, m.run (s.relogged v log) = (ofVerdict x).run (s.relogged v log)

namespace Judges

variable {s : Session σ}

theorem run_eq {m : Step σ α} {x : Except CommandError α} (h : m.Judges x s) :
    m.run s = (ofVerdict x).run s := h s.verbosity s.log

theorem verdict (x : Except CommandError α) : (Step.ofVerdict x : Step σ α).Judges x s :=
  fun _ _ => rfl

theorem refuse (r : Refusal) : (Step.refuse r : Step σ α).Judges (Plan.refuse r) s :=
  fun _ _ => rfl

theorem misuse (e : UsageError) : (Step.misuse e : Step σ α).Judges (Plan.misuse e) s :=
  fun _ _ => rfl

theorem ofExcept (x : Except DeviceError α) :
    (Step.ofExcept x : Step σ α).Judges (Plan.ofExcept x) s := by
  cases x with
  | ok a => exact verdict (.ok a)
  | error e => exact verdict (.error _)

theorem bind {m : Step σ α} {x : Except CommandError α} {k : α → Step σ β}
    {g : α → Except CommandError β} (h : m.Judges x s) (hk : ∀ a, (k a).Judges (g a) s) :
    (m >>= k).Judges (x >>= g) s := by
  intro v log
  rw [EStateM.run_bind, h v log]
  cases x with
  | error e => rfl
  | ok a => exact hk a v log

/-- To look at a session, but for its log. -/
theorem look {k : Session σ → Step σ α} {x : Except CommandError α}
    (same : ∀ v log, k (s.relogged v log) = k s) (h : (k s).Judges x s) : (get >>= k).Judges x s := by
  intro v log
  exact (run_look (same v log)).trans (h v log)

theorem context {k : Context → Step σ α} {x : Except CommandError α}
    (h : (k s.context).Judges x s) : (Step.context >>= k).Judges x s := h

theorem model : (Step.model : Step σ Device).Judges (Plan.ofExcept s.context.openModel) s :=
  context (ofExcept _)

theorem profile :
    (Step.profile : Step σ Profile).Judges (Plan.ofExcept s.context.selectedProfile) s :=
  context (ofExcept _)

theorem resolution :
    (Step.resolution : Step σ Resolution).Judges (Plan.ofExcept s.context.selectedResolution) s :=
  context (ofExcept _)

theorem noArguments (command : String) :
    (Step.noArguments command : Step σ Unit).Judges (Plan.noArguments command s.args) s := by
  refine look (fun _ _ => rfl) ?_
  cases s.args with
  | nil => exact verdict (.ok ())
  | cons word rest => exact misuse _

theorem oneArgument (command : String) :
    (Step.oneArgument command : Step σ String).Judges (Plan.oneArgument command s.args) s := by
  refine look (fun _ _ => rfl) ?_
  rcases s.args with _ | ⟨word, _ | ⟨word', rest⟩⟩
  · exact misuse _
  · exact verdict (.ok word)
  · exact misuse _

theorem parsedAction (kind arg : String) :
    (Step.parsedAction kind arg : Step σ Action).Judges (Plan.parsedAction kind arg) s := by
  rw [Step.parsedAction, Plan.parsedAction]
  cases Action.ofWords? kind arg with
  | ok a => exact verdict (.ok a)
  | error e => exact misuse _

theorem capability (d : Device) (c : Capability) (r : String → Refusal) :
    (unless d.has c do Step.refuse (r d.name) : Step σ Unit).Judges
      (Plan.expectCapability d c r) s := by
  rw [Plan.expectCapability]
  cases d.has c with
  | true => exact verdict (.ok ())
  | false => exact refuse _

theorem expectCapability (c : Capability) (r : String → Refusal) :
    (Step.expectCapability c r : Step σ Unit).Judges
      (Plan.ofExcept s.context.openModel >>= fun d => Plan.expectCapability d c r) s :=
  bind model fun d => capability d c r

theorem profileButton (index : Nat) :
    (Step.profileButton index : Step σ Button).Judges (Plan.profileButton s.context index) s := by
  refine bind profile fun p => ?_
  cases p.buttons[index]? with
  | some b => exact verdict (.ok b)
  | none => exact refuse _

theorem selectedButton :
    (Step.selectedButton : Step σ Nat).Judges (Plan.selectedButton s.context) s := by
  refine context ?_
  rw [Plan.selectedButton]
  cases s.context.button with
  | some index => exact verdict (.ok index)
  | none => exact misuse _

theorem activeProfile :
    (Step.activeProfile : Step σ Nat).Judges
      (Plan.ofExcept s.context.openModel >>= Plan.activeProfile) s := by
  refine bind model fun d => ?_
  rw [Plan.activeProfile]
  cases d.activeProfile? with
  | some index => exact verdict (.ok index)
  | none => exact verdict (.error _)

theorem activeResolution :
    (Step.activeResolution : Step σ Nat).Judges
      (Plan.ofExcept s.context.selectedProfile >>= Plan.activeResolution) s := by
  refine bind profile fun p => ?_
  rw [Plan.activeResolution]
  cases p.activeResolution? with
  | some index => exact verdict (.ok index)
  | none => exact verdict (.error _)

end Judges

end Step

/-! ## Carrying out a plan -/

variable [DeviceService σ]

/-- Make the update and write it back, then print. -/
def Plan.carryOut (p : Plan) : Step σ Unit := do
  if let some u := p.update then
    Step.select (·.modifyModel u.apply)
    Step.commit
  Step.print p.output

namespace Step

/-- In a session, whatever its log, a step carries out a plan or fails as planned; it may add to the
log first. -/
def Plans (m : Step σ Unit) (x : Except CommandError Plan) (s : Session σ) : Prop :=
  ∃ added, ∀ v log,
    m.run (s.relogged v log) = (ofVerdict x >>= Plan.carryOut).run (s.relogged v (log ++ added))

namespace Plans

variable {s : Session σ}

theorem run_eq {m : Step σ Unit} {x : Except CommandError Plan} (h : m.Plans x s) :
    ∃ log, m.run s = (ofVerdict x >>= Plan.carryOut).run (s.noted log) := by
  obtain ⟨added, h⟩ := h
  exact ⟨added, h s.verbosity s.log⟩

theorem of_eq {m : Step σ Unit} {p : Plan}
    (h : ∀ s' : Session σ, s'.context = s.context → m.run s' = p.carryOut.run s') :
    m.Plans (.ok p) s :=
  ⟨[], fun v log => by rw [List.append_nil]; exact h (s.relogged v log) rfl⟩

theorem print (text : String) : (Step.print text : Step σ Unit).Plans (.ok { output := text }) s :=
  of_eq fun _ _ => rfl

theorem fail {m : Step σ Unit} {e : CommandError} (h : m.Judges (.error e) s) :
    m.Plans (.error e) s :=
  ⟨[], fun v log => by rw [List.append_nil]; exact h v log⟩

theorem look {k : Session σ → Step σ Unit} {x : Except CommandError Plan}
    (same : ∀ v log, k (s.relogged v log) = k s) (h : (k s).Plans x s) : (get >>= k).Plans x s := by
  obtain ⟨added, h⟩ := h
  exact ⟨added, fun v log => (run_look (same v log)).trans (h v log)⟩

theorem note {m : Step σ Unit} {x : Except CommandError Plan} (e : Log.Event) (h : m.Plans x s) :
    (Step.note e >>= fun _ => m).Plans x s := by
  obtain ⟨added, h⟩ := h
  refine ⟨[e] ++ added, fun v log => ?_⟩
  rw [← List.append_assoc]
  exact h v (log ++ [e])

/-- A check stands in front of a plan. -/
theorem check {m : Step σ α} {x : Except CommandError α} {k : α → Step σ Unit}
    {g : α → Except CommandError Plan} (h : m.Judges x s) (hk : ∀ a, x = .ok a → (k a).Plans (g a) s) :
    (m >>= k).Plans (x >>= g) s := by
  cases x with
  | error e => exact ⟨[], fun v log => by rw [EStateM.run_bind, h v log, List.append_nil]; rfl⟩
  | ok a =>
      obtain ⟨added, later⟩ := hk a rfl
      exact ⟨added, fun v log => by rw [EStateM.run_bind, h v log]; exact later v log⟩

/-- The open device is changed and written back, and then something is printed. -/
theorem update {f : Context → Context} (u : Update) (text : String)
    (hf : f s.context = s.context.modifyModel u.apply) :
    (Step.select f >>= fun _ => Step.commit >>= fun _ => Step.print text).Plans
      (.ok { update := some u, output := text }) s := by
  refine of_eq fun s' hs => ?_
  rw [← hs] at hf
  simp [Plan.carryOut, hf]

/-- The open device is changed and written back. -/
theorem update_silently {f : Context → Context} (u : Update)
    (hf : f s.context = s.context.modifyModel u.apply) :
    (Step.select f >>= fun _ => Step.commit).Plans (.ok { update := some u }) s := by
  refine of_eq fun s' hs => ?_
  rw [← hs] at hf
  simp only [Plan.carryOut, EStateM.run_bind, run_select, hf]
  cases Step.commit.run (σ := Session σ) _ <;> simp

/-- The open device is changed and written back, and then its name, which stays, is printed. -/
theorem update_reread {f : Context → Context} {d : Device} (u : Update) (text : String → String)
    (hd : s.context.openModel = .ok d) (hf : f s.context = s.context.modifyModel u.apply) :
    (Step.select f >>= fun _ => Step.commit >>= fun _ => Step.model >>= fun d' =>
      Step.print (text d'.name)).Plans (.ok { update := some u, output := text d.name }) s := by
  refine of_eq fun s' hs => ?_
  rw [← hs] at hf hd
  obtain ⟨path, ho⟩ := Context.openModel_eq_ok_iff.mp hd
  have changed : (s'.context.modifyModel u.apply).device = some ⟨path, u.apply d⟩ := by
    simp [Context.modifyModel, ho]
  have committed := run_commit (s := { s' with context := s'.context.modifyModel u.apply }) changed
  simp only [Plan.carryOut, EStateM.run_bind, run_select, hf, committed]
  cases (DeviceService.commit s'.service path (u.apply d)).1.1 with
  | error e => rfl
  | ok _ => simp [run_model, Context.openModel_eq_ok_iff.mpr ⟨path, changed⟩]

/-- The first check of a capability looks for the open device. -/
theorem expect {c : Capability} {r : String → Refusal} {k : Unit → Step σ Unit}
    {g : Device → Except CommandError Plan}
    (hk : ∀ d, s.context.openModel = .ok d → (k ()).Plans (g d) s) :
    (expectCapability c r >>= k).Plans
      (Plan.ofExcept s.context.openModel >>= fun d => Plan.expectCapability d c r >>= fun _ => g d)
      s := by
  rw [expectCapability, bind_assoc]
  exact check Judges.model fun d hd =>
    check (Judges.capability d c r) fun _ _ => hk d (Plan.ofExcept_eq_ok_iff.mp hd)

/-- To look for the open device again gives the same device. -/
theorem reread {d : Device} {k : Device → Step σ Unit} {x : Except CommandError Plan}
    (hd : s.context.openModel = .ok d) (hk : (k d).Plans x s) : (Step.model >>= k).Plans x s := by
  have found : (Step.model : Step σ Device).Judges (.ok d) s := by
    have h := Judges.model (s := s)
    rwa [hd] at h
  refine check (g := fun _ => x) found fun d' hd' => ?_
  cases hd'
  exact hk

/-- A further check of a capability. -/
theorem expect_again {d : Device} {c : Capability} {r : String → Refusal} {k : Unit → Step σ Unit}
    {x : Except CommandError Plan} (hd : s.context.openModel = .ok d) (hk : (k ()).Plans x s) :
    (expectCapability c r >>= k).Plans (Plan.expectCapability d c r >>= fun _ => x) s := by
  refine check ?_ fun _ _ => hk
  have h := Judges.expectCapability (s := s) c r
  rwa [hd] at h

end Plans

end Step

/-! ## The tasks -/

open Step

variable {s : Session σ}

namespace Task

theorem mapButton_plans (index : Nat) (action : Action) :
    (mapButton index action : Step σ Unit).Plans (Plan.mapButton s.context index action) s := by
  refine Plans.expect fun d hd => ?_
  have rest : (Step.profileButton index >>= fun _ =>
      Step.note (Log.debug .button s!"Mapping button {index} to '{action.text}'") >>= fun _ =>
      Step.setAction index action >>= fun _ => Step.commit : Step σ Unit).Plans
      (Plan.profileButton s.context index >>= fun _ =>
        .ok { update := s.context.profile.map fun i => .setAction i index action }) s := by
    refine Plans.check (Judges.profileButton index) fun b hb => Plans.note _ ?_
    obtain ⟨p, hp, -⟩ := Plan.profileButton_eq_ok_iff.mp hb
    obtain ⟨i, hi⟩ := Context.exists_profile_of_selectedProfile hp
    rw [hi]
    exact Plans.update_silently (.setAction i index action) (Context.modifyProfile_eq hi _)
  cases action.isSequence with
  | true => exact Plans.expect_again hd rest
  | false => exact rest

theorem runInfo_plans (command : String) :
    (runInfo command : Step σ Unit).Plans (Plan.info command s.context s.args) s :=
  Plans.check (Judges.noArguments command) fun _ _ =>
    Plans.check Judges.model fun d _ => Plans.print d.report

theorem runChangeButton_plans (command : String) :
    (runChangeButton command : Step σ Unit).Plans (Plan.changeButton command s.context s.args) s := by
  refine Plans.look (fun _ _ => rfl) ?_
  rcases s.args with _ | ⟨button, _ | ⟨kind, _ | ⟨arg, _ | ⟨word, rest⟩⟩⟩⟩
  case cons.cons.cons.nil =>
    simp only [Plan.changeButton]
    cases Numeral.index? button with
    | none => exact Plans.fail (Judges.misuse _)
    | some index =>
        exact Plans.check (Judges.parsedAction kind arg) fun action _ =>
          mapButton_plans index action
  all_goals exact Plans.fail (Judges.misuse _)

theorem runButtonSet_plans (command : String) :
    (runButtonSet command : Step σ Unit).Plans (Plan.buttonSet command s.context s.args) s := by
  refine Plans.look (fun _ _ => rfl) ?_
  rcases s.args with _ | ⟨kind, _ | ⟨arg, _ | ⟨word, rest⟩⟩⟩
  case cons.cons.nil =>
    exact Plans.check Judges.selectedButton fun index _ =>
      Plans.check (Judges.parsedAction kind arg) fun action _ => mapButton_plans index action
  all_goals exact Plans.fail (Judges.misuse _)

theorem runButtonGet_plans (command : String) :
    (runButtonGet command : Step σ Unit).Plans (Plan.buttonGet command s.context s.args) s :=
  Plans.check (Judges.noArguments command) fun _ _ =>
    Plans.check Judges.selectedButton fun index _ =>
      Plans.check (Judges.profileButton index) fun b _ => Plans.print (b.line index ++ "\n")

theorem runActiveProfileGet_plans (command : String) :
    (runActiveProfileGet command : Step σ Unit).Plans
      (Plan.activeProfileGet command s.context s.args) s := by
  refine Plans.check (Judges.noArguments command) fun _ _ => Plans.check Judges.model fun d hd => ?_
  rw [Plan.ofExcept_eq_ok_iff] at hd
  cases d.has .switchableProfile && decide (1 < d.profiles.length) with
  | false => exact Plans.print _
  | true =>
      have h := Judges.activeProfile (s := s)
      rw [hd] at h
      exact Plans.check h fun index _ => Plans.print _

theorem runActiveProfileSet_plans (command : String) :
    (runActiveProfileSet command : Step σ Unit).Plans
      (Plan.activeProfileSet command s.context s.args) s := by
  refine Plans.check (Judges.oneArgument command) fun word _ => ?_
  cases Numeral.index? word with
  | none => exact Plans.fail (Judges.misuse _)
  | some index =>
      refine Plans.expect fun d hd => Plans.reread hd ?_
      by_cases hi : index < d.profiles.length
      · by_cases ha : d.activeProfile? = some index
        · simp only [hi, ha, if_true]
          exact Plans.print _
        · simp only [hi, ha, if_true, if_false, activateProfile, bind_assoc]
          refine Plans.reread hd ?_
          rw [Device.activate?_of_lt hi]
          simp only [bind_assoc, pure_bind]
          exact Plans.update (.activateProfile index) _ rfl
      · simp only [hi, if_false]
        exact Plans.fail (Judges.refuse _)

theorem runActiveResolutionGet_plans (command : String) :
    (runActiveResolutionGet command : Step σ Unit).Plans
      (Plan.activeResolutionGet command s.context s.args) s := by
  refine Plans.check (Judges.noArguments command) fun _ _ => ?_
  have h : (activeResolution >>= fun index => printLine (toString index) : Step σ Unit).Plans
      ((Plan.ofExcept s.context.selectedProfile >>= Plan.activeResolution) >>= fun index =>
        .ok { output := toString index ++ "\n" }) s :=
    Plans.check Judges.activeResolution fun index _ => Plans.print _
  rw [bind_assoc] at h
  exact h

theorem runDpiGet_plans (command : String) :
    (runDpiGet command : Step σ Unit).Plans (Plan.dpiGet command s.context s.args) s :=
  Plans.check (Judges.noArguments command) fun _ _ =>
    Plans.check Judges.resolution fun _ _ => Plans.print _

theorem runDpiSet_plans (command : String) :
    (runDpiSet command : Step σ Unit).Plans (Plan.dpiSet command s.context s.args) s := by
  refine Plans.check (Judges.oneArgument command) fun word _ => ?_
  cases Numeral.word? word with
  | none => exact Plans.fail (Judges.misuse _)
  | some dpi =>
      refine Plans.expect fun d hd => Plans.reread hd ?_
      have rest : (Step.note (Log.debug .resolution s!"Setting resolution to {dpi} dpi") >>= fun _ =>
          setDpi dpi >>= fun _ => commit : Step σ Unit).Plans
          (Plan.ofExcept s.context.selectedResolution >>= fun _ => .ok {
            update := s.context.profile.bind fun i =>
              s.context.resolution.map fun j => .setDpi i j dpi }) s := by
        refine Plans.note _ ?_
        rw [setDpi, bind_assoc]
        refine Plans.check Judges.resolution fun r hr => ?_
        rw [Plan.ofExcept_eq_ok_iff] at hr
        obtain ⟨p, j, hp, hj, -⟩ := Context.selectedResolution_eq_ok_iff.mp hr
        obtain ⟨i, hi⟩ := Context.exists_profile_of_selectedProfile hp
        rw [hi, hj]
        exact Plans.update_silently (.setDpi i j dpi) (Context.modifyResolution_eq hi hj _)
      cases d.dpiRange with
      | none => exact rest
      | some range =>
          cases hr : range.contains dpi with
          | true =>
              simp only [hr, if_true]
              exact rest
          | false =>
              simp only [hr]
              exact Plans.fail (Judges.refuse _)

theorem runSwitchVolumeKeys_plans (command : String) :
    (runSwitchVolumeKeys command : Step σ Unit).Plans
      (Plan.switchVolumeKeys command s.context s.args) s := by
  refine Plans.check (Judges.noArguments command) fun _ _ => Plans.expect fun d hd =>
    Plans.reread hd (Plans.check Judges.profile fun p hp => ?_)
  rw [Plan.ofExcept_eq_ok_iff] at hp
  obtain ⟨d', i, hd', hi, hpi⟩ := Context.selectedProfile_eq_ok_iff.mp hp
  cases hd.symm.trans hd'
  have flipped (q : Profile) (outcome : VolumeKeys.Outcome)
      (h : VolumeKeys.toggle p = some (outcome, q)) :
      s.context.modifyProfile (fun _ => q) =
        s.context.modifyModel (Update.toggleVolumeKeys i).apply := by
    rw [Context.modifyProfile_eq hi]
    refine Context.modifyModel_congr hd (Device.modifyProfile_congr hpi ?_)
    exact (VolumeKeys.toggled_eq h).symm
  rcases ht : VolumeKeys.toggle p with _ | ⟨outcome, q⟩
  · exact Plans.fail (Judges.refuse _)
  · cases outcome with
    | unchanged => exact Plans.print _
    | enabled =>
        rw [hi]
        exact Plans.update (.toggleVolumeKeys i) _ (flipped q _ ht)
    | disabled =>
        rw [hi]
        exact Plans.update (.toggleVolumeKeys i) _ (flipped q _ ht)

/-- The name is read again after the device has been written back; no update changes it. -/
theorem runActiveResolutionSet_plans (command : String) :
    (runActiveResolutionSet command : Step σ Unit).Plans
      (Plan.activeResolutionSet command s.context s.args) s := by
  refine Plans.check (Judges.oneArgument command) fun word _ => ?_
  cases Numeral.index? word with
  | none => exact Plans.fail (Judges.misuse _)
  | some index =>
      refine Plans.expect fun d hd => ?_
      rw [activateResolution, bind_assoc]
      refine Plans.check Judges.profile fun p hp => ?_
      rw [Plan.ofExcept_eq_ok_iff] at hp
      obtain ⟨i, hi⟩ := Context.exists_profile_of_selectedProfile hp
      by_cases hr : index < p.resolutions.length
      · rw [Profile.activate?_of_lt hr]
        simp only [hr, hi, bind_assoc, pure_bind, if_true]
        exact Plans.update_reread (.activateResolution i index)
          (fun name => s!"Switched '{name}' to resolution '{index}'" ++ "\n") hd
          (Context.modifyProfile_eq hi _)
      · rw [Profile.activate?_of_le (Nat.not_lt.mp hr)]
        simp only [hr, if_false]
        exact Plans.fail (Judges.refuse _)

/-- A task fails as planned, or carries its plan out. -/
theorem run_plan {t : Task} {command : String} {x : Except CommandError Plan}
    (h : t.plan? command s.context s.args = some x) : (t.run command : Step σ Unit).Plans x s := by
  cases t with
  | info => cases h; exact runInfo_plans command
  | list => cases h
  | changeButton => cases h; exact runChangeButton_plans command
  | switchVolumeKeys => cases h; exact runSwitchVolumeKeys_plans command
  | buttonGet => cases h; exact runButtonGet_plans command
  | buttonSet => cases h; exact runButtonSet_plans command
  | activeProfileGet => cases h; exact runActiveProfileGet_plans command
  | activeProfileSet => cases h; exact runActiveProfileSet_plans command
  | activeResolutionGet => cases h; exact runActiveResolutionGet_plans command
  | activeResolutionSet => cases h; exact runActiveResolutionSet_plans command
  | dpiGet => cases h; exact runDpiGet_plans command
  | dpiSet => cases h; exact runDpiSet_plans command
  | record => cases h

end Task

end MouseConfig
