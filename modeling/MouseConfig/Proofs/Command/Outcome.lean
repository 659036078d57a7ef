import MouseConfig.Command.Run
import MouseConfig.Proofs.Command.Writing

/-! # Outcomes

All that a task may come to in a session, and all that a line may.  What is said of tasks and of
lines elsewhere is read off from here, one case after the other.
-/

namespace MouseConfig

variable {σ : Type} [DeviceService σ]

/-- What a task leaves of a session, and how it fails if it does. -/
inductive Task.Outcome (command : String) (s : Session σ) (t : Task) :
    Option CommandError → Session σ → Prop
  | surplus (ht : t = .list) (ha : s.args ≠ []) :
      Outcome command s t (some (.usage (.surplusArguments command))) s
  | undiscovered {e : DeviceError} (ht : t = .list) (ha : s.args = [])
      (hd : DeviceService.discover s.service = .error e) :
      Outcome command s t (some (.device e)) (s.grown [.discover] [])
  | listed {paths : List Path} {text : String} {log : List Log.Event} (ht : t = .list)
      (ha : s.args = []) (hd : DeviceService.discover s.service = .ok paths) :
      Outcome command s t none
        { s.grown (Call.tour (loader s.service) paths) log with output := s.output ++ text }
  | recorded (ht : t = .record) :
      Outcome command s t none { s with reached := s.reached ++ [⟨command, s.context, s.args⟩] }
  | refused {e : CommandError} {log : List Log.Event}
      (hp : t.plan? command s.context s.args = some (.error e)) :
      Outcome command s t (some e) (s.noted log)
  | shown {p : Plan} {log : List Log.Event}
      (hp : t.plan? command s.context s.args = some (.ok p)) (hu : p.update = none) :
      Outcome command s t none { s.noted log with output := s.output ++ p.output }
  | closed {p : Plan} {u : Update} {log : List Log.Event}
      (hp : t.plan? command s.context s.args = some (.ok p)) (hu : p.update = some u)
      (ho : s.context.device = none) :
      Outcome command s t (some (.device (.notSelected .device))) ((s.noted log).updated u)
  | uncommitted {p : Plan} {u : Update} {o : OpenDevice} {e : DeviceError} {log : List Log.Event}
      (hp : t.plan? command s.context s.args = some (.ok p)) (hu : p.update = some u)
      (ho : s.context.device = some o)
      (hc : (DeviceService.commit s.service o.path (u.apply o.model)).1.1 = .error e) :
      Outcome command s t (some (.device e))
        (((s.noted log).updated u).written ⟨o.path, u.apply o.model⟩)
  | committed {p : Plan} {u : Update} {o : OpenDevice} {log : List Log.Event}
      (hp : t.plan? command s.context s.args = some (.ok p)) (hu : p.update = some u)
      (ho : s.context.device = some o)
      (hc : (DeviceService.commit s.service o.path (u.apply o.model)).1.1 = .ok ()) :
      Outcome command s t none
        { ((s.noted log).updated u).written ⟨o.path, u.apply o.model⟩ with
          output := s.output ++ p.output }

namespace Session

variable {s s' : Session σ} {step : Step σ Unit} {e : CommandError}

omit [DeviceService σ] in
theorem after_of_ok (h : step.run s = .ok () s') : s.after step = (none, s') := by
  rw [after, h]

omit [DeviceService σ] in
theorem after_of_error (h : step.run s = .error e s') : s.after step = (some e, s') := by
  rw [after, h]

end Session

namespace Task

variable {s : Session σ} {t : Task} {command : String}

/-- A plan is not carried out, or to its end, or as far as its commit. -/
theorem exists_outcome_of_plan {x : Except CommandError Plan}
    (hp : t.plan? command s.context s.args = some x) :
    ∃ failure s', t.Outcome command s failure s' ∧ s.after (t.run command) = (failure, s') := by
  obtain ⟨log, h⟩ := (run_plan hp).run_eq
  cases x with
  | error e => exact ⟨_, _, .refused hp, Session.after_of_error h⟩
  | ok p =>
      have h : (t.run command : Step σ Unit).run s = p.carryOut.run (s.noted log) := h
      cases hu : p.update with
      | none =>
          rw [Plan.run_carryOut_of_none hu] at h
          exact ⟨_, _, .shown hp hu, Session.after_of_ok h⟩
      | some u =>
          cases ho : s.context.device with
          | none =>
              rw [Plan.run_carryOut_of_closed (s := s.noted log) hu ho] at h
              exact ⟨_, _, .closed hp hu ho, Session.after_of_error h⟩
          | some o =>
              rw [Plan.run_carryOut_of_some (s := s.noted log) hu ho] at h
              cases hc : (DeviceService.commit s.service o.path (u.apply o.model)).1.1 with
              | error e =>
                  rw [show (s.noted log).service = s.service from rfl, hc] at h
                  exact ⟨_, _, .uncommitted hp hu ho hc, Session.after_of_error h⟩
              | ok v =>
                  rw [show (s.noted log).service = s.service from rfl, hc] at h
                  exact ⟨_, _, .committed hp hu ho hc, Session.after_of_ok h⟩

/-- All that a task can do. -/
theorem exists_outcome (t : Task) (command : String) (s : Session σ) :
    ∃ failure s', t.Outcome command s failure s' ∧ s.after (t.run command) = (failure, s') := by
  cases hp : t.plan? command s.context s.args with
  | some x => exact exists_outcome_of_plan hp
  | none =>
      cases t with
      | list =>
          by_cases ha : s.args = []
          · cases hd : DeviceService.discover s.service with
            | error e =>
                exact ⟨_, _, .undiscovered rfl ha hd,
                  Session.after_of_error (run_list_of_undiscovered ha hd)⟩
            | ok paths =>
                obtain ⟨log, h⟩ := run_list_of_discovered ha hd
                exact ⟨_, _, .listed rfl ha hd, Session.after_of_ok h⟩
          · exact ⟨_, _, .surplus rfl ha, Session.after_of_error (run_list_of_args ha)⟩
      | record => exact ⟨_, _, .recorded rfl, rfl⟩
      | info | changeButton | switchVolumeKeys | buttonGet | buttonSet | activeProfileGet
      | activeProfileSet | activeResolutionGet | activeResolutionSet | dpiGet | dpiSet => cases hp

end Task

/-! ## Lines -/

/-- What a line leaves of a session: its search fails, or the task that it arrives at comes to
something. -/
inductive Node.Outcome (n : Node) (s : Session σ) : Option CommandError → Session σ → Prop
  | lost {e : CommandError} {p : Stand} {log : List Log.Event}
      (h : (n.seek (loader s.service)).run s.stand = .error e p) :
      Outcome n s (some e) (s.moved p log)
  | arrived {t : Target} {p : Stand} {log : List Log.Event} {failure : Option CommandError}
      {s' : Session σ} (h : (n.seek (loader s.service)).run s.stand = .ok t p)
      (ht : t.task.Outcome t.command (s.moved p log) failure s') : Outcome n s failure s'

/-- All that a line can do. -/
theorem Node.exists_outcome (n : Node) (s : Session σ) :
    ∃ failure s', n.Outcome s failure s' ∧ s.after n.dispatch = (failure, s') := by
  obtain ⟨log, hw⟩ := n.walk_follows s
  cases hr : (n.seek (loader s.service)).run s.stand with
  | error e p =>
      have lost : (n.dispatch : Step σ Unit).run s = .error e (s.moved p log) := by
        rw [Node.dispatch, EStateM.run_bind, hw, hr]
        rfl
      exact ⟨_, _, .lost hr, Session.after_of_error lost⟩
  | ok t p =>
      obtain ⟨failure, s', ht, ha⟩ := t.task.exists_outcome t.command (s.moved p log)
      refine ⟨failure, s', .arrived hr ht, ?_⟩
      rw [← ha, Session.after, Session.after, Node.dispatch, EStateM.run_bind, hw, hr]
      rfl

namespace Tree

variable (t : Tree) (service : σ) (v : Verbosity) (words : List String)

theorem outcome : t.root.Outcome (Session.start service v words) (t.run service v words).failure
    (t.run service v words).dispatched := by
  obtain ⟨failure, s', h, ha⟩ := t.root.exists_outcome (Session.start service v words)
  simp only [run, ha]
  exact h

/-- The selections are given up after a line has succeeded or failed. -/
theorem exists_released :
    ∃ log, (t.run service v words).released =
      { (t.run service v words).dispatched.grown
          (t.run service v words).dispatched.context.closing log with context := {} } := by
  obtain ⟨log, h⟩ := Step.run_release (t.run service v words).dispatched
  refine ⟨log, ?_⟩
  have ended : (t.run service v words).released =
      ((t.run service v words).dispatched.after Step.release).2 := rfl
  rw [ended, Session.after_of_ok h]

end Tree

end MouseConfig
