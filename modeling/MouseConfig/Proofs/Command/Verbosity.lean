import MouseConfig.Proofs.Command.Agreement
import MouseConfig.Proofs.Session.Disclosure

/-! # Lines with more or less detail

How much detail is asked for makes no difference to what a line does.  It makes one to the log of a
line that opens a device: the raw description comes right after what the opening itself logs.
-/

namespace MouseConfig

variable {σ : Type}

/-! ## After the walk -/

theorem Step.Oblivious.release [DeviceService σ] : (Step.release : Step σ Unit).Oblivious := by
  refine bind context fun c => ?_
  obtain ⟨device, profile, resolution, button⟩ := c
  -- What is noted first depends on the selections, what is closed in the end on the device alone.
  cases device with
  | none =>
      have closing : (Step.select (fun _ => {}) >>= fun _ => Pure.pure () : Step σ Unit).Oblivious :=
        bind (select _) fun _ => pure ()
      rcases resolution with _ | j <;> rcases profile with _ | i
      · exact closing
      · exact bind (note _) fun _ => closing
      · exact bind (note _) fun _ => closing
      · exact bind (note _) fun _ => bind (note _) fun _ => closing
  | some o =>
      have closing : (Step.select (fun _ => {}) >>= fun _ =>
          Step.releaseDevice o.path : Step σ Unit).Oblivious :=
        bind (select _) fun _ => releaseDevice o.path
      rcases resolution with _ | j <;> rcases profile with _ | i
      · exact closing
      · exact bind (note _) fun _ => closing
      · exact bind (note _) fun _ => closing
      · exact bind (note _) fun _ => bind (note _) fun _ => closing

/-- A task may change the open device, but does not open another one. -/
theorem Task.Outcome.path_eq [DeviceService σ] {command : String} {s s' : Session σ} {t : Task}
    {failure : Option CommandError} (h : t.Outcome command s failure s') :
    s'.context.device.map (·.path) = s.context.device.map (·.path) := by
  cases h with
  | surplus | undiscovered | listed | recorded | refused | shown => rfl
  | closed hp hu ho | uncommitted hp hu ho | committed hp hu ho =>
      simp [Session.written, Session.updated, Session.noted, Context.modifyModel, ho]

/-- What a step leaves, with another log and for any detail. -/
theorem Session.after_relogged_of_logs {m : Step σ Unit} {s : Session σ}
    {shown : Verbosity → List Log.Event} (h : m.Logs s shown) (v : Verbosity)
    (log : List Log.Event) :
    ((s.relogged v log).after m).2 = (s.after m).2.relogged v (log ++ shown v) := by
  rw [after, after, h]
  cases m.run s with
  | ok u s' => rfl
  | error e s' => rfl

/-! ## Whole lines -/

variable [DeviceService σ]

theorem Node.dispatch_discloses (n : Node) (s : Session σ) :
    ∃ device shown, Disclosure s.service s.context.device device shown ∧
      n.dispatch.Logs s shown ∧
      (s.after n.dispatch).2.context.device.map (·.path) = device.map (·.path) := by
  obtain ⟨-, shown, logs, disclosure⟩ := n.walk_discloses s
  cases hr : (n.walk : Step σ Target).run s with
  | error e s' =>
      rw [hr] at disclosure
      refine ⟨_, shown, disclosure, logs.bind_of_error hr, ?_⟩
      have stopped : (n.dispatch : Step σ Unit).run s = .error e s' := by
        rw [Node.dispatch, EStateM.run_bind, hr]
      rw [Session.after_of_error stopped]
      rfl
  | ok t s' =>
      rw [hr] at disclosure
      obtain ⟨added, heedless⟩ := t.task.oblivious_run t.command s'
      obtain ⟨failure, s'', outcome, ended⟩ := t.task.exists_outcome t.command s'
      have whole : s.after n.dispatch = s'.after (t.task.run t.command) := by
        rw [Session.after, Session.after, Node.dispatch, EStateM.run_bind, hr]
      refine ⟨_, _, disclosure.trans (.nothing _ added), logs.bind_of_ok hr heedless, ?_⟩
      rw [whole, ended]
      exact outcome.path_eq

namespace Tree

/-- But for its log, a line ends in the same session for any detail. -/
theorem exists_disclosure (t : Tree) (service : σ) (words : List String) :
    ∃ device shown closing, ∃ s s' : Session σ, Disclosure service none device shown ∧
      s.context.device.map (·.path) = device.map (·.path) ∧
      ∀ v, (t.run service v words).dispatched = s.relogged v (shown v) ∧
        (t.run service v words).released = s'.relogged v (shown v ++ closing) := by
  let start := Session.start service .normal words
  obtain ⟨device, shown, disclosure, logs, same⟩ := t.root.dispatch_discloses start
  obtain ⟨closing, heedless⟩ := Step.Oblivious.release (start.after t.root.dispatch).2
  refine ⟨device, shown, closing, _, ((start.after t.root.dispatch).2.after Step.release).2,
    disclosure, same, fun v => ?_⟩
  have dispatched : (t.run service v words).dispatched =
      (start.after t.root.dispatch).2.relogged v (shown v) :=
    start.after_relogged_of_logs logs v []
  have released : (t.run service v words).released =
      ((t.run service v words).dispatched.after Step.release).2 := rfl
  refine ⟨dispatched, ?_⟩
  have quiet : Step.release.Logs (start.after t.root.dispatch).2 fun _ => closing := heedless
  rw [released, dispatched]
  exact Session.after_relogged_of_logs quiet v (shown v)

/-- A line does the same for any detail.  It logs the same too, unless it opens a device: then its
log holds the raw description besides, if that is asked for, right after the events of the opening. -/
theorem detail_only_discloses (t : Tree) (service : σ) (words : List String) :
    (∀ v v', (t.run service v words).Agrees (t.run service v' words)) ∧
    ((∃ log closing, ∀ v, let line := t.run service v words
        line.dispatched.context.device = none ∧ line.dispatched.log = log ∧
          line.released.log = log ++ closing) ∨
      ∃ path d first later closing, loader service path = .ok d ∧
        ∀ v, let line := t.run service v words
          line.dispatched.context.device.map (·.path) = some path ∧
            line.dispatched.log = first ++ Log.opening service path d v ++ later ∧
            line.released.log = first ++ Log.opening service path d v ++ later ++ closing) := by
  refine ⟨fun v v' => agrees_of_alike (.refl _), ?_⟩
  obtain ⟨device, shown, closing, s, s', disclosure, same, h⟩ := t.exists_disclosure service words
  cases disclosure with
  | nothing _ log =>
      refine .inl ⟨log, closing, fun v => ?_⟩
      dsimp only
      rw [(h v).1, (h v).2]
      exact ⟨Option.map_eq_none_iff.mp same, rfl, rfl⟩
  | @device path d hd first later =>
      refine .inr ⟨path, d, first, later, closing, hd, fun v => ?_⟩
      dsimp only
      rw [(h v).1, (h v).2]
      exact ⟨same, rfl, rfl⟩

end Tree

end MouseConfig
