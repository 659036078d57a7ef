import MouseConfig.Proofs.Command.Oblivious
import MouseConfig.Proofs.Command.Outcome

/-! # Lines that agree

Two lines agree if they fail alike or both succeed, print the same, call the service alike and leave
the same service, and have selected the same when they end.  They may log different things.  Lines
agree as soon as their searches arrive at the same stand, or stop for the same reason.
-/

namespace MouseConfig

variable {σ : Type}

structure Line.Agrees (l l' : Line σ) : Prop where
  failure : l.failure = l'.failure
  context : l.dispatched.context = l'.dispatched.context
  output : l.released.output = l'.released.output
  calls : l.released.calls = l'.released.calls
  service : l.released.service = l'.released.service

theorem Line.Agrees.trans {l l' l'' : Line σ} (h : l.Agrees l') (h' : l'.Agrees l'') :
    l.Agrees l'' where
  failure := h.failure.trans h'.failure
  context := h.context.trans h'.context
  output := h.output.trans h'.output
  calls := h.calls.trans h'.calls
  service := h.service.trans h'.service

/-! ## Searches -/

/-- Two searches arrive at the same stand, or stop for the same reason with the same selected and
called. -/
inductive Search.Alike {α : Type} :
    EStateM.Result CommandError Stand α → EStateM.Result CommandError Stand α → Prop
  | ok (a : α) (p : Stand) : Alike (.ok a p) (.ok a p)
  | error (e : CommandError) {p q : Stand} (hc : p.context = q.context) (hk : p.calls = q.calls) :
      Alike (.error e p) (.error e q)

theorem Search.Alike.refl {α : Type} (r : EStateM.Result CommandError Stand α) : Alike r r := by
  cases r with
  | ok a p => exact .ok a p
  | error e p => exact .error e rfl rfl

/-! ## Lines -/

/-- What a step comes to does not depend on the log. -/
theorem Session.after_relogged {m : Step σ Unit} (hm : m.Oblivious) (s : Session σ) (v : Verbosity)
    (log : List Log.Event) :
    ∃ log', (s.relogged v log).after m = ((s.after m).1, (s.after m).2.relogged v log') := by
  obtain ⟨added, h⟩ := hm s
  refine ⟨log ++ added, ?_⟩
  rw [after, after, h]
  cases m.run s with
  | ok u s' => rfl
  | error e s' => rfl

variable [DeviceService σ]

namespace Tree

variable {t : Tree} {service : σ} {v v' : Verbosity} {words words' : List String}

/-- Until it ends, a line does not release anything. -/
theorem agrees_of_dispatched (log : List Log.Event) (args : List String)
    (failure : (t.run service v words).failure = (t.run service v' words').failure)
    (dispatched : (t.run service v' words').dispatched =
      { (t.run service v words).dispatched.relogged v' log with args := args }) :
    (t.run service v words).Agrees (t.run service v' words') := by
  obtain ⟨closing, h⟩ := t.exists_released service v words
  obtain ⟨closing', h'⟩ := t.exists_released service v' words'
  rw [dispatched] at h'
  exact {
    failure := failure
    context := by rw [dispatched]; rfl
    output := by rw [h, h']; rfl
    calls := by rw [h, h']; rfl
    service := by rw [h, h']; rfl }

theorem agrees_of_alike
    (h : Search.Alike ((t.root.seek (loader service)).run { args := words })
      ((t.root.seek (loader service)).run { args := words' })) :
    (t.run service v words).Agrees (t.run service v' words') := by
  obtain ⟨log, hw⟩ := t.root.walk_follows (Session.start service v words)
  obtain ⟨log', hw'⟩ := t.root.walk_follows (Session.start service v' words')
  have hw : (t.root.walk : Step σ Target).run (Session.start service v words) =
      (Session.start service v words).arrive log
        ((t.root.seek (loader service)).run { args := words }) := hw
  have hw' : (t.root.walk : Step σ Target).run (Session.start service v' words') =
      (Session.start service v' words').arrive log'
        ((t.root.seek (loader service)).run { args := words' }) := hw'
  generalize (t.root.seek (loader service)).run { args := words } = r at h hw
  generalize (t.root.seek (loader service)).run { args := words' } = r' at h hw'
  cases h with
  | error e hc hk =>
      rename_i p q
      have stopped : (Session.start service v words).after t.root.dispatch =
          (some e, (Session.start service v words).moved p log) :=
        Session.after_of_error (by rw [Node.dispatch, EStateM.run_bind, hw]; rfl)
      have stopped' : (Session.start service v' words').after t.root.dispatch =
          (some e, (Session.start service v' words').moved q log') :=
        Session.after_of_error (by rw [Node.dispatch, EStateM.run_bind, hw']; rfl)
      refine agrees_of_dispatched log' q.args ?_ ?_
      · simp only [run, stopped, stopped']
      · simp only [run, stopped, stopped']
        simp [Session.moved, Session.relogged, Session.start, hc, hk]
  | ok target p =>
      have task : (Session.start service v words).after t.root.dispatch =
          ((Session.start service v words).moved p log).after (target.task.run target.command) := by
        rw [Session.after, Session.after, Node.dispatch, EStateM.run_bind, hw]
        rfl
      have task' : (Session.start service v' words').after t.root.dispatch =
          (((Session.start service v words).moved p log).relogged v' log').after
            (target.task.run target.command) := by
        rw [Session.after, Session.after, Node.dispatch, EStateM.run_bind, hw']
        rfl
      obtain ⟨log'', same⟩ := Session.after_relogged
        (target.task.oblivious_run target.command)
        ((Session.start service v words).moved p log) v' log'
      refine agrees_of_dispatched log'' (t.run service v words).dispatched.args ?_ ?_
      · simp only [run, task, task', same]
      · simp only [run, task, task', same]
        rfl

end Tree

end MouseConfig
