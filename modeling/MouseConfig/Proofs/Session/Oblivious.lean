import MouseConfig.Proofs.Session.Run

/-! # Steps that do not heed the log

A step may add to the log, but what it adds, and all else that it does, depends neither on what has
been logged before nor on how much detail was asked for.
-/

namespace MouseConfig

variable {σ : Type} {α β : Type}

/-- The session with another log, and with another amount of detail asked for. -/
def Session.relogged (s : Session σ) (v : Verbosity) (log : List Log.Event) : Session σ :=
  { s with verbosity := v, log := log }

namespace Step

/-- What a step comes to, with another log. -/
def relogged (v : Verbosity) (log : List Log.Event) :
    EStateM.Result CommandError (Session σ) α → EStateM.Result CommandError (Session σ) α
  | .ok a s => .ok a (s.relogged v log)
  | .error e s => .error e (s.relogged v log)

@[simp] theorem relogged_relogged (v v' : Verbosity) (log log' : List Log.Event)
    (r : EStateM.Result CommandError (Session σ) α) :
    relogged v' log' (relogged v log r) = relogged v' log' r := by
  cases r <;> rfl

/-- A step that looks at the session, but not at its log, does what it does with any other log. -/
theorem run_look {k : Session σ → Step σ α} {s : Session σ} {v : Verbosity} {log : List Log.Event}
    (same : k (s.relogged v log) = k s) :
    (get >>= k).run (s.relogged v log) = (k s).run (s.relogged v log) := by
  rw [← same]
  rfl

/-- Whatever the log, the step does the same and adds the same to it. -/
def Oblivious (m : Step σ α) : Prop :=
  ∀ s, ∃ added, ∀ v log, m.run (s.relogged v log) = relogged v (log ++ added) (m.run s)

namespace Oblivious

/-- A step that does not touch the log. -/
theorem silent {m : Step σ α} (h : ∀ s v log, m.run (s.relogged v log) = relogged v log (m.run s)) :
    m.Oblivious :=
  fun s => ⟨[], fun v log => by rw [List.append_nil]; exact h s v log⟩

theorem pure (a : α) : (pure a : Step σ α).Oblivious := silent fun _ _ _ => rfl

theorem throw (e : CommandError) : (MonadExcept.throw e : Step σ α).Oblivious :=
  silent fun _ _ _ => rfl

theorem bind {m : Step σ α} {k : α → Step σ β} (hm : m.Oblivious) (hk : ∀ a, (k a).Oblivious) :
    (m >>= k).Oblivious := by
  intro s
  obtain ⟨added, h⟩ := hm s
  cases hr : m.run s with
  | error e s' =>
      refine ⟨added, fun v log => ?_⟩
      rw [EStateM.run_bind, EStateM.run_bind, h, hr]
      rfl
  | ok a s' =>
      obtain ⟨added', h'⟩ := hk a s'
      refine ⟨added ++ added', fun v log => ?_⟩
      rw [EStateM.run_bind, EStateM.run_bind, h, hr, ← List.append_assoc]
      exact h' v (log ++ added)

/-- To look at a session, but for its log. -/
theorem look {k : Session σ → Step σ β} (same : ∀ s v log, k (s.relogged v log) = k s)
    (h : ∀ s, (k s).Oblivious) : (get >>= k).Oblivious := by
  intro s
  obtain ⟨added, hs⟩ := h s s
  exact ⟨added, fun v log => (run_look (same s v log)).trans (hs v log)⟩

theorem ofExcept (x : Except DeviceError α) : (Step.ofExcept x : Step σ α).Oblivious := by
  cases x with
  | ok a => exact pure a
  | error e => exact throw _

theorem context : (Step.context : Step σ Context).Oblivious := silent fun _ _ _ => rfl

theorem note (e : Log.Event) : (Step.note e : Step σ Unit).Oblivious :=
  fun _ => ⟨[e], fun _ _ => rfl⟩

theorem noteAll (es : List Log.Event) : (Step.noteAll es : Step σ Unit).Oblivious :=
  fun _ => ⟨es, fun _ _ => rfl⟩

theorem print (text : String) : (Step.print text : Step σ Unit).Oblivious :=
  silent fun _ _ _ => rfl

theorem called (c : Call) : (Step.called c : Step σ Unit).Oblivious := silent fun _ _ _ => rfl

theorem select (f : Context → Context) : (Step.select f : Step σ Unit).Oblivious :=
  silent fun _ _ _ => rfl

/-! ## Calls to the service -/

variable [DeviceService σ]

theorem load (path : Path) : (Step.load path : Step σ _).Oblivious :=
  look (fun _ _ _ => rfl) fun _ =>
    bind (called _) fun _ => bind (noteAll _) fun _ => pure _

theorem releaseDevice (path : Path) : (Step.releaseDevice path : Step σ Unit).Oblivious :=
  bind (called _) fun _ => look (fun _ _ _ => rfl) fun _ => noteAll _

theorem discover : (Step.discover : Step σ (List Path)).Oblivious :=
  bind (called _) fun _ => look (fun _ _ _ => rfl) fun _ => ofExcept _

theorem commit : (Step.commit : Step σ Unit).Oblivious := by
  refine bind context fun c => bind (ofExcept _) fun o => look (fun _ _ _ => rfl) fun s => ?_
  have stored : (modify fun s' => { s' with
      service := (DeviceService.commit s.service o.path o.model).2 } : Step σ Unit).Oblivious :=
    silent fun _ _ _ => rfl
  exact bind stored fun _ => bind (called _) fun _ => bind (noteAll _) fun _ => ofExcept _

end Oblivious

end Step

end MouseConfig
