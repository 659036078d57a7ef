import MouseConfig.Proofs.Command.Outcome

/-! # Failed lines

A line that fails has printed nothing, and no commit of it has succeeded.  The service is as it was,
or as one refused commit of an opened device has left it.
-/

namespace MouseConfig

variable {σ : Type} [DeviceService σ]

open Step

/-- What is left when a line has failed: nothing was printed, and at most one commit was refused. -/
structure Session.Unwritten (s s' : Session σ) : Prop where
  output : s'.output = s.output
  writes : s'.service = s.service ∧ s'.commits = s.commits ∨
    ∃ path d₀ d e, loader s.service path = .ok d₀ ∧
      (DeviceService.commit s.service path d).1.1 = .error e ∧
      s'.service = (DeviceService.commit s.service path d).2 ∧
      s'.commits = s.commits ++ [(path, false)]

variable {s s' : Session σ} {e : CommandError}

/-- No task prints or commits anything and then fails. -/
theorem Task.unwritten_of_outcome {t : Task} {command : String}
    (hs : ∀ o, s.context.device = some o → loader s.service o.path = .ok o.model)
    (h : t.Outcome command s (some e) s') : s.Unwritten s' := by
  cases h with
  | surplus => exact ⟨rfl, .inl ⟨rfl, rfl⟩⟩
  | undiscovered =>
      have none : ∀ c ∈ [Call.discover], c.commit? = none := by simp [Call.commit?]
      exact ⟨rfl, .inl ⟨rfl, s.commits_grown none []⟩⟩
  | refused => exact ⟨rfl, .inl ⟨rfl, rfl⟩⟩
  | closed => exact ⟨rfl, .inl ⟨rfl, rfl⟩⟩
  | @uncommitted p u o fault log _ _ ho hc =>
      refine ⟨rfl, .inr ⟨o.path, o.model, u.apply o.model, fault, hs o ho, hc, rfl, ?_⟩⟩
      have commits := ((s.noted log).updated u).commits_written ⟨o.path, u.apply o.model⟩
      rw [show ((s.noted log).updated u).service = s.service from rfl, hc] at commits
      exact commits

/-- A line that fails in the tree or in its task leaves everything unwritten. -/
theorem Node.unwritten_of_outcome {n : Node} (hs : s.stand.Sound (loader s.service))
    (hc : s.commits = []) (h : n.Outcome s (some e) s') : s.Unwritten s' := by
  have sound := n.seek_sound (loader s.service) s.stand hs
  cases h with
  | @lost _ p log hr =>
      rw [hr] at sound
      exact ⟨rfl, .inl ⟨rfl, (Session.commits_moved sound log).trans hc.symm⟩⟩
  | @arrived t p log _ _ hr ht =>
      rw [hr] at sound
      have u : (s.moved p log).Unwritten s' := Task.unwritten_of_outcome sound.opened ht
      have none : (s.moved p log).commits = s.commits :=
        (Session.commits_moved sound log).trans hc.symm
      exact ⟨u.output, none ▸ u.writes⟩

namespace Tree

variable {t : Tree} {service : σ} {verbosity : Verbosity} {words : List String}

theorem unwritten_of_failure (h : (t.run service verbosity words).failure = some e) :
    (Session.start service verbosity words).Unwritten (t.run service verbosity words).dispatched :=
  Node.unwritten_of_outcome (Stand.Sound.start _ words) rfl
    (h ▸ t.outcome service verbosity words)

/-- The selections are given up without a trace. -/
theorem released_eq (t : Tree) (service : σ) (verbosity : Verbosity) (words : List String) :
    ∃ calls log, (t.run service verbosity words).released =
        { (t.run service verbosity words).dispatched.grown calls log with context := {} } ∧
      ∀ c ∈ calls, c.commit? = none := by
  obtain ⟨log, h⟩ := t.exists_released service verbosity words
  exact ⟨_, log, h, fun _ => Context.commit?_of_mem_closing⟩

end Tree

/-! ## Services that keep what they cannot change -/

/-- A commit that fails leaves the service as it is, for a device that opens. -/
def Steady (service : σ) : Prop :=
  ∀ path d₀ d e, loader service path = .ok d₀ →
    (DeviceService.commit service path d).1.1 = .error e →
    (DeviceService.commit service path d).2 = service

theorem Session.Unwritten.service_eq (hs : Steady s.service) (h : s.Unwritten s') :
    s'.service = s.service := by
  obtain ⟨same, -⟩ | ⟨path, d₀, d, fault, hd, hf, same, -⟩ := h.writes
  · exact same
  · rw [same, hs path d₀ d fault hd hf]

theorem Session.Unwritten.not_committed (h : s.Unwritten s') (hc : s.commits = []) (path : Path) :
    (path, true) ∉ s'.commits := by
  obtain ⟨-, same⟩ | ⟨path', d₀, d, fault, -, -, -, same⟩ := h.writes
  · simp [same, hc]
  · simp [same, hc]

end MouseConfig
