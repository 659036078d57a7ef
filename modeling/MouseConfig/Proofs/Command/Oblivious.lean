import MouseConfig.Proofs.Command.Perform

/-! # Tasks that do not heed the log

No task looks at the log or at how much detail was asked for.  Where a task fails as planned or
carries out its plan, that can be told from the plan; only the listing of devices and the noting of
a command are not planned.
-/

namespace MouseConfig

variable {σ : Type} {α : Type}

open Step

/-! ## Plans -/

namespace Step

theorem Oblivious.ofVerdict (x : Except CommandError α) : (ofVerdict x : Step σ α).Oblivious := by
  cases x with
  | ok a => exact pure a
  | error e => exact throw e

theorem Oblivious.of_judges {m : Step σ α} (h : ∀ s, ∃ x, m.Judges x s) : m.Oblivious := by
  intro s
  obtain ⟨x, hx⟩ := h s
  obtain ⟨added, heedless⟩ := Oblivious.ofVerdict x s
  exact ⟨added, fun v log => by rw [hx v log, hx.run_eq, heedless v log]⟩

end Step

variable [DeviceService σ]

theorem Plan.oblivious_carryOut (p : Plan) : (p.carryOut : Step σ Unit).Oblivious := by
  rw [Plan.carryOut]
  cases p.update with
  | none => exact .print _
  | some u => exact .bind (.select _) fun _ => .bind .commit fun _ => .print _

/-- What is added to the log before a plan is the same for any log, and so is what comes after. -/
theorem Step.Plans.oblivious {m : Step σ Unit} {x : Except CommandError Plan} {s : Session σ}
    (h : m.Plans x s) :
    ∃ added, ∀ v log, m.run (s.relogged v log) = relogged v (log ++ added) (m.run s) := by
  obtain ⟨first, hm⟩ := h
  obtain ⟨later, heedless⟩ := Oblivious.bind (.ofVerdict x) Plan.oblivious_carryOut s
  refine ⟨first ++ later, fun v log => ?_⟩
  have whole : m.run s = m.run (s.relogged s.verbosity s.log) := rfl
  rw [whole, hm, hm, heedless, heedless, relogged_relogged, List.append_assoc]

/-! ## Tasks -/

namespace Task

theorem oblivious_listed (paths : List Path) : (listed paths : Step σ _).Oblivious := by
  induction paths with
  | nil => exact .pure []
  | cons path rest ih =>
      refine .bind (.load path) fun found => ?_
      cases found with
      | ok d => exact .bind (.releaseDevice path) fun _ => .bind ih fun _ => .pure _
      | error e => exact .bind (.note _) fun _ => ih

theorem oblivious_runList (command : String) : (runList command : Step σ Unit).Oblivious := by
  have checked : (noArguments command : Step σ Unit).Oblivious :=
    .of_judges fun _ => ⟨_, Judges.noArguments command⟩
  refine .bind checked fun _ => .bind (.bind .discover oblivious_listed) fun found => ?_
  cases found.isEmpty with
  | true => exact .print _
  | false => exact .print _

omit [DeviceService σ] in
/-- The log is none of what is noted of a session when it reaches a command. -/
theorem oblivious_runRecord (command : String) : (runRecord command : Step σ Unit).Oblivious :=
  .silent fun _ _ _ => rfl

/-- No task heeds the log. -/
theorem oblivious_run (t : Task) (command : String) : (t.run command : Step σ Unit).Oblivious := by
  intro s
  cases hp : t.plan? command s.context s.args with
  | some x => exact (run_plan hp).oblivious
  | none =>
      cases t with
      | list => exact oblivious_runList command s
      | record => exact oblivious_runRecord command s
      | info | changeButton | switchVolumeKeys | buttonGet | buttonSet | activeProfileGet
      | activeProfileSet | activeResolutionGet | activeResolutionSet | dpiGet | dpiSet => cases hp

end Task

end MouseConfig
