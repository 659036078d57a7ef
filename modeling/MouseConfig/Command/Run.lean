import MouseConfig.Command.Perform
import MouseConfig.Command.Walk

/-! # Running a line

A line is run on a service in a session of its own, and gives up its selections at the end, also when
it fails.
-/

namespace MouseConfig

variable {σ : Type}

namespace Session

/-- A session at its start. -/
def start (service : σ) (verbosity : Verbosity) (args : List String) : Session σ where
  service := service
  verbosity := verbosity
  args := args

/-- The session that a step leaves, and how the step failed if it did. -/
def after (s : Session σ) (step : Step σ Unit) : Option CommandError × Session σ :=
  match step.run s with
  | .ok _ s' => (none, s')
  | .error e s' => (some e, s')

end Session

variable [DeviceService σ]

/-- Find the command that the words name and perform its task. -/
def Node.dispatch (n : Node) : Step σ Unit := do
  let t ← n.walk
  t.task.run t.command

/-- What became of a line. -/
structure Line (σ : Type) where
  failure : Option CommandError
  /-- The session before the selections are given up. -/
  dispatched : Session σ
  released : Session σ

namespace Tree

/-- Run a line of words on a service. -/
def run (t : Tree) (service : σ) (verbosity : Verbosity) (words : List String) : Line σ :=
  let (failure, dispatched) := (Session.start service verbosity words).after t.root.dispatch
  { failure, dispatched, released := (dispatched.after Step.release).2 }

end Tree

end MouseConfig
