import MouseConfig.Proofs.Device.Update
import MouseConfig.Proofs.Session.Context
import MouseConfig.Proofs.Session.Run

/-! # Plans

What a task is about to do can be told from what is selected and the words left: it fails, or it
makes at most one update, which is committed, and prints one text at the end.  `Task.run_plan` says
that a task does just that.  Only the listing of devices, which needs no selection, is not planned.
-/

namespace MouseConfig

structure Plan where
  /-- The change of the open device, if there is one. -/
  update : Option Update := none
  output : String := ""
deriving DecidableEq, Repr

namespace Plan

variable {α : Type}

def ofExcept (x : Except DeviceError α) : Except CommandError α := x.mapError .device

@[simp] theorem ofExcept_error (e : DeviceError) :
    ofExcept (.error e : Except DeviceError α) = .error (.device e) := rfl

@[simp] theorem ofExcept_ok (a : α) : ofExcept (.ok a) = .ok a := rfl

theorem mapError_eq_ok_iff {ε ε' : Type} {f : ε → ε'} {x : Except ε α} {a : α} :
    x.mapError f = .ok a ↔ x = .ok a := by
  constructor
  · intro h
    cases x with
    | error e => cases h
    | ok b => exact congrArg Except.ok (Except.ok.inj h)
  · rintro rfl
    rfl

@[simp] theorem ofExcept_eq_ok_iff {x : Except DeviceError α} {a : α} :
    ofExcept x = .ok a ↔ x = .ok a := mapError_eq_ok_iff

/-- What succeeds after a check succeeds with what the check has found. -/
theorem bind_eq_ok_iff {β : Type} {x : Except CommandError α} {f : α → Except CommandError β}
    {b : β} : x >>= f = .ok b ↔ ∃ a, x = .ok a ∧ f a = .ok b := by
  cases x with
  | error e => simp [bind, Except.bind]
  | ok a => simp [bind, Except.bind]

def refuse (r : Refusal) : Except CommandError α := .error (.unsupported r)

def misuse (e : UsageError) : Except CommandError α := .error (.usage e)

def noArguments (command : String) (args : List String) : Except CommandError Unit :=
  if args = [] then .ok () else misuse (.surplusArguments command)

theorem noArguments_eq_ok_iff {command : String} {args : List String} {u : Unit} :
    noArguments command args = .ok u ↔ args = [] := by
  by_cases h : args = [] <;> simp [noArguments, h, misuse]

def oneArgument (command : String) : List String → Except CommandError String
  | [word] => .ok word
  | args => misuse (.arguments command 1 args.length)

theorem oneArgument_eq_ok_iff {command word : String} {args : List String} :
    oneArgument command args = .ok word ↔ args = [word] := by
  rcases args with _ | ⟨first, _ | ⟨second, rest⟩⟩ <;> simp [oneArgument, misuse]

def parsedAction (kind arg : String) : Except CommandError Action :=
  (Action.ofWords? kind arg).mapError fun e => .usage (.action e)

theorem parsedAction_eq_ok_iff {kind arg : String} {a : Action} :
    parsedAction kind arg = .ok a ↔ Action.ofWords? kind arg = .ok a := mapError_eq_ok_iff

def expectCapability (d : Device) (c : Capability) (r : String → Refusal) :
    Except CommandError Unit :=
  if d.has c then .ok () else refuse (r d.name)

def profileButton (c : Context) (index : Nat) : Except CommandError Button := do
  let some b := (← ofExcept c.selectedProfile).buttons[index]? | refuse (.noButton index)
  return b

theorem profileButton_eq_ok_iff {c : Context} {index : Nat} {b : Button} :
    profileButton c index = .ok b ↔
      ∃ p, c.selectedProfile = .ok p ∧ p.buttons[index]? = some b := by
  rw [profileButton]
  cases hp : c.selectedProfile with
  | error e => simp [bind, Except.bind]
  | ok p =>
      cases hb : p.buttons[index]? <;> simp [bind, Except.bind, hb, refuse, pure, Except.pure]

def selectedButton (c : Context) : Except CommandError Nat :=
  match c.button with
  | some index => .ok index
  | none => misuse .missingButton

theorem selectedButton_eq_ok_iff {c : Context} {index : Nat} :
    selectedButton c = .ok index ↔ c.button = some index := by
  rw [selectedButton]
  cases c.button <;> simp [misuse]

def activeProfile (d : Device) : Except CommandError Nat :=
  match d.activeProfile? with
  | some index => .ok index
  | none => .error (.device .noActiveProfile)

theorem activeProfile_eq_ok_iff {d : Device} {index : Nat} :
    activeProfile d = .ok index ↔ d.activeProfile? = some index := by
  rw [activeProfile]
  cases d.activeProfile? <;> simp

def activeResolution (p : Profile) : Except CommandError Nat :=
  match p.activeResolution? with
  | some index => .ok index
  | none => .error (.device .noActiveResolution)

def mapButton (c : Context) (index : Nat) (action : Action) : Except CommandError Plan := do
  let d ← ofExcept c.openModel
  expectCapability d .buttonKey .noProgrammableButtons
  if action.isSequence then expectCapability d .buttonMacros .noSequences
  let _ ← profileButton c index
  return { update := c.profile.map fun i => .setAction i index action }

def info (command : String) (c : Context) (args : List String) : Except CommandError Plan := do
  noArguments command args
  return { output := (← ofExcept c.openModel).report }

def changeButton (command : String) (c : Context) : List String → Except CommandError Plan
  | [button, kind, arg] => do
    let some index := Numeral.index? button | misuse (.button button)
    mapButton c index (← parsedAction kind arg)
  | args => misuse (.arguments command 3 args.length)

def buttonSet (command : String) (c : Context) : List String → Except CommandError Plan
  | [kind, arg] => do mapButton c (← selectedButton c) (← parsedAction kind arg)
  | args => misuse (.arguments command 2 args.length)

def buttonGet (command : String) (c : Context) (args : List String) :
    Except CommandError Plan := do
  noArguments command args
  let index ← selectedButton c
  return { output := (← profileButton c index).line index ++ "\n" }

def switchVolumeKeys (command : String) (c : Context) (args : List String) :
    Except CommandError Plan := do
  noArguments command args
  let d ← ofExcept c.openModel
  expectCapability d .switchableProfile .noSwitchableProfiles
  let some (outcome, _) := VolumeKeys.toggle (← ofExcept c.selectedProfile) |
    refuse (.tooFewButtons d.name 7)
  match outcome with
  | .unchanged =>
    return { output :=
      s!"Buttons 6 and 7 of '{d.name}' have custom mappings, leaving them alone" ++ "\n" }
  | .enabled =>
    return {
      update := c.profile.map .toggleVolumeKeys
      output := s!"Switched the current profile of '{d.name}' to report the volume keys" ++ "\n" }
  | .disabled =>
    return {
      update := c.profile.map .toggleVolumeKeys
      output :=
        s!"Switched the current profile of '{d.name}' to not report the volume keys" ++ "\n" }

def activeProfileGet (command : String) (c : Context) (args : List String) :
    Except CommandError Plan := do
  noArguments command args
  let d ← ofExcept c.openModel
  if d.has .switchableProfile && decide (1 < d.profiles.length) then
    return { output := toString (← activeProfile d) ++ "\n" }
  else
    return { output := "0" ++ "\n" }

def activeProfileSet (command : String) (c : Context) (args : List String) :
    Except CommandError Plan := do
  let word ← oneArgument command args
  let some index := Numeral.index? word | misuse (.profile word)
  let d ← ofExcept c.openModel
  expectCapability d .switchableProfile .noSwitchableProfiles
  unless index < d.profiles.length do refuse (.profileOutOfRange index)
  if d.activeProfile? = some index then
    return { output := s!"'{d.name}' is already in profile '{index}'" ++ "\n" }
  else
    return {
      update := some (.activateProfile index)
      output := s!"Switched '{d.name}' to profile '{index}'" ++ "\n" }

def activeResolutionGet (command : String) (c : Context) (args : List String) :
    Except CommandError Plan := do
  noArguments command args
  let index ← activeResolution (← ofExcept c.selectedProfile)
  return { output := toString index ++ "\n" }

def activeResolutionSet (command : String) (c : Context) (args : List String) :
    Except CommandError Plan := do
  let word ← oneArgument command args
  let some index := Numeral.index? word | misuse (.resolution word)
  let d ← ofExcept c.openModel
  expectCapability d .switchableResolution .noSwitchableResolution
  let p ← ofExcept c.selectedProfile
  unless index < p.resolutions.length do refuse (.resolutionOutOfRange index)
  return {
    update := c.profile.map fun i => .activateResolution i index
    output := s!"Switched '{d.name}' to resolution '{index}'" ++ "\n" }

def dpiGet (command : String) (c : Context) (args : List String) : Except CommandError Plan := do
  noArguments command args
  return { output := toString (← ofExcept c.selectedResolution).dpi ++ "\n" }

def dpiSet (command : String) (c : Context) (args : List String) : Except CommandError Plan := do
  let word ← oneArgument command args
  let some dpi := Numeral.word? word | misuse (.dpi word)
  let d ← ofExcept c.openModel
  expectCapability d .switchableResolution .noSwitchableResolution
  if let some range := d.dpiRange then
    unless range.contains dpi do refuse (.dpiOutOfRange dpi range)
  let _ ← ofExcept c.selectedResolution
  return { update := c.profile.bind fun i => c.resolution.map fun j => .setDpi i j dpi }

end Plan

/-- What a task is about to do; `none` for those that do not work on the open device. -/
def Task.plan? (command : String) (c : Context) (args : List String) :
    Task → Option (Except CommandError Plan)
  | info => some (Plan.info command c args)
  | changeButton => some (Plan.changeButton command c args)
  | switchVolumeKeys => some (Plan.switchVolumeKeys command c args)
  | buttonGet => some (Plan.buttonGet command c args)
  | buttonSet => some (Plan.buttonSet command c args)
  | activeProfileGet => some (Plan.activeProfileGet command c args)
  | activeProfileSet => some (Plan.activeProfileSet command c args)
  | activeResolutionGet => some (Plan.activeResolutionGet command c args)
  | activeResolutionSet => some (Plan.activeResolutionSet command c args)
  | dpiGet => some (Plan.dpiGet command c args)
  | dpiSet => some (Plan.dpiSet command c args)
  | list | record => none

end MouseConfig
