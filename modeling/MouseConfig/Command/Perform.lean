import MouseConfig.Command.Tree
import MouseConfig.Command.Words
import MouseConfig.Device.Report
import MouseConfig.Device.VolumeKeys
import MouseConfig.Session
import MouseConfig.Command.Resolve

/-! # Performing tasks

A task checks its words first, then what the device can do.  A change is made in the open device and
written back before anything is printed about it.
-/

namespace MouseConfig

variable {σ : Type}

namespace Step

def refuse {α : Type} (r : Refusal) : Step σ α := throw (.unsupported r)

def misuse {α : Type} (e : UsageError) : Step σ α := throw (.usage e)

/-- The device has a capability. -/
def expectCapability (c : Capability) (r : String → Refusal) : Step σ Unit := do
  let d ← model
  unless d.has c do refuse (r d.name)

/-- No words are left. -/
def noArguments (command : String) : Step σ Unit := do
  unless (← get).args.isEmpty do misuse (.surplusArguments command)

/-- The only word that is left. -/
def oneArgument (command : String) : Step σ String := do
  match (← get).args with
  | [word] => return word
  | args => misuse (.arguments command 1 args.length)

def parsedAction (kind arg : String) : Step σ Action :=
  match Action.ofWords? kind arg with
  | .ok a => pure a
  | .error e => misuse (.action e)

/-- A button of the selected profile. -/
def profileButton (index : Nat) : Step σ Button := do
  let some b := (← profile).buttons[index]? | refuse (.noButton index)
  return b

/-- The button that a router has selected. -/
def selectedButton : Step σ Nat := do
  let some index := (← context).button | misuse .missingButton
  return index

end Step

open Step

namespace Task

variable [DeviceService σ]

/-- What can be listed among some paths; each device is opened and released again. -/
def listed : List Path → Step σ (List (Path × String))
  | [] => return []
  | path :: rest => do
    match ← load path with
    | .ok d =>
      releaseDevice path
      return (path, d.name) :: (← listed rest)
    | .error e =>
      note (Log.debug .listing s!"Skipping '{path.text}': {e.message}")
      listed rest

/-- The devices that can be found, with their names. -/
def supportedDevices : Step σ (List (Path × String)) := do listed (← discover)

def runList (command : String) : Step σ Unit := do
  noArguments command
  let found ← supportedDevices
  if found.isEmpty then
    printLine "No supported devices found"
  else
    print (Text.unlines (found.map fun e => s!"{e.1.text}:\t{e.2}"))

def runInfo (command : String) : Step σ Unit := do
  noArguments command
  print (← model).report

/-- Map a button of the selected profile. -/
def mapButton (index : Nat) (action : Action) : Step σ Unit := do
  expectCapability .buttonKey .noProgrammableButtons
  if action.isSequence then expectCapability .buttonMacros .noSequences
  let _ ← profileButton index
  note (Log.debug .button s!"Mapping button {index} to '{action.text}'")
  setAction index action
  commit

def runChangeButton (command : String) : Step σ Unit := do
  match (← get).args with
  | [button, kind, arg] =>
    let some index := Numeral.index? button | misuse (.button button)
    mapButton index (← parsedAction kind arg)
  | args => misuse (.arguments command 3 args.length)

def runButtonSet (command : String) : Step σ Unit := do
  match (← get).args with
  | [kind, arg] => mapButton (← selectedButton) (← parsedAction kind arg)
  | args => misuse (.arguments command 2 args.length)

def runButtonGet (command : String) : Step σ Unit := do
  noArguments command
  let index ← selectedButton
  let b ← profileButton index
  printLine (b.line index)

def runSwitchVolumeKeys (command : String) : Step σ Unit := do
  noArguments command
  expectCapability .switchableProfile .noSwitchableProfiles
  let name := (← model).name
  let some (outcome, p) := VolumeKeys.toggle (← profile) | refuse (.tooFewButtons name 7)
  match outcome with
  | .unchanged =>
    printLine s!"Buttons 6 and 7 of '{name}' have custom mappings, leaving them alone"
  | .enabled =>
    select (·.modifyProfile fun _ => p)
    commit
    printLine s!"Switched the current profile of '{name}' to report the volume keys"
  | .disabled =>
    select (·.modifyProfile fun _ => p)
    commit
    printLine s!"Switched the current profile of '{name}' to not report the volume keys"

/-- A device that cannot switch, or has nothing to switch to, is in its first profile. -/
def runActiveProfileGet (command : String) : Step σ Unit := do
  noArguments command
  let d ← model
  if d.has .switchableProfile && decide (1 < d.profiles.length) then
    printLine (toString (← activeProfile))
  else
    printLine "0"

def runActiveProfileSet (command : String) : Step σ Unit := do
  let word ← oneArgument command
  let some index := Numeral.index? word | misuse (.profile word)
  expectCapability .switchableProfile .noSwitchableProfiles
  let d ← model
  unless index < d.profiles.length do refuse (.profileOutOfRange index)
  if d.activeProfile? = some index then
    printLine s!"'{d.name}' is already in profile '{index}'"
  else
    let _ ← activateProfile index
    commit
    printLine s!"Switched '{d.name}' to profile '{index}'"

def runActiveResolutionGet (command : String) : Step σ Unit := do
  noArguments command
  printLine (toString (← activeResolution))

def runActiveResolutionSet (command : String) : Step σ Unit := do
  let word ← oneArgument command
  let some index := Numeral.index? word | misuse (.resolution word)
  expectCapability .switchableResolution .noSwitchableResolution
  unless ← activateResolution index do refuse (.resolutionOutOfRange index)
  commit
  printLine s!"Switched '{(← model).name}' to resolution '{index}'"

def runDpiGet (command : String) : Step σ Unit := do
  noArguments command
  printLine (toString (← resolution).dpi)

def runDpiSet (command : String) : Step σ Unit := do
  let word ← oneArgument command
  let some dpi := Numeral.word? word | misuse (.dpi word)
  expectCapability .switchableResolution .noSwitchableResolution
  if let some range := (← model).dpiRange then
    unless range.contains dpi do refuse (.dpiOutOfRange dpi range)
  note (Log.debug .resolution s!"Setting resolution to {dpi} dpi")
  setDpi dpi
  commit

def runRecord (command : String) : Step σ Unit :=
  modify fun s => { s with reached := s.reached ++ [⟨command, s.context, s.args⟩] }

/-- Perform a task for a command of some name. -/
def run (command : String) : Task → Step σ Unit
  | info => runInfo command
  | list => runList command
  | changeButton => runChangeButton command
  | switchVolumeKeys => runSwitchVolumeKeys command
  | buttonGet => runButtonGet command
  | buttonSet => runButtonSet command
  | activeProfileGet => runActiveProfileGet command
  | activeProfileSet => runActiveProfileSet command
  | activeResolutionGet => runActiveResolutionGet command
  | activeResolutionSet => runActiveResolutionSet command
  | dpiGet => runDpiGet command
  | dpiSet => runDpiSet command
  | record => runRecord command

end Task

end MouseConfig
