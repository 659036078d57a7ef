import MouseConfig.Command.Requirement
import MouseConfig.Session

/-! # Meeting the needs of a command

What is missing is filled in: the device that the last word names, then the active profile, then the
active resolution.  What is there already stays.
-/

namespace MouseConfig.Step

variable {σ : Type}

/-- The position of the active profile of the open device. -/
def activeProfile : Step σ Nat := do
  let some index := (← model).activeProfile? | throw (.device .noActiveProfile)
  return index

/-- The position of the active resolution of the selected profile. -/
def activeResolution : Step σ Nat := do
  let some index := (← profile).activeResolution? | throw (.device .noActiveResolution)
  return index

/-- Open the device that the last word names.  The word is taken if the device opens. -/
def openLast [DeviceService σ] : Step σ Unit := do
  let some word := (← get).args.getLast? | throw (.device .missingPath)
  let path : Path := ⟨word⟩
  note (Log.debug .resolver s!"Opening device '{word}'")
  let d ← ofExcept (← load path)
  if (← get).verbosity = .raw then
    note (Log.debug .resolver s!"Raw description of '{word}':\n{d.outline.block 0}")
  modify fun s => { s with args := s.args.dropLast }
  select fun c => { c with device := some ⟨path, d⟩ }

def resolveDevice [DeviceService σ] : Step σ Unit := do
  if (← context).device.isNone then openLast

def resolveProfile : Step σ Unit := do
  if (← context).profile.isNone then
    let index ← activeProfile
    note (Log.debug .resolver s!"Resolved active profile {index}")
    select fun c => { c with profile := some index }

def resolveResolution : Step σ Unit := do
  if (← context).resolution.isNone then
    let index ← activeResolution
    note (Log.debug .resolver s!"Resolved active resolution {index}")
    select fun c => { c with resolution := some index }

/-- Meet the needs of a command, each of which includes the lower ones. -/
def resolve [DeviceService σ] : Requirement → Step σ Unit
  | .nothing => pure ()
  | .device => resolveDevice
  | .profile => do
    resolveDevice
    resolveProfile
  | .resolution => do
    resolveDevice
    resolveProfile
    resolveResolution

end MouseConfig.Step
