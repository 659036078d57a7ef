import MouseConfig.Device.Basic
import MouseConfig.Path

/-! # Why a command fails

A command line is malformed, asks for what the device cannot do, or meets a device that cannot be
used.  Each class has an exit code of its own.
-/

namespace MouseConfig

/-- What a command may have selected. -/
inductive Selection where
  | device | profile | resolution
deriving DecidableEq, Repr

def Selection.name : Selection → String
  | device => "device"
  | profile => "profile"
  | resolution => "resolution"

inductive DeviceError where
  | missingPath
  | notSupported (path : Path)
  | unreadable (path : Path) (reason : String)
  | malformed (path : Path) (reason : String)
  | notCommitted (path : Path) (reason : String)
  | noActiveProfile
  | noActiveResolution
  | notSelected (what : Selection)
deriving DecidableEq, Repr

def DeviceError.message : DeviceError → String
  | missingPath => "Missing device path"
  | notSupported path => s!"Device '{path.text}' is not supported"
  | unreadable path reason => s!"Failed to open device '{path.text}': {reason}"
  | malformed path reason => s!"Invalid device description '{path.text}': {reason}"
  | notCommitted path reason => s!"Failed to commit changes to '{path.text}': {reason}"
  | noActiveProfile => "Failed to retrieve the active profile"
  | noActiveResolution => "Failed to retrieve the active resolution"
  | notSelected what => s!"No {what.name} selected"

/-- Faults of a command line. -/
inductive UsageError where
  | missingCommand (node : String)
  | unknownCommand (word : String)
  | surplusArguments (command : String)
  | arguments (command : String) (expected actual : Nat)
  | missingButton
  | button (word : String)
  | profile (word : String)
  | resolution (word : String)
  | dpi (word : String)
  | action (e : Action.Error)
deriving DecidableEq, Repr

def UsageError.message : UsageError → String
  | missingCommand node => s!"Missing subcommand for '{node}'"
  | unknownCommand word => s!"Invalid subcommand '{word}'"
  | surplusArguments command => s!"'{command}' takes no arguments"
  | arguments command 1 actual => s!"'{command}' expects 1 argument, got {actual}"
  | arguments command expected actual => s!"'{command}' expects {expected} arguments, got {actual}"
  | missingButton => "Missing button number"
  | button word => s!"Invalid button number '{word}'"
  | profile word => s!"Invalid profile number '{word}'"
  | resolution word => s!"Invalid resolution number '{word}'"
  | dpi word => s!"Invalid dpi value '{word}'"
  | action e => e.message

/-- Requests that a device cannot satisfy; devices are named in them. -/
inductive Refusal where
  | noProfile (index : Nat)
  | noResolution (index : Nat)
  | noButton (index : Nat)
  | profileOutOfRange (index : Nat)
  | resolutionOutOfRange (index : Nat)
  | dpiOutOfRange (dpi : UInt32) (range : DpiRange)
  | noProgrammableButtons (name : String)
  | noSequences (name : String)
  | noSwitchableProfiles (name : String)
  | noSwitchableResolution (name : String)
  | tooFewButtons (name : String) (index : Nat)
deriving DecidableEq, Repr

def Refusal.message : Refusal → String
  | noProfile index => s!"Unable to find profile {index}"
  | noResolution index => s!"Unable to retrieve resolution {index}"
  | noButton index => s!"Invalid button number {index}"
  | profileOutOfRange index => s!"'{index}' is not a valid profile"
  | resolutionOutOfRange index => s!"'{index}' is not a valid resolution"
  | dpiOutOfRange dpi range =>
    s!"{dpi.toNat} dpi is outside the supported range {range.min.toNat}-{range.max.toNat}"
  | noProgrammableButtons name => s!"Device '{name}' has no programmable buttons"
  | noSequences name => s!"Device '{name}' does not support macros"
  | noSwitchableProfiles name => s!"Device '{name}' has no switchable profiles"
  | noSwitchableResolution name => s!"Device '{name}' has no switchable resolution"
  | tooFewButtons name index => s!"Device '{name}' has no button {index}"

inductive CommandError where
  | usage (e : UsageError)
  | unsupported (r : Refusal)
  | device (e : DeviceError)
deriving DecidableEq, Repr

namespace CommandError

def message : CommandError → String
  | usage e => e.message
  | unsupported r => r.message
  | device e => e.message

def exitCode : CommandError → Nat
  | unsupported _ => 1
  | usage _ => 2
  | device _ => 3

/-- Whether the usage is shown after the message. -/
def wantsUsage : CommandError → Bool
  | usage _ => true
  | _ => false

theorem exitCode_ne_zero (e : CommandError) : e.exitCode ≠ 0 := by
  cases e <;> simp [exitCode]

end CommandError

end MouseConfig
