import MouseConfig.Device.Outline
import MouseConfig.Service.Basic

/-! # Sessions

A command runs in a session.  The session holds the words that are still to be read, what has been
selected so far, and everything the command did: calls to the service, log events and output.
-/

namespace MouseConfig

/-- How much detail was asked for. -/
inductive Verbosity where
  | normal | verbose | raw
deriving DecidableEq, Repr

structure OpenDevice where
  path : Path
  model : Device
deriving DecidableEq, Repr

/-- What has been selected; profile and resolution by position. -/
structure Context where
  device : Option OpenDevice := none
  profile : Option Nat := none
  resolution : Option Nat := none
  button : Option Nat := none
deriving DecidableEq, Repr

/-- A call to the service. -/
inductive Call where
  | load (path : Path) (succeeded : Bool)
  | commit (path : Path) (succeeded : Bool)
  | release (path : Path)
  | discover
deriving DecidableEq, Repr

/-- A command that was reached and noted. -/
structure Reached where
  command : String
  context : Context
  args : List String
deriving DecidableEq, Repr

structure Session (σ : Type) where
  service : σ
  verbosity : Verbosity := .normal
  args : List String := []
  context : Context := {}
  calls : List Call := []
  log : List Log.Event := []
  output : String := ""
  reached : List Reached := []

/-- A step of a session.  A step that fails leaves a session as well. -/
abbrev Step (σ α : Type) := EStateM CommandError (Session σ) α

namespace Context

def openDevice (c : Context) : Except DeviceError OpenDevice :=
  match c.device with
  | some o => .ok o
  | none => .error (.notSelected .device)

def openModel (c : Context) : Except DeviceError Device := c.openDevice.map (·.model)

/-- The selected profile. -/
def selectedProfile (c : Context) : Except DeviceError Profile := do
  let some index := c.profile | throw (.notSelected .profile)
  let some p := (← c.openModel).profiles[index]? | throw (.notSelected .profile)
  return p

/-- The selected resolution. -/
def selectedResolution (c : Context) : Except DeviceError Resolution := do
  let some index := c.resolution | throw (.notSelected .resolution)
  let some r := (← c.selectedProfile).resolutions[index]? | throw (.notSelected .resolution)
  return r

/-- Change the open device. -/
def modifyModel (c : Context) (f : Device → Device) : Context :=
  { c with device := c.device.map fun o => { o with model := f o.model } }

/-- Change the selected profile. -/
def modifyProfile (c : Context) (f : Profile → Profile) : Context :=
  match c.profile with
  | some index => c.modifyModel (·.modifyProfile index f)
  | none => c

/-- Change the selected resolution. -/
def modifyResolution (c : Context) (f : Resolution → Resolution) : Context :=
  match c.resolution with
  | some index => c.modifyProfile (·.modifyResolution index f)
  | none => c

end Context

namespace Step

variable {σ : Type}

/-! ## What a step can do -/

def ofExcept {α : Type} : Except DeviceError α → Step σ α
  | .ok x => pure x
  | .error e => throw (.device e)

def context : Step σ Context := return (← get).context

def note (e : Log.Event) : Step σ Unit := modify fun s => { s with log := s.log ++ [e] }

def noteAll (es : List Log.Event) : Step σ Unit := modify fun s => { s with log := s.log ++ es }

def print (text : String) : Step σ Unit := modify fun s => { s with output := s.output ++ text }

/-- Print a text on a line of its own. -/
def printLine (text : String) : Step σ Unit := print (text ++ "\n")

def called (c : Call) : Step σ Unit := modify fun s => { s with calls := s.calls ++ [c] }

def select (f : Context → Context) : Step σ Unit :=
  modify fun s => { s with context := f s.context }

def model : Step σ Device := do ofExcept (← context).openModel

def profile : Step σ Profile := do ofExcept (← context).selectedProfile

def resolution : Step σ Resolution := do ofExcept (← context).selectedResolution

def succeeded {ε α : Type} : Except ε α → Bool
  | .ok _ => true
  | .error _ => false

variable [DeviceService σ]

def load (path : Path) : Step σ (Except DeviceError Device) := do
  let (r, events) := DeviceService.load (← get).service path
  called (.load path (succeeded r))
  noteAll events
  return r

def releaseDevice (path : Path) : Step σ Unit := do
  called (.release path)
  noteAll (DeviceService.release (← get).service path)

/-- Where devices may be found. -/
def discover : Step σ (List Path) := do
  called .discover
  ofExcept (DeviceService.discover (← get).service)

/-- Write the open device back. -/
def commit : Step σ Unit := do
  let o ← ofExcept (← context).openDevice
  let ((r, events), service) := DeviceService.commit (← get).service o.path o.model
  modify fun s => { s with service := service }
  called (.commit o.path (succeeded r))
  noteAll events
  ofExcept r

/-! ## Selections -/

/-- Select the profile at a position of the open device. -/
def selectProfile (index : Nat) : Step σ Unit := do
  let some _ := (← model).profiles[index]? | throw (.unsupported (.noProfile index))
  note (Log.debug .context s!"Selected profile {index}")
  select fun c => { c with profile := some index }

/-- Select the resolution at a position of the selected profile. -/
def selectResolution (index : Nat) : Step σ Unit := do
  let some _ := (← profile).resolutions[index]? | throw (.unsupported (.noResolution index))
  note (Log.debug .context s!"Selected resolution {index}")
  select fun c => { c with resolution := some index }

/-- Select a button; whether there is one, the command that uses it finds out. -/
def selectButton (index : Nat) : Step σ Unit := do
  note (Log.debug .context s!"Selected button {index}")
  select fun c => { c with button := some index }

/-! ## Changes of the open device -/

/-- Make the profile at a position the only active one, if there is such a profile. -/
def activateProfile (index : Nat) : Step σ Bool := do
  let some _ := (← model).activate? index | return false
  select (·.modifyModel (·.activate index))
  return true

/-- Make the resolution at a position of the selected profile the only active one, if there is such
a resolution. -/
def activateResolution (index : Nat) : Step σ Bool := do
  let some _ := (← profile).activate? index | return false
  select (·.modifyProfile (·.activate index))
  return true

/-- Set the dpi of the selected resolution. -/
def setDpi (dpi : UInt32) : Step σ Unit := do
  let _ ← resolution
  select (·.modifyResolution (·.setDpi dpi))

/-- Set the action of a button of the selected profile. -/
def setAction (index : Nat) (action : Action) : Step σ Unit :=
  select (·.modifyProfile (·.setAction index action))

/-! ## The end -/

/-- Give up all selections, the device last. -/
def release : Step σ Unit := do
  let c ← context
  if let some index := c.resolution then
    note (Log.debug .context s!"Releasing resolution {index}")
  if let some index := c.profile then
    note (Log.debug .context s!"Releasing profile {index}")
  select fun _ => {}
  if let some o := c.device then
    releaseDevice o.path

end Step

end MouseConfig
