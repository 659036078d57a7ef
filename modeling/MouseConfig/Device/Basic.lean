import MouseConfig.Action
import MouseConfig.Device.Capability

/-! # Devices

A device holds profiles, a profile holds resolutions and button mappings.  All three are addressed
by position.  Any number of entries may carry the active flag in a description; the first one that
does counts.
-/

namespace MouseConfig

/-- The dpi values that a sensor accepts, both ends included. -/
structure DpiRange where
  min : UInt32
  max : UInt32
deriving DecidableEq, Repr

/-- One setting of the sensor. -/
structure Resolution where
  /-- The value of both axes, or of the first when they differ; zero means disabled. -/
  dpi : UInt32
  /-- The value of the second axis where it differs. -/
  dpiY : Option UInt32 := none
  /-- Reports per second. -/
  rate : UInt32 := 0
  active : Bool := false
  /-- In use after a reset of the device. -/
  default : Bool := false
  capabilities : List ResolutionCapability := []
deriving DecidableEq, Repr

structure Button where
  role : Role := .unknown
  action : Action := .disabled
deriving DecidableEq, Repr

structure Profile where
  active : Bool := false
  /-- In use after a reset of the device. -/
  default : Bool := false
  resolutions : List Resolution := []
  buttons : List Button := []
deriving DecidableEq, Repr

structure Device where
  name : String
  capabilities : List Capability := []
  /-- How many buttons the device is said to have; profiles may list more or fewer. -/
  buttonCount : UInt64 := 0
  dpiRange : Option DpiRange := none
  profiles : List Profile := []
deriving DecidableEq, Repr

namespace DpiRange

def contains (r : DpiRange) (dpi : UInt32) : Bool := r.min ≤ dpi && dpi ≤ r.max

end DpiRange

namespace Resolution

instance : Inhabited Resolution := ⟨{ dpi := 0 }⟩

def has (r : Resolution) (c : ResolutionCapability) : Bool := r.capabilities.contains c

/-- The value of the second axis. -/
def secondAxis (r : Resolution) : UInt32 := r.dpiY.getD r.dpi

/-- Give both axes the same value. -/
def setDpi (r : Resolution) (dpi : UInt32) : Resolution := { r with dpi := dpi, dpiY := none }

@[simp] theorem secondAxis_setDpi (r : Resolution) (dpi : UInt32) :
    (r.setDpi dpi).secondAxis = dpi := rfl

end Resolution

namespace Profile

instance : Inhabited Profile := ⟨{}⟩

/-- The position of the first active resolution. -/
def activeResolution? (p : Profile) : Option Nat := p.resolutions.findIdx? (·.active)

/-- Make the resolution at a position the only active one, if there is such a resolution. -/
def activate? (p : Profile) (index : Nat) : Option Profile :=
  if index < p.resolutions.length then
    some { p with resolutions := p.resolutions.mapIdx fun i r => { r with active := i == index } }
  else none

/-- The profile afterwards; without such a resolution it stays. -/
def activate (p : Profile) (index : Nat) : Profile := (p.activate? index).getD p

/-- Change the resolution at a position. -/
def modifyResolution (p : Profile) (index : Nat) (f : Resolution → Resolution) : Profile :=
  { p with resolutions := p.resolutions.modify index f }

/-- Map the button at a position to an action. -/
def setAction (p : Profile) (index : Nat) (action : Action) : Profile :=
  { p with buttons := p.buttons.modify index fun b => { b with action := action } }

theorem activate_of_lt {p : Profile} {index : Nat} (h : index < p.resolutions.length) :
    p.activate index =
      { p with resolutions := p.resolutions.mapIdx fun i r => { r with active := i == index } } := by
  simp [activate, activate?, h]

theorem activate_of_le {p : Profile} {index : Nat} (h : p.resolutions.length ≤ index) :
    p.activate index = p := by
  simp [activate, activate?, Nat.not_lt.mpr h]

theorem activate?_of_lt {p : Profile} {index : Nat} (h : index < p.resolutions.length) :
    p.activate? index = some (p.activate index) := by
  simp [activate, activate?, h]

theorem activate?_of_le {p : Profile} {index : Nat} (h : p.resolutions.length ≤ index) :
    p.activate? index = none := by
  simp [activate?, Nat.not_lt.mpr h]

/-- Nothing but the resolutions changes. -/
theorem activate_eq (p : Profile) (index : Nat) :
    p.activate index = { p with resolutions := (p.activate index).resolutions } := by
  rcases Nat.lt_or_ge index p.resolutions.length with h | h
  · rw [activate_of_lt h]
  · rw [activate_of_le h]

@[simp] theorem active_activate (p : Profile) (index : Nat) :
    (p.activate index).active = p.active := by
  rw [activate_eq]

@[simp] theorem buttons_activate (p : Profile) (index : Nat) :
    (p.activate index).buttons = p.buttons := by
  rw [activate_eq]

@[simp] theorem length_resolutions_activate (p : Profile) (index : Nat) :
    (p.activate index).resolutions.length = p.resolutions.length := by
  rcases Nat.lt_or_ge index p.resolutions.length with h | h
  · simp [activate_of_lt h]
  · rw [activate_of_le h]

@[simp] theorem length_buttons_setAction (p : Profile) (index : Nat) (action : Action) :
    (p.setAction index action).buttons.length = p.buttons.length := by simp [setAction]

end Profile

namespace Device

def has (d : Device) (c : Capability) : Bool := d.capabilities.contains c

/-- The position of the first active profile. -/
def activeProfile? (d : Device) : Option Nat := d.profiles.findIdx? (·.active)

/-- Make the profile at a position the only active one, if there is such a profile. -/
def activate? (d : Device) (index : Nat) : Option Device :=
  if index < d.profiles.length then
    some { d with profiles := d.profiles.mapIdx fun i p => { p with active := i == index } }
  else none

/-- The device afterwards; without such a profile it stays. -/
def activate (d : Device) (index : Nat) : Device := (d.activate? index).getD d

/-- Change the profile at a position. -/
def modifyProfile (d : Device) (index : Nat) (f : Profile → Profile) : Device :=
  { d with profiles := d.profiles.modify index f }

theorem activate_of_lt {d : Device} {index : Nat} (h : index < d.profiles.length) :
    d.activate index =
      { d with profiles := d.profiles.mapIdx fun i p => { p with active := i == index } } := by
  simp [activate, activate?, h]

theorem activate_of_le {d : Device} {index : Nat} (h : d.profiles.length ≤ index) :
    d.activate index = d := by
  simp [activate, activate?, Nat.not_lt.mpr h]

theorem activate?_of_lt {d : Device} {index : Nat} (h : index < d.profiles.length) :
    d.activate? index = some (d.activate index) := by
  simp [activate, activate?, h]

/-- Nothing but the profiles changes. -/
theorem activate_eq (d : Device) (index : Nat) :
    d.activate index = { d with profiles := (d.activate index).profiles } := by
  rcases Nat.lt_or_ge index d.profiles.length with h | h
  · rw [activate_of_lt h]
  · rw [activate_of_le h]

@[simp] theorem length_profiles_activate (d : Device) (index : Nat) :
    (d.activate index).profiles.length = d.profiles.length := by
  rcases Nat.lt_or_ge index d.profiles.length with h | h
  · simp [activate_of_lt h]
  · rw [activate_of_le h]

@[simp] theorem length_profiles_modifyProfile (d : Device) (index : Nat) (f : Profile → Profile) :
    (d.modifyProfile index f).profiles.length = d.profiles.length := by simp [modifyProfile]

end Device

end MouseConfig
