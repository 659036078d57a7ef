/-! # What a device can do, and what its buttons are -/

namespace MouseConfig

/-- Optional features of a device. -/
inductive Capability where
  | switchableResolution | switchableProfile | buttonKey | buttonMacros
deriving DecidableEq, Repr

namespace Capability

/-- Every capability, in the order of a report. -/
def all : List Capability := [switchableResolution, switchableProfile, buttonKey, buttonMacros]

theorem mem_all (c : Capability) : c ∈ all := by cases c <;> decide

def name : Capability → String
  | switchableResolution => "switchable-resolution"
  | switchableProfile => "switchable-profile"
  | buttonKey => "button-key"
  | buttonMacros => "button-macros"

def ofName? (text : String) : Option Capability := all.find? fun c => c.name == text

/-- The name in a report. -/
def shortName : Capability → String
  | switchableResolution => "res"
  | switchableProfile => "profile"
  | buttonKey => "btn-key"
  | buttonMacros => "btn-macros"

end Capability

/-- Optional features of a resolution: the two axes can differ. -/
inductive ResolutionCapability where
  | separateAxes
deriving DecidableEq, Repr

namespace ResolutionCapability

def name : ResolutionCapability → String
  | separateAxes => "separate-xy-resolution"

def ofName? (text : String) : Option ResolutionCapability :=
  [separateAxes].find? fun c => c.name == text

end ResolutionCapability

/-- The physical role of a button. -/
inductive Role where
  | unknown | left | middle | right | thumb | thumb2 | thumb3 | thumb4
  | wheelLeft | wheelRight | wheelClick | wheelUp | wheelDown
  | extra | side | pinkie
  | resolutionCycleUp | resolutionUp | resolutionDown
  | profileCycleUp | profileUp | profileDown
deriving DecidableEq, Repr

namespace Role

def all : List Role :=
  [unknown, left, middle, right, thumb, thumb2, thumb3, thumb4,
   wheelLeft, wheelRight, wheelClick, wheelUp, wheelDown,
   extra, side, pinkie,
   resolutionCycleUp, resolutionUp, resolutionDown,
   profileCycleUp, profileUp, profileDown]

theorem mem_all (r : Role) : r ∈ all := by cases r <;> decide

/-- The name in a description. -/
def name : Role → String
  | unknown => "unknown"
  | left => "left"
  | middle => "middle"
  | right => "right"
  | thumb => "thumb"
  | thumb2 => "thumb2"
  | thumb3 => "thumb3"
  | thumb4 => "thumb4"
  | wheelLeft => "wheel-left"
  | wheelRight => "wheel-right"
  | wheelClick => "wheel-click"
  | wheelUp => "wheel-up"
  | wheelDown => "wheel-down"
  | extra => "extra"
  | side => "side"
  | pinkie => "pinkie"
  | resolutionCycleUp => "resolution-cycle-up"
  | resolutionUp => "resolution-up"
  | resolutionDown => "resolution-down"
  | profileCycleUp => "profile-cycle-up"
  | profileUp => "profile-up"
  | profileDown => "profile-down"

def ofName? (text : String) : Option Role := all.find? fun r => r.name == text

/-- The name in a report. -/
def text : Role → String
  | extra => "extra (forward)"
  | side => "side (backward)"
  | wheelLeft => "wheel left"
  | wheelRight => "wheel right"
  | wheelClick => "wheel click"
  | wheelUp => "wheel up"
  | wheelDown => "wheel down"
  | resolutionCycleUp => "resolution cycle up"
  | resolutionUp => "resolution up"
  | resolutionDown => "resolution down"
  | profileCycleUp => "profile cycle up"
  | profileUp => "profile up"
  | profileDown => "profile down"
  | role => role.name

end Role

end MouseConfig
