import MouseConfig.Device.Basic
import MouseConfig.Toml.Sheet

/-! # Writing descriptions

Every setting is written, in a fixed order, except the optional ones that are unset.  Lists of
records become parts, and an empty list is written among the settings.
-/

namespace MouseConfig

open Toml

/-- Parts of one key, or an empty list in place of them. -/
def Toml.Sheet.several (key : String) (sheets : List Sheet) :
    List (String × Setting) × List (Heading × Sheet) :=
  if sheets.isEmpty then ([(key, .texts [])], []) else ([], sheets.map fun s => (.oneOf key, s))

namespace KeyEvent

def sheet (e : KeyEvent) : Sheet := .mk [("kind", .text e.edge.name), ("key", .text e.key)] []

end KeyEvent

namespace Action

def sheet : Action → Sheet
  | disabled => .mk [("kind", .text "none")] []
  | button number => .mk [("kind", .text "button"), ("button", .number number.toNat)] []
  | key name => .mk [("kind", .text "key"), ("key", .text name)] []
  | special function => .mk [("kind", .text "special"), ("special", .text function.name)] []
  | sequence name events =>
    let (noEvent, parts) := Sheet.several "events" (events.map KeyEvent.sheet)
    .mk ([("kind", .text "macro"), ("name", .text name)] ++ noEvent) parts

end Action

namespace Button

def sheet (b : Button) : Sheet := .mk [("type", .text b.role.name)] [(.one "action", b.action.sheet)]

end Button

namespace Resolution

def sheet (r : Resolution) : Sheet :=
  .mk ([("dpi", .number r.dpi.toNat)] ++ (r.dpiY.map fun y => ("dpi_y", .number y.toNat)).toList ++
    [("rate", .number r.rate.toNat), ("active", .flag r.active), ("default", .flag r.default),
     ("capabilities", .texts (r.capabilities.map ResolutionCapability.name))]) []

end Resolution

namespace Profile

def sheet (p : Profile) : Sheet :=
  let (noResolution, resolutions) :=
    Sheet.several "resolution" (p.resolutions.map Resolution.sheet)
  let (noButton, buttons) := Sheet.several "button" (p.buttons.map Button.sheet)
  .mk ([("active", .flag p.active), ("default", .flag p.default)] ++ noResolution ++ noButton)
    (resolutions ++ buttons)

end Profile

namespace DpiRange

def sheet (r : DpiRange) : Sheet := .mk [("min", .number r.min.toNat), ("max", .number r.max.toNat)] []

end DpiRange

namespace Device

def sheet (d : Device) : Sheet :=
  let (noProfile, profiles) := Sheet.several "profile" (d.profiles.map Profile.sheet)
  .mk ([("name", .text d.name), ("capabilities", .texts (d.capabilities.map Capability.name)),
      ("buttons", .number d.buttonCount.toNat)] ++ noProfile)
    ((d.dpiRange.map fun r => (Heading.one "dpi_range", r.sheet)).toList ++ profiles)

/-- The description of a device; there is none when the button count needs more than 63 bits. -/
def description? (d : Device) : Option String :=
  if d.buttonCount.toNat < Toml.integerBound then some d.sheet.text else none

end Device

def Action.description (a : Action) : String := a.sheet.text

end MouseConfig
