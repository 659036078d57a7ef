import MouseConfig.Device.Basic
import MouseConfig.Text.Outline

/-! # Outlines of devices -/

namespace MouseConfig

/-- A kebab-case name with every word in upper case and no hyphens. -/
def Outline.title (name : String) : String :=
  let rec go (upper : Bool) : List Char → List Char
    | [] => []
    | '-' :: rest => go true rest
    | c :: rest => (if upper then c.toUpper else c) :: go false rest
  String.ofList (go true name.toList)

/-- One of several names. -/
def Outline.choice (name : String) : Outline := .leaf (title name)

def KeyEvent.outline (e : KeyEvent) : Outline :=
  .record "MacroEvent" [("kind", .choice e.edge.name), ("key", .text e.key)]

def Action.outline : Action → Outline
  | disabled => .choice "none"
  | button number => .record "Button" [("button", .number number.toNat)]
  | key name => .record "Key" [("key", .text name)]
  | special function => .record "Special" [("special", .choice function.name)]
  | sequence name events =>
    .record "Macro" [("name", .text name), ("events", .list (events.map KeyEvent.outline))]

def Button.outline (b : Button) : Outline :=
  .record "Button" [("kind", .choice b.role.name), ("action", b.action.outline)]

def Resolution.outline (r : Resolution) : Outline :=
  .record "Resolution" [
    ("dpi", .number r.dpi.toNat), ("dpi_y", .optional (fun y => .number y.toNat) r.dpiY),
    ("rate", .number r.rate.toNat), ("active", .flag r.active), ("default", .flag r.default),
    ("capabilities", .list (r.capabilities.map fun c => .choice c.name))]

def Profile.outline (p : Profile) : Outline :=
  .record "Profile" [
    ("active", .flag p.active), ("default", .flag p.default),
    ("resolutions", .list (p.resolutions.map Resolution.outline)),
    ("buttons", .list (p.buttons.map Button.outline))]

def DpiRange.outline (r : DpiRange) : Outline :=
  .record "DpiRange" [("min", .number r.min.toNat), ("max", .number r.max.toNat)]

def Device.outline (d : Device) : Outline :=
  .record "Device" [
    ("name", .text d.name),
    ("capabilities", .list (d.capabilities.map fun c => .choice c.name)),
    ("buttons", .number d.buttonCount.toNat),
    ("dpi_range", .optional DpiRange.outline d.dpiRange),
    ("profiles", .list (d.profiles.map Profile.outline))]

end MouseConfig
