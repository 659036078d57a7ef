import MouseConfig.Device.Basic

/-! # The report on a device -/

namespace MouseConfig

/-- What follows an entry that is active, or in use after a reset. -/
def Report.marks (active default : Bool) : String :=
  (if active then " (active)" else "") ++ (if default then " (default)" else "")

namespace Resolution

/-- How a resolution is shown. -/
def text (r : Resolution) : String :=
  if r.dpi = 0 then "<disabled>"
  else
    let dpi := if r.has .separateAxes then s!"{r.dpi.toNat}x{r.secondAxis.toNat}dpi"
      else s!"{r.dpi.toNat}dpi"
    s!"{dpi} @ {r.rate.toNat}Hz" ++ Report.marks r.active r.default

end Resolution

namespace Button

/-- How the mapping of the button at a position is shown. -/
def line (index : Nat) (b : Button) : String :=
  s!"Button: {index} type {b.role.text} is mapped to '{b.action.text}'"

end Button

namespace Profile

/-- The part of a report on one profile; at most `shown` buttons are listed. -/
def reportLines (shown index : Nat) (p : Profile) : List String :=
  [s!"  Profile {index}" ++ Report.marks p.active p.default, "    Resolutions:"]
    ++ p.resolutions.mapIdx (fun i r => s!"      {i}: {r.text}")
    ++ (p.buttons.take shown).mapIdx fun i b => "    " ++ b.line i

end Profile

namespace Device

def reportLines (d : Device) : List String :=
  [s!"Device '{d.name}'",
   "Capabilities: " ++ " ".intercalate ((Capability.all.filter d.has).map Capability.shortName),
   s!"Number of buttons: {d.buttonCount.toNat}",
   s!"Profiles supported: {d.profiles.length}"]
    ++ (d.profiles.mapIdx fun i p => p.reportLines d.buttonCount.toNat i).flatten

/-- Everything known about a device, as text. -/
def report (d : Device) : String := Text.unlines d.reportLines

end Device

end MouseConfig
