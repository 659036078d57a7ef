import MouseConfig.Device.Basic

/-! # Volume keys on buttons 6 and 7

Some mice switch profiles with these two buttons.  Mapped to the volume keys they report key
presses instead; mapped to nothing they go back to the firmware.  A profile that maps them to
anything else is left alone.
-/

namespace MouseConfig.VolumeKeys

def upButton : Nat := 6
def downButton : Nat := 7
def up : Action := .key "KEY_VOLUMEUP"
def down : Action := .key "KEY_VOLUMEDOWN"

inductive Outcome where
  | enabled | disabled | unchanged
deriving DecidableEq, Repr

/-- Map the two buttons. -/
def assign (p : Profile) (first second : Action) : Profile :=
  (p.setAction upButton first).setAction downButton second

/-- Flip the two buttons between the volume keys and nothing; `none` when one is missing. -/
def toggle (p : Profile) : Option (Outcome × Profile) := do
  let first ← p.buttons[upButton]?
  let second ← p.buttons[downButton]?
  if first.action = up ∧ second.action = down then
    return (.disabled, assign p .disabled .disabled)
  else if first.action = .disabled ∧ second.action = .disabled then
    return (.enabled, assign p up down)
  else
    return (.unchanged, p)

end MouseConfig.VolumeKeys
