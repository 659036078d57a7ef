import MouseConfig.Log.Event

/-! # Lines of the log

Characters that could control a terminal are spelled out.
-/

namespace MouseConfig.Log

/-- The two hexadecimal digits of a number below 256. -/
def hexByte (n : Nat) : String :=
  String.ofList [Nat.digitChar (n / 16), Nat.digitChar (n % 16)]

/-- A character of a message, spelled out if need be. -/
def escape (c : Char) : String :=
  let n := c.toNat
  if n = 7 ∨ n = 8 ∨ n = 12 ∨ n = 27 ∨ n = 127 then "\\x" ++ hexByte n
  else if 128 ≤ n ∧ n ≤ 159 then "\\u\x7b" ++ hexByte n ++ "\x7d"
  else c.toString

def escaped (message : String) : String := String.join (message.toList.map escape)

namespace Event

/-- The level, right-aligned, the target and the message. -/
def line (e : Event) : String :=
  String.ofList (List.replicate (5 - e.level.name.length) ' ') ++ e.level.name ++ " "
    ++ e.source.target ++ ": " ++ escaped e.message ++ "\n"

end Event

end MouseConfig.Log
