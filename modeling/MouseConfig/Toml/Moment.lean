import MouseConfig.Toml.Scan

/-! # Dates and times

A moment is a date, a time of day, or both, and then perhaps an offset.
-/

namespace MouseConfig.Toml.Moment

/-- Two digits, within bounds. -/
def pair (low high : Nat) : Scanner Nat
  | a :: b :: rest =>
    let n := 10 * (a.toNat - '0'.toNat) + (b.toNat - '0'.toNat)
    if a.isDigit && b.isDigit && low ≤ n && n ≤ high then some (n, rest) else none
  | _ => none

/-- What follows a given character. -/
def after (c : Char) : List Char → Option (List Char)
  | d :: rest => if d = c then some rest else none
  | [] => none

def isLeap (year : Nat) : Bool := year % 4 == 0 && (year % 100 != 0 || year % 400 == 0)

def daysIn (year month : Nat) : Nat :=
  if month = 2 then (if isLeap year then 29 else 28)
  else if month = 4 ∨ month = 6 ∨ month = 9 ∨ month = 11 then 30
  else 31

def afterDate? (cs : List Char) : Option (List Char) := do
  let (century, cs) ← pair 0 99 cs
  let (years, cs) ← pair 0 99 cs
  let (month, cs) ← pair 1 12 (← after '-' cs)
  let (_, cs) ← pair 1 (daysIn (100 * century + years) month) (← after '-' cs)
  return cs

/-- Skip a fraction of a second. -/
def skipFraction : List Char → List Char
  | '.' :: c :: rest => if c.isDigit then rest.dropWhile Char.isDigit else '.' :: c :: rest
  | cs => cs

def afterTime? (cs : List Char) : Option (List Char) := do
  let (_, cs) ← pair 0 23 cs
  let (_, cs) ← pair 0 59 (← after ':' cs)
  let (_, cs) ← pair 0 60 (← after ':' cs)
  return skipFraction cs

def skipOffset : List Char → List Char
  | 'Z' :: rest | 'z' :: rest => rest
  | c :: rest =>
    if c == '+' || c == '-' then
      (do
        let (_, cs) ← pair 0 23 rest
        let (_, cs) ← pair 0 59 (← after ':' cs)
        return cs).getD (c :: rest)
    else c :: rest
  | [] => []

/-- Skip a time of day after a date. -/
def skipTimeOfDate : List Char → List Char
  | c :: rest =>
    if c == 'T' || c == 't' || c == ' ' then
      ((afterTime? rest).map skipOffset).getD (c :: rest)
    else c :: rest
  | [] => []

/-- What follows a moment. -/
def after? (cs : List Char) : Option (List Char) :=
  match afterDate? cs with
  | some rest => some (skipTimeOfDate rest)
  | none => afterTime? cs

end MouseConfig.Toml.Moment
