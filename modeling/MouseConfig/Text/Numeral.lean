/-! # Decimal numerals as tokens

A token is an index when it consists of digits alone and its value fits in 64 bits.  Settings of
32 bits are written the same way, with an optional plus sign in front.  Real numbers may have a
sign, a point and an exponent.
-/

namespace MouseConfig.Numeral

/-- The value of a run of decimal digits, the most significant first. -/
def value (digits : List Char) : Nat := Nat.ofDigitChars 10 digits 0

/-- The value of a non-empty run of digits that stays below `bound`. -/
def read? (bound : Nat) (digits : List Char) : Option Nat :=
  if digits ≠ [] ∧ digits.all Char.isDigit ∧ value digits < bound then some (value digits) else none

theorem read?_eq_some_iff {bound n : Nat} {digits : List Char} :
    read? bound digits = some n ↔
      digits ≠ [] ∧ digits.all Char.isDigit ∧ value digits = n ∧ n < bound := by
  unfold read?
  split
  · next h => exact ⟨fun e => by cases e; exact ⟨h.1, h.2.1, rfl, h.2.2⟩, fun e => by rw [e.2.2.1]⟩
  · next h => exact ⟨nofun, fun e => absurd ⟨e.1, e.2.1, by rw [e.2.2.1]; exact e.2.2.2⟩ h⟩

/-- A token that stands for a position in a list. -/
def index? (token : String) : Option Nat := read? UInt64.size token.toList

/-- Drop a plus sign from the front of a token. -/
def unsigned : List Char → List Char
  | '+' :: digits => digits
  | digits => digits

/-- A token that stands for a setting of 32 bits. -/
def word? (token : String) : Option UInt32 :=
  (read? UInt32.size (unsigned token.toList)).map UInt32.ofNat

/-! ## Real numbers -/

/-- Drop a sign from the front of a token. -/
def magnitude : List Char → List Char
  | '+' :: rest | '-' :: rest => rest
  | cs => cs

/-- Nothing, or an exponent. -/
def isExponent : List Char → Bool
  | [] => true
  | c :: cs =>
    let digits := magnitude cs
    (c == 'e' || c == 'E') && digits != [] && digits.all Char.isDigit

/-- Digits with an optional point among them, and an optional exponent. -/
def isPositional (cs : List Char) : Bool :=
  let whole := cs.takeWhile Char.isDigit
  match cs.dropWhile Char.isDigit with
  | '.' :: rest =>
    whole ++ rest.takeWhile Char.isDigit != [] && isExponent (rest.dropWhile Char.isDigit)
  | rest => whole != [] && isExponent rest

/-- A real number, an infinity or the mark of what is not a number, in any case. -/
def isReal (cs : List Char) : Bool :=
  let cs := (magnitude cs).map Char.toLower
  isPositional cs || ["inf", "infinity", "nan"].contains (String.ofList cs)

end MouseConfig.Numeral
