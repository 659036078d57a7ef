import MouseConfig.Toml.Scan
import MouseConfig.Toml.Value

/-! # Numbers

Digits may be grouped by single underscores.  Integers fit in 64 bits with a sign; a float is
refused when it is too large to be finite.
-/

namespace MouseConfig.Toml.Number

/-- Further digits after the first, each underscore between two digits. -/
def moreDigits (isDigit : Char → Bool) : Scanner (List Char)
  | [] => some ([], [])
  | '_' :: c :: rest =>
    if isDigit c then (moreDigits isDigit rest).map fun p => (c :: p.1, p.2) else none
  | '_' :: [] => none
  | c :: rest =>
    if isDigit c then (moreDigits isDigit rest).map fun p => (c :: p.1, p.2)
    else some ([], c :: rest)

def digits (isDigit : Char → Bool) : Scanner (List Char)
  | c :: rest =>
    if isDigit c then (moreDigits isDigit rest).map fun p => (c :: p.1, p.2) else none
  | [] => none

/-- Digits without a zero in front of others. -/
def wholeDigits : Scanner (List Char)
  | '0' :: rest => some (['0'], rest)
  | cs => digits Char.isDigit cs

/-- A sign and what follows it; `true` for minus. -/
def sign : List Char → Bool × List Char
  | '+' :: rest => (false, rest)
  | '-' :: rest => (true, rest)
  | cs => (false, cs)

def digitValue (c : Char) : Nat :=
  if c.isDigit then c.toNat - '0'.toNat
  else if 'a' ≤ c ∧ c ≤ 'f' then c.toNat - 'a'.toNat + 10
  else c.toNat - 'A'.toNat + 10

def value (base : Nat) (ds : List Char) : Nat := ds.foldl (fun n c => base * n + digitValue c) 0

def isHexDigit (c : Char) : Bool :=
  c.isDigit || ('a' ≤ c && c ≤ 'f') || ('A' ≤ c && c ≤ 'F')

/-- A number in another base, without a sign. -/
def based (base : Nat) (isDigit : Char → Bool) : Scanner Int := fun cs => do
  let (ds, rest) ← digits isDigit cs
  if value base ds < integerBound then some (value base ds, rest) else none

def integer? : Scanner Int
  | '0' :: 'x' :: rest => based 16 isHexDigit rest
  | '0' :: 'o' :: rest => based 8 (fun c => '0' ≤ c && c ≤ '7') rest
  | '0' :: 'b' :: rest => based 2 (fun c => c == '0' || c == '1') rest
  | cs => do
    let (minus, cs) := sign cs
    let (ds, rest) ← wholeDigits cs
    let n := value 10 ds
    if minus then (if n ≤ integerBound then some (-n, rest) else none)
    else if n < integerBound then some (n, rest) else none

/-- Whether `m * 10 ^ e` rounds to infinity.  Far from the bound the number of digits decides. -/
def overflows (m : Nat) (e : Int) : Bool :=
  let size : Int := (Nat.toDigits 10 m).length + e
  if m = 0 ∨ size < 300 then false
  else if 320 < size then true
  else
    let bound := Nat.pow 2 1024 - Nat.pow 2 970
    if 0 ≤ e then bound ≤ m * Nat.pow 10 e.toNat else bound * Nat.pow 10 (-e).toNat ≤ m

def exponent? : Scanner Int
  | c :: rest =>
    if c == 'e' || c == 'E' then do
      let (minus, rest) := sign rest
      let (ds, rest) ← digits Char.isDigit rest
      let n : Int := value 10 ds
      some (if minus then -n else n, rest)
    else none
  | [] => none

/-- The digits after the point. -/
def fraction? : Scanner (List Char)
  | '.' :: rest => digits Char.isDigit rest
  | _ => none

/-- What follows a float: whole digits with a fraction, an exponent or both, or a named one. -/
def afterFloat? (cs : List Char) : Option (List Char) :=
  let (minus, cs) := sign cs
  match cs with
  | 'i' :: 'n' :: 'f' :: rest | 'n' :: 'a' :: 'n' :: rest => some rest
  | _ => do
    let (whole, rest) ← wholeDigits cs
    let (part, e, rest) ← match fraction? rest with
      | some (part, rest) => match exponent? rest with
        | some (e, rest) => some (part, e, rest)
        | none => some (part, 0, rest)
      | none => (exponent? rest).map fun p => ([], p.1, p.2)
    if !minus && overflows (value 10 (whole ++ part)) (e - part.length) then none else some rest

end MouseConfig.Toml.Number
