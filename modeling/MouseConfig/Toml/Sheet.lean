import MouseConfig.Toml.Quote
import MouseConfig.Toml.Value

/-! # Sheets

The layout in which descriptions are written: settings line by line, then parts, each under a
heading of its own after a blank line.
-/

namespace MouseConfig.Toml

/-- What is written on one line, a list of several texts excepted. -/
inductive Setting where
  | text (s : String)
  | number (n : Nat)
  | flag (b : Bool)
  | texts (ts : List String)
deriving DecidableEq, Repr

/-- The heading of a part: `[key]`, or `[[key]]` for one of several parts of this key. -/
inductive Heading where
  | one (key : String)
  | oneOf (key : String)
deriving DecidableEq, Repr

inductive Sheet where
  | mk (settings : List (String × Setting)) (parts : List (Heading × Sheet))

namespace Setting

def numeral (n : Nat) : List Char := Nat.toDigits 10 n

def write : Setting → List Char
  | text s => Quoted.write s.toList
  | number n => numeral n
  | flag true => ['t', 'r', 'u', 'e']
  | flag false => ['f', 'a', 'l', 's', 'e']
  | texts [] => ['[', ']']
  | texts [t] => '[' :: Quoted.write t.toList ++ [']']
  | texts ts =>
    ['[', '\n'] ++ ts.flatMap (fun t => [' ', ' ', ' ', ' '] ++ Quoted.write t.toList ++ [',', '\n'])
      ++ [']']

def line (key : String) (s : Setting) : List Char :=
  key.toList ++ [' ', '=', ' '] ++ s.write ++ ['\n']

end Setting

namespace Heading

def key : Heading → String
  | one k | oneOf k => k

/-- Keys with points between them. -/
def pathText (path : List String) : List Char := ['.'].intercalate (path.map String.toList)

def line (path : List String) : Heading → List Char
  | one k => '[' :: pathText (path ++ [k]) ++ [']', '\n']
  | oneOf k => ['[', '['] ++ pathText (path ++ [k]) ++ [']', ']', '\n']

end Heading

namespace Sheet

mutual

/-- The text of a sheet under a path of headings. -/
def write (path : List String) : Sheet → List Char
  | mk settings parts => (settings.flatMap fun s => s.2.line s.1) ++ writeParts path parts

def writeParts (path : List String) : List (Heading × Sheet) → List Char
  | [] => []
  | (h, s) :: rest => '\n' :: h.line path ++ s.write (path ++ [h.key]) ++ writeParts path rest

end

/-- The text of a whole sheet. -/
def text (s : Sheet) : String := String.ofList (s.write [])

end Sheet

end MouseConfig.Toml
