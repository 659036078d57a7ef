import MouseConfig.Toml.Quoted

/-! # Quoting text

The plainest form that holds a text is chosen: double quotes, single quotes, three double quotes,
three single quotes; and where none of them can do without escapes, double quotes with escapes,
three of them if the text has several lines.
-/

namespace MouseConfig.Toml.Quoted

/-- A control character that no form holds as it is. -/
def isControl (c : Char) : Bool := (c < ' ' && c != '\t' && c != '\n') || c == '\x7f'

/-- The length of the longest run of a character, at least `longest`; `run` of them have just been
seen. -/
def longestRun (mark : Char) (run longest : Nat) : List Char → Nat
  | [] => max run longest
  | c :: rest =>
    if c = mark then longestRun mark (run + 1) longest rest
    else longestRun mark 0 (max run longest) rest

inductive Form where
  | basic | literal | basicLines | literalLines
deriving DecidableEq, Repr

/-- The form in which a text is written. -/
def form (text : List Char) : Form :=
  let plain := !text.any isControl
  let unescaped := plain && !text.contains '\\'
  let oneLine := !text.contains '\n'
  let doubles := longestRun '"' 0 0 text
  let singles := longestRun '\'' 0 0 text
  if unescaped && doubles == 0 && oneLine then .basic
  else if plain && singles == 0 && oneLine then .literal
  else if unescaped && doubles ≤ 2 then .basicLines
  else if plain && singles ≤ 2 then .literalLines
  else if oneLine then .basic
  else .basicLines

def hexDigit (n : Nat) : Char := (Nat.digitChar n).toUpper

/-- How a character is written between double quotes, if not as it is. -/
def escaped? (c : Char) : Option (List Char) :=
  match c with
  | '\x08' => some ['\\', 'b']
  | '\t' => some ['\\', 't']
  | '\n' => some ['\\', 'n']
  | '\x0c' => some ['\\', 'f']
  | '\r' => some ['\\', 'r']
  | '\\' => some ['\\', '\\']
  | c =>
    if isControl c then
      some ['\\', 'u', '0', '0', hexDigit (c.toNat / 16), hexDigit (c.toNat % 16)]
    else none

/-- A text between double quotes.  A quote is escaped once `allowed` of them stand in a row, of
which `run` have just been written; a line break is escaped unless `lines` are allowed. -/
def escape (lines : Bool) (allowed run : Nat) : List Char → List Char
  | [] => []
  | c :: rest =>
    if c = '"' then
      if run < allowed then '"' :: escape lines allowed (run + 1) rest
      else '\\' :: '"' :: escape lines allowed 0 rest
    else if lines && c == '\n' then '\n' :: escape lines allowed 0 rest
    else
      match escaped? c with
      | some cs => cs ++ escape lines allowed 0 rest
      | none => c :: escape lines allowed 0 rest

/-- A line break after the opening quotes, where the text itself has one. -/
def lead (text : List Char) : List Char := if text.contains '\n' then ['\n'] else []

/-- A text with its quotes. -/
def write (text : List Char) : List Char :=
  match form text with
  | .basic => '"' :: escape false 0 0 text ++ ['"']
  | .literal => '\'' :: text ++ ['\'']
  | .basicLines => ['"', '"', '"'] ++ lead text ++ escape true 2 0 text ++ ['"', '"', '"']
  | .literalLines => ['\'', '\'', '\''] ++ lead text ++ text ++ ['\'', '\'', '\'']

end MouseConfig.Toml.Quoted
