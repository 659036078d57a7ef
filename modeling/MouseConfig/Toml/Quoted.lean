import MouseConfig.Text.Hexadecimal
import MouseConfig.Toml.Scan

/-! # Quoted text

Text stands between double quotes, with escapes, or between single quotes, as it is.  Three quotes
on each side allow line breaks; a line break right after the opening quotes does not count, and up
to two quotes may stand right before the closing ones.
-/

namespace MouseConfig.Toml.Quoted

def shortEscape? : Char → Option Char
  | 'b' => some '\x08'
  | 't' => some '\t'
  | 'n' => some '\n'
  | 'f' => some '\x0c'
  | 'r' => some '\r'
  | '"' => some '"'
  | '\\' => some '\\'
  | _ => none

/-- The character that an escape stands for, and how many characters follow the backslash. -/
def escape? : List Char → Option (Char × Nat)
  | 'u' :: rest =>
    if 4 ≤ rest.length then (Text.scalar? (rest.take 4)).map (·, 5) else none
  | 'U' :: rest =>
    if 8 ≤ rest.length then (Text.scalar? (rest.take 8)).map (·, 9) else none
  | c :: _ => (shortEscape? c).map (·, 1)
  | [] => none

/-- How many characters a backslash at the end of a line passes over. -/
def continuation? (cs : List Char) : Option Nat :=
  (newline? (skipBlanks cs)).map fun rest => cs.length - (skipBlankLines rest).length

/-- At a run of quotes, of which the first has been read: the quotes that belong to the text and
what follows the closing ones, if there are any. -/
def closing? (quote : Char) (rest : List Char) : Option (List Char × List Char) :=
  let run := (rest.takeWhile (· == quote)).length
  if 2 ≤ run then
    let own := min (run - 2) 2
    some (List.replicate own quote, rest.drop (2 + own))
  else none

def push (c : Char) (r : Option (List Char × List Char)) : Option (List Char × List Char) :=
  r.map fun p => (c :: p.1, p.2)

/-- The body of a text between double quotes; the first `skip` characters have been dealt with. -/
def basic : (skip : Nat) → Scanner (List Char)
  | _, [] => none
  | n + 1, _ :: rest => basic n rest
  | 0, '"' :: rest => some ([], rest)
  | 0, '\\' :: rest => (escape? rest).bind fun e => push e.1 (basic e.2 rest)
  | 0, c :: rest => if isPlain c then push c (basic 0 rest) else none

/-- The body of a text between single quotes. -/
def literal : Scanner (List Char)
  | [] => none
  | '\'' :: rest => some ([], rest)
  | c :: rest => if isPlain c then push c (literal rest) else none

/-- The body of a text between three double quotes; the first `skip` characters have been dealt
with. -/
def basicLines : (skip : Nat) → Scanner (List Char)
  | _, [] => none
  | n + 1, _ :: rest => basicLines n rest
  | 0, '"' :: rest =>
    match closing? '"' rest with
    | some r => some r
    | none => push '"' (basicLines 0 rest)
  | 0, '\\' :: rest =>
    match continuation? rest with
    | some n => basicLines n rest
    | none => (escape? rest).bind fun e => push e.1 (basicLines e.2 rest)
  | 0, '\n' :: rest => push '\n' (basicLines 0 rest)
  | 0, '\r' :: '\n' :: rest => push '\n' (basicLines 0 rest)
  | 0, c :: rest => if isPlain c then push c (basicLines 0 rest) else none

/-- The body of a text between three single quotes. -/
def literalLines : Scanner (List Char)
  | [] => none
  | '\'' :: rest =>
    match closing? '\'' rest with
    | some r => some r
    | none => push '\'' (literalLines rest)
  | '\n' :: rest => push '\n' (literalLines rest)
  | '\r' :: '\n' :: rest => push '\n' (literalLines rest)
  | c :: rest => if isPlain c then push c (literalLines rest) else none

/-- Drop a line break from the front. -/
def trimNewline (cs : List Char) : List Char := (newline? cs).getD cs

/-- Quoted text on one line. -/
def readLine? : Scanner String
  | '"' :: rest => (basic 0 rest).map fun p => (String.ofList p.1, p.2)
  | '\'' :: rest => (literal rest).map fun p => (String.ofList p.1, p.2)
  | _ => none

/-- Quoted text of any form. -/
def read? : Scanner String
  | '"' :: '"' :: '"' :: rest =>
    (basicLines 0 (trimNewline rest)).map fun p => (String.ofList p.1, p.2)
  | '\'' :: '\'' :: '\'' :: rest =>
    (literalLines (trimNewline rest)).map fun p => (String.ofList p.1, p.2)
  | cs => readLine? cs

end MouseConfig.Toml.Quoted
