import MouseConfig.Text.Unprintable

/-! # Outlines

An outline shows the structure of a value: records with their fields, lists and wrapped values.
It is laid out on one line or over several.
-/

namespace MouseConfig

inductive Outline where
  | leaf (text : String)
  | wrap (name : String) (inner : Outline)
  | list (elements : List Outline)
  | record (name : String) (fields : List (String × Outline))

namespace Outline

def hexDigits (n : Nat) : List Char := Nat.toDigits 16 n

/-- How a character of a quoted text is shown. -/
def quotedChar (c : Char) : List Char :=
  match c with
  | '\x00' => ['\\', '0']
  | '\t' => ['\\', 't']
  | '\r' => ['\\', 'r']
  | '\n' => ['\\', 'n']
  | '"' => ['\\', '"']
  | '\\' => ['\\', '\\']
  | c =>
    if Text.isUnprintable c then ['\\', 'u', '{'] ++ hexDigits c.toNat ++ ['}'] else [c]

/-- A text between quotes. -/
def text (s : String) : Outline :=
  .leaf (String.ofList ('"' :: s.toList.flatMap quotedChar ++ ['"']))

def flag (b : Bool) : Outline := .leaf (if b then "true" else "false")

def number (n : Nat) : Outline := .leaf n.repr

def optional {α : Type} (f : α → Outline) : Option α → Outline
  | none => .leaf "None"
  | some x => .wrap "Some" (f x)

mutual

/-- The outline on one line. -/
def inline : Outline → String
  | leaf t => t
  | wrap name inner => name ++ "(" ++ inner.inline ++ ")"
  | list [] => "[]"
  | list (x :: rest) => "[" ++ x.inline ++ inlineMore rest ++ "]"
  | record name [] => name
  | record name ((k, x) :: rest) =>
    name ++ " \x7b " ++ k ++ ": " ++ x.inline ++ inlineFields rest ++ " \x7d"

def inlineMore : List Outline → String
  | [] => ""
  | x :: rest => ", " ++ x.inline ++ inlineMore rest

def inlineFields : List (String × Outline) → String
  | [] => ""
  | (k, x) :: rest => ", " ++ k ++ ": " ++ x.inline ++ inlineFields rest

end

/-- The blanks in front of a line. -/
def indent (depth : Nat) : String := String.ofList (List.replicate (4 * depth) ' ')

mutual

/-- The outline over several lines, of which all but the first are indented. -/
def block (depth : Nat) : Outline → String
  | leaf t => t
  | wrap name inner =>
    name ++ "(\n" ++ indent (depth + 1) ++ inner.block (depth + 1) ++ ",\n" ++ indent depth ++ ")"
  | list [] => "[]"
  | list (x :: rest) => "[\n" ++ blockElements (depth + 1) (x :: rest) ++ indent depth ++ "]"
  | record name [] => name
  | record name ((k, x) :: rest) =>
    name ++ " \x7b\n" ++ blockFields (depth + 1) ((k, x) :: rest) ++ indent depth ++ "\x7d"

def blockElements (depth : Nat) : List Outline → String
  | [] => ""
  | x :: rest => indent depth ++ x.block depth ++ ",\n" ++ blockElements depth rest

def blockFields (depth : Nat) : List (String × Outline) → String
  | [] => ""
  | (k, x) :: rest => indent depth ++ k ++ ": " ++ x.block depth ++ ",\n" ++ blockFields depth rest

end

end Outline

end MouseConfig
