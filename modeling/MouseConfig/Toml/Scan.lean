/-! # Scanning

A scanner takes what it recognises off the front of a text and returns the rest.
-/

namespace MouseConfig.Toml

abbrev Scanner (α : Type) := List Char → Option (α × List Char)

/-- A character of a comment or a string: anything but control characters other than tab. -/
def isPlain (c : Char) : Bool := c == '\t' || (' '.val ≤ c.val && c.val != 0x7f)

def isBlank (c : Char) : Bool := c == ' ' || c == '\t'

def skipBlanks (cs : List Char) : List Char := cs.dropWhile isBlank

/-- What follows one line break. -/
def newline? : List Char → Option (List Char)
  | '\n' :: rest => some rest
  | '\r' :: '\n' :: rest => some rest
  | _ => none

/-- Skip blanks and line breaks. -/
def skipBlankLines : List Char → List Char
  | '\r' :: '\n' :: rest => skipBlankLines rest
  | c :: rest => if isBlank c || c == '\n' then skipBlankLines rest else c :: rest
  | [] => []

/-- Skip a comment, up to the end of its line or a character that no comment holds. -/
def skipComment : List Char → List Char
  | '#' :: rest => rest.dropWhile isPlain
  | cs => cs

/-- What follows the end of a line: blanks, a comment, and a line break or the end of the text. -/
def endOfLine? (cs : List Char) : Option (List Char) :=
  match skipComment (skipBlanks cs) with
  | [] => some []
  | rest => newline? rest

/-- Skip blanks, line breaks and comments; `inComment` says where the text starts.  Stops in front
of a character that is none of these. -/
def skipTrivia (inComment : Bool) : List Char → List Char
  | '\r' :: '\n' :: rest => skipTrivia false rest
  | '\n' :: rest => skipTrivia false rest
  | c :: rest =>
    if inComment then (if isPlain c then skipTrivia true rest else c :: rest)
    else if isBlank c then skipTrivia false rest
    else if c == '#' then skipTrivia true rest
    else c :: rest
  | [] => []

end MouseConfig.Toml
