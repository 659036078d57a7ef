import MouseConfig.Toml.Assembly
import MouseConfig.Toml.Moment
import MouseConfig.Toml.Number
import MouseConfig.Toml.Quoted

/-! # Reading a text

Keys, values and statements, in this order.  Arrays and inline tables nest to a bounded depth.
-/

namespace MouseConfig.Toml

namespace Reader

/-- Nested arrays and inline tables, and parts of a key, stay below this number. -/
def limit : Nat := 80

def isBareKey (c : Char) : Bool := c.isAlphanum || c == '_' || c == '-'

def bareKey? (cs : List Char) : Option (String × List Char) :=
  let key := cs.takeWhile isBareKey
  if key = [] then none else some (String.ofList key, cs.dropWhile isBareKey)

def simpleKey? (cs : List Char) : Option (String × List Char) :=
  match cs with
  | '"' :: _ | '\'' :: _ => Quoted.readLine? cs
  | _ => bareKey? cs

/-- Keys with points between them, and blanks around each. -/
def keys? : (fuel : Nat) → Scanner (List String)
  | 0, _ => none
  | fuel + 1, cs => do
    let (key, rest) ← simpleKey? (skipBlanks cs)
    match skipBlanks rest with
    | '.' :: rest => (keys? fuel rest).map fun p => (key :: p.1, p.2)
    | rest => some ([key], rest)

/-- A key of fewer parts than the limit. -/
def path? (cs : List Char) : Option (List String × List Char) := do
  let (path, rest) ← keys? (cs.length + 1) cs
  if path.length < limit then some (path, rest) else none

/-- The elements of an array after its opening bracket. -/
def elements? (element : Scanner Value) : (fuel : Nat) → Scanner (List Value)
  | 0, _ => none
  | fuel + 1, cs =>
    match skipTrivia false cs with
    | ']' :: rest => some ([], rest)
    | cs => do
      let (v, rest) ← element cs
      match skipTrivia false rest with
      | ',' :: rest => (elements? element fuel rest).map fun p => (v :: p.1, p.2)
      | ']' :: rest => some ([v], rest)
      | _ => none

/-- A key, an equals sign and a value. -/
def pair? (element : Scanner Value) : Scanner (List String × Value) := fun cs => do
  let (path, rest) ← path? cs
  match rest with
  | '=' :: rest => do
    let (v, rest) ← element (skipBlanks rest)
    return ((path, v), rest)
  | _ => none

/-- The pairs of an inline table, of which there is at least one. -/
def pairs? (element : Scanner Value) : (fuel : Nat) → Scanner (List (List String × Value))
  | 0, _ => none
  | fuel + 1, cs => do
    let (p, rest) ← pair? element cs
    match skipBlanks rest with
    | ',' :: rest => (pairs? element fuel rest).map fun q => (p :: q.1, q.2)
    | '}' :: rest => some ([p], rest)
    | _ => none

def boolean? : Scanner Bool
  | 't' :: 'r' :: 'u' :: 'e' :: rest => some (true, rest)
  | 'f' :: 'a' :: 'l' :: 's' :: 'e' :: rest => some (false, rest)
  | _ => none

/-- The part of a text in front of what is left of it. -/
def consumed (cs rest : List Char) : String := String.ofList (cs.take (cs.length - rest.length))

/-- A value that holds no others: the first form that fits counts. -/
def scalar? : Scanner Value := fun cs =>
  match cs with
  | '"' :: _ | '\'' :: _ => (Quoted.read? cs).map fun p => (.text p.1, p.2)
  | _ =>
    match boolean? cs with
    | some (b, rest) => some (.boolean b, rest)
    | none =>
      match Moment.after? cs with
      | some rest => some (.moment (consumed cs rest), rest)
      | none =>
        match Number.afterFloat? cs with
        | some rest => some (.float (consumed cs rest), rest)
        | none => (Number.integer? cs).map fun p => (.integer p.1, p.2)

/-- A value; `depth` more levels may be nested in it. -/
def value? : (depth : Nat) → Scanner Value
  | 0, '[' :: _ | 0, '{' :: _ => none
  | depth + 1, '[' :: rest =>
    (elements? (value? depth) (rest.length + 1) rest).map fun p => (.array p.1, p.2)
  | depth + 1, '{' :: rest =>
    match skipBlanks rest with
    | '}' :: rest => some (.inlineTable [], rest)
    | rest => do
      let (ps, rest) ← pairs? (value? depth) (rest.length + 1) rest
      (Assembly.inline? ps).map (·, rest)
  | _, cs => scalar? cs

/-- A statement that starts here, without the end of its line. -/
def statement? : Scanner Statement
  | '[' :: '[' :: rest => do
    let (path, rest) ← path? rest
    match rest with
    | ']' :: ']' :: rest => some (.extend path, rest)
    | _ => none
  | '[' :: rest => do
    let (path, rest) ← path? rest
    match rest with
    | ']' :: rest => some (.define path, rest)
    | _ => none
  | cs => (pair? (value? (limit - 1)) cs).map fun p => (.assign p.1.1 p.1.2, p.2)

/-- The statements of a text, each on lines of its own; lines may be blank. -/
def statements? : (fuel : Nat) → List Char → Option (List Statement)
  | 0, _ => none
  | fuel + 1, cs =>
    match skipBlanks cs with
    | [] => some []
    | '#' :: rest => (endOfLine? ('#' :: rest)).bind (statements? fuel)
    | '\n' :: rest => statements? fuel rest
    | '\r' :: '\n' :: rest => statements? fuel rest
    | cs => do
      let (s, rest) ← statement? cs
      let rest ← endOfLine? rest
      (statements? fuel rest).map (s :: ·)

/-- Drop a mark of the byte order from the front of a text. -/
def dropMark : List Char → List Char
  | '\ufeff' :: rest => rest
  | cs => cs

end Reader

/-- The entries of a text. -/
def read? (text : String) : Option (List (String × Value)) :=
  let cs := Reader.dropMark text.toList
  (Reader.statements? (cs.length + 1) cs).bind Assembly.run?

end MouseConfig.Toml
