import MouseConfig.Toml.Reader

/-! # Records in a TOML text

A record may be written as a table, whose unknown keys do not count, or as an array of its fields
in order.  One of several names may be written as a text or as the key of an empty table.
-/

namespace MouseConfig.Toml

namespace Value

def text? : Value → Option String
  | text s => some s
  | _ => none

def flag? : Value → Option Bool
  | boolean b => some b
  | _ => none

/-- A number below a bound. -/
def number? (bound : Nat) : Value → Option Nat
  | integer n => if 0 ≤ n ∧ n < bound then some n.toNat else none
  | _ => none

def word? (v : Value) : Option UInt32 := (v.number? UInt32.size).map UInt32.ofNat

def count? (v : Value) : Option UInt64 := (v.number? UInt64.size).map UInt64.ofNat

def list? {α : Type} (element : Value → Option α) : Value → Option (List α)
  | array vs => vs.mapM element
  | _ => none

def isEmptyTable : Value → Bool
  | table [] | inlineTable [] => true
  | _ => false

/-- One of several names: as a text, or as the only key of a table, with an empty table or array. -/
def choice? {α : Type} (ofName? : String → Option α) : Value → Option α
  | text s => ofName? s
  | table [(k, v)] | inlineTable [(k, v)] =>
    match v with
    | array [] => ofName? k
    | v => if v.isEmptyTable then ofName? k else none
  | _ => none

/-- One of several names inside an action. -/
def strictChoice? {α : Type} (ofName? : String → Option α) : Value → Option α
  | text s => ofName? s
  | table [(k, v)] | inlineTable [(k, v)] => if v.isEmptyTable then ofName? k else none
  | _ => none

/-- The fields of a record by name. -/
def fields? (names : List String) : Value → Option (List (String × Value))
  | array vs => some (names.zip vs)
  | v => v.entries?

/-- The fields of a record inside an action. -/
def strictFields? (names : List String) : Value → Option (List (String × Value))
  | array vs => if vs.length = names.length then some (names.zip vs) else none
  | v => v.entries?

end Value

/-- A field that has to be there. -/
def field? {α : Type} (es : List (String × Value)) (key : String) (read : Value → Option α) :
    Option α :=
  (es.lookup key).bind read

/-- A field that may be missing. -/
def fieldD {α : Type} (es : List (String × Value)) (key : String) (read : Value → Option α)
    (default : α) : Option α :=
  match es.lookup key with
  | some v => read v
  | none => some default

/-- Why a text is not what it should be. -/
inductive Fault where
  /-- The text is not TOML. -/
  | syntaxFault
  /-- A setting is missing or of the wrong kind. -/
  | content
deriving DecidableEq, Repr

def Fault.message : Fault → String
  | syntaxFault => "TOML parse error: the text is not well formed"
  | content => "TOML parse error: a setting is missing or of the wrong kind"

/-- Read a whole text and make something of its entries. -/
def readAs {α : Type} (ofEntries? : List (String × Value) → Option α) (text : String) :
    Except Fault α :=
  match read? text with
  | none => .error .syntaxFault
  | some es => match ofEntries? es with
    | none => .error .content
    | some x => .ok x

end MouseConfig.Toml
