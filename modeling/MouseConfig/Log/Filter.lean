import MouseConfig.Log.Event
import MouseConfig.Log.Pattern
import MouseConfig.Text.Bytes
import MouseConfig.Text.Lines
import MouseConfig.Text.Numeral

/-! # Log filters

A filter is a list of directives between commas.  A directive gives the level up to which a part of
the program is logged; the part is named by how its target starts.  Of the directives for an event
the one with the longest target decides.  Directives for spans or for values of fields are read, but
no event of the program meets them.
-/

namespace MouseConfig.Log

/-- The most detailed level that is let through, or none. -/
inductive Limit where
  | off
  | upTo (l : Level)
deriving DecidableEq, Repr

namespace Limit

def allows : Limit → Level → Bool
  | off, _ => false
  | upTo l, l' => decide (l'.rank ≤ l.rank)

def ofNumber : Nat → Limit
  | 0 => off
  | 1 => upTo .error
  | 2 => upTo .warn
  | 3 => upTo .info
  | 4 => upTo .debug
  | _ => upTo .trace

def ofName? (name : String) : Option Limit :=
  match name with
  | "off" => some off
  | "error" => some (upTo .error)
  | "warn" => some (upTo .warn)
  | "info" => some (upTo .info)
  | "debug" => some (upTo .debug)
  | "trace" => some (upTo .trace)
  | _ => none

/-- A limit is a number up to five, or a name in any case. -/
def ofChars? (cs : List Char) : Option Limit :=
  ((Numeral.read? 6 (Numeral.unsigned cs)).map ofNumber).orElse fun _ =>
    ofName? (String.ofList (cs.map Char.toLower))

end Limit

structure Directive where
  target : Option String := none
  span : Option String := none
  /-- Field names, with whether a value is asked for. -/
  fields : List (String × Bool) := []
  limit : Limit := .upTo .trace
deriving DecidableEq, Repr

namespace Directive

/-! ## Reading

Positions in a directive are counted in bytes from its first character that is not blank, but the
parts are taken from the whole text.  A directive with blanks in front is therefore hardly ever what
it looks like.
-/

/-- Without the blanks around it. -/
def trim (cs : List Char) : List Char :=
  ((cs.dropWhile Text.isBlank).reverse.dropWhile Text.isBlank).reverse

/-- Whether a target or level may start like this. -/
def isOpening (c : Char) : Bool := Text.isLetterOrNumber c || c == '-' || c == ':' || c == '_'

/-- The limit from a position on.  If nothing is there, everything is let through. -/
def limitAt? (whole : List Char) (position : Nat) : Option Limit :=
  (Text.splitAtByte? whole position).bind fun p =>
    match p.2 with
    | [] => some (.upTo .trace)
    | cs => Limit.ofChars? cs

/-- What follows the bracket that closes a span. -/
def afterSpan? (whole : List Char) (position : Nat) (d : Directive) :
    List Char → Option Directive
  | [] => some d
  | '=' :: _ => (limitAt? whole (position + 1)).map fun limit => { d with limit }
  | _ => none

/-- What a field is compared with: a number, or what a pattern describes. -/
def isValue (cs : List Char) : Bool := Numeral.isReal cs || Pattern.isWellFormed cs

/-- A name, or a name and a value.  What follows a second equals sign does not count. -/
def nameAndValue? (field : List Char) : Option (String × Bool) :=
  match Text.cut '=' field with
  | none => if field = [] then none else some (String.ofList field, false)
  | some (name, rest) =>
    if isValue (rest.takeWhile (· != '=')) then some (String.ofList name, true) else none

/-- A field up to its closing brace, and what follows. -/
def field? (whole : List Char) (position : Nat) (d : Directive) (cs : List Char) :
    Option Directive := do
  let field := cs.takeWhile (· != '\x7d')
  let stop := position + Text.byteSize field
  match cs.drop field.length with
  | _ :: ']' :: rest =>
    let f ← nameAndValue? (← Text.slice? whole position stop)
    afterSpan? whole (stop + 2) { d with fields := [f] } rest
  | _ => none

/-- A span after its opening bracket. -/
def span? (whole : List Char) (position : Nat) (d : Directive) (cs : List Char) :
    Option Directive := do
  let span := cs.takeWhile fun c => c != ']' && c != '\x7b'
  let stop := position + Text.byteSize span
  let name := String.ofList (← Text.slice? whole position stop)
  match cs.drop span.length with
  | ']' :: rest => afterSpan? whole (stop + 1) { d with span := some name } rest
  | '\x7b' :: rest =>
    field? whole (stop + 1) { d with span := if name = "" then none else some name } rest
  | _ => none

/-- A directive that is a limit or a target alone. -/
def alone (whole : List Char) : Directive :=
  match Limit.ofChars? whole with
  | some limit => { limit }
  | none => { target := some (String.ofList whole) }

/-- A directive with a target. -/
def targeted? (whole cs : List Char) : Option Directive := do
  let lead := cs.takeWhile fun c => c != '=' && c != '['
  let stop := Text.byteSize lead
  match cs.drop lead.length with
  | [] => return alone whole
  | mark :: rest =>
    let target := some (String.ofList (← Text.slice? whole 0 stop))
    if mark = '=' then return { target, limit := ← limitAt? whole (stop + 1) }
    else span? whole (stop + 1) { target } rest

def read? (whole : List Char) : Option Directive :=
  match trim whole with
  | [] => none
  | '[' :: rest => span? whole 1 {} rest
  | c :: cs => if isOpening c then targeted? whole (c :: cs) else none

/-! ## Meaning -/

/-- Whether events can meet the directive: it asks for no span and no value. -/
def isStatic (d : Directive) : Bool := d.span.isNone && d.fields.all fun f => !f.2

/-- The start of the targets that the directive is for. -/
def lead (d : Directive) : List Char := (d.target.getD "").toList

/-- Whether the directive is for an event, whose only field is its message. -/
def covers (d : Directive) (e : Event) : Bool :=
  d.lead.isPrefixOf e.source.target.toList && d.fields.all fun f => f.1 == "message"

/-- How special a directive is: by the length of its target, then by its fields. -/
def weight (d : Directive) : Nat × Nat :=
  ((d.target.map fun t => t.utf8ByteSize + 1).getD 0, d.fields.length)

def isBelow (d d' : Directive) : Bool :=
  decide (d.weight.1 < d'.weight.1 ∨ d.weight.1 = d'.weight.1 ∧ d.weight.2 ≤ d'.weight.2)

/-- The more special of two directives, or else the later one. -/
def moreSpecial (d : Option Directive) (d' : Directive) : Option Directive :=
  match d with
  | none => some d'
  | some d => some (if d.isBelow d' then d' else d)

end Directive

structure Filter where
  directives : List Directive
deriving DecidableEq, Repr

namespace Filter

/-- Read a filter.  Without any directive errors are let through. -/
def ofText? (text : String) : Option Filter := do
  let ds ← ((Text.pieces text.toList).filter (· ≠ [])).mapM Directive.read?
  return ⟨if ds = [] then [{ limit := .upTo .error }] else ds⟩

/-- The directive that decides about an event. -/
def decisive? (f : Filter) (e : Event) : Option Directive :=
  (f.directives.filter fun d => d.isStatic && d.covers e).foldl Directive.moreSpecial none

/-- Whether an event is let through. -/
def enables (f : Filter) (e : Event) : Bool :=
  match f.decisive? e with
  | some d => d.limit.allows e.level
  | none => false

end Filter

end MouseConfig.Log
