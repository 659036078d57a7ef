import MouseConfig.Text.Hexadecimal
import MouseConfig.Text.Letter

/-! # Patterns

A pattern describes texts: characters stand for themselves, brackets for one of several characters,
parentheses for groups, bars for alternatives, and a mark after an item for its repetition.  All
that matters here is whether a text is a pattern.

Patterns are matched without tables of characters.  So digits, blanks, words and their edges, and
letters that stand for both cases, are no part of them unless bytes are matched.  Where bytes are
matched, nothing may match a part of a character.  A pattern ends where a brace closes, so nothing
in it can be repeated a number of times.
-/

namespace MouseConfig.Log.Pattern

/-- Groups, repetitions and the like may be nested as deep as this. -/
def depthLimit : Nat := 250

/-- How deep parts side by side are nested.  A part on its own adds nothing. -/
def depthOf : List Nat → Nat
  | [] => 0
  | [d] => d
  | ds => ds.foldl max 0 + 1

/-! ## Modes -/

/-- How the rest of a group is read. -/
structure Mode where
  /-- Letters stand for both cases. -/
  anyCase : Bool := false
  /-- Characters are matched, and not bytes. -/
  wide : Bool := true
  /-- Blanks and comments do not count. -/
  spaced : Bool := false
deriving DecidableEq, Repr

namespace Mode

/-- Letters for settings, of which each is there once; those after a minus sign are switched off. -/
def areMarks (marks : List Char) : Bool :=
  marks.all ("-imsUuRx".toList.contains ·) && decide marks.Nodup && marks.getLast? != some '-'

/-- A setting under some marks. -/
def setting (marks : List Char) (mark : Char) (before : Bool) : Bool :=
  if (marks.takeWhile (· != '-')).contains mark then true
  else if marks.contains mark then false
  else before

def apply (m : Mode) (marks : List Char) : Mode where
  anyCase := setting marks 'i' m.anyCase
  wide := setting marks 'u' m.wide
  spaced := setting marks 'x' m.spaced

/-- Skip blanks and comments, which end with their line. -/
def skipTrivia (inComment : Bool) : List Char → List Char
  | [] => []
  | c :: rest =>
    if inComment then skipTrivia (c != '\n') rest
    else if Text.isBlank c then skipTrivia false rest
    else if c == '#' then skipTrivia true rest
    else c :: rest

/-- Skip what does not count. -/
def skip (m : Mode) (cs : List Char) : List Char := if m.spaced then skipTrivia false cs else cs

/-- The next character that counts; the mark of a comment is passed over, but not the comment. -/
def peek? (m : Mode) (cs : List Char) : Option Char :=
  if m.spaced then
    match cs.dropWhile Text.isBlank with
    | '#' :: rest => (rest.dropWhile Text.isBlank).head?
    | rest => rest.head?
  else cs.head?

end Mode

/-! ## Atoms -/

/-- What is met at one place of a text. -/
inductive Atom where
  /-- A character; by its code it may be a byte. -/
  | char (c : Char) (isByte : Bool)
  /-- Any character. -/
  | any
  /-- A digit, a blank or a part of a word, or anything else. -/
  | kind (isNegated : Bool)
  /-- An edge of a line or of the text. -/
  | edge
  /-- An edge of a word. -/
  | wordEdge
deriving DecidableEq, Repr

namespace Atom

def plain (c : Char) : Atom := char c false

/-- Whether an item may consist of the atom. -/
def isItem (m : Mode) : Atom → Bool
  | char c isByte => if m.wide then !m.anyCase else !isByte || decide (c.toNat < 128)
  | any => m.wide
  | kind isNegated => !m.wide && !isNegated
  | edge => true
  | wordEdge => !m.wide

/-- Whether the atom may be a member of a class. -/
def isMember (m : Mode) : Atom → Bool
  | char c _ => if m.wide then !m.anyCase else decide (c.toNat < 128)
  | kind isNegated => !m.wide && !isNegated
  | _ => false

/-- Whether two atoms are the ends of a range. -/
def isRange : Atom → Atom → Bool
  | char c _, char d _ => decide (c ≤ d)
  | _, _ => false

end Atom

/-- A number of hexadecimal digits. -/
def hexDigits? (m : Mode) : Nat → List Char → Option (List Char × List Char)
  | 0, cs => some ([], cs)
  | n + 1, cs =>
    match m.skip cs with
    | [] => none
    | c :: rest => (hexDigits? m n rest).map fun p => (c :: p.1, p.2)

/-- A character by its code of some digits. -/
def code? (m : Mode) (size : Nat) (isByte : Bool) (cs : List Char) :
    Option (Atom × List Char) := do
  let (digits, rest) ← hexDigits? m size cs
  return (.char (← Text.scalar? digits) isByte, rest)

/-- The control characters that have a letter. -/
def control? : Char → Option Char
  | 'a' => some '\x07'
  | 't' => some '\t'
  | 'n' => some '\n'
  | 'v' => some '\x0b'
  | 'f' => some '\x0c'
  | 'r' => some '\r'
  | _ => none

/-- What one character after a backslash stands for. -/
def shortEscape? (c : Char) : Option Atom :=
  match control? c with
  | some d => some (.plain d)
  | none =>
    if ['d', 's', 'w'].contains c then some (.kind false)
    else if ['D', 'S', 'W'].contains c then some (.kind true)
    else if ['A', 'z'].contains c then some .edge
    else if ['b', 'B', '<', '>'].contains c then some .wordEdge
    else if c.toNat < 128 ∧ !c.isAlphanum then some (.plain c)
    else none

/-- An escape after its backslash. -/
def escape? (m : Mode) : List Char → Option (Atom × List Char)
  | 'x' :: rest => code? m 2 true rest
  | 'u' :: rest => code? m 4 false rest
  | 'U' :: rest => code? m 8 false rest
  | c :: rest => (shortEscape? c).map (·, rest)
  | [] => none

/-! ## Classes -/

/-- What is known of a class in which the text is. -/
structure Bracket where
  /-- Nothing but minus signs has been read. -/
  isFresh : Bool := true
  /-- The depth of what the last operator applies to. -/
  left : Option Nat := none
  /-- The depths of the members since. -/
  members : List Nat := []
deriving DecidableEq, Repr

namespace Bracket

def depth (b : Bracket) : Nat :=
  match b.left with
  | none => depthOf b.members
  | some d => max d (depthOf b.members) + 1

def add (b : Bracket) (depth : Nat) : Bracket :=
  { b with isFresh := false, members := depth :: b.members }

/-- Go on with the right side of an operator. -/
def operate (b : Bracket) : Bracket := { isFresh := false, left := some b.depth }

end Bracket

namespace Class

def names : List String :=
  ["alnum", "alpha", "ascii", "blank", "cntrl", "digit", "graph", "lower", "print", "punct",
    "space", "upper", "word", "xdigit"]

/-- What follows a name and its closing mark. -/
def afterName? (cs : List Char) : Option (List Char) :=
  match cs.dropWhile (· != ':') with
  | ':' :: ']' :: rest =>
    if names.contains (String.ofList (cs.takeWhile (· != ':'))) then some rest else none
  | _ => none

/-- A named class after its bracket: whether it is negated, and what follows. -/
def named? : List Char → Option (Bool × List Char)
  | ':' :: '^' :: rest => (afterName? rest).map (true, ·)
  | ':' :: rest => (afterName? rest).map (false, ·)
  | _ => none

/-- The members of a class, after the bracket.  What is no member of a set of bytes may be part of a
character, so such a class is not negated. -/
def interior? (m : Mode) (cs : List Char) : Option (List Char) :=
  match m.skip cs with
  | '^' :: rest => if m.wide then some rest else none
  | rest => some rest

def member? (m : Mode) : List Char → Option (Atom × List Char)
  | '\\' :: rest => escape? m rest
  | c :: rest => some (.plain c, rest)
  | [] => none

/-- What follows a member or a range. -/
def afterRange? (m : Mode) (cs : List Char) : Option (List Char) := do
  let (first, rest) ← member? m cs
  if !first.isMember m then none
  else
    match m.skip rest with
    | '-' :: rest =>
      if m.peek? rest = some ']' ∨ m.peek? rest = some '-' then some ('-' :: rest)
      else
        let (last, rest) ← member? m (m.skip rest)
        if last.isMember m && first.isRange last then some rest else none
    | rest => some rest

/-- The depth of a class, and what follows it. -/
def read? (m : Mode) : (fuel : Nat) → Bracket → List Bracket → List Char →
    Option (Nat × List Char)
  | 0, _, _, _ => none
  | fuel + 1, b, outer, cs =>
    match m.skip cs with
    | [] => none
    | '[' :: rest =>
      match named? rest with
      | some (isNegated, rest) =>
        if m.wide && !m.anyCase || !m.wide && !isNegated then read? m fuel (b.add 0) outer rest
        else none
      | none => (interior? m rest).bind (read? m fuel {} (b :: outer))
    | c :: rest =>
      if b.isFresh && c == '-' then
        if (Atom.plain c).isMember m then
          read? m fuel { b with members := 0 :: b.members } outer rest
        else none
      else if c == ']' && !(b.isFresh && b.members.isEmpty) then
        match outer with
        | [] => some (b.depth + 1, rest)
        | b' :: outer => read? m fuel (b'.add (b.depth + 1)) outer rest
      else if ['&', '-', '~'].contains c && rest.head? == some c then
        read? m fuel b.operate outer rest.tail
      else if c == ']' && (Atom.plain c).isMember m then read? m fuel (b.add 0) outer rest
      else (afterRange? m (c :: rest)).bind (read? m fuel (b.add 0) outer)

end Class

/-! ## Groups -/

/-- What is known of a group in which the text is. -/
structure Group where
  mode : Mode := {}
  /-- The depths of the alternatives that are complete. -/
  branches : List Nat := []
  /-- The depths of the items since, the last one first.  Settings have none. -/
  items : List (Option Nat) := []
deriving DecidableEq, Repr

namespace Group

def branch (g : Group) : Nat := depthOf (g.items.map (·.getD 0))

def depth (g : Group) : Nat := depthOf (g.branch :: g.branches)

def add (g : Group) (depth : Nat) : Group := { g with items := some depth :: g.items }

/-- Go on with another alternative. -/
def divide (g : Group) : Group := { g with branches := g.branch :: g.branches, items := [] }

/-- Repeat the last item. -/
def repeated? (g : Group) : Option Group :=
  match g.items with
  | some depth :: items => some { g with items := some (depth + 1) :: items }
  | _ => none

/-- Change the mode of what follows. -/
def set (g : Group) (marks : List Char) : Group :=
  { g with mode := g.mode.apply marks, items := none :: g.items }

end Group

/-- What has been read of a pattern. -/
structure State where
  /-- The names of groups. -/
  names : List (List Char) := []
  group : Group := {}
  /-- The groups around this one, from the inside out. -/
  outer : List Group := []
deriving DecidableEq, Repr

namespace State

def enter (s : State) (mode : Mode) : State :=
  { s with group := { mode }, outer := s.group :: s.outer }

def leave? (s : State) : Option State :=
  match s.outer with
  | [] => none
  | g :: outer => some { s with group := g.add (s.group.depth + 1), outer }

def isName : List Char → Bool
  | [] => false
  | c :: cs =>
    (c == '_' || Text.isLetter c)
      && cs.all fun c => ['_', '.', '[', ']'].contains c || Text.isLetterOrNumber c

/-- A group with a name, from the name on. -/
def enterNamed? (s : State) (cs : List Char) : Option (State × List Char) :=
  let name := cs.takeWhile (· != '>')
  match cs.dropWhile (· != '>') with
  | _ :: rest =>
    if isName name && !s.names.contains name then
      some ({ s.enter s.group.mode with names := name :: s.names }, rest)
    else none
  | [] => none

/-- Settings for a group or for the rest of this one. -/
def enterMarked? (s : State) (cs : List Char) : Option (State × List Char) :=
  let goesOn (c : Char) := c != ':' && c != ')'
  let marks := cs.takeWhile goesOn
  if Mode.areMarks marks then
    match cs.dropWhile goesOn with
    | ':' :: rest => some (s.enter (s.group.mode.apply marks), rest)
    | _ :: rest => if marks = [] then none else some ({ s with group := s.group.set marks }, rest)
    | [] => none
  else none

/-- A group after its parenthesis. -/
def enter? (s : State) (cs : List Char) : Option (State × List Char) :=
  match s.group.mode.skip cs with
  | '?' :: 'P' :: '<' :: rest | '?' :: '<' :: rest => s.enterNamed? rest
  | '?' :: rest => s.enterMarked? rest
  | rest => some (s.enter s.group.mode, rest)

def addAtom? (s : State) (a : Atom) : Option State :=
  if a.isItem s.group.mode then some { s with group := s.group.add 0 } else none

/-- Repeat the last item, as often as possible or as rarely. -/
def repeated? (s : State) (cs : List Char) : Option (State × List Char) :=
  s.group.repeated?.map fun group =>
    ({ s with group }, if cs.head? = some '?' then cs.tail else cs)

/-- Read what stands at the front. -/
def step? (s : State) : List Char → Option (State × List Char)
  | '(' :: rest => s.enter? rest
  | ')' :: rest => s.leave?.map (·, rest)
  | '|' :: rest => some ({ s with group := s.group.divide }, rest)
  | '[' :: rest => do
    let m := s.group.mode
    let (depth, rest) ← Class.read? m (rest.length + 1) {} [] (← Class.interior? m rest)
    return ({ s with group := s.group.add depth }, rest)
  | '?' :: rest | '*' :: rest | '+' :: rest => s.repeated? rest
  | '\x7b' :: _ => none
  | '.' :: rest => (s.addAtom? .any).map (·, rest)
  | '^' :: rest | '$' :: rest => (s.addAtom? .edge).map (·, rest)
  | '\\' :: rest => do
    let (a, rest) ← escape? s.group.mode rest
    return (← s.addAtom? a, rest)
  | c :: rest => (s.addAtom? (.plain c)).map (·, rest)
  | [] => none

def run? : (fuel : Nat) → State → List Char → Option State
  | 0, _, _ => none
  | fuel + 1, s, cs =>
    match s.group.mode.skip cs with
    | [] => some s
    | cs => (s.step? cs).bind fun p => run? fuel p.1 p.2

end State

/-- Whether a text is a pattern. -/
def isWellFormed (cs : List Char) : Bool :=
  match State.run? (cs.length + 1) {} cs with
  | some s => s.outer.isEmpty && decide (s.group.depth ≤ depthLimit)
  | none => false

end MouseConfig.Log.Pattern
