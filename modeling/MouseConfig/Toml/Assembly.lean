import MouseConfig.Toml.Value

/-! # Assembling tables

A text is a list of statements.  Each one names a place by a path of keys, and tables come into
being on the way.  A header may define a table once, after headers of its parts; a dotted key adds
to tables that dotted keys have made; nothing is given twice.
-/

namespace MouseConfig.Toml

/-- How a table has come into being. -/
inductive Origin where
  /-- On the way to a table with a longer header. -/
  | implied
  /-- On the way of a dotted key. -/
  | dotted
  /-- By a header of its own. -/
  | defined
deriving DecidableEq, Repr

/-- A part of a table that is being assembled. -/
inductive Item where
  | value (v : Value)
  | table (origin : Origin) (entries : List (String × Item))
  | tables (elements : List (List (String × Item)))

namespace Item

mutual

/-- The finished value; `wrap` makes one of the entries of a table. -/
def close (wrap : List (String × Value) → Value) : Item → Value
  | value v => v
  | table _ es => wrap (closeEntries wrap es)
  | tables ts => .array (closeTables wrap ts)

def closeEntries (wrap : List (String × Value) → Value) :
    List (String × Item) → List (String × Value)
  | [] => []
  | (k, i) :: rest => (k, i.close wrap) :: closeEntries wrap rest

def closeTables (wrap : List (String × Value) → Value) :
    List (List (String × Item)) → List Value
  | [] => []
  | es :: rest => wrap (closeEntries wrap es) :: closeTables wrap rest

end

end Item

/-- A table that is being assembled. -/
abbrev Table := List (String × Item)

namespace Table

open Entries (put erase)

/-- Change the table that a header path leads to.  The path passes every table, and of several
tables the last. -/
def atHeader (f : Table → Option Table) : List String → Table → Option Table
  | [], t => f t
  | k :: path, t =>
    match t.lookup k with
    | none => (atHeader f path []).map fun u => put k (.table .implied u) t
    | some (.table origin u) =>
      (atHeader f path u).map fun u' => put k (.table origin u') t
    | some (.tables us) =>
      us.getLast?.bind fun u =>
        (atHeader f path u).map fun u' => put k (.tables (us.dropLast ++ [u'])) t
    | some (.value _) => none

/-- Give a value to a dotted key.  All tables but the last may be implied ones, none may have been
defined. -/
def assign (v : Value) : List String → Table → Option Table
  | [], _ => none
  | [k], t => if (t.lookup k).isNone then some (put k (.value v) t) else none
  | k :: k' :: path, t =>
    match t.lookup k with
    | none => (assign v (k' :: path) []).map fun u => put k (.table .dotted u) t
    | some (.table .dotted u) =>
      (assign v (k' :: path) u).map fun u' => put k (.table .dotted u') t
    | some (.table .implied u) =>
      if path = [] then none
      else (assign v (k' :: path) u).map fun u' => put k (.table .implied u') t
    | some (.tables us) =>
      if path = [] then none
      else us.getLast?.bind fun u =>
        (assign v (k' :: path) u).map fun u' => put k (.tables (us.dropLast ++ [u'])) t
    | some _ => none

/-- Define a table in its parent.  An implied table keeps its entries and moves to the end. -/
def define (k : String) (parent : Table) : Option Table :=
  match parent.lookup k with
  | none => some (put k (.table .defined []) parent)
  | some (.table .implied u) => some (put k (.table .defined u) (erase k parent))
  | some _ => none

/-- Add an empty table to a list of tables. -/
def extend (k : String) (parent : Table) : Option Table :=
  match parent.lookup k with
  | none => some (put k (.tables [[]]) parent)
  | some (.tables us) => some (put k (.tables (us ++ [[]])) parent)
  | some _ => none

end Table

inductive Statement where
  /-- `path = v` -/
  | assign (path : List String) (v : Value)
  /-- `[path]` -/
  | define (path : List String)
  /-- `[[path]]` -/
  | extend (path : List String)

/-- The tables assembled so far, and the header of the current one. -/
structure Assembly where
  root : Table := []
  header : List String := []

namespace Assembly

/-- Apply a change to the parent of the last key of a path. -/
def atParent (f : String → Table → Option Table) (path : List String) (t : Table) : Option Table :=
  path.getLast?.bind fun k => Table.atHeader (f k) path.dropLast t

def step (a : Assembly) : Statement → Option Assembly
  | .assign path v =>
    (Table.atHeader (Table.assign v path) a.header a.root).map fun t => { a with root := t }
  | .define path => (atParent Table.define path a.root).map fun t => ⟨t, path⟩
  | .extend path => (atParent Table.extend path a.root).map fun t => ⟨t, path⟩

/-- Assemble the entries of a text. -/
def run? (statements : List Statement) : Option (List (String × Value)) :=
  (statements.foldlM step {}).map fun a => Item.closeEntries .table a.root

/-- Assemble the entries of an inline table. -/
def inline? (pairs : List (List String × Value)) : Option Value :=
  (pairs.foldlM (fun t p => Table.assign p.2 p.1 t) ([] : Table)).map
    fun t => .inlineTable (Item.closeEntries .inlineTable t)

end Assembly

end MouseConfig.Toml
