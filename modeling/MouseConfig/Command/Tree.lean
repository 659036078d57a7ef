import MouseConfig.Command.Requirement
import MouseConfig.Text.Outline

/-! # Trees of commands

A line of words is matched against a tree of nodes.  A node says what has to be there before it
runs, and has a handler, nodes below it, or both.  A handler performs a task, or makes a selection
and goes on with the nodes below.
-/

namespace MouseConfig

/-- What a command does in the end. -/
inductive Task where
  | info | list | changeButton | switchVolumeKeys
  | buttonGet | buttonSet
  | activeProfileGet | activeProfileSet
  | activeResolutionGet | activeResolutionSet
  | dpiGet | dpiSet
  /-- Note that the command was reached. -/
  | record
deriving DecidableEq, Repr

/-- A selection on the way to a task, by an index or else of the active entry. -/
inductive Router where
  | profile | resolution | button
deriving DecidableEq, Repr

inductive Handler where
  | route (router : Router)
  | perform (task : Task)
deriving DecidableEq, Repr

structure Node where
  name : String
  /-- A hint at the arguments, for the usage. -/
  hint : Option String := none
  help : Option String := none
  requirement : Requirement := .nothing
  handler : Option Handler := none
  children : List Node := []

/-- Why a tree of commands is refused. -/
inductive TreeError where
  | duplicateName (parent name : String)
  | missingHandler (name : String)
  | requirementDecreases (parent child : String)
deriving DecidableEq, Repr

namespace TreeError

def message : TreeError → String
  | duplicateName parent name => s!"Duplicate command '{name}' under '{parent}'"
  | missingHandler name => s!"Command '{name}' has no subcommands and no handler"
  | requirementDecreases parent child =>
    s!"Command '{child}' requires less than its parent '{parent}'"

end TreeError

namespace Node

def isLeaf (n : Node) : Bool := n.children.isEmpty

/-- The first child of a name. -/
def child? (n : Node) (name : String) : Option Node := n.children.find? fun c => c.name == name

/-- The node at the end of a path of names. -/
def descend? (n : Node) : List String → Option Node
  | [] => some n
  | name :: path => (n.child? name).bind fun c => c.descend? path

/-- The name with its hint. -/
def call (n : Node) : String :=
  match n.hint with
  | some hint => n.name ++ " " ++ hint
  | none => n.name

/-- The first name that has come before, in the list or among those `seen`. -/
def repeated? (seen : List String) : List String → Option String
  | [] => none
  | name :: rest => if name ∈ seen then some name else repeated? (name :: seen) rest

/-- Siblings have different names. -/
def checkSiblings (n : Node) : Except TreeError Unit :=
  match repeated? [] (n.children.map Node.name) with
  | some name => .error (.duplicateName n.name name)
  | none => .ok ()

mutual

/-- Check a node below the root and all below it. -/
def check : Node → Except TreeError Unit
  | ⟨name, hint, help, requirement, handler, children⟩ => do
    if children.isEmpty && handler.isNone then throw (.missingHandler name)
    checkSiblings ⟨name, hint, help, requirement, handler, children⟩
    checkBelow name requirement children

/-- Check the children of a node, none of which may need less than the node. -/
def checkBelow (parent : String) (least : Requirement) : List Node → Except TreeError Unit
  | [] => .ok ()
  | c :: rest => do
    if c.requirement < least then throw (.requirementDecreases parent c.name)
    c.check
    checkBelow parent least rest

end

mutual

def outline : Node → Outline
  | ⟨name, hint, help, requirement, handler, children⟩ =>
    .record "CommandNode" [
      ("name", .text name), ("args_hint", .optional .text hint), ("help", .optional .text help),
      ("requirement", .leaf requirement.name), ("has_handler", .flag handler.isSome),
      ("children", .list (outlines children))]

def outlines : List Node → List Outline
  | [] => []
  | c :: rest => c.outline :: outlines rest

end

end Node

namespace Tree

/-- Check a whole tree.  The root never runs: it needs no handler and bounds no requirement. -/
def check (root : Node) : Except TreeError Unit := do
  Node.checkBelow root.name .nothing root.children
  root.checkSiblings

end Tree

/-- A tree of commands that has passed its check. -/
structure Tree where
  root : Node
  checked : Tree.check root = .ok ()

namespace Tree

def ofRoot (root : Node) : Except TreeError Tree :=
  match h : check root with
  | .ok () => .ok ⟨root, h⟩
  | .error e => .error e

def outline (t : Tree) : Outline := .record "CommandTree" [("root", t.root.outline)]

end Tree

end MouseConfig
