import MouseConfig.Command.Resolve
import MouseConfig.Command.Tree
import MouseConfig.Command.Words

/-! # Finding the command

The words at the front are matched with the tree, node by node.  The needs of a node are met as soon
as it is matched, and a router makes its selection before the nodes below it are tried.  The walk
ends at the first node that performs a task.
-/

namespace MouseConfig

/-- Where a walk ends. -/
structure Target where
  command : String
  task : Task
deriving DecidableEq, Repr

namespace Step

variable {σ : Type}

/-- Take the word that chooses among the commands below a node. -/
def nextWord (node : String) : Step σ String := do
  let some (word, rest) := Words.takeFirst? (← get).args | throw (.usage (.missingCommand node))
  modify fun s => { s with args := rest }
  return word

/-- Take an index, if one comes next. -/
def nextIndex? : Step σ (Option Nat) := do
  match Words.takeIndex? (← get).args with
  | none => return none
  | some (index, rest) =>
    modify fun s => { s with args := rest }
    return some index

/-- The index that comes next, or else the active entry. -/
def nextIndexOr (active : Step σ Nat) : Step σ Nat := do
  match ← nextIndex? with
  | some index => return index
  | none => active

/-- A command of a router has to follow. -/
def expectMore (node : String) : Step σ Unit := do
  if (← get).args.isEmpty then throw (.usage (.missingCommand node))

end Step

open Step

variable {σ : Type}

/-- Make the selection of a router. -/
def Router.select (node : String) : Router → Step σ Unit
  | profile => do
    expectMore node
    selectProfile (← nextIndexOr activeProfile)
  | resolution => do
    expectMore node
    selectResolution (← nextIndexOr activeResolution)
  | button => do
    if let some index ← nextIndex? then selectButton index

variable [DeviceService σ]

mutual

/-- Go on from a node that has been matched. -/
def Node.enter : Node → Step σ Target
  | ⟨name, _, _, requirement, handler, children⟩ => do
    note (Log.debug .dispatch s!"Matched command '{name}'")
    resolve requirement
    match handler with
    | some (.perform task) => return ⟨name, task⟩
    | some (.route router) =>
      router.select name
      enterChild (← nextWord name) children
    | none => enterChild (← nextWord name) children

/-- Go on from the first node of a list that has the name. -/
def enterChild (word : String) : List Node → Step σ Target
  | [] => throw (.usage (.unknownCommand word))
  | c :: rest => if c.name == word then c.enter else enterChild word rest

end

/-- Find the command that the words name. -/
def Node.walk (n : Node) : Step σ Target := do
  enterChild (← nextWord n.name) n.children

/-- The first node of the name is entered. -/
theorem enterChild_eq (word : String) (nodes : List Node) :
    enterChild word nodes = (match nodes.find? fun c => c.name == word with
      | some c => c.enter
      | none => throw (.usage (.unknownCommand word)) : Step σ Target) := by
  induction nodes with
  | nil => simp [enterChild]
  | cons c rest ih =>
    rw [enterChild, ih, List.find?_cons]
    cases c.name == word <;> rfl

/-- A node that has been matched performs its task, or goes on like a walk of its own. -/
theorem Node.enter_eq (n : Node) :
    n.enter = (do
      note (Log.debug .dispatch s!"Matched command '{n.name}'")
      resolve n.requirement
      match n.handler with
      | some (.perform task) => return ⟨n.name, task⟩
      | some (.route router) =>
        router.select n.name
        n.walk
      | none => n.walk : Step σ Target) := by
  obtain ⟨name, hint, help, requirement, handler, children⟩ := n
  rcases handler with _ | _ | _ <;> simp only [enter, walk]

end MouseConfig
