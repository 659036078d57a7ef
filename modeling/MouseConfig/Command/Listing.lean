import MouseConfig.Command.Tree

/-! # The listing of commands

One line for each node that has a help text, depth first and in order.  A node without one adds
its name to the lines of the nodes below it.  The lines are made one at a time: a cursor holds the
nodes that are still to come, with the words that lead to them.
-/

namespace MouseConfig.Listing

/-- The width that a command is filled up to. -/
def width : Nat := 40

/-- The least number of dots after a command. -/
def minimalFill : Nat := 4

/-- The words that lead to the nodes below a node. -/
def below (lead : String) (n : Node) : String := lead ++ n.call ++ " "

/-- The line of a node. -/
def line (lead : String) (n : Node) (help : String) : String :=
  let command := lead ++ n.call
  let dots := String.ofList (List.replicate (max (width - command.length) minimalFill) '.')
  "    " ++ command ++ " " ++ dots ++ " " ++ help

/-- Siblings that are still to come. -/
structure Frame where
  lead : String
  nodes : List Node

abbrev Cursor := List Frame

mutual

def weight : Node → Nat
  | ⟨_, _, _, _, _, children⟩ => 2 + weights children

def weights : List Node → Nat
  | [] => 0
  | n :: rest => weight n + weights rest

end

/-- How much there is left to pass. -/
def Cursor.weight : Cursor → Nat
  | [] => 0
  | f :: rest => 1 + weights f.nodes + Cursor.weight rest

theorem weight_eq (n : Node) : weight n = 2 + weights n.children := by cases n; rw [weight]

namespace Cursor

/-- At the first node below `n`. -/
def start (lead : String) (n : Node) : Cursor := [⟨below lead n, n.children⟩]

/-- Pass the first node of a frame. -/
def pass (lead : String) (n : Node) (rest : List Node) (c : Cursor) : Cursor :=
  let after : Cursor := ⟨lead, rest⟩ :: c
  if n.isLeaf then after else ⟨below lead n, n.children⟩ :: after

theorem weight_pass_lt (lead : String) (n : Node) (rest : List Node) (c : Cursor) :
    (pass lead n rest c).weight < weight (⟨lead, n :: rest⟩ :: c) := by
  unfold pass
  split <;> simp only [weight, weights, weight_eq] <;> omega

/-- The next line, and where the cursor stands after it. -/
def next? : Cursor → Option (String × Cursor)
  | [] => none
  | ⟨_, []⟩ :: c => next? c
  | ⟨lead, n :: rest⟩ :: c =>
    match n.help with
    | some help => some (line lead n help, pass lead n rest c)
    | none => next? (pass lead n rest c)
termination_by c => c.weight
decreasing_by
  · simp [weight, weights]
  · exact weight_pass_lt lead n rest c

theorem weight_lt_of_next? {c c' : Cursor} {l : String} (h : next? c = some (l, c')) :
    c'.weight < c.weight := by
  fun_induction next? c with
  | case1 => simp at h
  | case2 lead c ih => have := ih h; simp [weight, weights]; omega
  | case3 lead n rest c help hh =>
    obtain ⟨rfl, rfl⟩ : line lead n help = l ∧ pass lead n rest c = c' := by simpa using h
    exact weight_pass_lt lead n rest c
  | case4 lead n rest c hh ih => exact Nat.lt_trans (ih h) (weight_pass_lt lead n rest c)

/-- All lines that are still to come. -/
def lines (c : Cursor) : List String :=
  match _h : c.next? with
  | none => []
  | some (l, c') => l :: lines c'
termination_by c.weight
decreasing_by exact weight_lt_of_next? _h

end Cursor

end MouseConfig.Listing

namespace MouseConfig

/-- The lines of everything below a node; `lead` stands in front of each. -/
def Node.listing (lead : String) (n : Node) : List String := (Listing.Cursor.start lead n).lines

end MouseConfig
