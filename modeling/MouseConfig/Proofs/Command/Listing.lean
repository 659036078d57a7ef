import MouseConfig.Command.Listing

/-! # The listing, node by node

The cursor finds the next line on a stack of siblings that are still to come.  Told from the tree
alone, the lines below a node are, for each of its children in order, the line of the child and then
the lines below it.  A cursor that has given a line holds just the lines that come after it, so it
gives all of them and ends.
-/

namespace MouseConfig.Listing

/-! ## One line -/

/-- The words that lead to a node, its name and its hint. -/
def command (lead : String) (n : Node) : String :=
  lead ++ n.name ++ (n.hint.map (" " ++ ·)).getD ""

/-- A command with dots after it, and its help text. -/
def row (command help : String) : String :=
  "    " ++ command ++ " " ++ String.ofList (List.replicate (max (40 - command.length) 4) '.') ++
    " " ++ help

theorem append_call (lead : String) (n : Node) : lead ++ n.call = command lead n := by
  rw [Node.call, command]
  cases n.hint with
  | some hint => simp [String.append_assoc]
  | none => simp

theorem below_eq (lead : String) (n : Node) : below lead n = command lead n ++ " " := by
  rw [below, append_call]

theorem line_eq_row (lead : String) (n : Node) (help : String) :
    line lead n help = row (command lead n) help := by
  simp only [line, append_call, row, width, minimalFill]

/-- The help text starts where the dots end, at one column unless the command is long. -/
theorem exists_front_of_row (command help : String) :
    ∃ front, row command help = front ++ help ∧ front.length = 6 + max 40 (command.length + 4) := by
  refine ⟨"    " ++ command ++ " " ++
    String.ofList (List.replicate (max (40 - command.length) 4) '.') ++ " ", rfl, ?_⟩
  have blanks : "    ".length = 4 := by decide
  have blank : " ".length = 1 := by decide
  simp only [String.length_append, String.length_ofList, List.length_replicate, blanks, blank]
  omega

/-! ## All lines -/

/-- The line of a node, if it has a help text. -/
def ownRows (lead : String) (n : Node) : List String := n.help.toList.map (row (command lead n))

mutual

/-- The line of a node and those of all nodes below it. -/
def rows (lead : String) : Node → List String
  | ⟨name, hint, help, requirement, handler, children⟩ =>
    let n : Node := ⟨name, hint, help, requirement, handler, children⟩
    ownRows lead n ++ rowsOf (command lead n ++ " ") children

def rowsOf (lead : String) : List Node → List String
  | [] => []
  | n :: rest => rows lead n ++ rowsOf lead rest

end

theorem rows_eq (lead : String) (n : Node) :
    rows lead n = ownRows lead n ++ rowsOf (command lead n ++ " ") n.children := by
  cases n
  rw [rows]

theorem rowsOf_eq_flatMap (lead : String) (nodes : List Node) :
    rowsOf lead nodes = nodes.flatMap (rows lead) := by
  induction nodes with
  | nil => rw [rowsOf, List.flatMap_nil]
  | cons n rest ih => rw [rowsOf, ih, List.flatMap_cons]

namespace Cursor

/-- The lines that a cursor still holds, told from its nodes. -/
def held (c : Cursor) : List String := c.flatMap fun f => rowsOf f.lead f.nodes

theorem held_cons (lead : String) (nodes : List Node) (c : Cursor) :
    held (⟨lead, nodes⟩ :: c) = rowsOf lead nodes ++ held c := List.flatMap_cons

/-- A node that is passed gives way to the nodes below it; where there are none, nothing is held in
its place. -/
theorem held_pass (lead : String) (n : Node) (rest : List Node) (c : Cursor) :
    held (pass lead n rest c) =
      rowsOf (command lead n ++ " ") n.children ++ held (⟨lead, rest⟩ :: c) := by
  rw [pass, Node.isLeaf, below_eq]
  cases n.children with
  | nil => rw [rowsOf]; rfl
  | cons child children => exact held_cons _ _ _

theorem held_node (lead : String) (n : Node) (rest : List Node) (c : Cursor) :
    held (⟨lead, n :: rest⟩ :: c) = ownRows lead n ++ held (pass lead n rest c) := by
  rw [held_pass, held_cons, held_cons, rowsOf, rows_eq]
  simp only [List.append_assoc]

/-- The next line is the first one held, and all others are held after it. -/
theorem held_of_next? (c : Cursor) :
    match next? c with
    | none => held c = []
    | some (l, c') => held c = l :: held c' := by
  fun_induction next? c with
  | case1 => rfl
  | case2 lead c ih =>
      have spent : held (⟨lead, []⟩ :: c) = held c := by rw [held_cons, rowsOf, List.nil_append]
      rw [spent]
      exact ih
  | case3 lead n rest c help hh =>
      rw [held_node, ownRows, hh, line_eq_row]
      rfl
  | case4 lead n rest c hh ih =>
      have silent : held (⟨lead, n :: rest⟩ :: c) = held (pass lead n rest c) := by
        rw [held_node, ownRows, hh]
        rfl
      rw [silent]
      exact ih

/-! ## One line after the other -/

/-- The cursor gives these lines one after the other, and then no more. -/
inductive Yields : Cursor → List String → Prop
  | ended {c : Cursor} (h : next? c = none) : Yields c []
  | next {c c' : Cursor} {l : String} {rest : List String} (h : next? c = some (l, c'))
      (later : Yields c' rest) : Yields c (l :: rest)

theorem yields_lines (c : Cursor) : c.Yields c.lines := by
  fun_induction lines c with
  | case1 c h => exact .ended h
  | case2 c l c' h ih => exact .next h ih

/-- What a cursor gives is what it holds. -/
theorem Yields.eq_held {c : Cursor} {ls : List String} (h : c.Yields ls) : ls = held c := by
  induction h with
  | @ended c h =>
      have none := held_of_next? c
      rw [h] at none
      exact none.symm
  | @next c c' l rest h _ ih =>
      have first := held_of_next? c
      rw [h] at first
      rw [ih]
      exact first.symm

end Cursor

end MouseConfig.Listing

namespace MouseConfig.Node

open Listing

theorem listing_eq_rowsOf (lead : String) (n : Node) :
    n.listing lead = rowsOf (command lead n ++ " ") n.children := by
  have held := (Cursor.yields_lines (.start lead n)).eq_held
  rw [listing, held, Cursor.start, Cursor.held_cons, below_eq]
  exact List.append_nil _

/-- The cursor below a node ends, and gives for each child in order its line, if it has a help text,
and then the lines below it.  Help texts start at one column after all but long commands. -/
theorem listing_depth_first (lead : String) (n : Node) :
    let words := command lead n ++ " "
    (Cursor.start lead n).Yields (n.listing lead) ∧
      n.listing lead = (n.children.flatMap fun c =>
        c.help.toList.map (row (command words c)) ++ c.listing words) ∧
      ∀ command help, command.length ≤ 36 →
        ∃ front, row command help = front ++ help ∧ front.length = 46 := by
  intro words
  refine ⟨Cursor.yields_lines _, ?_, fun command help short => ?_⟩
  · rw [listing_eq_rowsOf, rowsOf_eq_flatMap]
    congr 1
    funext c
    rw [rows_eq, listing_eq_rowsOf, ownRows]
  · obtain ⟨front, split, long⟩ := exists_front_of_row command help
    exact ⟨front, split, by omega⟩

/-- A node without a help text adds its name to the line below it, which comes before the line of
the next one. -/
theorem listing_depth_first_of_tool :
    let get : Node := { name := "get", hint := some "N", help := some "Get it" }
    let active : Node := { name := "active", children := [get] }
    let info : Node := { name := "info", help := some "Show it" }
    let tool : Node := { name := "tool", hint := some "-v", children := [active, info] }
    tool.listing "sudo " =
        ["    sudo tool -v active get N ............... Get it",
          "    sudo tool -v info ....................... Show it"] ∧
      "sudo tool -v info".length ≤ 36 ∧
      ∃ front, row "sudo tool -v info" "Show it" = front ++ "Show it" ∧ front.length = 46 := by
  intro get active info tool
  have short : "sudo tool -v info".length ≤ 36 := by decide
  refine ⟨?_, short, (listing_depth_first "" tool).2.2 _ _ short⟩
  rw [(listing_depth_first "sudo " tool).2.1]
  have leaf (lead : String) : get.listing lead = [] ∧ info.listing lead = [] :=
    ⟨(listing_depth_first lead get).2.1, (listing_depth_first lead info).2.1⟩
  have below (lead : String) : active.listing lead =
      [row (command (command lead active ++ " ") get) "Get it"] := by
    rw [(listing_depth_first lead active).2.1]
    simp [active, get, (leaf _).1]
  simp only [tool, List.flatMap_cons, List.flatMap_nil, below, (leaf _).2]
  decide

end MouseConfig.Node
