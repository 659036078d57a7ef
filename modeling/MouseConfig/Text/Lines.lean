/-! # Lines of text and pieces of lines -/

namespace MouseConfig.Text

/-- The text that consists of the given lines, each one ended. -/
def unlines (lines : List String) : String := lines.foldr (fun line rest => line ++ "\n" ++ rest) ""

@[simp] theorem unlines_nil : unlines [] = "" := rfl

@[simp] theorem unlines_cons (line : String) (rest : List String) :
    unlines (line :: rest) = line ++ "\n" ++ unlines rest := rfl

theorem unlines_append (lines rest : List String) :
    unlines (lines ++ rest) = unlines lines ++ unlines rest := by
  induction lines with
  | nil => simp
  | cons line lines ih => simp [ih, String.append_assoc]

/-- The characters before and after the first `mark`. -/
def cut (mark : Char) : List Char → Option (List Char × List Char)
  | [] => none
  | c :: rest =>
    if c = mark then some ([], rest) else (cut mark rest).map fun p => (c :: p.1, p.2)

/-- A text is cut exactly where its first `mark` stands. -/
theorem cut_eq_some_iff {mark : Char} {cs before after : List Char} :
    cut mark cs = some (before, after) ↔ cs = before ++ mark :: after ∧ mark ∉ before := by
  induction cs generalizing before with
  | nil => simp [cut]
  | cons c rest ih =>
    by_cases hc : c = mark
    · subst hc
      cases before with
      | nil => simp [cut]
      | cons b bs => simp [cut]; grind
    · cases before with
      | nil => simp [cut, hc]
      | cons b bs => simp [cut, hc, ih]; grind

/-- The pieces of a text between commas. -/
def pieces (cs : List Char) : List (List Char) := cs.splitOn ','

end MouseConfig.Text
