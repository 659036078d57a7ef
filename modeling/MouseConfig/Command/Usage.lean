import MouseConfig.Command.Listing
import MouseConfig.Text.Lines

/-! # The usage text -/

namespace MouseConfig.Usage

/-- Global options with what they do. -/
def options : List (String × String) := [
  ("--verbose[=raw]", "Print debugging output, with protocol output if requested"),
  ("--help", "Print this help"),
  ("--version", "Print version information")]

def optionLine (option text : String) : String :=
  "    " ++ option ++ " " ++ String.ofList (List.replicate (20 - option.length) '.') ++ " " ++ text

def lines (t : Tree) : List String :=
  [s!"Usage: {t.root.name} [options] [command] /path/to/device", "", "Commands:"]
    ++ t.root.listing "" ++ ["", "Options:"] ++ options.map fun o => optionLine o.1 o.2

def text (t : Tree) : String := Text.unlines (lines t)

/-- Below the heading stand the listing of the commands and the lines of the options, each under a
title. -/
theorem text_eq (t : Tree) :
    text t = "Usage: " ++ t.root.name ++ " [options] [command] /path/to/device\n" ++
      "\nCommands:\n" ++ Text.unlines (t.root.listing "") ++
      "\nOptions:\n" ++ Text.unlines (options.map fun o => optionLine o.1 o.2) := by
  have words : " [options] [command] /path/to/device" ++ "\n" =
    " [options] [command] /path/to/device\n" := rfl
  have commands : Text.unlines ["", "Commands:"] = "\nCommands:\n" := rfl
  have titled : Text.unlines ["", "Options:"] = "\nOptions:\n" := rfl
  rw [← words, ← commands, ← titled, text, lines, Text.unlines_append, Text.unlines_append,
    Text.unlines_append, Text.unlines_cons]
  simp only [toString, String.append_assoc]

/-- The dots after an option end where its text starts, at one column for all options. -/
theorem exists_front_of_optionLine :
    ∀ o ∈ options, ∃ front, optionLine o.1 o.2 = front ++ o.2 ∧ front.length = 26 := by
  intro o ho
  have short : o.1.length ≤ 20 := by
    revert o
    decide
  refine ⟨"    " ++ o.1 ++ " " ++ String.ofList (List.replicate (20 - o.1.length) '.') ++ " ", rfl, ?_⟩
  have blanks : "    ".length = 4 := by decide
  have blank : " ".length = 1 := by decide
  simp only [String.length_append, String.length_ofList, List.length_replicate, blanks, blank]
  omega

end MouseConfig.Usage
