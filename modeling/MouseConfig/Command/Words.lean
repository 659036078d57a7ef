import MouseConfig.Text.Numeral

/-! # The words of a command line

Commands and indices are taken from the front, the path of the device from the back.
-/

namespace MouseConfig.Words

def takeFirst? : List String → Option (String × List String)
  | [] => none
  | word :: rest => some (word, rest)

def takeLast? (words : List String) : Option (String × List String) :=
  words.getLast?.map fun word => (word, words.dropLast)

/-- Take an index from the front, if one is there. -/
def takeIndex? (words : List String) : Option (Nat × List String) :=
  match words with
  | [] => none
  | word :: rest => (Numeral.index? word).map fun index => (index, rest)

end MouseConfig.Words
