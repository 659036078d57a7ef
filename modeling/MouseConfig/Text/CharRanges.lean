/-! # Sets of characters by their codes -/

namespace MouseConfig.Text

/-- First and last codes of ranges, in increasing order. -/
abbrev CharRanges := Array (Nat × Nat)

def CharRanges.contains (ranges : CharRanges) (c : Char) : Bool :=
  ranges.any fun r => r.1 ≤ c.toNat && c.toNat ≤ r.2

end MouseConfig.Text
