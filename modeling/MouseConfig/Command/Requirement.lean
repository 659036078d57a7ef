/-! # What a command needs

Needs are ordered: a resolution needs a profile, and a profile needs a device.
-/

namespace MouseConfig

inductive Requirement where
  | nothing | device | profile | resolution
deriving DecidableEq, Repr

namespace Requirement

def rank : Requirement → Nat
  | nothing => 0
  | device => 1
  | profile => 2
  | resolution => 3

instance : LE Requirement := ⟨fun r s => r.rank ≤ s.rank⟩

instance : LT Requirement := ⟨fun r s => r.rank < s.rank⟩

instance (r s : Requirement) : Decidable (r ≤ s) := inferInstanceAs (Decidable (r.rank ≤ s.rank))

instance (r s : Requirement) : Decidable (r < s) := inferInstanceAs (Decidable (r.rank < s.rank))

theorem le_iff_rank {r s : Requirement} : r ≤ s ↔ r.rank ≤ s.rank := Iff.rfl

theorem lt_iff_rank {r s : Requirement} : r < s ↔ r.rank < s.rank := Iff.rfl

/-- The name in an outline. -/
def name : Requirement → String
  | nothing => "Nothing"
  | device => "Device"
  | profile => "Profile"
  | resolution => "Resolution"

end Requirement

end MouseConfig
