import MouseConfig.Text.Numeral

/-! # Spelling numbers

A setting is read from a word exactly if the word spells a number that is not too large.
-/

namespace MouseConfig.Numeral

/-- The word is a number in decimal digits, with or without a plus sign, and with any zeros in
front. -/
def Spells (word : String) (n : Nat) : Prop :=
  ∃ digits, (word.toList = digits ∨ word.toList = '+' :: digits) ∧ digits ≠ [] ∧
    digits.all Char.isDigit ∧ value digits = n

theorem unsigned_of_isDigit {digits : List Char} (h : digits.all Char.isDigit) :
    unsigned digits = digits := by
  unfold unsigned
  split
  · next rest => simp [Char.isDigit] at h
  · rfl

/-- A word is read if the number is not too large. -/
theorem read?_unsigned_eq_some_iff {word : String} {bound n : Nat} :
    read? bound (unsigned word.toList) = some n ↔ Spells word n ∧ n < bound := by
  rw [read?_eq_some_iff]
  constructor
  · rintro ⟨nonempty, areDigits, hn, lt⟩
    refine ⟨⟨unsigned word.toList, ?_, nonempty, areDigits, hn⟩, lt⟩
    unfold unsigned
    split
    · next h => exact .inr h
    · exact .inl rfl
  · rintro ⟨⟨digits, hw | hw, nonempty, areDigits, hn⟩, lt⟩
    · rw [hw, unsigned_of_isDigit areDigits]
      exact ⟨nonempty, areDigits, hn, lt⟩
    · rw [hw]
      exact ⟨nonempty, areDigits, hn, lt⟩

theorem word?_of_spells {word : String} {n : Nat} (h : Spells word n) (lt : n < UInt32.size) :
    word? word = some (.ofNat n) := by
  rw [word?, read?_unsigned_eq_some_iff.mpr ⟨h, lt⟩]
  rfl

theorem word?_of_not_spells {word : String} (h : ∀ n, Spells word n → UInt32.size ≤ n) :
    word? word = none := by
  rw [word?, Option.map_eq_none_iff]
  refine Option.eq_none_iff_forall_ne_some.mpr fun n hn => ?_
  obtain ⟨spells, lt⟩ := read?_unsigned_eq_some_iff.mp hn
  exact Nat.not_lt.mpr (h n spells) lt

end MouseConfig.Numeral
