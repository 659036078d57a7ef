import Mathlib.Data.Char
import Mathlib.Data.Nat.Digits.Defs
import MouseConfig.Text.Numeral

/-! # Decimal form

The words for a number are its decimal form with any zeros in front.  That a number is too large can
be told while it is read: from then on, more digits only make it larger.
-/

namespace MouseConfig.Numeral

/-- What a digit counts in the last place. -/
def digit (c : Char) : Nat := c.toNat - '0'.toNat

/-- The word is a number in decimal digits, of which there is at least one.  Each counts by its
place. -/
structure Decimal (word : String) (n : Nat) : Prop where
  nonempty : word ≠ ""
  digits : ∀ c ∈ word.toList, '0' ≤ c ∧ c ≤ '9'
  sum : Nat.ofDigits 10 (word.toList.reverse.map digit) = n

/-- The word is a number of 64 bits. -/
structure IsIndex (word : String) (n : Nat) : Prop extends Decimal word n where
  fits : n < 2 ^ 64

/-- The decimal form of a number, with zeros in front. -/
def padded (zeros n : Nat) : String := String.ofList (List.replicate zeros '0') ++ n.repr

variable {word : String} {digits : List Char} {bound read n : Nat} {c : Char}

/-! ## Digits -/

theorem isDigit_iff : c.isDigit ↔ '0' ≤ c ∧ c ≤ '9' := Char.isDigit_iff_toNat

theorem digit_lt (h : c.isDigit) : digit c < 10 := by
  have range := Char.isDigit_iff_toNat.mp h
  simp only [digit, Char.reduceToNat] at range ⊢
  omega

theorem digitChar_digit (h : c.isDigit) : (digit c).digitChar = c := by
  have range := Char.isDigit_iff_toNat.mp h
  rw [← Char.toNat_inj, Nat.toNat_digitChar_of_lt_ten (digit_lt h), digit]
  simp only [Char.reduceToNat] at range ⊢
  omega

theorem toDigits_digit (h : c.isDigit) : Nat.toDigits 10 (digit c) = [c] := by
  rw [Nat.toDigits_of_lt_base (digit_lt h), digitChar_digit h]

/-- Digits that are read from the left count by their places from the right. -/
theorem value_eq_ofDigits (digits : List Char) :
    value digits = Nat.ofDigits 10 (digits.reverse.map digit) := by
  rw [value, Nat.ofDigitChars_eq_foldl, Nat.ofDigits_eq_foldr, List.foldr_map, List.foldr_reverse]
  simp only [digit, Nat.cast_id, Nat.add_comm]

theorem decimal_iff :
    Decimal word n ↔ word.toList ≠ [] ∧ word.toList.all Char.isDigit ∧ value word.toList = n := by
  have digits : word.toList.all Char.isDigit ↔ ∀ c ∈ word.toList, '0' ≤ c ∧ c ≤ '9' := by
    simp only [List.all_eq_true, isDigit_iff]
  rw [digits, value_eq_ofDigits, Ne, String.toList_eq_nil_iff]
  exact ⟨fun h => ⟨h.nonempty, h.digits, h.sum⟩, fun h => ⟨h.1, h.2.1, h.2.2⟩⟩

/-! ## Zeros in front -/

/-- Behind a number that is not zero, each digit is the next one of the decimal form. -/
theorem toDigits_append (h : ∀ c ∈ digits, c.isDigit) (pos : 0 < read) :
    Nat.toDigits 10 read ++ digits = Nat.toDigits 10 (Nat.ofDigitChars 10 digits read) := by
  induction digits generalizing read with
  | nil => rw [List.append_nil, Nat.ofDigitChars_nil]
  | cons c rest ih =>
      obtain ⟨hc, hrest⟩ := List.forall_mem_cons.mp h
      have next : Nat.toDigits 10 read ++ [c] = Nat.toDigits 10 (10 * read + digit c) := by
        rw [← toDigits_digit hc, Nat.toDigits_append_toDigits (by decide) pos (digit_lt hc)]
      calc Nat.toDigits 10 read ++ c :: rest
        _ = (Nat.toDigits 10 read ++ [c]) ++ rest := by simp
        _ = Nat.toDigits 10 (Nat.ofDigitChars 10 rest (10 * read + digit c)) := by
          rw [next, ih hrest (by omega)]

theorem value_cons (c : Char) (rest : List Char) :
    value (c :: rest) = Nat.ofDigitChars 10 rest (digit c) := by
  rw [value, Nat.ofDigitChars_cons, Nat.mul_zero, Nat.zero_add, digit]

theorem exists_replicate_append_toDigits (nonempty : digits ≠ []) (h : ∀ c ∈ digits, c.isDigit) :
    ∃ zeros, digits = List.replicate zeros '0' ++ Nat.toDigits 10 (value digits) := by
  induction digits with
  | nil => exact absurd rfl nonempty
  | cons c rest ih =>
      obtain ⟨hc, hrest⟩ := List.forall_mem_cons.mp h
      by_cases zero : c = '0'
      · subst zero
        -- Zeros are put aside until they are followed by another digit, or by none.
        have same : value ('0' :: rest) = value rest := value_cons '0' rest
        rw [same]
        by_cases last : rest = []
        · exact ⟨0, by rw [last]; rfl⟩
        · obtain ⟨zeros, hz⟩ := ih last hrest
          exact ⟨zeros + 1, by rw [List.replicate_succ, List.cons_append, ← hz]⟩
      · refine ⟨0, ?_⟩
        have pos : 0 < digit c := by
          refine Nat.pos_of_ne_zero fun none => zero ?_
          rw [← digitChar_digit hc, none]
          rfl
        rw [value_cons, ← toDigits_append hrest pos, toDigits_digit hc]
        rfl

theorem toList_padded (zeros n : Nat) :
    (padded zeros n).toList = List.replicate zeros '0' ++ Nat.toDigits 10 n := by
  rw [padded, String.toList_append, String.toList_ofList, Nat.toList_repr]

theorem value_toList_padded (zeros n : Nat) : value (padded zeros n).toList = n := by
  rw [toList_padded, value, Nat.ofDigitChars_append, Nat.ofDigitChars_replicate_zero, Nat.mul_zero,
    Nat.ofDigitChars_ten_toDigits]

theorem all_isDigit_padded (zeros n : Nat) : (padded zeros n).toList.all Char.isDigit := by
  rw [toList_padded, List.all_append, Bool.and_eq_true, List.all_replicate, List.all_eq_true]
  exact ⟨by simp, fun c hc => Nat.isDigit_of_mem_toDigits (by decide) (by decide) hc⟩

theorem decimal_iff_padded : Decimal word n ↔ ∃ zeros, word = padded zeros n := by
  rw [decimal_iff]
  constructor
  · rintro ⟨nonempty, digits, rfl⟩
    obtain ⟨zeros, hz⟩ := exists_replicate_append_toDigits nonempty (List.all_eq_true.mp digits)
    exact ⟨zeros, String.toList_inj.mp (hz.trans (toList_padded _ _).symm)⟩
  · rintro ⟨zeros, rfl⟩
    refine ⟨?_, all_isDigit_padded zeros n, value_toList_padded zeros n⟩
    rw [toList_padded]
    exact List.append_ne_nil_of_right_ne_nil _ Nat.toDigits_ne_nil

/-! ## Indices -/

theorem index?_eq_some_iff : index? word = some n ↔ IsIndex word n := by
  have digits : IsIndex word n ↔ Decimal word n ∧ n < 2 ^ 64 :=
    ⟨fun h => ⟨h.toDecimal, h.fits⟩, fun h => ⟨h.1, h.2⟩⟩
  rw [digits, decimal_iff, index?, read?_eq_some_iff, and_assoc, and_assoc]
  rfl

theorem isIndex_iff_padded : IsIndex word n ↔ n < 2 ^ 64 ∧ ∃ zeros, word = padded zeros n := by
  rw [← decimal_iff_padded]
  exact ⟨fun h => ⟨h.fits, h.toDecimal⟩, fun h => ⟨h.2, h.1⟩⟩

/-- A word that is no index is empty, holds something else than digits or is too large. -/
theorem index?_eq_none_iff :
    index? word = none ↔ word = "" ∨ (∃ c ∈ word.toList, c < '0' ∨ '9' < c) ∨
      ∃ n, 2 ^ 64 ≤ n ∧ Decimal word n := by
  have unread : index? word = none ↔ ∀ n, ¬ IsIndex word n := by
    simp only [Option.eq_none_iff_forall_ne_some, Ne, index?_eq_some_iff]
  rw [unread]
  constructor
  · intro h
    by_cases nonempty : word = ""
    · exact .inl nonempty
    · by_cases digits : ∀ c ∈ word.toList, '0' ≤ c ∧ c ≤ '9'
      · have decimal : Decimal word _ := ⟨nonempty, digits, rfl⟩
        exact .inr (.inr ⟨_, Nat.le_of_not_lt fun fits => h _ ⟨decimal, fits⟩, decimal⟩)
      · simp only [not_forall, not_and_or, not_le] at digits
        obtain ⟨c, hc, other⟩ := digits
        exact .inr (.inl ⟨c, hc, other⟩)
  · rintro (empty | ⟨c, hc, other⟩ | ⟨m, large, decimal⟩) n index
    · exact index.nonempty empty
    · obtain ⟨least, greatest⟩ := index.digits c hc
      exact other.elim (not_lt.mpr least) (not_lt.mpr greatest)
    · have same : m = n := decimal.sum.symm.trans index.sum
      exact absurd index.fits (not_lt.mpr (same ▸ large))

example :
    index? "0018446744073709551615" = some (2 ^ 64 - 1) ∧ index? "18446744073709551616" = none ∧
      index? "+1" = none ∧ index? "1 " = none ∧ index? "٣" = none := by decide

/-! ## Reading within a bound -/

/-- A number below the bound. -/
def within? (bound n : Nat) : Option Nat := if n < bound then some n else none

/-- Read one more digit, as long as the product and the sum stay below the bound. -/
def push? (bound read : Nat) (c : Char) : Option Nat := do
  let tens ← within? bound (10 * read)
  within? bound (tens + digit c)

theorem push?_eq (bound read : Nat) (c : Char) :
    push? bound read c = within? bound (10 * read + digit c) := by
  unfold push? within?
  by_cases product : 10 * read < bound
  · rw [if_pos product]
    rfl
  · have sum : ¬ 10 * read + digit c < bound := by omega
    rw [if_neg product, if_neg sum]
    rfl

theorem le_ofDigitChars (digits : List Char) (read : Nat) :
    read ≤ Nat.ofDigitChars 10 digits read := by
  rw [Nat.ofDigitChars_eq_ofDigitChars_zero]
  have one := Nat.one_le_pow digits.length 10 (by decide)
  exact Nat.le_add_right_of_le (Nat.le_mul_of_pos_left read one)

theorem foldlM_push? (h : read < bound) :
    digits.foldlM (push? bound) read = within? bound (Nat.ofDigitChars 10 digits read) := by
  induction digits generalizing read with
  | nil => exact (if_pos h).symm
  | cons c rest ih =>
      rw [List.foldlM_cons, push?_eq, Nat.ofDigitChars_cons]
      by_cases next : 10 * read + digit c < bound
      · rw [within?, if_pos next]
        exact ih next
      · -- What comes next does not bring the number below the bound again.
        have large := le_ofDigitChars rest (10 * read + digit c)
        have last : ¬ Nat.ofDigitChars 10 rest (10 * read + digit c) < bound := by omega
        rw [within?, if_neg next]
        exact (if_neg last).symm

/-- Digits may be read one at a time: the number stays below the bound exactly if none of the products
and sums on the way reaches it. -/
theorem read?_eq_foldlM (pos : 0 < bound) (nonempty : digits ≠ []) (h : digits.all Char.isDigit) :
    read? bound digits = digits.foldlM (push? bound) 0 := by
  rw [foldlM_push? pos, within?, ← value, read?]
  simp only [ne_eq, nonempty, not_false_eq_true, h, true_and]

end MouseConfig.Numeral
