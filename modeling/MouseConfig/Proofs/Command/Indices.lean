import MouseConfig.Command.Walk
import MouseConfig.Proofs.Text.Decimal

/-! # Indices among the words

A router takes an index from the front of the words, if one is there.  Any other word stays, to name a
command.
-/

namespace MouseConfig

open Numeral

/-! ## Words -/

namespace Words

variable {words rest : List String} {n : Nat}

theorem takeIndex?_eq_some_iff :
    takeIndex? words = some (n, rest) ↔ ∃ word, words = word :: rest ∧ IsIndex word n := by
  constructor
  · intro taken
    cases words with
    | nil => cases taken
    | cons word after =>
        obtain ⟨m, read, same⟩ := Option.map_eq_some_iff.mp taken
        cases same
        exact ⟨word, rfl, index?_eq_some_iff.mp read⟩
  · rintro ⟨word, rfl, index⟩
    exact Option.map_eq_some_iff.mpr ⟨n, index?_eq_some_iff.mpr index, rfl⟩

theorem takeIndex?_eq_none_iff :
    takeIndex? words = none ↔ ∀ word rest n, words = word :: rest → ¬ IsIndex word n := by
  rw [Option.eq_none_iff_forall_ne_some]
  constructor
  · intro untaken word rest n hw index
    exact untaken (n, rest) (takeIndex?_eq_some_iff.mpr ⟨word, hw, index⟩)
  · rintro absent ⟨n, rest⟩ taken
    obtain ⟨word, hw, index⟩ := takeIndex?_eq_some_iff.mp taken
    exact absent word rest n hw index

end Words

/-! ## Sessions -/

namespace Step

variable {σ : Type} {s t : Session σ} {n : Nat} {rest : List String}

theorem run_nextIndex?_of_none (h : Words.takeIndex? s.args = none) :
    nextIndex?.run s = .ok none s := by
  simp [nextIndex?, h]

theorem run_nextIndex?_of_some (h : Words.takeIndex? s.args = some (n, rest)) :
    nextIndex?.run s = .ok (some n) { s with args := rest } := by
  simp [nextIndex?, h, -bind_pure_comp]

theorem run_nextIndex?_eq_some_iff :
    nextIndex?.run s = .ok (some n) t ↔
      ∃ rest, Words.takeIndex? s.args = some (n, rest) ∧ t = { s with args := rest } := by
  cases taken : Words.takeIndex? s.args with
  | none => simp [run_nextIndex?_of_none taken]
  | some next =>
      obtain ⟨m, rest⟩ := next
      simp [run_nextIndex?_of_some taken, eq_comm]

theorem run_nextIndex?_eq_none_iff :
    nextIndex?.run s = .ok none t ↔ Words.takeIndex? s.args = none ∧ t = s := by
  cases taken : Words.takeIndex? s.args with
  | none => simp [run_nextIndex?_of_none taken, eq_comm]
  | some next => simp [run_nextIndex?_of_some taken]

end Step

/-- The words for an index are its decimal form with any zeros in front, below the limit of 64 bits.
Such a word is taken from the front of a line; with any other word, or none, nothing changes. -/
theorem Words.indices_are_decimals_that_fit {σ : Type} :
    (∀ (word : String) (n : Nat), index? word = some n ↔ IsIndex word n) ∧
      (∀ (word : String) (n : Nat),
        IsIndex word n ↔ n < 2 ^ 64 ∧ ∃ zeros, word = padded zeros n) ∧
      (∀ word : String, index? word = none ↔
        word = "" ∨ (∃ c ∈ word.toList, c < '0' ∨ '9' < c) ∨ ∃ n, 2 ^ 64 ≤ n ∧ Decimal word n) ∧
      (∀ (words rest : List String) (n : Nat),
        takeIndex? words = some (n, rest) ↔ ∃ word, words = word :: rest ∧ IsIndex word n) ∧
      ∀ s t : Session σ,
        (∀ n, Step.nextIndex?.run s = .ok (some n) t ↔
          ∃ word rest, s.args = word :: rest ∧ IsIndex word n ∧ t = { s with args := rest }) ∧
        (Step.nextIndex?.run s = .ok none t ↔
          (∀ word rest n, s.args = word :: rest → ¬ IsIndex word n) ∧ t = s) := by
  refine ⟨fun _ _ => index?_eq_some_iff, fun _ _ => isIndex_iff_padded, fun _ => index?_eq_none_iff,
    fun _ _ _ => takeIndex?_eq_some_iff, fun s t => ⟨fun n => ?_, ?_⟩⟩
  · rw [Step.run_nextIndex?_eq_some_iff]
    simp only [takeIndex?_eq_some_iff]
    constructor
    · rintro ⟨rest, ⟨word, hw, index⟩, ht⟩
      exact ⟨word, rest, hw, index, ht⟩
    · rintro ⟨word, rest, hw, index, ht⟩
      exact ⟨rest, ⟨word, hw, index⟩, ht⟩
  · rw [Step.run_nextIndex?_eq_none_iff, takeIndex?_eq_none_iff]

end MouseConfig
