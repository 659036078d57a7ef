import Mathlib.Data.List.Basic
import MouseConfig.Proofs.Toml.Quoted
import MouseConfig.Toml.Reader
import MouseConfig.Toml.Sheet

/-! # Settings read back

A number, a flag, a text or a list of texts reads back from the end of its line.
-/

namespace MouseConfig.Toml

variable {n : Nat} {ds rest : List Char}

/-! ## Digits up to the end of a line -/

/-- Digits and then a line break. -/
def DigitsLine (cs : List Char) : Prop :=
  ∃ ds rest, (∀ d ∈ ds, d.isDigit) ∧ cs = ds ++ '\n' :: rest

theorem DigitsLine.head {c : Char} {cs : List Char} (h : DigitsLine (c :: cs)) :
    c.isDigit ∨ c = '\n' := by
  obtain ⟨ds, rest, digits, e⟩ := h
  cases ds with
  | nil =>
      cases e
      exact .inr rfl
  | cons d ds =>
      cases e
      exact .inl (digits _ List.mem_cons_self)

theorem DigitsLine.ne_cons {c : Char} {cs : List Char} (h : DigitsLine cs) (hc : c.isDigit = false)
    (hn : c ≠ '\n') (tail : List Char) : cs ≠ c :: tail := by
  rintro rfl
  rcases h.head with digit | newline
  · exact absurd digit (Bool.eq_false_iff.mp hc)
  · exact hn newline

theorem DigitsLine.tail {c : Char} {cs : List Char} (h : DigitsLine (c :: cs)) (hc : c.isDigit) :
    DigitsLine cs := by
  obtain ⟨ds, rest, digits, e⟩ := h
  cases ds with
  | nil =>
      cases e
      cases hc
  | cons d ds =>
      cases e
      exact ⟨ds, rest, fun d hd => digits d (List.mem_cons_of_mem _ hd), rfl⟩

namespace Moment

theorem pair_digitsLine {low high m : Nat} {cs cs' : List Char} (h : DigitsLine cs)
    (hp : pair low high cs = some (m, cs')) : DigitsLine cs' := by
  rw [pair.eq_def] at hp
  split at hp
  · next a b rest =>
      dsimp only at hp
      split at hp
      · next both =>
          cases hp
          simp only [Bool.and_eq_true] at both
          exact (h.tail both.1.1.1).tail both.1.1.2
      · cases hp
  · cases hp

/-- No point of time has digits alone. -/
theorem after_digitsLine {c : Char} {cs : List Char} (h : DigitsLine cs)
    (hc : c.isDigit = false) (hn : c ≠ '\n') : after c cs = none := by
  cases cs with
  | nil => rfl
  | cons d cs =>
      rw [after, if_neg]
      rintro rfl
      exact h.ne_cons hc hn cs rfl

theorem after?_digitsLine {cs : List Char} (h : DigitsLine cs) : after? cs = none := by
  have date : afterDate? cs = none := by
    rw [afterDate?]
    cases h₁ : pair 0 99 cs with
    | none => rfl
    | some century =>
        obtain ⟨_, cs₁⟩ := century
        cases h₂ : pair 0 99 cs₁ with
        | none => simp [h₂]
        | some years =>
            have line := pair_digitsLine (pair_digitsLine h h₁) h₂
            simp [h₂, after_digitsLine line (c := '-') rfl (by decide)]
  have time : afterTime? cs = none := by
    rw [afterTime?]
    cases h₁ : pair 0 23 cs with
    | none => rfl
    | some hour =>
        simp [after_digitsLine (pair_digitsLine h h₁) (c := ':') rfl (by decide)]
  rw [after?, date]
  exact time

end Moment

namespace Number

theorem isDigit_of_mem_numeral {c : Char} (h : c ∈ Setting.numeral n) : c.isDigit :=
  Nat.isDigit_of_mem_toDigits (b := 10) (by decide) (by decide) h

theorem numeral_of_lt (h : n < 10) : Setting.numeral n = [n.digitChar] :=
  Nat.toDigits_of_lt_base h

/-- No zero stands in front of other digits. -/
theorem head?_numeral (h : 0 < n) : (Setting.numeral n).head? ≠ some '0' := by
  induction n using Nat.strongRecOn with
  | ind n ih =>
      by_cases hn : n < 10
      · have digits : ∀ m < 10, 0 < m → m.digitChar ≠ '0' := by decide
        rw [numeral_of_lt hn]
        exact fun e => digits n hn h (Option.some.inj e)
      · have front := ih (n / 10) (by omega) (by omega)
        rw [Setting.numeral, Nat.toDigits_of_base_le (by decide) (Nat.not_lt.mp hn), List.head?_append]
        cases hd : Nat.toDigits 10 (n / 10) with
        | nil => exact absurd hd Nat.toDigits_ne_nil
        | cons d ds =>
            rw [Setting.numeral, hd] at front
            exact front

theorem value_numeral (n : Nat) : value 10 (Setting.numeral n) = n := by
  calc value 10 (Setting.numeral n) = Nat.ofDigitChars 10 (Setting.numeral n) 0 := by
        refine List.foldl_ext _ _ 0 fun m c hc => ?_
        rw [digitValue, if_pos (isDigit_of_mem_numeral hc)]
    _ = n := Nat.ofDigitChars_ten_toDigits

theorem moreDigits_append (h : ∀ d ∈ ds, d.isDigit) :
    moreDigits Char.isDigit (ds ++ '\n' :: rest) = some (ds, '\n' :: rest) := by
  induction ds with
  | nil => rfl
  | cons d ds ih =>
      have digit := h d List.mem_cons_self
      have under : d ≠ '_' := by
        rintro rfl
        cases digit
      rw [List.cons_append, moreDigits, if_pos digit, ih fun c hc => h c (List.mem_cons_of_mem d hc)]
      · rfl
      · exact fun _ _ e _ => under e
      · exact fun e _ => under e

theorem wholeDigits_numeral (n : Nat) (rest : List Char) :
    wholeDigits (Setting.numeral n ++ '\n' :: rest) = some (Setting.numeral n, '\n' :: rest) := by
  rcases Nat.eq_zero_or_pos n with rfl | hn
  · rfl
  · have digits : ∀ d ∈ Setting.numeral n, d.isDigit := fun d hd => isDigit_of_mem_numeral hd
    have front := head?_numeral hn
    cases hd : Setting.numeral n with
    | nil => exact absurd hd Nat.toDigits_ne_nil
    | cons d ds =>
        rw [hd] at digits front
        have more : moreDigits Char.isDigit (ds ++ '\n' :: rest) = some (ds, '\n' :: rest) :=
          moreDigits_append fun c hc => digits c (List.mem_cons_of_mem d hc)
        rw [List.cons_append, wholeDigits, Number.digits, if_pos (digits d List.mem_cons_self), more]
        · rfl
        · rintro tail ⟨⟩
          exact front rfl

theorem digitsLine_numeral (n : Nat) (rest : List Char) :
    DigitsLine (Setting.numeral n ++ '\n' :: rest) :=
  ⟨_, rest, fun _ hd => isDigit_of_mem_numeral hd, rfl⟩

theorem exists_numeral_eq_cons (n : Nat) :
    ∃ d ds, d.isDigit ∧ Setting.numeral n = d :: ds := by
  cases hd : Setting.numeral n with
  | nil => exact absurd hd Nat.toDigits_ne_nil
  | cons d ds =>
      refine ⟨d, ds, isDigit_of_mem_numeral (n := n) ?_, rfl⟩
      rw [hd]
      exact List.mem_cons_self

theorem sign_of_isDigit {d : Char} (h : d.isDigit) (cs : List Char) :
    sign (d :: cs) = (false, d :: cs) := by
  rw [sign.eq_def]
  split
  · next e =>
      cases e
      cases h
  · next e =>
      cases e
      cases h
  · rfl

theorem sign_numeral (n : Nat) (rest : List Char) :
    sign (Setting.numeral n ++ '\n' :: rest) = (false, Setting.numeral n ++ '\n' :: rest) := by
  obtain ⟨d, ds, digit, hd⟩ := exists_numeral_eq_cons n
  rw [hd, List.cons_append, sign_of_isDigit digit]

theorem afterFloat?_numeral (n : Nat) (rest : List Char) :
    afterFloat? (Setting.numeral n ++ '\n' :: rest) = none := by
  have line := digitsLine_numeral n rest
  rw [afterFloat?, sign_numeral]
  dsimp only
  split
  · next e => exact absurd e (line.ne_cons rfl (by decide) _)
  · next e => exact absurd e (line.ne_cons rfl (by decide) _)
  · rw [wholeDigits_numeral]
    rfl

/-- Between digits and the end of a line no letter stands. -/
theorem numeral_ne_cons_cons {c d : Char} (hd : d.isDigit) (hc : c.isDigit = false) (hn : c ≠ '\n')
    (tail : List Char) : Setting.numeral n ++ '\n' :: rest ≠ d :: c :: tail := by
  intro e
  have line := digitsLine_numeral n rest
  rw [e] at line
  exact (line.tail hd).ne_cons hc hn tail rfl

theorem integer?_numeral (h : n < integerBound) (rest : List Char) :
    integer? (Setting.numeral n ++ '\n' :: rest) = some ((n : Int), '\n' :: rest) := by
  rw [integer?.eq_def]
  split
  · next e => exact absurd e (numeral_ne_cons_cons rfl rfl (by decide) _)
  · next e => exact absurd e (numeral_ne_cons_cons rfl rfl (by decide) _)
  · next e => exact absurd e (numeral_ne_cons_cons rfl rfl (by decide) _)
  · rw [sign_numeral]
    dsimp only
    rw [wholeDigits_numeral]
    simp [value_numeral, h]

end Number

/-! ## One value -/

namespace Setting

/-- What a setting reads as. -/
def value : Setting → Value
  | text s => .text s
  | number n => .integer n
  | flag b => .boolean b
  | texts ts => .array (ts.map .text)

/-- A number is one that can be written. -/
def Fits : Setting → Prop
  | number n => n < integerBound
  | _ => True

end Setting

namespace Reader

open Setting (numeral)

theorem scalar?_write (text : List Char) (hd : rest.head? ≠ some '"')
    (hs : rest.head? ≠ some '\'') :
    scalar? (Quoted.write text ++ rest) = some (.text (String.ofList text), rest) := by
  have back := Quoted.read?_write text hd hs
  obtain ⟨quote, body, hq, hw⟩ := Quoted.write_eq_cons text
  rw [hw] at back ⊢
  rcases hq with rfl | rfl
  · rw [List.cons_append, scalar?, ← List.cons_append, back]
    rfl
  · rw [List.cons_append, scalar?, ← List.cons_append, back]
    rfl

theorem boolean?_of_isDigit {d : Char} (h : d.isDigit) (cs : List Char) :
    boolean? (d :: cs) = none := by
  rw [boolean?.eq_def]
  split
  · next e =>
      cases e
      cases h
  · next e =>
      cases e
      cases h
  · rfl

theorem scalar?_numeral (h : n < integerBound) (rest : List Char) :
    scalar? (numeral n ++ '\n' :: rest) = some (Value.integer n, '\n' :: rest) := by
  have moment := Moment.after?_digitsLine (Number.digitsLine_numeral n rest)
  have float := Number.afterFloat?_numeral n rest
  have integer := Number.integer?_numeral h rest
  obtain ⟨d, ds, digit, hd⟩ := Number.exists_numeral_eq_cons n
  rw [hd, List.cons_append] at moment float integer ⊢
  rw [scalar?, boolean?_of_isDigit digit]
  · dsimp only
    rw [moment]
    dsimp only
    rw [float]
    dsimp only
    rw [integer]
    rfl
  · rintro tail ⟨⟩
    cases digit
  · rintro tail ⟨⟩
    cases digit

/-- A value that does not start with a bracket holds no others. -/
theorem value?_eq_scalar? {cs : List Char} (depth : Nat)
    (h : ∀ tail, cs ≠ '[' :: tail ∧ cs ≠ '\x7b' :: tail) : value? depth cs = scalar? cs := by
  rw [value?.eq_def]
  split
  · exact absurd rfl (h _).1
  · exact absurd rfl (h _).2
  · exact absurd rfl (h _).1
  · exact absurd rfl (h _).2
  · rfl

theorem value?_write (depth : Nat) (text : List Char) (hd : rest.head? ≠ some '"')
    (hs : rest.head? ≠ some '\'') :
    value? depth (Quoted.write text ++ rest) = some (.text (String.ofList text), rest) := by
  rw [value?_eq_scalar?, scalar?_write text hd hs]
  obtain ⟨quote, body, hq, hw⟩ := Quoted.write_eq_cons text
  rw [hw]
  rcases hq with rfl | rfl
  · exact fun tail => ⟨nofun, nofun⟩
  · exact fun tail => ⟨nofun, nofun⟩

/-! ## Lists of texts -/

theorem skipTrivia_write (text rest : List Char) :
    skipTrivia false (Quoted.write text ++ rest) = Quoted.write text ++ rest := by
  obtain ⟨quote, body, rfl | rfl, hw⟩ := Quoted.write_eq_cons text
  · rw [hw]
    rfl
  · rw [hw]
    rfl

/-- One element of a list and what comes after it. -/
theorem elements?_write {cs : List Char} (depth fuel : Nat) (text : List Char)
    (hc : skipTrivia false cs = Quoted.write text ++ rest) (hd : rest.head? ≠ some '"')
    (hs : rest.head? ≠ some '\'') :
    elements? (value? depth) (fuel + 1) cs =
      match skipTrivia false rest with
      | ',' :: rest =>
        (elements? (value? depth) fuel rest).map fun p => (.text (String.ofList text) :: p.1, p.2)
      | ']' :: rest => some ([.text (String.ofList text)], rest)
      | _ => none := by
  have element := value?_write depth text hd hs
  obtain ⟨quote, body, hq, hw⟩ := Quoted.write_eq_cons text
  rw [elements?, hc]
  rw [hw] at element ⊢
  split
  · next e =>
      cases hq with
      | inl hq =>
          cases hq.symm.trans (List.cons.inj e).1
      | inr hq =>
          cases hq.symm.trans (List.cons.inj e).1
  · rw [element]
    rfl

/-- One line of a list. -/
def item (t : String) : List Char := [' ', ' ', ' ', ' '] ++ Quoted.write t.toList ++ [',', '\n']

theorem elements?_items (depth fuel : Nat) (ts : List String) (hf : ts.length < fuel)
    (rest : List Char) :
    elements? (value? depth) fuel ('\n' :: (ts.flatMap item ++ ']' :: rest)) =
      some (ts.map fun t => .text t, rest) := by
  induction ts generalizing fuel with
  | nil =>
      obtain ⟨fuel, rfl⟩ : ∃ m, fuel = m + 1 := Nat.exists_eq_add_one.mpr hf
      rfl
  | cons t ts ih =>
      obtain ⟨fuel, rfl⟩ : ∃ m, fuel = m + 1 := Nat.exists_eq_add_one.mpr (by omega)
      have items : '\n' :: ((t :: ts).flatMap item ++ ']' :: rest) = ['\n', ' ', ' ', ' ', ' '] ++
          (Quoted.write t.toList ++ (',' :: '\n' :: (ts.flatMap item ++ ']' :: rest))) := by
        simp [item]
      have trivia : skipTrivia false (['\n', ' ', ' ', ' ', ' '] ++
          (Quoted.write t.toList ++ (',' :: '\n' :: (ts.flatMap item ++ ']' :: rest)))) = _ :=
        skipTrivia_write ..
      rw [items, elements?_write depth fuel t.toList trivia]
      · change Option.map _ (elements? _ _ _) = _
        rw [ih fuel (Nat.lt_of_succ_lt_succ hf)]
        simp
      · nofun
      · nofun

theorem length_le_items (ts : List String) : ts.length ≤ (ts.flatMap item).length := by
  induction ts with
  | nil => exact Nat.le_refl 0
  | cons t ts ih =>
      simp only [List.length_cons, List.flatMap_cons, List.length_append, item, List.length_nil]
      omega

/-- A list of texts reads back. -/
theorem value?_texts (depth : Nat) (ts : List String) (rest : List Char) :
    value? (depth + 1) ((Setting.texts ts).write ++ '\n' :: rest) =
      some (.array (ts.map .text), '\n' :: rest) := by
  cases ts with
  | nil => rfl
  | cons t ts =>
      cases ts with
      | nil =>
          have written : (Setting.texts [t]).write ++ '\n' :: rest =
              '[' :: (Quoted.write t.toList ++ (']' :: '\n' :: rest)) := by
            simp [Setting.write]
          rw [written, value?, elements?_write depth _ t.toList (skipTrivia_write ..)]
          · simp [skipTrivia, isBlank]
          · nofun
          · nofun
      | cons u us =>
          have written : (Setting.texts (t :: u :: us)).write ++ '\n' :: rest =
              '[' :: '\n' :: ((t :: u :: us).flatMap item ++ (']' :: '\n' :: rest)) := by
            change ['[', '\n'] ++ (t :: u :: us).flatMap item ++ [']'] ++ '\n' :: rest = _
            simp
          have room := length_le_items (t :: u :: us)
          rw [written, value?, elements?_items]
          · rfl
          · refine Nat.lt_succ_of_lt (Nat.lt_succ_of_le (Nat.le_trans room ?_))
            rw [List.length_append]
            exact Nat.le_add_right ..

/-- A setting reads back from the end of its line. -/
theorem value?_setting (depth : Nat) (s : Setting) (h : s.Fits) (rest : List Char) :
    value? (depth + 1) (s.write ++ '\n' :: rest) = some (s.value, '\n' :: rest) := by
  cases s with
  | text s =>
      rw [Setting.write, value?_write, String.ofList_toList]
      · rfl
      · nofun
      · nofun
  | number n =>
      obtain ⟨d, ds, digit, hd⟩ := Number.exists_numeral_eq_cons n
      rw [Setting.write, value?_eq_scalar?, scalar?_numeral h]
      · rfl
      · rw [hd]
        refine fun tail => ⟨?_, ?_⟩
        · rintro e
          cases (List.cons.inj e).1
          cases digit
        · rintro e
          cases (List.cons.inj e).1
          cases digit
  | flag b => cases b <;> rfl
  | texts ts => exact value?_texts depth ts rest

end Reader

end MouseConfig.Toml
