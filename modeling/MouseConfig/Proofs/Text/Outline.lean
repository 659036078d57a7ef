import Mathlib.Logic.Function.Basic
import Mathlib.Data.List.Basic
import MouseConfig.Text.Lines
import MouseConfig.Text.Outline

/-! # Outlines that can be read

An outline over several lines ends each of its parts with a comma.  A part can be read if the text
in front of a comma tells both what the part is and which comma is its own.  Lists, wrapped values
and records of such parts are such parts themselves.
-/

namespace MouseConfig.Outline

variable {α β : Type} {depth : Nat} {s t : List Char}

/-- What is outlined, and where its outline ends, can be told from a text that goes on with a comma. -/
def Legible (f : α → Outline) : Prop :=
  ∀ (depth : Nat) (x y : α) (s t : List Char),
    ((f x).block depth).toList ++ ',' :: s = ((f y).block depth).toList ++ ',' :: t → x = y ∧ s = t

theorem Legible.comp {f : β → Outline} {g : α → β} (h : Legible f) (inj : g.Injective) :
    Legible fun x => f (g x) := by
  intro depth x y s t same
  obtain ⟨outlined, rest⟩ := h depth (g x) (g y) s t same
  exact ⟨inj outlined, rest⟩

/-! ## Words -/

/-- The first comma ends a word that has none. -/
theorem Legible.leaf {word : α → String} (inj : word.Injective) (free : ∀ x, ',' ∉ (word x).toList) :
    Legible fun x => .leaf (word x) := by
  intro depth x y s t same
  have cut (x : α) (s : List Char) :
      Text.cut ',' ((word x).toList ++ ',' :: s) = some ((word x).toList, s) :=
    Text.cut_eq_some_iff.mpr ⟨rfl, free x⟩
  have same : (word x).toList ++ ',' :: s = (word y).toList ++ ',' :: t := same
  obtain ⟨words, rest⟩ := Prod.mk.inj (Option.some.inj ((cut x s).symm.trans (same ▸ cut y t)))
  exact ⟨inj (String.toList_inj.mp words), rest⟩

theorem legible_flag : Legible flag :=
  .leaf (fun x y => by cases x <;> cases y <;> simp) fun x => by cases x <;> decide

theorem legible_number : Legible number := by
  refine .leaf (fun n m same => ?_) fun n hn => ?_
  · have digits := congrArg (fun t => Nat.ofDigitChars 10 t.toList 0) same
    simpa only [Nat.toList_repr, Nat.ofDigitChars_ten_toDigits] using digits
  · rw [Nat.toList_repr] at hn
    exact absurd (Nat.isDigit_of_mem_toDigits (by decide) (by decide) hn) (by decide)

/-! ## Quoted texts -/

theorem hexDigits_eq (n : Nat) :
    hexDigits n = (if n < 16 then [] else hexDigits (n / 16)) ++ [(n % 16).digitChar] := by
  by_cases h : n < 16
  · rw [hexDigits, Nat.toDigits_of_lt_base h, if_pos h, Nat.mod_eq_of_lt h, List.nil_append]
  · rw [hexDigits, Nat.toDigits_of_base_le (by decide) (Nat.not_lt.mp h), if_neg h, hexDigits]

theorem hexDigits_inj {n m : Nat} (h : hexDigits n = hexDigits m) : n = m := by
  have digits : ∀ d < 16, ∀ e < 16, d.digitChar = e.digitChar → d = e := by decide
  induction n using Nat.strongRecOn generalizing m with
  | ind n ih =>
      rw [hexDigits_eq n, hexDigits_eq m] at h
      obtain ⟨front, last⟩ := List.append_inj' h rfl
      have last : n % 16 = m % 16 :=
        digits _ (Nat.mod_lt n (by decide)) _ (Nat.mod_lt m (by decide)) (List.cons.inj last).1
      by_cases hn : n < 16
      · by_cases hm : m < 16
        · omega
        · rw [if_pos hn, if_neg hm] at front
          exact absurd front.symm Nat.toDigits_ne_nil
      · by_cases hm : m < 16
        · rw [if_neg hn, if_pos hm] at front
          exact absurd front Nat.toDigits_ne_nil
        · rw [if_neg hn, if_neg hm] at front
          have := ih (n / 16) (by omega) front
          omega

theorem brace_not_mem_hexDigits (n : Nat) : '}' ∉ hexDigits n := by
  induction n using Nat.strongRecOn with
  | ind n ih =>
      rw [hexDigits_eq]
      by_cases hn : n < 16
      · simp [hn]
      · simpa [hn] using ih (n / 16) (by omega)

theorem hexDigits_append_inj {n m : Nat} (h : hexDigits n ++ '}' :: s = hexDigits m ++ '}' :: t) :
    n = m ∧ s = t := by
  have cut (n : Nat) (s : List Char) :
      Text.cut '}' (hexDigits n ++ '}' :: s) = some (hexDigits n, s) :=
    Text.cut_eq_some_iff.mpr ⟨rfl, brace_not_mem_hexDigits n⟩
  obtain ⟨digits, rest⟩ := Prod.mk.inj (Option.some.inj ((cut n s).symm.trans (h ▸ cut m t)))
  exact ⟨hexDigits_inj digits, rest⟩

/-- The characters that are shown as a backslash and another one. -/
def shortEscapes : List (Char × Char) :=
  [('\x00', '0'), ('\t', 't'), ('\r', 'r'), ('\n', 'n'), ('"', '"'), ('\\', '\\')]

theorem quotedChar_cases (c : Char) :
    (∃ e, (c, e) ∈ shortEscapes ∧ quotedChar c = ['\\', e]) ∨
      quotedChar c = '\\' :: 'u' :: '{' :: hexDigits c.toNat ++ ['}'] ∨
      (quotedChar c = [c] ∧ c ≠ '\\' ∧ c ≠ '"') := by
  unfold quotedChar
  split
  case h_7 _ h0 ht hr hn hq hb =>
    by_cases hu : Text.isUnprintable c
    · exact .inr (.inl (if_pos hu))
    · exact .inr (.inr ⟨if_neg hu, hb, hq⟩)
  all_goals exact .inl ⟨_, by decide, rfl⟩

/-- A character can be told from how it is shown, whatever follows. -/
theorem quotedChar_append_inj {c c' : Char} (h : quotedChar c ++ s = quotedChar c' ++ t) :
    c = c' ∧ s = t := by
  have short : ∀ p ∈ shortEscapes, p.2 ≠ 'u' ∧ ∀ q ∈ shortEscapes, p.2 = q.2 → p.1 = q.1 := by
    decide
  rcases quotedChar_cases c with ⟨e, he, hc⟩ | hc | ⟨hc, hb, -⟩ <;>
    rcases quotedChar_cases c' with ⟨e', he', hc'⟩ | hc' | ⟨hc', hb', -⟩ <;>
    rw [hc, hc'] at h
  · obtain ⟨rfl, rest⟩ : e = e' ∧ s = t := by simpa using h
    exact ⟨(short _ he).2 _ he' rfl, rest⟩
  · exact absurd (by simpa using congrArg (·.tail.head?) h) (short _ he).1
  · exact absurd (by simpa using (congrArg List.head? h).symm) hb'
  · exact absurd (by simpa using (congrArg (·.tail.head?) h).symm) (short _ he').1
  · obtain ⟨codes, rest⟩ := hexDigits_append_inj (n := c.toNat) (m := c'.toNat) (by simpa using h)
    exact ⟨Char.toNat_inj.mp codes, rest⟩
  · exact absurd (by simpa using (congrArg List.head? h).symm) hb'
  · exact absurd (by simpa using congrArg List.head? h) hb
  · exact absurd (by simpa using congrArg List.head? h) hb
  · simpa using h

theorem head?_quotedChar (c : Char) : (quotedChar c ++ s).head? ≠ some '"' := by
  rcases quotedChar_cases c with ⟨e, -, hc⟩ | hc | ⟨hc, -, hq⟩
  · simp [hc]
  · simp [hc]
  · simpa [hc] using hq

/-- The first quote that is not escaped ends a text. -/
theorem quoted_append_inj {cs cs' : List Char}
    (h : cs.flatMap quotedChar ++ '"' :: s = cs'.flatMap quotedChar ++ '"' :: t) :
    cs = cs' ∧ s = t := by
  induction cs generalizing cs' with
  | nil =>
      cases cs' with
      | nil => exact ⟨rfl, (List.cons.inj h).2⟩
      | cons c' cs' =>
          rw [List.flatMap_cons, List.append_assoc] at h
          exact absurd (congrArg List.head? h).symm (head?_quotedChar c')
  | cons c cs ih =>
      rw [List.flatMap_cons, List.append_assoc] at h
      cases cs' with
      | nil => exact absurd (congrArg List.head? h) (head?_quotedChar c)
      | cons c' cs' =>
          rw [List.flatMap_cons, List.append_assoc] at h
          obtain ⟨same, later⟩ := quotedChar_append_inj h
          obtain ⟨rfl, rest⟩ := ih later
          exact ⟨congrArg (· :: cs) same, rest⟩

theorem legible_text : Legible text := by
  intro depth x y s t same
  have same : x.toList.flatMap quotedChar ++ '"' :: ',' :: s =
      y.toList.flatMap quotedChar ++ '"' :: ',' :: t := by
    simpa [text, block] using same
  obtain ⟨texts, rest⟩ := quoted_append_inj same
  exact ⟨String.toList_inj.mp texts, (List.cons.inj rest).2⟩

/-! ## Wrapped values, lists and records -/

theorem Legible.optional {f : α → Outline} (h : Legible f) : Legible (optional f) := by
  intro depth x y s t same
  cases x with
  | none =>
      cases y with
      | none => exact ⟨rfl, by simpa [Outline.optional, block] using same⟩
      | some y => simp [Outline.optional, block] at same
  | some x =>
      cases y with
      | none => simp [Outline.optional, block] at same
      | some y =>
          obtain ⟨rfl, rest⟩ := h (depth + 1) x y ('\n' :: (indent depth).toList ++ ')' :: ',' :: s)
            ('\n' :: (indent depth).toList ++ ')' :: ',' :: t)
            (by simpa [Outline.optional, block] using same)
          exact ⟨rfl, by simpa using rest⟩

theorem toList_indent_succ (depth : Nat) :
    (indent (depth + 1)).toList = (indent depth).toList ++ [' ', ' ', ' ', ' '] := by
  simp [indent, Nat.mul_add, List.replicate_add]

/-- Elements are further to the right than the bracket after them. -/
theorem blockElements_append_inj {f : α → Outline} (h : Legible f) {xs ys : List α}
    (same : (blockElements (depth + 1) (xs.map f)).toList ++ ((indent depth).toList ++ ']' :: s) =
      (blockElements (depth + 1) (ys.map f)).toList ++ ((indent depth).toList ++ ']' :: t)) :
    xs = ys ∧ s = t := by
  induction xs generalizing ys with
  | nil =>
      cases ys with
      | nil => exact ⟨rfl, by simpa [blockElements] using same⟩
      | cons y ys => simp [blockElements, toList_indent_succ] at same
  | cons x xs ih =>
      cases ys with
      | nil => simp [blockElements, toList_indent_succ] at same
      | cons y ys =>
          have line (z : α) (zs : List Outline) : (blockElements (depth + 1) (f z :: zs)).toList =
              (indent (depth + 1)).toList ++ (((f z).block (depth + 1)).toList ++
                ',' :: '\n' :: (blockElements (depth + 1) zs).toList) := by
            simp [blockElements]
          simp only [List.map_cons, line, List.append_assoc, List.append_cancel_left_eq] at same
          obtain ⟨rfl, later⟩ := h (depth + 1) x y _ _ same
          obtain ⟨rfl, rest⟩ := ih (List.cons.inj later).2
          exact ⟨rfl, rest⟩

theorem Legible.list {f : α → Outline} (h : Legible f) :
    Legible fun xs : List α => .list (xs.map f) := by
  intro depth xs ys s t same
  have rest : (blockElements (depth + 1) (xs.map f)).toList ++
      ((indent depth).toList ++ ']' :: ',' :: s) =
      (blockElements (depth + 1) (ys.map f)).toList ++ ((indent depth).toList ++ ']' :: ',' :: t) := by
    cases xs <;> cases ys <;> simp [block, blockElements] at same ⊢ <;> exact same
  obtain ⟨lists, rest⟩ := blockElements_append_inj h rest
  exact ⟨lists, (List.cons.inj rest).2⟩

/-- The fields that are outlined, and where their outlines end, can be told from a text that goes on
in any way. -/
def LegibleFields (f : α → List (String × Outline)) : Prop :=
  ∀ (depth : Nat) (x y : α) (s t : List Char),
    (blockFields depth (f x)).toList ++ s = (blockFields depth (f y)).toList ++ t → x = y ∧ s = t

/-- One field after the other is read. -/
theorem Legible.field {f : α → Outline} (h : Legible f) {name : String} {x y : α}
    {rest rest' : List (String × Outline)}
    (same : (blockFields depth ((name, f x) :: rest)).toList ++ s =
      (blockFields depth ((name, f y) :: rest')).toList ++ t) :
    x = y ∧ (blockFields depth rest).toList ++ s = (blockFields depth rest').toList ++ t := by
  have line (z : α) (more : List (String × Outline)) :
      (blockFields depth ((name, f z) :: more)).toList =
        (indent depth).toList ++ (name.toList ++ ':' :: ' ' :: (((f z).block depth).toList ++
          ',' :: '\n' :: (blockFields depth more).toList)) := by
    simp [blockFields]
  rw [line, line] at same
  simp only [List.append_assoc, List.append_cancel_left_eq, List.cons_append, List.cons.injEq,
    true_and] at same
  obtain ⟨values, later⟩ := h depth x y _ _ same
  exact ⟨values, (List.cons.inj later).2⟩

theorem Legible.record {f : α → List (String × Outline)} (h : LegibleFields f)
    (nonempty : ∀ x, f x ≠ []) (name : String) : Legible fun x => .record name (f x) := by
  intro depth x y s t same
  have body (z : α) : ((Outline.record name (f z)).block depth).toList =
      name.toList ++ ' ' :: '{' :: '\n' :: ((blockFields (depth + 1) (f z)).toList ++
        ((indent depth).toList ++ ['}'])) := by
    obtain ⟨field, rest, hz⟩ := List.exists_cons_of_ne_nil (nonempty z)
    simp [hz, block]
  simp only [body, List.append_assoc, List.append_cancel_left_eq, List.cons_append, List.cons.injEq,
    true_and] at same
  obtain ⟨values, rest⟩ := h (depth + 1) x y _ _ same
  exact ⟨values, by simpa using rest⟩

/-- A record of one field is read as that field. -/
theorem Legible.single {f : α → Outline} (h : Legible f) (name field : String) :
    Legible fun x => .record name [(field, f x)] := by
  have fields : LegibleFields fun x => [(field, f x)] := by
    intro depth x y s t same
    obtain ⟨values, rest⟩ := h.field same
    exact ⟨values, by simpa [blockFields] using rest⟩
  exact .record fields (fun x => List.cons_ne_nil _ _) name

end MouseConfig.Outline
