import MouseConfig.Toml.Quote

/-! # Quoted text reads back

Whatever form is chosen for a text, reading it gives the text and leaves what follows, as long as no
quote follows.
-/

namespace MouseConfig.Toml.Quoted

variable {c : Char} {text rest : List Char}

/-! ## Escapes -/

theorem toNat_lt_of_isControl (h : isControl c) : c.toNat < 128 := by
  simp only [isControl, Bool.or_eq_true, Bool.and_eq_true, decide_eq_true_eq, beq_iff_eq] at h
  rcases h with ⟨⟨h, -⟩, -⟩ | rfl
  · have : c.toNat < ' '.toNat := h
    exact Nat.lt_trans this (by decide)
  · decide

/-- A control character is written by its code. -/
theorem scalar?_hexDigit (h : isControl c) :
    Text.scalar? ['0', '0', hexDigit (c.toNat / 16), hexDigit (c.toNat % 16)] = some c := by
  have codes : ∀ n < 128, Text.scalar? ['0', '0', hexDigit (n / 16), hexDigit (n % 16)] =
      some (Char.ofNat n) := by
    decide
  rw [codes c.toNat (toNat_lt_of_isControl h), Char.ofNat_toNat]

/-- The letters after the backslash of an escape stand for its character. -/
structure Escapes (letters : List Char) (c : Char) : Prop where
  escape? : ∀ rest, Quoted.escape? (letters ++ rest) = some (c, letters.length)
  continuation? : ∀ rest, Quoted.continuation? (letters ++ rest) = none

theorem exists_escapes_of_escaped? {cs : List Char} (h : escaped? c = some cs) :
    ∃ letters, cs = '\\' :: letters ∧ Escapes letters c := by
  rw [escaped?.eq_def] at h
  split at h
  case h_7 =>
    split at h
    · next hc =>
        cases h
        refine ⟨_, rfl, fun rest => ?_, fun rest => rfl⟩
        simp [Quoted.escape?, scalar?_hexDigit hc]
    · cases h
  all_goals
    cases h
    exact ⟨_, rfl, fun rest => rfl, fun rest => rfl⟩

/-- What no form has to escape may stand on one line or is a line break. -/
theorem isPlain_of_not_isControl (h : isControl c = false) (hn : c ≠ '\n') : isPlain c := by
  simp only [isControl, Bool.or_eq_false_iff, Bool.and_eq_false_iff, decide_eq_false_iff_not,
    bne_eq_false_iff_eq, beq_eq_false_iff_ne] at h
  obtain ⟨low, hd⟩ := h
  have notDelete : c.val ≠ 0x7f := fun e => hd (Char.ext e)
  simp only [isPlain, Bool.or_eq_true, Bool.and_eq_true, beq_iff_eq, decide_eq_true_eq, bne_iff_ne]
  rcases low with ⟨low | rfl⟩ | rfl
  · exact .inr ⟨Char.not_lt.mp low, notDelete⟩
  · exact .inl rfl
  · exact absurd rfl hn

theorem ne_return_of_isPlain (h : isPlain c) : c ≠ '\r' := by
  rintro rfl
  cases h

theorem ne_newline_of_isPlain (h : isPlain c) : c ≠ '\n' := by
  rintro rfl
  cases h

/-- What double quotes need not escape. -/
theorem isPlain_of_escaped?_eq_none (h : escaped? c = none) : isPlain c ∧ c ≠ '\\' := by
  rw [escaped?.eq_def] at h
  split at h
  case h_7 _ _ _ newline _ _ backslash =>
    split at h
    · cases h
    · next hc => exact ⟨isPlain_of_not_isControl (Bool.eq_false_iff.mpr hc) newline, backslash⟩
  all_goals cases h

/-! ## Runs of quotes -/

/-- At most `n` marks stand at the front of a text. -/
inductive Leading (quote : Char) : (n : Nat) → List Char → Prop
  | nil {n : Nat} : Leading quote n []
  | other {n : Nat} {d : Char} {rest : List Char} (h : d ≠ quote) : Leading quote n (d :: rest)
  | mark {n : Nat} {rest : List Char} (h : Leading quote n rest) : Leading quote (n + 1) (quote :: rest)

variable {quote : Char} {n q : Nat} {body : List Char}

theorem Leading.mono {m : Nat} (h : Leading quote n body) (hm : n ≤ m) : Leading quote m body := by
  induction h generalizing m with
  | nil => exact .nil
  | other hd => exact .other hd
  | mark h ih =>
      obtain ⟨m, rfl⟩ := Nat.exists_eq_add_of_lt hm
      exact .mark (ih (by omega))

/-- The marks at the front are the whole text, or something else follows them. -/
theorem Leading.split (h : Leading quote n body) :
    (∃ q, q ≤ n ∧ body = List.replicate q quote) ∨
      ∃ q d tail, q ≤ n ∧ d ≠ quote ∧ body = List.replicate q quote ++ d :: tail := by
  induction h with
  | nil => exact .inl ⟨0, Nat.zero_le _, rfl⟩
  | other hd => exact .inr ⟨0, _, _, Nat.zero_le _, hd, rfl⟩
  | mark h ih =>
      rcases ih with ⟨q, hq, rfl⟩ | ⟨q, d, tail, hq, hd, rfl⟩
      · exact .inl ⟨q + 1, Nat.succ_le_succ hq, rfl⟩
      · exact .inr ⟨q + 1, d, tail, Nat.succ_le_succ hq, hd, rfl⟩

theorem takeWhile_replicate_append (h : rest.head? ≠ some quote) :
    (List.replicate n quote ++ rest).takeWhile (· == quote) = List.replicate n quote := by
  rw [List.takeWhile_append_of_pos (by simp [List.mem_replicate])]
  cases rest with
  | nil => simp
  | cons d rest =>
      have hd : d ≠ quote := by simpa using h
      simp [hd]

/-- Three marks close a text, and up to two more before them belong to it. -/
theorem closing?_replicate (h : rest.head? ≠ some quote) (hq : q ≤ 2) :
    closing? quote (List.replicate (q + 2) quote ++ rest) = some (List.replicate q quote, rest) := by
  have own : min (q + 2 - 2) 2 = q := by omega
  rw [closing?, takeWhile_replicate_append h, List.length_replicate, if_pos (Nat.le_add_left 2 q),
    own]
  dsimp only
  rw [Nat.add_comm 2 q, List.drop_left' List.length_replicate]

/-- Fewer than three marks close nothing. -/
theorem closing?_eq_none {d : Char} (hd : d ≠ quote) (hq : q ≤ 1) :
    closing? quote (List.replicate q quote ++ d :: rest) = none := by
  rw [closing?, takeWhile_replicate_append (by simpa using hd), List.length_replicate,
    if_neg (by omega)]

/-- A reader of text over several lines stops at three marks. -/
def Closes (quote : Char) (read : Scanner (List Char)) : Prop :=
  ∀ rest, read (quote :: rest) =
    match closing? quote rest with
    | some r => some r
    | none => push quote (read rest)

def closer (quote : Char) (rest : List Char) : List Char := quote :: quote :: quote :: rest

theorem replicate_append_closer :
    List.replicate q quote ++ closer quote rest = quote :: (List.replicate (q + 2) quote ++ rest) := by
  have front : List.replicate q quote ++ [quote] = quote :: List.replicate q quote := by
    rw [← List.replicate_succ', List.replicate_succ]
  calc List.replicate q quote ++ closer quote rest
      = (List.replicate q quote ++ [quote]) ++ quote :: quote :: rest := by simp [closer]
    _ = quote :: (List.replicate q quote ++ [quote, quote] ++ rest) := by simp [front]
    _ = _ := by rw [List.replicate_succ', List.replicate_succ']; simp

variable {read : Scanner (List Char)}

/-- A text of marks alone. -/
theorem Closes.replicate (hr : Closes quote read) (h : rest.head? ≠ some quote) (hq : q ≤ 2) :
    read (List.replicate q quote ++ closer quote rest) = some (List.replicate q quote, rest) := by
  rw [replicate_append_closer, hr, closing?_replicate h hq]

/-- One more mark in front of a text that reads back. -/
theorem Closes.mark (hr : Closes quote read) (h : rest.head? ≠ some quote) (hl : Leading quote 1 body)
    (ih : read (body ++ closer quote rest) = some (text, rest)) :
    read (quote :: body ++ closer quote rest) = some (quote :: text, rest) := by
  rcases hl.split with ⟨q, hq, rfl⟩ | ⟨q, d, tail, hq, hd, rfl⟩
  · rw [hr.replicate h (Nat.le_succ_of_le hq)] at ih
    cases ih
    rw [← List.replicate_succ]
    exact hr.replicate h (Nat.succ_le_succ hq)
  · rw [List.append_assoc, List.cons_append] at ih
    rw [List.cons_append, List.append_assoc, List.cons_append, hr, closing?_eq_none hd hq]
    simp only [ih, push, Option.map_some]

/-! ## Between double quotes -/

theorem basic_skip (body rest : List Char) :
    basic body.length (body ++ rest) = basic 0 rest := by
  induction body with
  | nil => rfl
  | cons c body ih => exact ih

theorem basicLines_skip (body rest : List Char) :
    basicLines body.length (body ++ rest) = basicLines 0 rest := by
  induction body with
  | nil => rfl
  | cons c body ih => exact ih

theorem basic_plain (h : isPlain c) (hq : c ≠ '"') (hb : c ≠ '\\') :
    basic 0 (c :: rest) = push c (basic 0 rest) := by
  rw [basic.eq_def]
  split <;> simp_all

theorem basicLines_plain (h : isPlain c) (hq : c ≠ '"') (hb : c ≠ '\\') :
    basicLines 0 (c :: rest) = push c (basicLines 0 rest) := by
  have := ne_newline_of_isPlain h
  have := ne_return_of_isPlain h
  rw [basicLines.eq_def]
  split <;> simp_all

theorem Escapes.basic {letters : List Char} (h : Escapes letters c) (rest : List Char) :
    basic 0 ('\\' :: letters ++ rest) = push c (Quoted.basic 0 rest) := by
  rw [List.cons_append, Quoted.basic, h.escape?, Option.bind_some, basic_skip]

theorem Escapes.basicLines {letters : List Char} (h : Escapes letters c) (rest : List Char) :
    basicLines 0 ('\\' :: letters ++ rest) = push c (Quoted.basicLines 0 rest) := by
  rw [List.cons_append, Quoted.basicLines, h.continuation?]
  simp only [h.escape?, Option.bind_some, basicLines_skip]

theorem escapes_quote : Escapes ['"'] '"' := ⟨fun _ => rfl, fun _ => rfl⟩

/-- A character is written as it is, or as an escape of it; a quote, if no more are allowed. -/
theorem escape_cons {allowed run : Nat} (lines : Bool) (hq : c = '"' → allowed ≤ run)
    (text : List Char) :
    (lines = true ∧ c = '\n' ∧
        escape lines allowed run (c :: text) = c :: escape lines allowed 0 text) ∨
      (isPlain c ∧ c ≠ '"' ∧ c ≠ '\\' ∧
        escape lines allowed run (c :: text) = c :: escape lines allowed 0 text) ∨
      ∃ letters, Escapes letters c ∧
        escape lines allowed run (c :: text) = '\\' :: letters ++ escape lines allowed 0 text := by
  rw [escape]
  by_cases quoted : c = '"'
  · rw [if_pos quoted, if_neg (Nat.not_lt.mpr (hq quoted))]
    subst quoted
    exact .inr (.inr ⟨['"'], escapes_quote, rfl⟩)
  rw [if_neg quoted]
  by_cases hn : lines = true ∧ c = '\n'
  · obtain ⟨rfl, rfl⟩ := hn
    exact .inl ⟨rfl, rfl, rfl⟩
  rw [if_neg (by simpa using hn)]
  cases he : escaped? c with
  | none =>
      obtain ⟨plain, hb⟩ := isPlain_of_escaped?_eq_none he
      exact .inr (.inl ⟨plain, quoted, hb, rfl⟩)
  | some cs =>
      obtain ⟨letters, rfl, escapes⟩ := exists_escapes_of_escaped? he
      exact .inr (.inr ⟨letters, escapes, rfl⟩)

theorem basic_escape (text rest : List Char) :
    basic 0 (escape false 0 0 text ++ '"' :: rest) = some (text, rest) := by
  induction text with
  | nil => rfl
  | cons c text ih =>
      rcases escape_cons false (fun _ : c = '"' => Nat.le_refl 0) text with
        ⟨h, -⟩ | ⟨plain, hq, hb, h⟩ | ⟨letters, escapes, h⟩
      · cases h
      · rw [h, List.cons_append, basic_plain plain hq hb, ih]
        rfl
      · rw [h, List.append_assoc, escapes.basic, ih]
        rfl

theorem escape_quote {lines : Bool} {allowed run : Nat} (h : run < allowed) (text : List Char) :
    escape lines allowed run ('"' :: text) = '"' :: escape lines allowed (run + 1) text := by
  rw [escape, if_pos rfl, if_pos h]

/-- No more quotes stand in a row than are allowed. -/
theorem leading_escape (lines : Bool) (allowed run : Nat) (text : List Char) :
    Leading '"' (allowed - run) (escape lines allowed run text) := by
  induction text generalizing run with
  | nil => exact .nil
  | cons c text ih =>
      by_cases own : c = '"' ∧ run < allowed
      · obtain ⟨rfl, hrun⟩ := own
        have room : allowed - run = allowed - (run + 1) + 1 := by omega
        rw [escape_quote hrun, room]
        exact .mark (ih (run + 1))
      · have closed : c = '"' → allowed ≤ run := fun hq => Nat.not_lt.mp fun h => own ⟨hq, h⟩
        rcases escape_cons lines closed text with
          ⟨-, rfl, h⟩ | ⟨-, hq, -, h⟩ | ⟨letters, -, h⟩
        · rw [h]
          exact .other (by decide)
        · rw [h]
          exact .other hq
        · rw [h]
          exact .other (by decide)

theorem closes_basicLines : Closes '"' (basicLines 0) := fun _ => rfl

theorem basicLines_escape (run : Nat) (text : List Char) (hr : rest.head? ≠ some '"') :
    basicLines 0 (escape true 2 run text ++ closer '"' rest) = some (text, rest) := by
  induction text generalizing run with
  | nil => exact closes_basicLines.replicate (q := 0) hr (Nat.zero_le 2)
  | cons c text ih =>
      by_cases own : c = '"' ∧ run < 2
      · obtain ⟨rfl, hrun⟩ := own
        rw [escape_quote hrun]
        exact closes_basicLines.mark hr ((leading_escape _ _ _ text).mono (by omega)) (ih _)
      · have closed : c = '"' → 2 ≤ run := fun hq => Nat.not_lt.mp fun h => own ⟨hq, h⟩
        rcases escape_cons true closed text with
          ⟨-, rfl, h⟩ | ⟨plain, hq, hb, h⟩ | ⟨letters, escapes, h⟩
        · rw [h, List.cons_append, basicLines, ih]
          rfl
        · rw [h, List.cons_append, basicLines_plain plain hq hb, ih]
          rfl
        · rw [h, List.append_assoc, escapes.basicLines, ih]
          rfl

/-! ## Between single quotes -/

theorem literal_append (h : ∀ c ∈ text, isPlain c ∧ c ≠ '\'') (rest : List Char) :
    literal (text ++ '\'' :: rest) = some (text, rest) := by
  induction text with
  | nil => rfl
  | cons c text ih =>
      obtain ⟨plain, hq⟩ := h c List.mem_cons_self
      rw [List.cons_append, literal, if_pos plain, ih fun d hd => h d (List.mem_cons_of_mem c hd)]
      · rfl
      · exact hq

theorem closes_literalLines : Closes '\'' literalLines := fun _ => rfl

theorem literalLines_plain (h : isPlain c) (hq : c ≠ '\'') :
    literalLines (c :: rest) = push c (literalLines rest) := by
  have := ne_newline_of_isPlain h
  have := ne_return_of_isPlain h
  rw [literalLines.eq_def]
  split <;> simp_all

theorem max_le_longestRun (mark : Char) (run longest : Nat) (text : List Char) :
    max run longest ≤ longestRun mark run longest text := by
  induction text generalizing run longest with
  | nil => exact Nat.le_refl _
  | cons c text ih =>
      rw [longestRun]
      split
      · refine Nat.le_trans ?_ (ih (run + 1) longest)
        omega
      · refine Nat.le_trans ?_ (ih 0 (max run longest))
        omega

theorem leading_of_longestRun {run longest : Nat} (h : longestRun quote run longest text ≤ n) :
    Leading quote (n - run) text := by
  induction text generalizing run longest with
  | nil => exact .nil
  | cons c text ih =>
      rw [longestRun] at h
      split at h
      · next hc =>
          have bound := Nat.le_trans (max_le_longestRun ..) h
          have room : n - run = n - (run + 1) + 1 := by omega
          rw [hc, room]
          exact .mark (ih h)
      · next hc => exact .other hc

theorem literalLines_append {run longest : Nat} (hc : ∀ c ∈ text, isControl c = false)
    (hl : longestRun '\'' run longest text ≤ 2) (hr : rest.head? ≠ some '\'') :
    literalLines (text ++ closer '\'' rest) = some (text, rest) := by
  induction text generalizing run longest with
  | nil => exact closes_literalLines.replicate (q := 0) hr (Nat.zero_le 2)
  | cons c text ih =>
      have later : ∀ d ∈ text, isControl d = false := fun d hd => hc d (List.mem_cons_of_mem c hd)
      rw [longestRun] at hl
      split at hl
      · next own =>
          rw [own]
          exact closes_literalLines.mark hr ((leading_of_longestRun hl).mono (by omega))
            (ih later hl)
      · next hq =>
          by_cases hn : c = '\n'
          · rw [hn, List.cons_append, literalLines, ih later hl]
            rfl
          · have plain := isPlain_of_not_isControl (hc c List.mem_cons_self) hn
            rw [List.cons_append, literalLines_plain plain hq, ih later hl]
            rfl

theorem not_mem_of_longestRun {run longest : Nat} (h : longestRun quote run longest text = 0) :
    quote ∉ text := by
  induction text generalizing run longest with
  | nil => exact List.not_mem_nil
  | cons c text ih =>
      rw [longestRun] at h
      split at h
      · have bound := max_le_longestRun quote (run + 1) longest text
        omega
      · next hc =>
          rw [List.mem_cons]
          rintro (rfl | hm)
          · exact hc rfl
          · exact ih h hm

/-! ## Any form -/

theorem form_eq_literal (h : form text = .literal) :
    (∀ c ∈ text, isControl c = false) ∧ longestRun '\'' 0 0 text = 0 ∧ '\n' ∉ text := by
  simp only [form] at h
  split at h
  · cases h
  split at h
  · next hl =>
      simp only [Bool.and_eq_true, Bool.not_eq_true', beq_iff_eq, List.any_eq_false,
        List.contains_eq_mem, decide_eq_false_iff_not] at hl
      obtain ⟨⟨plain, singles⟩, oneLine⟩ := hl
      exact ⟨fun c hc => Bool.eq_false_iff.mpr (plain c hc), singles, oneLine⟩
  split at h
  · cases h
  split at h
  · cases h
  split at h <;> cases h

theorem form_eq_literalLines (h : form text = .literalLines) :
    (∀ c ∈ text, isControl c = false) ∧ longestRun '\'' 0 0 text ≤ 2 := by
  simp only [form] at h
  split at h
  · cases h
  split at h
  · cases h
  split at h
  · cases h
  split at h
  · next hl =>
      simp only [Bool.and_eq_true, Bool.not_eq_true', decide_eq_true_eq, List.any_eq_false] at hl
      exact ⟨fun c hc => Bool.eq_false_iff.mpr (hl.1 c hc), hl.2⟩
  split at h <;> cases h

/-- A text on one line does not look like one over several. -/
theorem Leading.append_ne (h : Leading quote 0 body) (hr : rest.head? ≠ some quote)
    (tail : List Char) : body ++ quote :: rest ≠ quote :: quote :: tail := by
  cases h with
  | nil =>
      rintro ⟨⟩
      exact hr rfl
  | other hd =>
      intro e
      exact hd (List.cons.inj e).1

theorem read?_basic (h : ∀ tail, body ≠ '"' :: '"' :: tail) :
    read? ('"' :: body) = (basic 0 body).map fun p => (String.ofList p.1, p.2) := by
  rw [read?.eq_def]
  split
  · next e => exact absurd (List.cons.inj e).2 (h _)
  · next e => cases e
  · rfl

theorem read?_literal (h : ∀ tail, body ≠ '\'' :: '\'' :: tail) :
    read? ('\'' :: body) = (literal body).map fun p => (String.ofList p.1, p.2) := by
  rw [read?.eq_def]
  split
  · next e => cases e
  · next e => exact absurd (List.cons.inj e).2 (h _)
  · rfl

/-- The line break after the opening quotes is there when the text itself could start with one. -/
theorem trimNewline_lead (h : '\n' ∉ text → body.head? ≠ some '\n' ∧ body.head? ≠ some '\r') :
    trimNewline (lead text ++ body) = body := by
  by_cases hn : '\n' ∈ text
  · rw [lead, if_pos (by simpa using hn)]
    rfl
  · obtain ⟨newline, carriage⟩ := h hn
    rw [lead, if_neg (by simpa using hn), List.nil_append, trimNewline, newline?.eq_def]
    split
    · exact absurd rfl newline
    · exact absurd rfl carriage
    · rfl

theorem head?_escape_append (hn : '\n' ∉ text) :
    (escape true 2 0 text ++ closer '"' rest).head? ≠ some '\n' ∧
      (escape true 2 0 text ++ closer '"' rest).head? ≠ some '\r' := by
  cases text with
  | nil => exact ⟨nofun, nofun⟩
  | cons c text =>
      by_cases hq : c = '"'
      · rw [hq, escape_quote (Nat.zero_lt_two)]
        exact ⟨nofun, nofun⟩
      · have other : c = '"' → 2 ≤ 0 := fun h => absurd h hq
        rcases escape_cons true other text with
          ⟨-, rfl, -⟩ | ⟨plain, -, -, h⟩ | ⟨letters, -, h⟩
        · exact absurd List.mem_cons_self hn
        · rw [h]
          refine ⟨fun e => ?_, fun e => ?_⟩
          · exact ne_newline_of_isPlain plain (Option.some.inj e)
          · exact ne_return_of_isPlain plain (Option.some.inj e)
        · rw [h]
          exact ⟨nofun, nofun⟩

theorem head?_append_closer (hc : ∀ c ∈ text, isControl c = false) (hn : '\n' ∉ text) :
    (text ++ closer '\'' rest).head? ≠ some '\n' ∧
      (text ++ closer '\'' rest).head? ≠ some '\r' := by
  cases text with
  | nil => exact ⟨nofun, nofun⟩
  | cons c text =>
      refine ⟨fun e => ?_, fun e => ?_⟩
      · cases e
        exact hn List.mem_cons_self
      · cases e
        cases hc '\r' List.mem_cons_self

/-- Every form starts with a quote. -/
theorem write_eq_cons (text : List Char) :
    ∃ quote body, (quote = '"' ∨ quote = '\'') ∧ write text = quote :: body := by
  rw [write]
  cases form text with
  | basic | basicLines => exact ⟨_, _, .inl rfl, rfl⟩
  | literal | literalLines => exact ⟨_, _, .inr rfl, rfl⟩

/-- Text reads back however it is quoted. -/
theorem read?_write (text : List Char) (hd : rest.head? ≠ some '"') (hs : rest.head? ≠ some '\'') :
    read? (write text ++ rest) = some (String.ofList text, rest) := by
  cases hf : form text with
  | basic =>
      have written : write text ++ rest = '"' :: (escape false 0 0 text ++ '"' :: rest) := by
        simp [write, hf]
      rw [written, read?_basic ((leading_escape false 0 0 text).append_ne hd), basic_escape]
      rfl
  | literal =>
      obtain ⟨controls, singles, oneLine⟩ := form_eq_literal hf
      have written : write text ++ rest = '\'' :: (text ++ '\'' :: rest) := by
        simp [write, hf]
      have inside : ∀ c ∈ text, isPlain c ∧ c ≠ '\'' := fun c hc =>
        ⟨isPlain_of_not_isControl (controls c hc) (ne_of_mem_of_not_mem hc oneLine),
          ne_of_mem_of_not_mem hc (not_mem_of_longestRun singles)⟩
      have single : Leading '\'' 0 text := leading_of_longestRun (Nat.le_of_eq singles)
      rw [written, read?_literal (single.append_ne hs), literal_append inside]
      rfl
  | basicLines =>
      have written : write text ++ rest =
          '"' :: '"' :: '"' :: (lead text ++ (escape true 2 0 text ++ closer '"' rest)) := by
        simp [write, hf, closer]
      rw [written, read?, trimNewline_lead head?_escape_append, basicLines_escape 0 text hd]
      rfl
  | literalLines =>
      obtain ⟨controls, singles⟩ := form_eq_literalLines hf
      have written : write text ++ rest =
          '\'' :: '\'' :: '\'' :: (lead text ++ (text ++ closer '\'' rest)) := by
        simp [write, hf, closer]
      rw [written, read?, trimNewline_lead (head?_append_closer controls),
        literalLines_append controls singles hs]
      rfl

end MouseConfig.Toml.Quoted
