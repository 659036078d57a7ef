import MouseConfig.Action
import MouseConfig.Proofs.Text.Numeral

/-! # The grammar of actions

Which words name an action on the command line, and why other words do not.  Every two words do the
one or the other, and reading them comes to the action or to the reason.
-/

namespace MouseConfig

/-! ## Pieces between commas -/

namespace Text

theorem comma_not_mem_of_mem_pieces {cs piece : List Char} (h : piece ∈ pieces cs) :
    ',' ∉ piece := by
  induction cs generalizing piece with
  | nil =>
      obtain rfl := List.mem_singleton.mp h
      exact List.not_mem_nil
  | cons c rest ih =>
      rw [pieces, List.splitOn_cons_eq_if_modifyHead] at h
      split at h
      · rcases List.mem_cons.mp h with rfl | h
        · exact List.not_mem_nil
        · exact ih h
      · next other =>
        obtain ⟨first, others, split⟩ := List.exists_cons_of_ne_nil (List.splitOn_ne_nil ',' rest)
        have inRest {p : List Char} (hp : p ∈ first :: others) : ',' ∉ p := by
          rw [← split] at hp
          exact ih hp
        rw [split, List.modifyHead_cons] at h
        rcases List.mem_cons.mp h with rfl | h
        · rw [List.mem_cons, not_or]
          exact ⟨fun same => other (beq_iff_eq.mpr same.symm), inRest List.mem_cons_self⟩
        · exact inRest (List.mem_cons_of_mem first h)

/-- A text has one list of pieces. -/
theorem pieces_eq_iff {cs : List Char} {ps : List (List Char)} :
    pieces cs = ps ↔ ps ≠ [] ∧ cs = [','].intercalate ps ∧ ∀ p ∈ ps, ',' ∉ p := by
  constructor
  · rintro rfl
    exact ⟨List.splitOn_ne_nil _ _, (List.intercalate_splitOn ',').symm,
      fun p hp => comma_not_mem_of_mem_pieces hp⟩
  · rintro ⟨nonempty, rfl, free⟩
    exact List.splitOn_intercalate ',' free nonempty

theorem map_ofList_pieces_eq_iff {text : String} {words : List String} :
    (pieces text.toList).map String.ofList = words ↔
      words ≠ [] ∧ text = ",".intercalate words ∧ ∀ w ∈ words, ',' ∉ w.toList := by
  have same : (pieces text.toList).map String.ofList = words ↔
      pieces text.toList = words.map String.toList := by
    constructor
    · rintro rfl
      simp
    · intro h
      simp [h]
  rw [same, pieces_eq_iff, ← String.toList_inj, String.toList_intercalate]
  simp

end Text

/-! ## Names -/

/-- Names of keys are made of capital letters, digits and underscores. -/
theorem Key.plain_of_isKnown {k : String} (h : isKnown k) :
    k ≠ "" ∧ ∀ c ∈ k.toList, c.isUpper || c.isDigit || c == '_' := by
  have plain : table.all fun e =>
      e.1 != "" && e.1.toList.all fun c => c.isUpper || c.isDigit || c == '_' := by decide
  obtain ⟨code, hc⟩ := Option.isSome_iff_exists.mp h
  obtain ⟨before, after, table_eq, -⟩ := List.lookup_eq_some_iff.mp hc
  have named := List.all_eq_true.mp plain (k, code) (by simp [table_eq])
  rwa [Bool.and_eq_true, bne_iff_ne, List.all_eq_true] at named

theorem Special.ofName?_eq_some_iff {word : String} {s : Special} :
    ofName? word = some s ↔ s.name = word := by
  constructor
  · intro h
    have found := List.find?_some h
    exact beq_iff_eq.mp found
  · rintro rfl
    cases s <;> decide

namespace Action

/-! ## Strokes -/

variable {keys known later : List String} {k : String}

theorem strokes_of_known (h : ∀ k ∈ keys, Key.isKnown k) :
    strokes keys = .ok (keys.flatMap KeyEvent.stroke) := by
  induction keys with
  | nil => rfl
  | cons k rest ih =>
      obtain ⟨first, others⟩ := List.forall_mem_cons.mp h
      rw [strokes, if_pos first, ih others]
      rfl

theorem strokes_of_unknown (h : ∀ p ∈ known, Key.isKnown p) (hk : ¬ Key.isKnown k) :
    strokes (known ++ k :: later) = .error (.key k) := by
  induction known with
  | nil => exact if_neg hk
  | cons p rest ih =>
      obtain ⟨first, others⟩ := List.forall_mem_cons.mp h
      rw [List.cons_append, strokes, if_pos first, ih others]
      rfl

/-- All keys are known, or there is a first one that is not. -/
theorem known_or_exists_unknown (keys : List String) :
    (∀ k ∈ keys, Key.isKnown k) ∨ ∃ known k later, keys = known ++ k :: later ∧
      (∀ p ∈ known, Key.isKnown p) ∧ ¬ Key.isKnown k := by
  induction keys with
  | nil => exact .inl nofun
  | cons k rest ih =>
      by_cases hk : Key.isKnown k
      · rcases ih with all | ⟨known, k', later, rfl, before, unknown⟩
        · exact .inl (List.forall_mem_cons.mpr ⟨hk, all⟩)
        · exact .inr ⟨k :: known, k', later, rfl, List.forall_mem_cons.mpr ⟨hk, before⟩, unknown⟩
      · exact .inr ⟨[], k, rest, rfl, nofun, hk⟩

/-! ## Words and actions -/

/-- The words name the action. -/
inductive Spelled : String → String → Action → Prop
  | button {word : String} {n : Nat} (number : Numeral.Spells word n) (limit : n < UInt32.size) :
      Spelled "button" word (.button (.ofNat n))
  | key {word : String} (known : Key.isKnown word) : Spelled "key" word (.key word)
  | special (s : Special) : Spelled "special" s.name (.special s)
  | sequence {name : String} {keys : List String} (named : name ≠ "") (free : ':' ∉ name.toList)
      (nonempty : keys ≠ []) (known : ∀ k ∈ keys, Key.isKnown k) :
      Spelled "macro" (name ++ ":" ++ ",".intercalate keys)
        (.sequence name (keys.flatMap fun k => [⟨.pressed, k⟩, ⟨.released, k⟩]))

/-- The words name no action, for a reason. -/
inductive Misspelled : String → String → Error → Prop
  | kind {kind word : String} (other : kind ∉ ["button", "key", "special", "macro"]) :
      Misspelled kind word (.kind kind)
  | button {word : String} (none : ∀ n, Numeral.Spells word n → UInt32.size ≤ n) :
      Misspelled "button" word (.button word)
  | key {word : String} (unknown : ¬ Key.isKnown word) : Misspelled "key" word (.key word)
  | special {word : String} (none : ∀ s : Special, s.name ≠ word) :
      Misspelled "special" word (.special word)
  | colon {word : String} (absent : ':' ∉ word.toList) : Misspelled "macro" word (.sequence word)
  | name (text : String) : Misspelled "macro" (":" ++ text) (.sequence (":" ++ text))
  | keys {name : String} (free : ':' ∉ name.toList) :
      Misspelled "macro" (name ++ ":") (.sequence (name ++ ":"))
  /-- Of the pieces between commas, this is the first that is not a known key. -/
  | sequence {name text k : String} {known later : List String} (named : name ≠ "")
      (free : ':' ∉ name.toList) (nonempty : text ≠ "")
      (split : text = ",".intercalate (known ++ k :: later))
      (pieces : ∀ p ∈ known ++ k :: later, ',' ∉ p.toList)
      (before : ∀ p ∈ known, Key.isKnown p) (unknown : ¬ Key.isKnown k) :
      Misspelled "macro" (name ++ ":" ++ text) (.key k)

/-! ## Key sequences -/

variable {name text word : String}

theorem cut_append (free : ':' ∉ name.toList) (text : String) :
    Text.cut ':' (name ++ ":" ++ text).toList = some (name.toList, text.toList) := by
  rw [Text.cut_eq_some_iff]
  exact ⟨by simp, free⟩

/-- A word with something on both sides of its first colon is a name with its keys. -/
theorem ofSequence?_append (named : name ≠ "") (free : ':' ∉ name.toList) (nonempty : text ≠ "") :
    ofSequence? (name ++ ":" ++ text) =
      (strokes ((Text.pieces text.toList).map String.ofList)).map (.sequence name) := by
  obtain ⟨c, cs, hname⟩ := List.exists_cons_of_ne_nil (mt String.toList_eq_nil_iff.mp named)
  obtain ⟨k, ks, htext⟩ := List.exists_cons_of_ne_nil (mt String.toList_eq_nil_iff.mp nonempty)
  have whole : String.ofList (c :: cs) = name := by rw [← hname, String.ofList_toList]
  rw [ofSequence?, cut_append free, hname, htext]
  simp only [whole]

theorem ofSequence?_of_absent (absent : ':' ∉ word.toList) :
    ofSequence? word = .error (.sequence word) := by
  have uncut : Text.cut ':' word.toList = none := by
    refine Option.eq_none_iff_forall_ne_some.mpr fun p hp => absent ?_
    obtain ⟨split, -⟩ := Text.cut_eq_some_iff.mp hp
    simp [split]
  rw [ofSequence?, uncut]

theorem ofSequence?_of_nameless (text : String) :
    ofSequence? (":" ++ text) = .error (.sequence (":" ++ text)) := by
  have front : Text.cut ':' (":" ++ text).toList = some ([], text.toList) :=
    Text.cut_eq_some_iff.mpr ⟨by simp, List.not_mem_nil⟩
  rw [ofSequence?, front]

theorem ofSequence?_of_keyless (free : ':' ∉ name.toList) :
    ofSequence? (name ++ ":") = .error (.sequence (name ++ ":")) := by
  have back : Text.cut ':' (name ++ ":").toList = some (name.toList, []) :=
    Text.cut_eq_some_iff.mpr ⟨by simp, free⟩
  rw [ofSequence?, back]
  cases name.toList <;> rfl

/-! ## Reading -/

variable {kind : String} {a : Action} {e : Error}

theorem ofWords?_of_spelled (h : Spelled kind word a) :
    ofWords? kind word = .ok a := by
  cases h with
  | button number limit => simp [ofWords?, Numeral.word?_of_spells number limit]
  | key known => simp [ofWords?, known]
  | special s => simp [ofWords?, Special.ofName?_eq_some_iff.mpr rfl]
  | @sequence name keys named free nonempty known =>
      have commas : ∀ k ∈ keys, ',' ∉ k.toList := fun k hk hc =>
        absurd ((Key.plain_of_isKnown (known k hk)).2 _ hc) (by decide)
      have split := Text.map_ofList_pieces_eq_iff.mpr ⟨nonempty, rfl, commas⟩
      have written : ",".intercalate keys ≠ "" := by
        intro empty
        rw [empty] at split
        have only : keys = [""] := split.symm
        exact (Key.plain_of_isKnown (known "" (by simp [only]))).1 rfl
      change ofSequence? _ = _
      rw [ofSequence?_append named free written, split, strokes_of_known known]
      rfl

theorem ofWords?_of_misspelled (h : Misspelled kind word e) :
    ofWords? kind word = .error e := by
  cases h with
  | kind other =>
      simp only [List.mem_cons, not_or] at other
      simp [ofWords?, other]
  | button none => simp [ofWords?, Numeral.word?_of_not_spells none]
  | key unknown => simp [ofWords?, unknown]
  | special none =>
      have absent : Special.ofName? word = Option.none :=
        Option.eq_none_iff_forall_ne_some.mpr fun s hs => none s (Special.ofName?_eq_some_iff.mp hs)
      simp [ofWords?, absent]
  | colon absent => exact ofSequence?_of_absent absent
  | name text => exact ofSequence?_of_nameless text
  | keys free => exact ofSequence?_of_keyless free
  | @sequence name text k known later named free nonempty split pieces before unknown =>
      have fields := Text.map_ofList_pieces_eq_iff.mpr ⟨by simp, split, pieces⟩
      change ofSequence? _ = _
      rw [ofSequence?_append named free nonempty, fields, strokes_of_unknown before unknown]
      rfl

/-- What follows the name of a sequence is a list of known keys, or holds a first unknown one. -/
theorem spelled_or_misspelled_of_named (named : name ≠ "") (free : ':' ∉ name.toList)
    (nonempty : text ≠ "") :
    (∃ a, Spelled "macro" (name ++ ":" ++ text) a) ∨
      ∃ e, Misspelled "macro" (name ++ ":" ++ text) e := by
  obtain ⟨some, split, pieces⟩ := Text.map_ofList_pieces_eq_iff.mp (Eq.refl _)
  generalize (Text.pieces text.toList).map String.ofList = keys at some split pieces
  rcases known_or_exists_unknown keys with all | ⟨known, k, later, rfl, before, unknown⟩
  · subst split
    exact .inl ⟨_, .sequence named free some all⟩
  · exact .inr ⟨_, .sequence named free nonempty split pieces before unknown⟩

theorem spelled_or_misspelled_sequence (word : String) :
    (∃ a, Spelled "macro" word a) ∨ ∃ e, Misspelled "macro" word e := by
  by_cases colon : ':' ∈ word.toList
  · obtain ⟨before, after, split, free⟩ := List.eq_append_cons_of_mem colon
    have halves : word = String.ofList before ++ ":" ++ String.ofList after :=
      String.toList_inj.mp (by simp [split])
    have free : ':' ∉ (String.ofList before).toList := by rwa [String.toList_ofList]
    generalize String.ofList before = name at halves free
    generalize String.ofList after = text at halves
    subst halves
    by_cases named : name = ""
    · subst named
      exact .inr ⟨_, .name text⟩
    · by_cases nonempty : text = ""
      · subst nonempty
        rw [String.append_empty]
        exact .inr ⟨_, .keys free⟩
      · exact spelled_or_misspelled_of_named named free nonempty
  · exact .inr ⟨_, .colon colon⟩

/-- Two words name an action, or do not for a reason. -/
theorem spelled_or_misspelled (kind word : String) :
    (∃ a, Spelled kind word a) ∨ ∃ e, Misspelled kind word e := by
  by_cases other : kind ∉ ["button", "key", "special", "macro"]
  · exact .inr ⟨_, .kind other⟩
  · simp only [List.mem_cons, List.not_mem_nil, or_false, Decidable.not_not] at other
    rcases other with rfl | rfl | rfl | rfl
    · by_cases number : ∃ n, Numeral.Spells word n ∧ n < UInt32.size
      · obtain ⟨n, number, limit⟩ := number
        exact .inl ⟨_, .button number limit⟩
      · exact .inr ⟨_, .button fun n hn => Nat.not_lt.mp fun limit => number ⟨n, hn, limit⟩⟩
    · by_cases known : Key.isKnown word
      · exact .inl ⟨_, .key known⟩
      · exact .inr ⟨_, .key known⟩
    · by_cases named : ∃ s : Special, s.name = word
      · obtain ⟨s, rfl⟩ := named
        exact .inl ⟨_, .special s⟩
      · exact .inr ⟨_, .special fun s hs => named ⟨s, hs⟩⟩
    · exact spelled_or_misspelled_sequence word

theorem ofWords?_eq_ok_iff : ofWords? kind word = .ok a ↔ Spelled kind word a := by
  refine ⟨fun h => ?_, ofWords?_of_spelled⟩
  rcases spelled_or_misspelled kind word with ⟨a', spelled⟩ | ⟨e, misspelled⟩
  · cases h.symm.trans (ofWords?_of_spelled spelled)
    exact spelled
  · cases h.symm.trans (ofWords?_of_misspelled misspelled)

theorem ofWords?_eq_error_iff : ofWords? kind word = .error e ↔ Misspelled kind word e := by
  refine ⟨fun h => ?_, ofWords?_of_misspelled⟩
  rcases spelled_or_misspelled kind word with ⟨a, spelled⟩ | ⟨e', misspelled⟩
  · cases h.symm.trans (ofWords?_of_spelled spelled)
  · cases h.symm.trans (ofWords?_of_misspelled misspelled)
    exact misspelled

/-- Two words are read exactly as the action that they name, or refused exactly for the reason why
they name none.  A name and known keys, written as a sequence, read back as that sequence. -/
theorem ofWords?_follows_grammar :
    (∀ kind word : String, (∀ a, ofWords? kind word = .ok a ↔ Spelled kind word a) ∧
      ∀ e, ofWords? kind word = .error e ↔ Misspelled kind word e) ∧
    ∀ (name : String) (keys : List String), name ≠ "" → ':' ∉ name.toList → keys ≠ [] →
      (∀ k ∈ keys, Key.isKnown k) → ofWords? "macro" (name ++ ":" ++ ",".intercalate keys) =
        .ok (.sequence name (keys.flatMap fun k => [⟨.pressed, k⟩, ⟨.released, k⟩])) :=
  ⟨fun _ _ => ⟨fun _ => ofWords?_eq_ok_iff, fun _ => ofWords?_eq_error_iff⟩,
    fun _ _ named free nonempty known =>
      ofWords?_of_spelled (.sequence named free nonempty known)⟩

/-- A sequence whose name holds a comma, and two words with more colons or commas than they need. -/
theorem ofWords?_follows_grammar_of_keys :
    ofWords? "macro" "a,b:KEY_A,KEY_B" = .ok (.sequence "a,b" [⟨.pressed, "KEY_A"⟩,
        ⟨.released, "KEY_A"⟩, ⟨.pressed, "KEY_B"⟩, ⟨.released, "KEY_B"⟩]) ∧
      ofWords? "macro" "a:KEY_A,,KEY_B" = .error (.key "") ∧
      ofWords? "macro" "a:b:KEY_A" = .error (.key "b:KEY_A") := by
  obtain ⟨reads, written⟩ := ofWords?_follows_grammar
  have refused (word : String) := (reads "macro" word).2
  refine ⟨written "a,b" ["KEY_A", "KEY_B"] (by decide) (by decide) (by decide) (by decide), ?_, ?_⟩
  · exact (refused _ _).mpr (@Misspelled.sequence "a" "KEY_A,,KEY_B" "" ["KEY_A"] ["KEY_B"]
      (by decide) (by decide) (by decide) (by decide) (by decide) (by decide) (by decide))
  · exact (refused _ _).mpr (@Misspelled.sequence "a" "b:KEY_A" "b:KEY_A" [] []
      (by decide) (by decide) (by decide) (by decide) (by decide) (by decide) (by decide))

end Action

end MouseConfig
