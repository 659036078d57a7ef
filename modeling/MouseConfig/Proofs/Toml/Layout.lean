import MouseConfig.Proofs.Toml.Setting

/-! # Sheets read back as statements

Every line of a sheet is one statement, and every heading another.
-/

namespace MouseConfig.Toml

open Reader

variable {c : Char} {k : String} {path : List String} {rest : List Char} {ss : List Statement}

theorem Setting.exists_write_eq_cons (s : Setting) :
    ∃ c cs, isBlank c = false ∧ s.write = c :: cs := by
  cases s with
  | text s =>
      obtain ⟨quote, body, rfl | rfl, hw⟩ := Quoted.write_eq_cons s.toList
      · exact ⟨_, body, rfl, hw⟩
      · exact ⟨_, body, rfl, hw⟩
  | number n =>
      obtain ⟨d, ds, digit, hd⟩ := Number.exists_numeral_eq_cons n
      refine ⟨d, ds, ?_, hd⟩
      rw [isBlank, Bool.or_eq_false_iff, beq_eq_false_iff_ne, beq_eq_false_iff_ne]
      refine ⟨?_, ?_⟩
      · rintro rfl
        cases digit
      · rintro rfl
        cases digit
  | flag b => cases b <;> exact ⟨_, _, rfl, rfl⟩
  | texts ts =>
      rcases ts with _ | ⟨t, _ | ⟨u, ts⟩⟩ <;> exact ⟨_, _, rfl, rfl⟩

/-! ## Keys -/

/-- Keys that need no quotes. -/
def IsBare (k : String) : Prop := k.toList ≠ [] ∧ k.toList.all isBareKey

instance (k : String) : Decidable (IsBare k) := inferInstanceAs (Decidable (_ ∧ _))

theorem IsBare.isBareKey_of_mem (h : IsBare k) : ∀ c ∈ k.toList, isBareKey c :=
  List.all_eq_true.mp h.2

theorem IsBare.exists_cons (h : IsBare k) : ∃ c cs, isBareKey c ∧ k.toList = c :: cs := by
  cases hk : k.toList with
  | nil => exact absurd hk h.1
  | cons c cs =>
      refine ⟨c, cs, h.isBareKey_of_mem c ?_, rfl⟩
      rw [hk]
      exact List.mem_cons_self

/-- A character of a key is none of those that have a meaning between keys. -/
theorem ne_of_isBareKey {d : Char} (h : isBareKey c) (hd : isBareKey d = false) : c ≠ d := by
  rintro rfl
  exact absurd h (Bool.eq_false_iff.mp hd)

theorem skipBlanks_of_isBareKey (h : isBareKey c) (cs : List Char) :
    skipBlanks (c :: cs) = c :: cs := by
  have space := ne_of_isBareKey (d := ' ') h rfl
  have tab := ne_of_isBareKey (d := '\t') h rfl
  rw [skipBlanks, List.dropWhile_cons_of_neg]
  simp [isBlank, space, tab]

theorem IsBare.append_ne {d : Char} (h : IsBare k) (hd : isBareKey d = false)
    (tail : List Char) : k.toList ++ rest ≠ d :: tail := by
  obtain ⟨c, cs, bare, hk⟩ := h.exists_cons
  rw [hk]
  intro e
  exact ne_of_isBareKey bare hd (List.cons.inj e).1

theorem IsBare.skipBlanks_append (h : IsBare k) (rest : List Char) :
    skipBlanks (k.toList ++ rest) = k.toList ++ rest := by
  obtain ⟨c, cs, bare, hk⟩ := h.exists_cons
  rw [hk]
  exact skipBlanks_of_isBareKey bare _

theorem bareKey?_append (h : IsBare k) (hc : isBareKey c = false) :
    bareKey? (k.toList ++ c :: rest) = some (k, c :: rest) := by
  have key : (k.toList ++ c :: rest).takeWhile isBareKey = k.toList := by
    rw [List.takeWhile_append_of_pos h.isBareKey_of_mem, List.takeWhile_cons_of_neg (by simp [hc]),
      List.append_nil]
  have after : (k.toList ++ c :: rest).dropWhile isBareKey = c :: rest := by
    rw [List.dropWhile_append_of_pos h.isBareKey_of_mem, List.dropWhile_cons_of_neg (by simp [hc])]
  rw [bareKey?, key, after, if_neg h.1, String.ofList_toList]

theorem simpleKey?_append (h : IsBare k) (hc : isBareKey c = false) :
    simpleKey? (k.toList ++ c :: rest) = some (k, c :: rest) := by
  rw [simpleKey?.eq_def]
  split
  · next e => exact absurd e (h.append_ne rfl _)
  · next e => exact absurd e (h.append_ne rfl _)
  · exact bareKey?_append h hc

theorem keys?_append (h : IsBare k) (hc : isBareKey c = false) (fuel : Nat) :
    keys? (fuel + 1) (k.toList ++ c :: rest) =
      match skipBlanks (c :: rest) with
      | '.' :: rest => (keys? fuel rest).map fun p => (k :: p.1, p.2)
      | rest => some ([k], rest) := by
  rw [keys?, h.skipBlanks_append, simpleKey?_append h hc]
  rfl

/-- A key in front of an equals sign. -/
theorem path?_key (h : IsBare k) (rest : List Char) :
    path? (k.toList ++ ' ' :: '=' :: rest) = some ([k], '=' :: rest) := by
  rw [path?, keys?_append h rfl]
  rfl

theorem pathText_cons_cons (k l : String) (path : List String) :
    Heading.pathText (k :: l :: path) = k.toList ++ '.' :: Heading.pathText (l :: path) := by
  simp [Heading.pathText]

theorem pathText_singleton (k : String) : Heading.pathText [k] = k.toList := by
  simp [Heading.pathText]

theorem length_le_pathText (path : List String) :
    path.length ≤ (Heading.pathText path).length + 1 := by
  induction path with
  | nil => exact Nat.zero_le _
  | cons k path ih =>
      cases path with
      | nil => exact Nat.le_add_left ..
      | cons l path =>
          rw [pathText_cons_cons, List.length_append]
          simp only [List.length_cons] at ih ⊢
          omega

theorem keys?_pathText (fuel : Nat) (hf : path.length ≤ fuel) (hp : path ≠ [])
    (h : ∀ k ∈ path, IsBare k) (rest : List Char) :
    keys? fuel (Heading.pathText path ++ ']' :: rest) = some (path, ']' :: rest) := by
  induction path generalizing fuel with
  | nil => exact absurd rfl hp
  | cons k path ih =>
      obtain ⟨fuel, rfl⟩ : ∃ m, fuel = m + 1 := Nat.exists_eq_add_one.mpr (by
        rw [List.length_cons] at hf
        omega)
      have bare := h k List.mem_cons_self
      cases path with
      | nil =>
          rw [pathText_singleton, keys?_append bare rfl]
          rfl
      | cons l path =>
          have later := ih fuel (Nat.le_of_succ_le_succ hf) nofun
            fun m hm => h m (List.mem_cons_of_mem k hm)
          rw [pathText_cons_cons, List.append_assoc, List.cons_append, keys?_append bare rfl]
          change Option.map _ (keys? fuel _) = _
          rw [later]
          rfl

theorem pathText_append_ne (hp : path ≠ []) (h : ∀ k ∈ path, IsBare k) {d : Char}
    (hd : isBareKey d = false) (tail : List Char) : Heading.pathText path ++ rest ≠ d :: tail := by
  cases path with
  | nil => exact absurd rfl hp
  | cons k path =>
      have bare := h k List.mem_cons_self
      cases path with
      | nil =>
          rw [pathText_singleton]
          exact bare.append_ne hd tail
      | cons l path =>
          rw [pathText_cons_cons, List.append_assoc]
          exact bare.append_ne hd tail

/-- The keys of a heading. -/
theorem path?_pathText (hp : path ≠ []) (hl : path.length < limit) (h : ∀ k ∈ path, IsBare k)
    (rest : List Char) :
    path? (Heading.pathText path ++ ']' :: rest) = some (path, ']' :: rest) := by
  have room := length_le_pathText path
  rw [path?, keys?_pathText _ ?_ hp h]
  · simp [hl]
  · rw [List.length_append]
    omega

/-! ## Statements -/

namespace Heading

/-- What a heading says about the table at a path. -/
def statement (path : List String) : Heading → Statement
  | one k => .define (path ++ [k])
  | oneOf k => .extend (path ++ [k])

end Heading

/-- The first character of a statement. -/
def Opens (c : Char) : Prop := isBareKey c ∨ c = '['

theorem Opens.ne {d : Char} (h : Opens c) (hd : isBareKey d = false) (hb : d ≠ '[') : c ≠ d := by
  rcases h with bare | rfl
  · exact ne_of_isBareKey bare hd
  · exact hb.symm

/-- A statement on a line of its own. -/
theorem statements?_line {cs : List Char} {s : Statement} (hc : Opens c)
    (hs : statement? (c :: cs) = some (s, '\n' :: rest)) (fuel : Nat) :
    statements? (fuel + 1) (c :: cs) = (statements? fuel rest).map (s :: ·) := by
  have blanks : skipBlanks (c :: cs) = c :: cs := by
    rw [skipBlanks, List.dropWhile_cons_of_neg]
    simp [isBlank, hc.ne (d := ' ') rfl (by decide), hc.ne (d := '\t') rfl (by decide)]
  rw [statements?, blanks]
  split
  · next e => cases e
  · next e => exact absurd (List.cons.inj e).1 (hc.ne rfl (by decide))
  · next e => exact absurd (List.cons.inj e).1 (hc.ne rfl (by decide))
  · next e => exact absurd (List.cons.inj e).1 (hc.ne rfl (by decide))
  · rw [hs]
    rfl

theorem statement?_line {s : Setting} (hk : IsBare k) (hs : s.Fits) (rest : List Char) :
    statement? (s.line k ++ rest) = some (.assign [k] s.value, '\n' :: rest) := by
  have written : s.line k ++ rest =
      k.toList ++ (' ' :: '=' :: ' ' :: (s.write ++ '\n' :: rest)) := by
    simp [Setting.line]
  have blank : skipBlanks (' ' :: (s.write ++ '\n' :: rest)) = s.write ++ '\n' :: rest := by
    obtain ⟨d, ds, hd, hw⟩ := s.exists_write_eq_cons
    change skipBlanks (s.write ++ '\n' :: rest) = _
    rw [hw, List.cons_append, skipBlanks, List.dropWhile_cons_of_neg (by simp [hd])]
  have value : value? (limit - 1) (s.write ++ '\n' :: rest) = some (s.value, '\n' :: rest) :=
    value?_setting 78 s hs rest
  rw [written, statement?.eq_def]
  split
  · next e => exact absurd e (hk.append_ne rfl _)
  · next e => exact absurd e (hk.append_ne rfl _)
  · rw [pair?, path?_key hk]
    change Option.map _ (Option.bind (value? (limit - 1) (skipBlanks _)) _) = _
    rw [blank, value]
    rfl

theorem statement?_heading {h : Heading} (hl : path.length + 1 < limit)
    (hp : ∀ k ∈ path ++ [h.key], IsBare k) (rest : List Char) :
    statement? (h.line path ++ rest) = some (h.statement path, '\n' :: rest) := by
  have nonempty : path ++ [h.key] ≠ [] := by simp
  have short : (path ++ [h.key]).length < limit := by simpa using hl
  cases h with
  | one k =>
      have written : (Heading.one k).line path ++ rest =
          '[' :: (Heading.pathText (path ++ [k]) ++ ']' :: '\n' :: rest) := by
        simp [Heading.line]
      have read := path?_pathText nonempty short hp ('\n' :: rest)
      rw [written, statement?.eq_def]
      split
      · next e =>
          exact absurd (List.cons.inj e).2 (pathText_append_ne nonempty hp rfl _)
      · next e =>
          cases e
          simp only [Heading.key] at read
          rw [read]
          rfl
      · next other => exact absurd rfl (other _)
  | oneOf k =>
      have written : (Heading.oneOf k).line path ++ rest =
          '[' :: '[' :: (Heading.pathText (path ++ [k]) ++ ']' :: ']' :: '\n' :: rest) := by
        simp [Heading.line]
      have read := path?_pathText nonempty short hp (']' :: '\n' :: rest)
      rw [written, statement?]
      simp only [Heading.key] at read
      rw [read]
      rfl

/-! ## Lines -/

/-- A text is made of these statements. -/
def Lines (cs : List Char) (ss : List Statement) : Prop :=
  ∀ fuel, cs.length < fuel → statements? fuel cs = some ss

theorem Lines.nil : Lines [] [] := fun fuel h => by
  obtain ⟨fuel, rfl⟩ : ∃ m, fuel = m + 1 := Nat.exists_eq_add_one.mpr h
  rfl

theorem Lines.cons {s : Statement} {cs : List Char} (h : Lines rest ss) (hc : Opens c)
    (hl : rest.length ≤ cs.length) (hs : statement? (c :: cs) = some (s, '\n' :: rest)) :
    Lines (c :: cs) (s :: ss) := fun fuel hf => by
  obtain ⟨fuel, rfl⟩ : ∃ m, fuel = m + 1 := Nat.exists_eq_add_one.mpr (Nat.zero_lt_of_lt hf)
  rw [statements?_line hc hs, h fuel (Nat.lt_of_le_of_lt hl (Nat.lt_of_succ_lt_succ hf))]
  rfl

theorem Lines.blank (h : Lines rest ss) : Lines ('\n' :: rest) ss := fun fuel hf => by
  obtain ⟨fuel, rfl⟩ : ∃ m, fuel = m + 1 := Nat.exists_eq_add_one.mpr (Nat.zero_lt_of_lt hf)
  exact h fuel (Nat.lt_of_succ_lt_succ hf)

theorem Lines.setting {s : Setting} (h : Lines rest ss) (hk : IsBare k) (hs : s.Fits) :
    Lines (s.line k ++ rest) (.assign [k] s.value :: ss) := by
  have read := statement?_line hk hs rest
  obtain ⟨c, cs, bare, e⟩ := hk.exists_cons
  have written : s.line k ++ rest = c :: (cs ++ ([' ', '=', ' '] ++ s.write ++ ['\n'] ++ rest)) := by
    simp [Setting.line, e]
  rw [written] at read ⊢
  refine h.cons (.inl bare) ?_ read
  simp only [List.length_append]
  omega

theorem Lines.heading {h : Heading} (hr : Lines rest ss) (hl : path.length + 1 < limit)
    (hp : ∀ k ∈ path ++ [h.key], IsBare k) :
    Lines ('\n' :: h.line path ++ rest) (h.statement path :: ss) := by
  have read := statement?_heading hl hp rest
  obtain ⟨cs, e⟩ : ∃ cs, h.line path = '[' :: cs := by cases h <;> exact ⟨_, rfl⟩
  rw [e] at read
  have shorter : rest.length ≤ (cs ++ rest).length := by
    rw [List.length_append]
    exact Nat.le_add_left ..
  rw [List.cons_append, e]
  exact .blank (hr.cons (.inr rfl) shorter read)

/-! ## Sheets -/

namespace Sheet

mutual

/-- The statements of a sheet under a path of headings. -/
def statements (path : List String) : Sheet → List Statement
  | mk settings parts =>
    settings.map (fun s => .assign [s.1] s.2.value) ++ partStatements path parts

def partStatements (path : List String) : List (Heading × Sheet) → List Statement
  | [] => []
  | (h, s) :: rest => h.statement path :: s.statements (path ++ [h.key]) ++ partStatements path rest

end

mutual

/-- Every key stands without quotes, every number fits and headings are nested less than `depth`
times. -/
def Readable (depth : Nat) : Sheet → Prop
  | mk settings parts => (∀ s ∈ settings, IsBare s.1 ∧ s.2.Fits) ∧ PartsReadable depth parts

def PartsReadable (depth : Nat) : List (Heading × Sheet) → Prop
  | [] => True
  | (h, s) :: rest => IsBare h.key ∧ 0 < depth ∧ s.Readable (depth - 1) ∧ PartsReadable depth rest

end

theorem lines_settings {settings : List (String × Setting)}
    (hs : ∀ s ∈ settings, IsBare s.1 ∧ s.2.Fits) (h : Lines rest ss) :
    Lines ((settings.flatMap fun s => s.2.line s.1) ++ rest)
      (settings.map (fun s => .assign [s.1] s.2.value) ++ ss) := by
  induction settings with
  | nil => exact h
  | cons s settings ih =>
      obtain ⟨bare, fits⟩ := hs s List.mem_cons_self
      have later := ih fun t ht => hs t (List.mem_cons_of_mem s ht)
      rw [List.flatMap_cons, List.append_assoc]
      exact later.setting bare fits

mutual

/-- A sheet reads back as its statements. -/
theorem lines_write {depth : Nat} (s : Sheet) (path : List String) (hs : s.Readable depth)
    (hd : path.length + depth < limit) (hp : ∀ k ∈ path, IsBare k) {rest : List Char}
    {ss : List Statement} (h : Lines rest ss) :
    Lines (s.write path ++ rest) (s.statements path ++ ss) := by
  cases s with
  | mk settings parts =>
      rw [Readable] at hs
      rw [write, statements, List.append_assoc, List.append_assoc]
      exact lines_settings hs.1 (lines_writeParts parts path hs.2 hd hp h)

theorem lines_writeParts {depth : Nat} (parts : List (Heading × Sheet)) (path : List String)
    (hs : PartsReadable depth parts) (hd : path.length + depth < limit)
    (hp : ∀ k ∈ path, IsBare k) {rest : List Char} {ss : List Statement} (h : Lines rest ss) :
    Lines (writeParts path parts ++ rest) (partStatements path parts ++ ss) := by
  cases parts with
  | nil =>
      rw [writeParts, partStatements]
      exact h
  | cons part parts =>
      obtain ⟨heading, s⟩ := part
      rw [PartsReadable] at hs
      obtain ⟨bare, room, readable, later⟩ := hs
      have keys : ∀ k ∈ path ++ [heading.key], IsBare k := fun k hk => by
        rcases List.mem_append.mp hk with hk | hk
        · exact hp k hk
        · rw [List.mem_singleton.mp hk]
          exact bare
      have deeper : (path ++ [heading.key]).length + (depth - 1) < limit := by
        rw [List.length_append, List.length_singleton]
        omega
      have after := lines_writeParts parts path later hd hp h
      have inside := lines_write s (path ++ [heading.key]) readable deeper keys after
      rw [writeParts, partStatements, List.append_assoc, List.append_assoc, List.cons_append,
        List.append_assoc]
      exact inside.heading (by omega) keys

end

end Sheet

end MouseConfig.Toml
