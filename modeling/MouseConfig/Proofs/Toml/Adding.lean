import MouseConfig.Proofs.Toml.Assembly

/-! # The entries that a sheet adds

A sheet whose keys are all different adds one entry for each setting, each part and each list of
parts, to any table that has none of these keys.
-/

namespace MouseConfig.Toml

open Entries (put put_put put_of_lookup_eq_none lookup_put)

/-! ## Finished tables -/

namespace Item

variable {wrap : List (String × Value) → Value}

theorem closeEntries_append (t u : Table) :
    closeEntries wrap (t ++ u) = closeEntries wrap t ++ closeEntries wrap u := by
  induction t with
  | nil => rfl
  | cons e t ih =>
      obtain ⟨k, i⟩ := e
      rw [List.cons_append, closeEntries, closeEntries, ih, List.cons_append]

theorem lookup_closeEntries (k : String) (t : Table) :
    (closeEntries wrap t).lookup k = (t.lookup k).map (close wrap) := by
  induction t with
  | nil => rfl
  | cons e t ih =>
      obtain ⟨l, i⟩ := e
      rw [closeEntries, List.lookup_cons, List.lookup_cons, ih]
      split <;> rfl

end Item

open Item (closeEntries closeEntries_append closeTables lookup_closeEntries)

/-! ## Adding entries -/

/-- A change that adds entries to a table without any of their keys. -/
def Adds (f : Table → Option Table) (es : List (String × Value)) : Prop :=
  ∀ t : Table, (∀ e ∈ es, t.lookup e.1 = none) →
    ∃ u, f t = some (t ++ u) ∧ closeEntries .table u = es

namespace Adds

variable {f g : Table → Option Table} {es fs : List (String × Value)} {k : String} {s : Sheet}

theorem nil : Adds some [] := fun t _ => ⟨[], by rw [List.append_nil], rfl⟩

theorem bind (hf : Adds f es) (hg : Adds g fs) (h : ∀ e ∈ fs, es.lookup e.1 = none) :
    Adds (fun t => (f t).bind g) (es ++ fs) := by
  intro t ht
  obtain ⟨u, hu, eu⟩ := hf t fun e he => ht e (List.mem_append_left fs he)
  have absent : ∀ e ∈ fs, (t ++ u).lookup e.1 = none := fun e he => by
    have hn := h e he
    rw [← eu, lookup_closeEntries, Option.map_eq_none_iff] at hn
    rw [List.lookup_append, ht e (List.mem_append_right es he), hn]
    rfl
  obtain ⟨v, hv, ev⟩ := hg (t ++ u) absent
  refine ⟨u ++ v, ?_, ?_⟩
  · change (f t).bind g = _
    rw [hu, Option.bind_some, hv, List.append_assoc]
  · rw [closeEntries_append, eu, ev]

theorem assign (k : String) (v : Value) : Adds (Table.assign v [k]) [(k, v)] := by
  intro t ht
  have absent : t.lookup k = none := ht (k, v) List.mem_cons_self
  refine ⟨[(k, .value v)], ?_, rfl⟩
  rw [Table.assign, absent, put_of_lookup_eq_none absent]
  rfl

/-- Settings with different keys. -/
theorem settings {settings : List (String × Setting)} (h : (settings.map Prod.fst).Nodup) :
    Adds (Sheet.assign? settings) (settings.map fun s => (s.1, s.2.value)) := by
  induction settings with
  | nil => exact nil
  | cons s settings ih =>
      rw [List.map_cons, List.nodup_cons] at h
      refine (assign s.1 s.2.value).bind (ih h.2) fun e he => ?_
      obtain ⟨s', hs', rfl⟩ := List.mem_map.mp he
      have other : (s'.1 == s.1) = false :=
        beq_eq_false_iff_ne.mpr fun e => h.1 (e ▸ List.mem_map_of_mem hs')
      rw [List.lookup_cons, other]
      rfl

/-- A single part. -/
theorem one (h : Adds s.fill? es) : Adds (Sheet.fillParts? [(.one k, s)]) [(k, .table es)] := by
  intro t ht
  have absent : t.lookup k = none := ht (k, .table es) List.mem_cons_self
  obtain ⟨u, hu, eu⟩ := h [] fun _ _ => rfl
  refine ⟨[(k, .table .defined u)], ?_, ?_⟩
  · rw [← put_of_lookup_eq_none absent]
    simp [Sheet.fillParts?, Heading.add?, Heading.key, Table.define, absent, Table.atHeader, hu,
      put_put]
  · rw [closeEntries, Item.close, eu]
    rfl

variable {α : Type} {sheet : α → Sheet} {entries : α → List (String × Value)} {xs : List α}

theorem extend_put (us : List Table) (t : Table) :
    Table.extend k (put k (.tables us) t) = some (put k (.tables (us ++ [[]])) t) := by
  rw [Table.extend, lookup_put]
  exact congrArg some (put_put t)

/-- A missing list of tables is an empty one. -/
theorem extend_of_lookup_eq_none {t : Table} (h : t.lookup k = none) :
    Table.extend k t = Table.extend k (put k (.tables []) t) := by
  rw [extend_put, Table.extend, h]
  rfl

theorem fillParts?_oneOf (h : ∀ x ∈ xs, Adds (sheet x).fill? (entries x)) (us : List Table)
    (t : Table) :
    ∃ vs, closeTables .table vs = xs.map (fun x => .table (entries x)) ∧
      Sheet.fillParts? (xs.map fun x => (.oneOf k, sheet x)) (put k (.tables us) t) =
        some (put k (.tables (us ++ vs)) t) := by
  induction xs generalizing us with
  | nil =>
      refine ⟨[], rfl, ?_⟩
      rw [List.append_nil]
      rfl
  | cons x xs ih =>
      obtain ⟨u, hu, eu⟩ := h x List.mem_cons_self [] fun _ _ => rfl
      obtain ⟨vs, evs, hvs⟩ := ih (fun y hy => h y (List.mem_cons_of_mem x hy)) (us ++ [u])
      have filled : Table.atHeader (sheet x).fill? [k] (put k (.tables (us ++ [[]])) t) =
          some (put k (.tables (us ++ [u])) t) := by
        simp [Table.atHeader, hu, put_put]
      refine ⟨u :: vs, ?_, ?_⟩
      · rw [closeTables, eu, evs]
        rfl
      · rw [List.map_cons, Sheet.fillParts?, Heading.add?, extend_put, Option.bind_some]
        refine (congrArg (Option.bind · _) filled).trans ?_
        rw [Option.bind_some, hvs, List.append_assoc]
        rfl

/-- Several parts of one key. -/
theorem oneOf (h : ∀ x ∈ xs, Adds (sheet x).fill? (entries x)) (hx : xs ≠ []) :
    Adds (Sheet.fillParts? (xs.map fun x => (.oneOf k, sheet x)))
      [(k, .array (xs.map fun x => .table (entries x)))] := by
  intro t ht
  have absent : t.lookup k = none := ht (k, _) List.mem_cons_self
  obtain ⟨vs, evs, hvs⟩ := fillParts?_oneOf (k := k) h [] t
  refine ⟨[(k, .tables vs)], ?_, ?_⟩
  · rw [← put_of_lookup_eq_none absent]
    refine Eq.trans ?_ hvs
    cases xs with
    | nil => exact absurd rfl hx
    | cons x xs =>
        rw [List.map_cons, Sheet.fillParts?, Sheet.fillParts?, Heading.add?,
          extend_of_lookup_eq_none absent]
  · rw [closeEntries, Item.close, evs]
    rfl

theorem fillParts?_append (ps qs : List (Heading × Sheet)) (t : Table) :
    Sheet.fillParts? (ps ++ qs) t = (Sheet.fillParts? ps t).bind (Sheet.fillParts? qs) := by
  induction ps generalizing t with
  | nil => rfl
  | cons p ps ih =>
      obtain ⟨h, s⟩ := p
      have later : Sheet.fillParts? (ps ++ qs) =
          fun u => (Sheet.fillParts? ps u).bind (Sheet.fillParts? qs) := funext ih
      rw [List.cons_append, Sheet.fillParts?, Sheet.fillParts?, later]
      exact (Option.bind_assoc ..).symm

theorem parts {ps qs : List (Heading × Sheet)} (hp : Adds (Sheet.fillParts? ps) es)
    (hq : Adds (Sheet.fillParts? qs) fs) (h : ∀ e ∈ fs, es.lookup e.1 = none) :
    Adds (Sheet.fillParts? (ps ++ qs)) (es ++ fs) := by
  have split : Sheet.fillParts? (ps ++ qs) =
      fun t => (Sheet.fillParts? ps t).bind (Sheet.fillParts? qs) :=
    funext fun t => fillParts?_append ps qs t
  rw [split]
  exact hp.bind hq h

/-- A whole sheet. -/
theorem mk {settings : List (String × Setting)} {ps : List (Heading × Sheet)}
    (hs : (settings.map Prod.fst).Nodup) (hp : Adds (Sheet.fillParts? ps) es)
    (h : ∀ e ∈ es, e.1 ∉ settings.map Prod.fst) :
    Adds (Sheet.mk settings ps).fill? ((settings.map fun s => (s.1, s.2.value)) ++ es) := by
  have filled : (Sheet.mk settings ps).fill? =
      fun t => (Sheet.assign? settings t).bind (Sheet.fillParts? ps) :=
    funext fun t => by rw [Sheet.fill?]
  rw [filled]
  refine (Adds.settings hs).bind hp fun e he => ?_
  refine List.lookup_eq_none_iff.mpr fun e' he' => ?_
  obtain ⟨s, hs', rfl⟩ := List.mem_map.mp he'
  refine bne_iff_ne.mpr fun same => h e he ?_
  exact List.mem_map.mpr ⟨s, hs', same.symm⟩

end Adds

/-! ## Whole texts -/

theorem dropMark_of_head? {cs : List Char} (h : cs.head? ≠ some '\ufeff') :
    Reader.dropMark cs = cs := by
  rw [Reader.dropMark.eq_def]
  split
  · exact absurd rfl h
  · rfl

/-- No mark of the byte order stands in front of a sheet. -/
theorem head?_write {depth : Nat} {s : Sheet} (hs : s.Readable depth) :
    (s.write []).head? ≠ some '\ufeff' := by
  cases s with
  | mk settings parts =>
      rw [Sheet.Readable] at hs
      rw [Sheet.write]
      cases settings with
      | nil =>
          cases parts with
          | nil => exact nofun
          | cons part parts => exact nofun
      | cons s settings =>
          obtain ⟨c, cs, bare, e⟩ := (hs.1 s List.mem_cons_self).1.exists_cons
          rw [List.flatMap_cons, Setting.line, e]
          exact fun h => ne_of_isBareKey bare rfl (Option.some.inj h)

/-- The text of a sheet reads back as the entries that it adds. -/
theorem read?_text {depth : Nat} {s : Sheet} {es : List (String × Value)} (hs : s.Readable depth)
    (hd : depth < Reader.limit) (ha : Adds s.fill? es) : read? s.text = some es := by
  have lines : Lines (s.write []) (s.statements []) := by
    have all := s.lines_write [] hs (by simpa using hd) (by simp) Lines.nil
    rw [List.append_nil, List.append_nil] at all
    exact all
  have run := Assembly.run_statements s [] [] rfl
  obtain ⟨u, hu, eu⟩ := ha [] fun _ _ => rfl
  change Option.map Assembly.root (List.foldlM _ ⟨[], []⟩ _) = s.fill? [] at run
  rw [hu] at run
  obtain ⟨a, ha, rfl⟩ := Option.map_eq_some_iff.mp run
  rw [read?, Sheet.text, String.toList_ofList, dropMark_of_head? (head?_write hs),
    lines _ (Nat.lt_succ_self _), Option.bind_some, Assembly.run?, ha]
  exact congrArg some eu

end MouseConfig.Toml
