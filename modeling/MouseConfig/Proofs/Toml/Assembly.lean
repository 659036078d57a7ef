import MouseConfig.Proofs.Toml.Layout

/-! # What the statements of a sheet assemble

Statements act on the table at their header alone, so the table of a sheet is filled in place: first
its settings, then the table of each part.
-/

namespace MouseConfig.Toml

/-! ## Entries by key -/

namespace Entries

variable {α : Type} {k : String} {x y : α} {t : List (String × α)}

theorem put_put (t : List (String × α)) : put k y (put k x t) = put k y t := by
  induction t with
  | nil => simp [put]
  | cons e t ih =>
      obtain ⟨l, z⟩ := e
      by_cases h : l = k
      · simp [put, h]
      · simp [put, h, ih]

theorem put_of_lookup_eq_none (h : t.lookup k = none) : put k x t = t ++ [(k, x)] := by
  induction t with
  | nil => rfl
  | cons e t ih =>
      obtain ⟨l, z⟩ := e
      by_cases hl : l = k
      · subst hl
        rw [List.lookup_cons, beq_self_eq_true] at h
        cases h
      · have other : (k == l) = false := by simpa using Ne.symm hl
        rw [List.lookup_cons, other] at h
        rw [put, if_neg hl, ih h, List.cons_append]

end Entries

/-! ## Changes at a header -/

namespace Table

open Entries (put put_put lookup_put)

variable {f g : Table → Option Table} {k : String} {path : List String} {t u : Table}

/-- The table behind a key of a header, and how a changed one goes back in its place. -/
def descend? (k : String) (t : Table) : Option (Table × (Table → Table)) :=
  match t.lookup k with
  | none => some ([], fun u => put k (.table .implied u) t)
  | some (.table origin u) => some (u, fun u' => put k (.table origin u') t)
  | some (.tables us) =>
    us.getLast?.map fun u => (u, fun u' => put k (.tables (us.dropLast ++ [u'])) t)
  | some (.value _) => none

theorem atHeader_cons (f : Table → Option Table) (k : String) (path : List String) (t : Table) :
    atHeader f (k :: path) t = (descend? k t).bind fun p => (atHeader f path p.1).map p.2 := by
  cases hl : t.lookup k with
  | none => simp only [atHeader, descend?, hl, Option.bind_some]
  | some i =>
      cases i with
      | value v => simp only [atHeader, descend?, hl, Option.bind_none]
      | table origin u => simp only [atHeader, descend?, hl, Option.bind_some]
      | tables us =>
          simp only [atHeader, descend?, hl, Option.bind_map]
          rfl

/-- What has been put back is found again. -/
theorem descend?_back {back : Table → Table} (h : descend? k t = some (u, back)) (u' : Table) :
    descend? k (back u') = some (u', back) := by
  rw [descend?] at h
  split at h
  · cases h
    simp [descend?, put_put]
  · cases h
    simp [descend?, put_put]
  · next us hl =>
      cases hu : us.getLast? with
      | none =>
          rw [hu] at h
          cases h
      | some last =>
          rw [hu] at h
          cases h
          simp [descend?, put_put]
  · cases h

/-- Two changes at one header, one after the other. -/
theorem atHeader_bind (f g : Table → Option Table) (path : List String) (t : Table) :
    atHeader (fun t => (f t).bind g) path t = (atHeader f path t).bind (atHeader g path) := by
  induction path generalizing t with
  | nil => rfl
  | cons k path ih =>
      rw [atHeader_cons, atHeader_cons]
      cases hd : descend? k t with
      | none => rfl
      | some p =>
          obtain ⟨u, back⟩ := p
          rw [Option.bind_some, Option.bind_some, ih]
          cases hf : atHeader f path u with
          | none => rfl
          | some u' =>
              rw [Option.bind_some, Option.map_some, Option.bind_some, atHeader_cons,
                descend?_back hd]
              rfl

/-- A header below a header. -/
theorem atHeader_append (f : Table → Option Table) (path below : List String) (t : Table) :
    atHeader f (path ++ below) t = atHeader (atHeader f below) path t := by
  induction path generalizing t with
  | nil => rfl
  | cons k path ih =>
      rw [List.cons_append, atHeader_cons, atHeader_cons]
      simp only [ih]

/-- The header leads to a table, with nothing to be made on the way. -/
def Reaches (path : List String) (t : Table) : Prop := atHeader some path t = some t

theorem reaches_atHeader (h : atHeader f path t = some u) : Reaches path u := by
  have twice := atHeader_bind f some path t
  simp only [Option.bind_fun_some] at twice
  rw [h] at twice
  exact twice.symm

end Table

/-! ## Sheets -/

/-- The new table under a heading. -/
def Heading.add? : Heading → Table → Option Table
  | one k => Table.define k
  | oneOf k => Table.extend k

namespace Sheet

/-- The settings of a sheet, given to a table. -/
def assign? (settings : List (String × Setting)) (t : Table) : Option Table :=
  settings.foldlM (fun t s => Table.assign s.2.value [s.1] t) t

mutual

/-- A table with what a sheet says added to it. -/
def fill? : Sheet → Table → Option Table
  | mk settings parts, t => (assign? settings t).bind (fillParts? parts)

def fillParts? : List (Heading × Sheet) → Table → Option Table
  | [], t => some t
  | (h, s) :: rest, t => ((h.add? t).bind (Table.atHeader s.fill? [h.key])).bind (fillParts? rest)

end

end Sheet

namespace Assembly

open Entries (put_put)
open Table (atHeader atHeader_bind atHeader_append Reaches reaches_atHeader)
open Sheet

variable {a : Assembly}

theorem step_assign (k : String) (v : Value) (a : Assembly) :
    step a (.assign [k] v) =
      (atHeader (Table.assign v [k]) a.header a.root).map fun t => ⟨t, a.header⟩ := rfl

theorem step_heading (h : Heading) (path : List String) (a : Assembly) :
    step a (h.statement path) =
      (atHeader h.add? path a.root).map fun t => ⟨t, path ++ [h.key]⟩ := by
  cases h with
  | one k => simp [Heading.statement, step, atParent, Heading.add?, Heading.key]
  | oneOf k => simp [Heading.statement, step, atParent, Heading.add?, Heading.key]

theorem add?_bind_reaches (h : Heading) (t : Table) :
    (h.add? t).bind (atHeader some [h.key]) = h.add? t := by
  cases h with
  | one k =>
      simp only [Heading.add?, Heading.key, Table.define]
      split
      · simp [atHeader, put_put]
      · simp [atHeader, put_put]
      · rfl
  | oneOf k =>
      simp only [Heading.add?, Heading.key, Table.extend]
      split
      · simp [atHeader, put_put]
      · simp [atHeader, put_put]
      · rfl

/-- A heading makes the table that it leads to. -/
theorem reaches_add? {h : Heading} {path : List String} {t u : Table}
    (hu : atHeader h.add? path t = some u) : Reaches (path ++ [h.key]) u := by
  have again := atHeader_bind h.add? (atHeader some [h.key]) path t
  simp only [add?_bind_reaches] at again
  rw [hu] at again
  rw [Reaches, atHeader_append]
  exact again.symm

theorem run_settings (settings : List (String × Setting)) (path : List String) (t : Table)
    (hr : Reaches path t) :
    (settings.map fun s => Statement.assign [s.1] s.2.value).foldlM step ⟨t, path⟩ =
      (atHeader (assign? settings) path t).map fun u => ⟨u, path⟩ := by
  induction settings generalizing t with
  | nil =>
      change some _ = (atHeader some path t).map _
      rw [hr]
      rfl
  | cons s settings ih =>
      have first : assign? (s :: settings) =
          fun t => (Table.assign s.2.value [s.1] t).bind (assign? settings) := rfl
      rw [first, atHeader_bind, List.map_cons, List.foldlM_cons, step_assign]
      cases hu : atHeader (Table.assign s.2.value [s.1]) path t with
      | none => rfl
      | some u => exact ih u (reaches_atHeader hu)

mutual

/-- The statements of a sheet fill the table at its header. -/
theorem run_statements (s : Sheet) (path : List String) (t : Table) (hr : Reaches path t) :
    ((s.statements path).foldlM step ⟨t, path⟩).map root = atHeader s.fill? path t := by
  cases s with
  | mk settings parts =>
      have filled : (Sheet.mk settings parts).fill? =
          fun t => (assign? settings t).bind (fillParts? parts) := funext fun t => by rw [fill?]
      rw [filled, atHeader_bind, statements, List.foldlM_append, run_settings settings path t hr]
      cases hu : atHeader (assign? settings) path t with
      | none => rfl
      | some u => exact run_partStatements parts path ⟨u, path⟩ (reaches_atHeader hu)

theorem run_partStatements (parts : List (Heading × Sheet)) (path : List String) (a : Assembly)
    (hr : Reaches path a.root) :
    ((partStatements path parts).foldlM step a).map root =
      atHeader (fillParts? parts) path a.root := by
  cases parts with
  | nil =>
      have filled : fillParts? [] = some := funext fun t => by rw [fillParts?]
      rw [filled, hr, partStatements]
      rfl
  | cons part parts =>
      obtain ⟨h, s⟩ := part
      have filled : fillParts? ((h, s) :: parts) = fun t =>
          ((h.add? t).bind (atHeader s.fill? [h.key])).bind (fillParts? parts) :=
        funext fun t => by rw [fillParts?]
      rw [filled, atHeader_bind, atHeader_bind, partStatements, List.cons_append,
        List.foldlM_cons, step_heading]
      cases hu : atHeader h.add? path a.root with
      | none => rfl
      | some u =>
          have inside := run_statements s (path ++ [h.key]) u (reaches_add? hu)
          rw [atHeader_append] at inside
          change Option.map root (List.foldlM step (Assembly.mk u (path ++ [h.key])) (_ ++ _)) = _
          rw [List.foldlM_append, Option.bind_some, ← inside]
          cases hb : (s.statements (path ++ [h.key])).foldlM step ⟨u, path ++ [h.key]⟩ with
          | none => rfl
          | some b =>
              rw [hb] at inside
              exact run_partStatements parts path b (reaches_atHeader inside.symm)

end

end Assembly

end MouseConfig.Toml
