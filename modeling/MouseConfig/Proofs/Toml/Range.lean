import MouseConfig.Proofs.Toml.Adding
import MouseConfig.Toml.Record

/-! # Integers of a text stay in range

Whatever a text gives to a key of its outermost table, if it is an integer, then it is one that can
be written.
-/

namespace MouseConfig.Toml

variable {cs rest : List Char} {n : Int} {v : Value}

/-! ## Numbers and values -/

theorem Number.based_lt {base : Nat} {isDigit : Char → Bool}
    (h : Number.based base isDigit cs = some (n, rest)) : n < integerBound := by
  rw [based, Option.bind_eq_bind, Option.bind_eq_some_iff] at h
  obtain ⟨⟨ds, tail⟩, -, h⟩ := h
  dsimp only at h
  split at h
  · next hv =>
      cases h
      exact Int.ofNat_lt.mpr hv
  · cases h

theorem Number.integer?_lt (h : Number.integer? cs = some (n, rest)) : n < integerBound := by
  rw [integer?.eq_def] at h
  split at h
  · exact based_lt h
  · exact based_lt h
  · exact based_lt h
  · dsimp only at h
    rw [Option.bind_eq_bind, Option.bind_eq_some_iff] at h
    obtain ⟨⟨ds, tail⟩, -, h⟩ := h
    dsimp only at h
    split at h
    · split at h
      · cases h
        exact Int.lt_of_le_of_lt (Int.neg_nonpos_of_nonneg (Int.natCast_nonneg _)) (by decide)
      · cases h
    · split at h
      · next hv =>
          cases h
          exact Int.ofNat_lt.mpr hv
      · cases h

namespace Value

/-- An integer is one that can be written. -/
def InRange (v : Value) : Prop := ∀ n, v = .integer n → n < integerBound

theorem inRange_of_ne (h : ∀ n, v ≠ .integer n) : v.InRange := fun n e => absurd e (h n)

end Value

namespace Reader

theorem inRange_scalar? (h : scalar? cs = some (v, rest)) : v.InRange := by
  rintro n rfl
  rw [scalar?.eq_def] at h
  split at h
  · obtain ⟨p, -, e⟩ := Option.map_eq_some_iff.mp h
    cases e
  · obtain ⟨p, -, e⟩ := Option.map_eq_some_iff.mp h
    cases e
  · split at h
    · cases h
    · split at h
      · cases h
      · split at h
        · cases h
        · obtain ⟨p, hp, e⟩ := Option.map_eq_some_iff.mp h
          cases e
          exact Number.integer?_lt hp

theorem inRange_value? {depth : Nat} (h : value? depth cs = some (v, rest)) : v.InRange := by
  rw [value?.eq_def] at h
  split at h
  · cases h
  · cases h
  · obtain ⟨p, -, e⟩ := Option.map_eq_some_iff.mp h
    cases e
    exact Value.inRange_of_ne fun n => Value.noConfusion
  · split at h
    · cases h
      exact Value.inRange_of_ne fun n => Value.noConfusion
    · rw [Option.bind_eq_bind, Option.bind_eq_some_iff] at h
      obtain ⟨⟨ps, tail⟩, -, h⟩ := h
      obtain ⟨w, hw, e⟩ := Option.map_eq_some_iff.mp h
      cases e
      rw [Assembly.inline?] at hw
      obtain ⟨t, -, rfl⟩ := Option.map_eq_some_iff.mp hw
      exact Value.inRange_of_ne fun n => Value.noConfusion
  · exact inRange_scalar? h

end Reader

/-! ## Statements -/

/-- Every value that is assigned is in range. -/
def Statement.InRange : Statement → Prop
  | assign _ v => v.InRange
  | define _ | extend _ => True

namespace Reader

theorem inRange_statement? {s : Statement} (h : statement? cs = some (s, rest)) : s.InRange := by
  rw [statement?.eq_def] at h
  split at h
  · rw [Option.bind_eq_bind, Option.bind_eq_some_iff] at h
    obtain ⟨⟨path, tail⟩, -, h⟩ := h
    dsimp only at h
    split at h
    · cases h
      trivial
    · cases h
  · rw [Option.bind_eq_bind, Option.bind_eq_some_iff] at h
    obtain ⟨⟨path, tail⟩, -, h⟩ := h
    dsimp only at h
    split at h
    · cases h
      trivial
    · cases h
  · obtain ⟨⟨⟨path, v⟩, tail⟩, hp, e⟩ := Option.map_eq_some_iff.mp h
    cases e
    rw [pair?, Option.bind_eq_bind, Option.bind_eq_some_iff] at hp
    obtain ⟨⟨path, tail⟩, -, hp⟩ := hp
    dsimp only at hp
    split at hp
    · rw [Option.bind_eq_bind, Option.bind_eq_some_iff] at hp
      obtain ⟨⟨w, tail⟩, hv, e⟩ := hp
      cases e
      exact inRange_value? hv
    · cases hp

theorem inRange_statements? {fuel : Nat} {ss : List Statement} (h : statements? fuel cs = some ss) :
    ∀ s ∈ ss, s.InRange := by
  induction fuel generalizing cs ss with
  | zero => cases h
  | succ fuel ih =>
      rw [statements?] at h
      split at h
      · cases h
        exact fun s hs => absurd hs List.not_mem_nil
      · obtain ⟨tail, -, h⟩ := Option.bind_eq_some_iff.mp h
        exact ih h
      · exact ih h
      · exact ih h
      · rw [Option.bind_eq_bind, Option.bind_eq_some_iff] at h
        obtain ⟨⟨s, tail⟩, hs, h⟩ := h
        dsimp only at h
        rw [Option.bind_eq_bind, Option.bind_eq_some_iff] at h
        obtain ⟨after, -, h⟩ := h
        obtain ⟨later, hl, rfl⟩ := Option.map_eq_some_iff.mp h
        exact List.forall_mem_cons.mpr ⟨inRange_statement? hs, ih hl⟩

end Reader

/-! ## The outermost table -/

/-- What stands in a table itself is in range; nothing is said about tables inside it. -/
def Table.InRange (t : Table) : Prop := ∀ k v, (k, Item.value v) ∈ t → v.InRange

namespace Table

open Entries (put erase)

variable {t u : Table} {k : String} {i : Item} {path : List String}

theorem mem_of_mem_put {e : String × Item} (h : e ∈ put k i t) : e = (k, i) ∨ e ∈ t := by
  induction t with
  | nil => exact .inl (List.mem_singleton.mp h)
  | cons d t ih =>
      obtain ⟨l, j⟩ := d
      rw [put] at h
      split at h
      · next same =>
          rcases List.mem_cons.mp h with rfl | h
          · exact .inl (congrArg (·, i) same)
          · exact .inr (List.mem_cons_of_mem _ h)
      · rcases List.mem_cons.mp h with rfl | h
        · exact .inr List.mem_cons_self
        · exact (ih h).imp_right (List.mem_cons_of_mem _)

theorem InRange.put_value (h : t.InRange) (hv : v.InRange) :
    Table.InRange (put k (.value v) t) := by
  intro l w hm
  rcases mem_of_mem_put hm with e | hm
  · cases e
    exact hv
  · exact h l w hm

theorem InRange.put_table (h : t.InRange) (origin : Origin) (u : Table) :
    Table.InRange (put k (.table origin u) t) := by
  intro l w hm
  rcases mem_of_mem_put hm with e | hm
  · cases e
  · exact h l w hm

theorem InRange.put_tables (h : t.InRange) (us : List Table) :
    Table.InRange (put k (.tables us) t) := by
  intro l w hm
  rcases mem_of_mem_put hm with e | hm
  · cases e
  · exact h l w hm

theorem InRange.erase (h : t.InRange) : Table.InRange (erase k t) :=
  fun l v hm => h l v (List.mem_of_mem_filter hm)

theorem InRange.assign (h : t.InRange) (hv : v.InRange) (ha : assign v path t = some u) :
    u.InRange := by
  rw [Table.assign.eq_def] at ha
  split at ha
  · cases ha
  · split at ha
    · cases ha
      exact h.put_value hv
    · cases ha
  · split at ha
    · obtain ⟨_, -, rfl⟩ := Option.map_eq_some_iff.mp ha
      exact h.put_table _ _
    · obtain ⟨_, -, rfl⟩ := Option.map_eq_some_iff.mp ha
      exact h.put_table _ _
    · split at ha
      · cases ha
      · obtain ⟨_, -, rfl⟩ := Option.map_eq_some_iff.mp ha
        exact h.put_table _ _
    · split at ha
      · cases ha
      · obtain ⟨_, -, ha⟩ := Option.bind_eq_some_iff.mp ha
        obtain ⟨_, -, rfl⟩ := Option.map_eq_some_iff.mp ha
        exact h.put_tables _
    · cases ha

theorem InRange.define (h : t.InRange) (hd : define k t = some u) : u.InRange := by
  rw [Table.define] at hd
  split at hd
  · cases hd
    exact h.put_table _ _
  · cases hd
    exact h.erase.put_table _ _
  · cases hd

theorem InRange.extend (h : t.InRange) (he : extend k t = some u) : u.InRange := by
  rw [Table.extend] at he
  split at he
  · cases he
    exact h.put_tables _
  · cases he
    exact h.put_tables _
  · cases he

theorem InRange.back {back : Table → Table} (h : t.InRange)
    (hd : descend? k t = some (u, back)) (u' : Table) : (back u').InRange := by
  rw [descend?] at hd
  split at hd
  · cases hd
    exact h.put_table _ _
  · cases hd
    exact h.put_table _ _
  · obtain ⟨_, -, e⟩ := Option.map_eq_some_iff.mp hd
    cases e
    exact h.put_tables _
  · cases hd

/-- A change further down gives no value to a key of the outermost table. -/
theorem InRange.atHeader {f : Table → Option Table} (h : t.InRange)
    (hf : ∀ u, f t = some u → u.InRange) (ha : atHeader f path t = some u) : u.InRange := by
  cases path with
  | nil => exact hf u ha
  | cons k path =>
      rw [atHeader_cons] at ha
      obtain ⟨⟨below, back⟩, hd, ha⟩ := Option.bind_eq_some_iff.mp ha
      obtain ⟨_, -, rfl⟩ := Option.map_eq_some_iff.mp ha
      exact h.back hd _

end Table

namespace Assembly

open Table (atHeader)

theorem inRange_atParent {f : String → Table → Option Table} {path : List String} {t u : Table}
    (h : t.InRange) (hf : ∀ k u, f k t = some u → u.InRange) (ha : atParent f path t = some u) :
    u.InRange := by
  rw [atParent] at ha
  obtain ⟨k, -, ha⟩ := Option.bind_eq_some_iff.mp ha
  exact h.atHeader (hf k) ha

theorem inRange_step {a b : Assembly} {s : Statement} (h : a.root.InRange) (hs : s.InRange)
    (hb : step a s = some b) : b.root.InRange := by
  cases s with
  | assign path v =>
      obtain ⟨u, hu, rfl⟩ := Option.map_eq_some_iff.mp hb
      exact h.atHeader (fun u hu => h.assign hs hu) hu
  | define path =>
      obtain ⟨u, hu, rfl⟩ := Option.map_eq_some_iff.mp hb
      exact inRange_atParent h (fun k u hu => h.define hu) hu
  | extend path =>
      obtain ⟨u, hu, rfl⟩ := Option.map_eq_some_iff.mp hb
      exact inRange_atParent h (fun k u hu => h.extend hu) hu

theorem inRange_run {ss : List Statement} {a b : Assembly} (h : a.root.InRange)
    (hs : ∀ s ∈ ss, s.InRange) (hb : ss.foldlM step a = some b) : b.root.InRange := by
  induction ss generalizing a with
  | nil =>
      cases hb
      exact h
  | cons s ss ih =>
      obtain ⟨first, later⟩ := List.forall_mem_cons.mp hs
      rw [List.foldlM_cons] at hb
      obtain ⟨c, hc, hb⟩ := Option.bind_eq_some_iff.mp hb
      exact ih (inRange_step h first hc) later hb

end Assembly

/-- What a text gives to a key of its outermost table is in range. -/
theorem inRange_of_lookup {text : String} {es : List (String × Value)} {k : String}
    (h : read? text = some es) (hk : es.lookup k = some v) : v.InRange := by
  rw [read?] at h
  obtain ⟨ss, hss, h⟩ := Option.bind_eq_some_iff.mp h
  rw [Assembly.run?] at h
  obtain ⟨a, ha, rfl⟩ := Option.map_eq_some_iff.mp h
  have empty : Table.InRange [] := fun _ _ hm => absurd hm List.not_mem_nil
  have root : a.root.InRange :=
    Assembly.inRange_run empty (Reader.inRange_statements? hss) ha
  rw [Item.lookup_closeEntries] at hk
  obtain ⟨i, hi, rfl⟩ := Option.map_eq_some_iff.mp hk
  obtain ⟨front, back, split, -⟩ := List.lookup_eq_some_iff.mp hi
  cases i with
  | value v =>
      refine root k v ?_
      rw [split]
      exact List.mem_append_right _ List.mem_cons_self
  | table | tables => exact Value.inRange_of_ne fun n => Value.noConfusion

/-- A count that is read from a value in range. -/
theorem Value.InRange.count?_lt {w : UInt64} (h : v.InRange) (hw : v.count? = some w) :
    w.toNat < integerBound := by
  obtain ⟨m, hm, rfl⟩ := Option.map_eq_some_iff.mp hw
  cases v with
  | integer n =>
      rw [number?] at hm
      split at hm
      · next hn =>
          cases hm
          have bound := h n rfl
          have small : n.toNat < UInt64.size := by omega
          rw [UInt64.toNat_ofNat_of_lt' small]
          omega
      · cases hm
  | text | boolean | float | moment | array | table | inlineTable => cases hm

end MouseConfig.Toml
