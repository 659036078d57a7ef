import MouseConfig.Service.Shelf

/-! # Laws of the shelf

What has been put at a path is found there, and nothing else has changed.
-/

namespace MouseConfig

namespace Path

theorem same_iff {p q : Path} : p.same q ↔ p.components = q.components := by
  simp [same]

theorem same_refl (p : Path) : p.same p := same_iff.mpr rfl

theorem same_comm (p q : Path) : p.same q = q.same p := by
  rw [Bool.eq_iff_iff, same_iff, same_iff, eq_comm]

/-- Paths that are the same are the same as the same paths. -/
theorem same_congr {p q : Path} (h : p.same q) (r : Path) : p.same r = q.same r := by
  rw [Bool.eq_iff_iff, same_iff, same_iff, same_iff.mp h]

end Path

namespace Shelf

variable {s : Shelf} {p q : Path} {d : Device}

theorem find?_put (p q : Path) (e : Entry) (entries : List (Path × Entry)) :
    ((put p e entries).find? fun x => x.1.same q).map (·.2) =
      if p.same q then some e else (entries.find? fun x => x.1.same q).map (·.2) := by
  induction entries with
  | nil => by_cases h : p.same q <;> simp [put, h]
  | cons x rest ih =>
      rw [put]
      by_cases hx : x.1.same p
      · have same : x.1.same q = p.same q := Path.same_congr hx q
        by_cases h : p.same q <;> simp [hx, same, h]
      · by_cases h : x.1.same q
        · have other : ¬ p.same q := by
            intro hp
            rw [Path.same_comm] at hp
            exact hx ((Path.same_congr h p).trans hp)
          simp [hx, h, other]
        · simp [hx, h, ih]

/-- Entries that are there under other paths do not get in each other's way. -/
theorem put_comm (h : p.same q = false) (e f : Entry) {entries : List (Path × Entry)}
    (hp : (entries.find? fun x => x.1.same p).isSome) :
    put p e (put q f entries) = put q f (put p e entries) := by
  induction entries with
  | nil => cases hp
  | cons x rest ih =>
      by_cases hx : x.1.same p
      · have other : x.1.same q = false := (Path.same_congr hx q).trans h
        simp [put, hx, other]
      · have later : (rest.find? fun x => x.1.same p).isSome := by simpa [hx] using hp
        by_cases hq : x.1.same q
        · simp [put, hx, hq]
        · simp [put, hx, hq, ih later]

/-- What is put last under a path is what stays. -/
theorem put_put (h : p.same q) (e f : Entry) {entries : List (Path × Entry)}
    (hp : (entries.find? fun x => x.1.same p).isSome) :
    put q f (put p e entries) = put q f entries := by
  induction entries with
  | nil => cases hp
  | cons x rest ih =>
      have same : x.1.same p = x.1.same q := by
        rw [Path.same_comm x.1 p, Path.same_comm x.1 q, Path.same_congr h]
      by_cases hx : x.1.same q
      · simp [put, same, hx]
      · have later : (rest.find? fun x => x.1.same p).isSome := by simpa [same, hx] using hp
        simp [put, same, hx, ih later]

/-- To put what is there already changes nothing. -/
theorem put_of_eq {e : Entry} {entries : List (Path × Entry)}
    (h : (entries.find? fun x => x.1.same p).map (·.2) = some e) : put p e entries = entries := by
  induction entries with
  | nil => cases h
  | cons x rest ih =>
      by_cases hx : x.1.same p
      · obtain rfl : x.2 = e := by simpa [hx] using h
        rw [put, if_pos hx]
      · have later : (rest.find? fun x => x.1.same p).map (·.2) = some e := by simpa [hx] using h
        rw [put, if_neg hx, ih later]

theorem put_congr (h : p.same q) (e : Entry) {entries : List (Path × Entry)}
    (hp : (entries.find? fun x => x.1.same p).isSome) : put p e entries = put q e entries := by
  induction entries with
  | nil => cases hp
  | cons x rest ih =>
      have same : x.1.same p = x.1.same q := by
        rw [Path.same_comm x.1 p, Path.same_comm x.1 q, Path.same_congr h]
      by_cases hx : x.1.same q
      · simp [put, same, hx]
      · have later : (rest.find? fun x => x.1.same p).isSome := by simpa [same, hx] using hp
        simp [put, same, hx, ih later]

theorem get?_congr (h : p.same q) : s.get? p = s.get? q := by
  simp only [get?]
  congr 2
  funext e
  rw [Path.same_comm e.1 p, Path.same_comm e.1 q, Path.same_congr h]

theorem commit_eq_ok_iff {shelf : Shelf} :
    (s.commit p d).1 = .ok () ∧ (s.commit p d).2 = shelf ↔
      s.commitFailure = none ∧ { s with entries := put p (.device d) s.entries } = shelf := by
  rw [commit]
  cases s.commitFailure <;> simp

theorem load_eq_ok_iff : s.load p = .ok d ↔ s.get? p = some (.device d) := by
  rw [load]
  rcases s.get? p with _ | _ | _ | _ <;> simp

/-- The only device of a shelf opens under its path. -/
theorem load_singleton (p : Path) (d : Device) :
    ({ entries := [(p, .device d)] } : Shelf).load p = .ok d :=
  load_eq_ok_iff.mpr (by simp [get?, Path.same_refl])

/-- After a commit that succeeds, the device is what it was committed as. -/
theorem get?_commit (h : (s.commit p d).1 = .ok ()) : (s.commit p d).2.get? p = some (.device d) := by
  obtain ⟨-, hs⟩ := commit_eq_ok_iff.mp ⟨h, rfl⟩
  rw [← hs, get?, find?_put, Path.same_refl, if_pos rfl]

/-- A commit changes no other entry. -/
theorem get?_commit_of_not_same (h : q.same p = false) : (s.commit p d).2.get? q = s.get? q := by
  rw [commit]
  cases s.commitFailure with
  | some reason => rfl
  | none =>
      rw [Path.same_comm] at h
      simp [get?, find?_put, h]

/-- After a commit over a device, done or failed, another path gives what it gave before, unless the
two are the same. -/
theorem load_commit_cases {d₀ : Device} (hl : s.load p = .ok d₀) (q : Path) :
    (s.commit p d).2.load q = s.load q ∨
      s.load q = .ok d₀ ∧ (s.commit p d).2.load q = .ok d := by
  cases hq : q.same p with
  | false => exact .inl (by rw [load, load, get?_commit_of_not_same hq])
  | true =>
      rw [commit]
      cases s.commitFailure with
      | some reason => exact .inl rfl
      | none =>
          rw [Path.same_comm] at hq
          refine .inr ⟨?_, load_eq_ok_iff.mpr ?_⟩
          · rw [load_eq_ok_iff] at hl ⊢
            exact (get?_congr hq).symm.trans hl
          · rw [get?, find?_put, if_pos hq]

/-! ## Devices -/

theorem mem_devices_iff {e : Path × Device} : e ∈ s.devices ↔ (e.1, Entry.device e.2) ∈ s.entries := by
  rw [devices, List.mem_filterMap]
  constructor
  · rintro ⟨⟨path, entry⟩, hmem, h⟩
    cases entry with
    | device d =>
        cases h
        exact hmem
    | malformed | unreadable => cases h
  · intro h
    exact ⟨_, h, rfl⟩

theorem mem_put {p : Path} {e : Entry} {entries : List (Path × Entry)} {x : Path × Entry}
    (h : x ∈ put p e entries) : x.2 = e ∨ x ∈ entries := by
  induction entries with
  | nil =>
      obtain rfl := List.mem_singleton.mp h
      exact .inl rfl
  | cons y rest ih =>
      rw [put] at h
      by_cases hy : y.1.same p
      · rw [if_pos hy] at h
        rcases List.mem_cons.mp h with rfl | h
        · exact .inl rfl
        · exact .inr (List.mem_cons_of_mem y h)
      · rw [if_neg hy] at h
        rcases List.mem_cons.mp h with rfl | h
        · exact .inr List.mem_cons_self
        · exact (ih h).imp_right (List.mem_cons_of_mem y)

/-- A device that loads is on the shelf. -/
theorem exists_mem_of_load (h : s.load p = .ok d) : ∃ q, (q, d) ∈ s.devices := by
  rw [load_eq_ok_iff, get?] at h
  obtain ⟨⟨q, e⟩, hfind, he⟩ := Option.map_eq_some_iff.mp h
  cases he
  exact ⟨q, mem_devices_iff.mpr (List.mem_of_find?_eq_some hfind)⟩

/-- After a commit, done or failed, a device of the shelf is the one committed, or was there before. -/
theorem mem_devices_of_commit {e : Path × Device} (h : e ∈ (s.commit p d).2.devices) :
    e.2 = d ∨ e ∈ s.devices := by
  rw [commit] at h
  cases hf : s.commitFailure with
  | some reason =>
      rw [hf] at h
      exact .inr h
  | none =>
      rw [hf] at h
      rcases mem_put (mem_devices_iff.mp h) with h | h
      · exact .inl (Entry.device.inj h)
      · exact .inr (mem_devices_iff.mpr h)

end Shelf

end MouseConfig
