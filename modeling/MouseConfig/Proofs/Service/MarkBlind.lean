import MouseConfig.Proofs.Command.Follows
import MouseConfig.Proofs.Device.Unmarked
import MouseConfig.Proofs.Service.Shelf

/-! # Services that do not look at marks

Two services may keep the same devices but for what is marked as active in them.  Then they open the
same paths, and one commits what the other does.
-/

namespace MouseConfig

/-- Nothing is active that is needed. -/
def DeviceError.Inactive : DeviceError → Prop
  | noActiveProfile | noActiveResolution => True
  | _ => False

/-- What is found in the second service was found in the first one, with the same marks. -/
def KeepsMarks {σ : Type} [DeviceService σ] (s s' : σ) : Prop :=
  ∀ path d', loader s' path = .ok d' → ∃ d, loader s path = .ok d ∧ d'.marks = d.marks

theorem KeepsMarks.refl {σ : Type} [DeviceService σ] (s : σ) : KeepsMarks s s :=
  fun _ d h => ⟨d, h, rfl⟩

/-- A service that does not look at marks, with its laws for commits over devices that open. -/
structure MarkBlind (σ : Type) [DeviceService σ] where
  /-- The services keep the same devices but for their marks. -/
  Same : σ → σ → Prop
  symm {s s' : σ} : Same s s' → Same s' s
  load {s s' : σ} (p : Path) :
    Same s s' → (loader s p).map Device.unmarked = (loader s' p).map Device.unmarked
  commit {s s' : σ} {p : Path} {d₀ d₀' d d' : Device} :
    Same s s' → loader s p = .ok d₀ → loader s' p = .ok d₀' → d.unmarked = d'.unmarked →
      (DeviceService.commit s p d).1.1 = (DeviceService.commit s' p d').1.1 ∧
        Same (DeviceService.commit s p d).2 (DeviceService.commit s' p d').2
  keepsMarks {s s' : σ} {p : Path} {d₀ d : Device} :
    Same s s' → loader s p = .ok d₀ → d.marks = d₀.marks →
      KeepsMarks s (DeviceService.commit s p d).2
  /-- What is active is not the concern of the service. -/
  load_inactive {s : σ} {p : Path} {e : DeviceError} : loader s p = .error e → ¬ e.Inactive
  commit_inactive {s : σ} {p : Path} {d : Device} {e : DeviceError} :
    (DeviceService.commit s p d).1.1 = .error e → ¬ e.Inactive

namespace MarkBlind

variable {σ : Type} [DeviceService σ] (B : MarkBlind σ) {s s' : σ} {p : Path}

theorem refused {e : DeviceError} (h : B.Same s s') (hl : loader s p = .error e) :
    loader s' p = .error e := by
  have same := B.load p h
  rw [hl] at same
  cases hl' : loader s' p with
  | error e' =>
      rw [hl'] at same
      exact congrArg Except.error (Except.error.inj same).symm
  | ok d' =>
      rw [hl'] at same
      cases same

theorem opened {d : Device} (h : B.Same s s') (hl : loader s p = .ok d) :
    ∃ d', loader s' p = .ok d' ∧ d.unmarked = d'.unmarked := by
  have same := B.load p h
  rw [hl] at same
  cases hl' : loader s' p with
  | error e' =>
      rw [hl'] at same
      cases same
  | ok d' =>
      rw [hl'] at same
      exact ⟨d', rfl, Except.ok.inj same⟩

end MarkBlind

/-! ## The shelf -/

namespace Shelf

def Entry.unmarked : Entry → Entry
  | .device d => .device d.unmarked
  | e => e

/-- The shelf with nothing marked as active. -/
def unmarked (s : Shelf) : Shelf :=
  { s with entries := s.entries.map fun e => (e.1, e.2.unmarked) }

variable {s s' : Shelf} {p : Path} {d d' d₀ d₀' : Device}

theorem get?_unmarked (s : Shelf) (p : Path) : s.unmarked.get? p = (s.get? p).map Entry.unmarked := by
  rw [get?, get?, unmarked, List.find?_map, Option.map_map, Option.map_map]
  rfl

theorem put_unmarked (p : Path) (e : Entry) (entries : List (Path × Entry)) :
    (put p e entries).map (fun x => (x.1, x.2.unmarked)) =
      put p e.unmarked (entries.map fun x => (x.1, x.2.unmarked)) := by
  induction entries with
  | nil => rfl
  | cons x rest ih =>
      rw [put, List.map_cons, put]
      by_cases hx : x.1.same p
      · rw [if_pos hx, if_pos hx]
        rfl
      · rw [if_neg hx, if_neg hx, List.map_cons, ih]

theorem load_unmarked (s : Shelf) (p : Path) :
    s.unmarked.load p = (s.load p).map Device.unmarked := by
  rw [load, load, get?_unmarked]
  rcases s.get? p with _ | _ | _ | _ <;> rfl

theorem commit_unmarked (s : Shelf) (p : Path) (d : Device) :
    (s.commit p d).1 = (s.unmarked.commit p d.unmarked).1 ∧
      (s.commit p d).2.unmarked = (s.unmarked.commit p d.unmarked).2 := by
  rw [commit, commit, show s.unmarked.commitFailure = s.commitFailure from rfl]
  cases s.commitFailure with
  | some reason => exact ⟨rfl, rfl⟩
  | none =>
      refine ⟨rfl, ?_⟩
      have entries := put_unmarked p (.device d) s.entries
      exact congrArg (fun entries => { s with entries := entries, commitFailure := none }) entries

/-- A commit over a device changes no marks but those of the device. -/
theorem keepsMarks (hl : s.load p = .ok d₀) (hm : d.marks = d₀.marks) :
    KeepsMarks s (s.commit p d).2 := by
  intro q e he
  have he : (s.commit p d).2.load q = .ok e := he
  rcases load_commit_cases (d := d) hl q with same | ⟨before, after⟩
  · exact ⟨e, same.symm.trans he, rfl⟩
  · cases after.symm.trans he
    exact ⟨d₀, before, hm⟩

def markBlind : MarkBlind Shelf where
  Same s s' := s.unmarked = s'.unmarked
  symm := Eq.symm
  load {s s'} p h := by
    change (s.load p).map Device.unmarked = (s'.load p).map Device.unmarked
    rw [← load_unmarked, ← load_unmarked, h]
  commit {s s' p _ _ d d'} h _ _ hd := by
    obtain ⟨result, stored⟩ := s.commit_unmarked p d
    obtain ⟨result', stored'⟩ := s'.commit_unmarked p d'
    rw [h, hd] at result stored
    exact ⟨result.trans result'.symm, stored.trans stored'.symm⟩
  keepsMarks _ := keepsMarks
  load_inactive {s p e} h := by
    have h : s.load p = .error e := h
    rw [load] at h
    rcases hg : s.get? p with _ | _ | _ | _ <;> rw [hg] at h <;> cases h <;> exact not_false
  commit_inactive {s p d e} h := by
    have h : (s.commit p d).1 = .error e := h
    rw [commit] at h
    cases hf : s.commitFailure with
    | none =>
        rw [hf] at h
        cases h
    | some reason =>
        rw [hf] at h
        cases h
        exact not_false

end Shelf

end MouseConfig
