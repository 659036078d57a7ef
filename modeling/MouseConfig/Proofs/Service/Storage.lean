import MouseConfig.Proofs.Command.Follows
import MouseConfig.Proofs.Service.Shelf

/-! # Services that keep devices apart

What two commits to a service have to do with each other.  To different devices they do not get in
each other's way, and of two to one device the second is what stays.  Paths may lead to one device
without being equal, and services may keep the same devices without being equal.
-/

namespace MouseConfig

/-- A service that keeps devices, with its laws for commits over devices that open. -/
structure Storage (σ : Type) [DeviceService σ] where
  /-- Where the laws hold. -/
  Sound : σ → Prop
  /-- The paths lead to one device. -/
  Same : σ → Path → Path → Prop
  /-- A commit to the first path leaves the second alone, if they lead to different devices. -/
  Spares : σ → Path → Path → Prop
  /-- The services keep the same devices. -/
  Equal : σ → σ → Prop
  equal : Equivalence Equal
  same_symm {s : σ} {p q : Path} : Same s p q → Same s q p
  same_self {s : σ} {p : Path} {d : Device} : loader s p = .ok d → Same s p p
  spares_of_same {s : σ} {p q : Path} : Same s p q → Spares s p q
  load_of_same {s : σ} {p q : Path} {d : Device} :
    Same s p q → loader s p = .ok d → loader s q = .ok d
  sound_commit {s : σ} {p : Path} {d₀ : Device} (d : Device) :
    Sound s → loader s p = .ok d₀ → Sound (DeviceService.commit s p d).2
  /-- A commit that fails changes nothing. -/
  unchanged {s : σ} {p : Path} {d₀ d : Device} {e : DeviceError} :
    Sound s → loader s p = .ok d₀ → (DeviceService.commit s p d).1.1 = .error e →
      (DeviceService.commit s p d).2 = s
  load_commit {s : σ} {p q : Path} {d₀ d : Device} :
    Sound s → Same s p q → loader s p = .ok d₀ → (DeviceService.commit s p d).1.1 = .ok () →
      loader (DeviceService.commit s p d).2 q = .ok d
  load_commit_of_not_same {s : σ} {p q : Path} {d₀ : Device} (d : Device) :
    Sound s → ¬ Same s p q → Spares s p q → loader s p = .ok d₀ →
      loader (DeviceService.commit s p d).2 q = loader s q
  /-- Of a device, only its number of buttons can make a commit fail. -/
  result_congr {s : σ} {p : Path} {d₀ d d' : Device} :
    Sound s → loader s p = .ok d₀ → d.buttonCount = d'.buttonCount →
      (DeviceService.commit s p d).1.1 = (DeviceService.commit s p d').1.1
  /-- No commit makes another one fail. -/
  result_commit {s : σ} {p q : Path} {d₀ e₀ : Device} (d e : Device) :
    Sound s → Spares s p q → loader s p = .ok d₀ → loader s q = .ok e₀ →
      (DeviceService.commit (DeviceService.commit s p d).2 q e).1.1 =
        (DeviceService.commit s q e).1.1
  swap {s : σ} {p q : Path} {d₀ e₀ d e : Device} :
    Sound s → ¬ Same s p q → Spares s p q → Spares s q p →
      loader s p = .ok d₀ → loader s q = .ok e₀ →
      (DeviceService.commit s p d).1.1 = .ok () → (DeviceService.commit s q e).1.1 = .ok () →
      Equal (DeviceService.commit (DeviceService.commit s p d).2 q e).2
        (DeviceService.commit (DeviceService.commit s q e).2 p d).2
  absorb {s : σ} {p q : Path} {d₀ d e : Device} :
    Sound s → Same s p q → loader s p = .ok d₀ →
      (DeviceService.commit s p d).1.1 = .ok () → (DeviceService.commit s q e).1.1 = .ok () →
      Equal (DeviceService.commit (DeviceService.commit s p d).2 q e).2
        (DeviceService.commit s q e).2
  /-- It does not matter by which path a device is committed. -/
  alike {s : σ} {p q : Path} {d₀ d : Device} :
    Sound s → Same s p q → loader s p = .ok d₀ →
      (DeviceService.commit s p d).1.1 = .ok () → (DeviceService.commit s q d).1.1 = .ok () →
      Equal (DeviceService.commit s p d).2 (DeviceService.commit s q d).2

namespace Storage

variable {σ : Type} [DeviceService σ] (S : Storage σ) {s : σ} {p q : Path}
  {d₀ e₀ d e e' x : Device}

/-- Whether a commit succeeds is settled before another one is made. -/
theorem result_after (hs : S.Sound s) (spares : S.Spares s p q) (hp : loader s p = .ok d₀)
    (hq : loader s q = .ok e₀) (d : Device) (buttons : e.buttonCount = e'.buttonCount) :
    (DeviceService.commit (DeviceService.commit s p d).2 q e).1.1 =
      (DeviceService.commit s q e').1.1 :=
  (S.result_commit d e hs spares hp hq).trans (S.result_congr hs hq buttons)

/-- What is committed last is all that counts, by whatever path it is. -/
theorem equal_of_same (hs : S.Sound s) (same : S.Same s p q) (hp : loader s p = .ok d₀)
    (hd : (DeviceService.commit s p d).1.1 = .ok ())
    (he : (DeviceService.commit s q e).1.1 = .ok ())
    (buttons : x.buttonCount = d.buttonCount) (buttons' : x.buttonCount = e.buttonCount) :
    S.Equal (DeviceService.commit (DeviceService.commit s p d).2 q x).2
      (DeviceService.commit (DeviceService.commit s q e).2 p x).2 := by
  have hq := S.load_of_same same hp
  have byP : (DeviceService.commit s p x).1.1 = .ok () := (S.result_congr hs hp buttons).trans hd
  have byQ : (DeviceService.commit s q x).1.1 = .ok () := (S.result_congr hs hq buttons').trans he
  have first := S.absorb hs same hp hd byQ
  have second := S.absorb hs (S.same_symm same) hq he byP
  exact S.equal.trans first
    (S.equal.trans (S.equal.symm (S.alike hs same hp byP byQ)) (S.equal.symm second))

end Storage

namespace Shelf

variable {s : Shelf} {p q : Path} {d e : Device}

theorem commit_of_failure {reason : String} (h : s.commitFailure = some reason) :
    s.commit p d = (.error (.notCommitted p reason), s) := by
  rw [commit, h]

theorem commit_of_none (h : s.commitFailure = none) :
    s.commit p d = (.ok (), { s with entries := put p (.device d) s.entries }) := by
  rw [commit, h]

theorem commit_commit_of_none (h : s.commitFailure = none) :
    ((s.commit p d).2.commit q e).2 =
      { s with entries := put q (.device e) (put p (.device d) s.entries) } := by
  simp only [commit, h]

theorem commitFailure_eq_none (h : (s.commit p d).1 = .ok ()) : s.commitFailure = none :=
  (commit_eq_ok_iff.mp ⟨h, rfl⟩).1

/-- Whether commits fail is settled once and for all. -/
theorem commitFailure_commit (s : Shelf) (p : Path) (d : Device) :
    (s.commit p d).2.commitFailure = s.commitFailure := by
  cases h : s.commitFailure with
  | some reason => rw [commit_of_failure h, h]
  | none => rw [commit_of_none h, h]

theorem result_eq_of_commitFailure {s s' : Shelf} (h : s'.commitFailure = s.commitFailure)
    (p : Path) (d d' : Device) : (s'.commit p d).1 = (s.commit p d').1 := by
  cases hf : s.commitFailure with
  | some reason => rw [commit_of_failure hf, commit_of_failure (h.trans hf)]
  | none => rw [commit_of_none hf, commit_of_none (h.trans hf)]

theorem isSome_of_load (h : s.load p = .ok d) : (s.entries.find? fun x => x.1.same p).isSome := by
  obtain ⟨x, hx, -⟩ := Option.map_eq_some_iff.mp (load_eq_ok_iff.mp h)
  rw [hx]
  rfl

/-- A shelf keeps its devices apart, and by their paths. -/
def storage : Storage Shelf where
  Sound _ := True
  Same _ p q := p.same q
  Spares _ _ _ := True
  Equal := Eq
  equal := ⟨fun _ => rfl, Eq.symm, Eq.trans⟩
  same_symm {_ p q} h := (Path.same_comm q p).trans h
  same_self {_ p _} _ := Path.same_refl p
  spares_of_same _ := trivial
  load_of_same h hp := load_eq_ok_iff.mpr ((get?_congr h).symm.trans (load_eq_ok_iff.mp hp))
  sound_commit _ _ _ := trivial
  unchanged {s p d₀ d e} _ _ he := by
    cases hf : s.commitFailure with
    | some reason => exact congrArg Prod.snd (commit_of_failure hf)
    | none => cases (congrArg Prod.fst (commit_of_none hf)).symm.trans he
  load_commit {s p q d₀ d} _ h _ hc := by
    have stored : (s.commit p d).2.get? q = some (.device d) :=
      (get?_congr h).symm.trans (get?_commit hc)
    exact load_eq_ok_iff.mpr stored
  load_commit_of_not_same {s p q d₀} d _ h _ _ := by
    have other : q.same p = false := by
      rw [Path.same_comm]
      exact Bool.eq_false_iff.mpr h
    have same : (s.commit p d).2.load q = s.load q := by
      rw [load, load, get?_commit_of_not_same other]
    exact same
  result_congr {s p d₀ d d'} _ _ _ := result_eq_of_commitFailure rfl p d d'
  result_commit {s p q d₀ e₀} d e _ _ _ _ :=
    result_eq_of_commitFailure (commitFailure_commit s p d) q e e
  swap {s p q d₀ e₀ d e} _ h _ _ hp _ hc _ := by
    have works : s.commitFailure = none := commitFailure_eq_none hc
    have order : ((s.commit p d).2.commit q e).2 = ((s.commit q e).2.commit p d).2 := by
      rw [commit_commit_of_none works, commit_commit_of_none works,
        put_comm (Bool.eq_false_iff.mpr h) _ _ (isSome_of_load hp)]
    exact order
  absorb {s p q d₀ d e} _ h hp hc _ := by
    have works : s.commitFailure = none := commitFailure_eq_none hc
    have last : ((s.commit p d).2.commit q e).2 = (s.commit q e).2 := by
      rw [commit_commit_of_none works, commit_of_none works, put_put h _ _ (isSome_of_load hp)]
    exact last
  alike {s p q d₀ d} _ h hp hc _ := by
    have works : s.commitFailure = none := commitFailure_eq_none hc
    have same : (s.commit p d).2 = (s.commit q d).2 := by
      rw [commit_of_none works, commit_of_none works, put_congr h _ (isSome_of_load hp)]
    exact same

end Shelf

end MouseConfig
