import MouseConfig.Proofs.Command.Needs
import MouseConfig.Proofs.Session.Disclosure
import MouseConfig.Proofs.Service.Shelf

/-! # Resolving step by step

What is needed is resolved in stages: the device, its active profile, the active resolution of that.
A stage fills in one selection if it is missing, and the stages of a lower need come before those of
a higher one.  So it makes no difference to meet the lower need first, and what is met once is met.
-/

namespace MouseConfig

variable {σ : Type}

/-! ## What is active -/

namespace Step

/-- To look for what is active changes nothing. -/
theorem run_activeProfile_cases (s : Session σ) :
    (∃ e, (activeProfile : Step σ Nat).run s = .error e s) ∨
      ∃ i, (activeProfile : Step σ Nat).run s = .ok i s := by
  rw [activeProfile, EStateM.run_bind, run_model]
  cases s.context.openModel with
  | error e => exact .inl ⟨_, rfl⟩
  | ok d =>
      cases ha : d.activeProfile? with
      | none => exact .inl ⟨.device .noActiveProfile, by simp [ha]⟩
      | some i => exact .inr ⟨i, by simp [ha]⟩

theorem run_activeResolution_cases (s : Session σ) :
    (∃ e, (activeResolution : Step σ Nat).run s = .error e s) ∨
      ∃ j, (activeResolution : Step σ Nat).run s = .ok j s := by
  rw [activeResolution, EStateM.run_bind, run_profile]
  cases s.context.selectedProfile with
  | error e => exact .inl ⟨_, rfl⟩
  | ok p =>
      cases ha : p.activeResolution? with
      | none => exact .inl ⟨.device .noActiveResolution, by simp [ha]⟩
      | some j => exact .inr ⟨j, by simp [ha]⟩

end Step

variable [DeviceService σ]

/-! ## What may be filled in -/

/-- Selections that were there are kept.  Only a device may be opened, by the last word, and the
word is taken then and only then. -/
structure Session.Filled (s s' : Session σ) : Prop where
  profile : ∀ i, s.context.profile = some i → s'.context.profile = some i
  resolution : ∀ j, s.context.resolution = some j → s'.context.resolution = some j
  button : s'.context.button = s.context.button
  service : s'.service = s.service
  device : s'.context.device = s.context.device ∧ s'.args = s.args ∨
    s.context.device = none ∧ ∃ word d, loader s.service ⟨word⟩ = .ok d ∧
      s'.context.device = some ⟨⟨word⟩, d⟩ ∧ s.args = s'.args ++ [word]

namespace Session.Filled

variable {s s' s'' : Session σ}

theorem refl (s : Session σ) : s.Filled s where
  profile _ hi := hi
  resolution _ hj := hj
  button := rfl
  service := rfl
  device := .inl ⟨rfl, rfl⟩

/-- No second device is opened. -/
theorem trans (h : s.Filled s') (h' : s'.Filled s'') : s.Filled s'' where
  profile i hi := h'.profile i (h.profile i hi)
  resolution j hj := h'.resolution j (h.resolution j hj)
  button := h'.button.trans h.button
  service := h'.service.trans h.service
  device := by
    rcases h.device with ⟨same, args⟩ | ⟨missing, word, d, hd, opened, args⟩
    · have later := h'.device
      rw [same, args, h.service] at later
      exact later
    · rcases h'.device with ⟨same', args'⟩ | ⟨missing', -⟩
      · exact .inr ⟨missing, word, d, hd, same'.trans opened, by rw [args', args]⟩
      · cases opened.symm.trans missing'

/-- A word is taken exactly where a device is opened. -/
theorem takes_iff (h : s.Filled s') :
    (∃ word, s.args = s'.args ++ [word]) ↔
      s.context.device = none ∧ s'.context.device ≠ none := by
  rcases h.device with ⟨same, args⟩ | ⟨missing, word, d, -, opened, args⟩
  · refine iff_of_false ?_ ?_
    · rintro ⟨word, taken⟩
      simp [args] at taken
    · rintro ⟨missing, opened⟩
      exact opened (same.trans missing)
  · exact iff_of_true ⟨word, args⟩ ⟨missing, by simp [opened]⟩

end Session.Filled

/-! ## Stages -/

namespace Step

/-- A stage of resolving does nothing where its selection is there.  Otherwise it fills in no more
than was missing, and only succeeds with its selection there. -/
structure Stage (m : Step σ Unit) (There : Context → Prop) : Prop where
  rests : ∀ s : Session σ, There s.context → m.run s = .ok () s
  fills : ∀ s : Session σ, s.Filled (final (m.run s))
  meets : ∀ s s' : Session σ, m.run s = .ok () s' → There s'.context
  keeps : ∀ s s' : Session σ, s.Filled s' → There s.context → There s'.context

namespace Stage

variable {m k : Step σ Unit} {There Next : Context → Prop}

/-- All that counts is what becomes of a session where the selection is missing. -/
theorem of_missing (rests : ∀ s : Session σ, There s.context → m.run s = .ok () s)
    (keeps : ∀ s s' : Session σ, s.Filled s' → There s.context → There s'.context)
    (missing : ∀ s : Session σ, ¬ There s.context →
      (∃ e s', m.run s = .error e s' ∧ s.Filled s') ∨
        ∃ s', m.run s = .ok () s' ∧ s.Filled s' ∧ There s'.context) : Stage m There where
  rests := rests
  keeps := keeps
  fills s := by
    by_cases h : There s.context
    · rw [rests s h]
      exact .refl s
    · rcases missing s h with ⟨e, s', hr, filled⟩ | ⟨s', hr, filled, -⟩
      · rw [hr]
        exact filled
      · rw [hr]
        exact filled
  meets s s' hr := by
    by_cases h : There s.context
    · cases (rests s h).symm.trans hr
      exact h
    · rcases missing s h with ⟨e, t, ht, -⟩ | ⟨t, ht, -, there⟩
      · cases ht.symm.trans hr
      · cases ht.symm.trans hr
        exact there

theorem bind (hm : Stage m There) (hk : Stage k Next) :
    Stage (m >>= fun _ => k) fun c => There c ∧ Next c where
  rests s h := by
    rw [EStateM.run_bind, hm.rests s h.1]
    exact hk.rests s h.2
  fills s := by
    have first := hm.fills s
    rw [EStateM.run_bind]
    cases hr : m.run s with
    | error e t =>
        rw [hr] at first
        exact first
    | ok u t =>
        rw [hr] at first
        exact first.trans (hk.fills t)
  meets s s' h := by
    rw [EStateM.run_bind] at h
    cases hr : m.run s with
    | error e t =>
        rw [hr] at h
        cases h
    | ok u t =>
        rw [hr] at h
        have done : k.run t = .ok () s' := h
        have later := hk.fills t
        rw [done] at later
        exact ⟨hm.keeps t s' later (hm.meets s t hr), hk.meets t s' done⟩
  keeps s s' h there := ⟨hm.keeps s s' h there.1, hk.keeps s s' h there.2⟩

theorem resolveDevice : Stage (σ := σ) Step.resolveDevice fun c => c.device.isSome := by
  refine of_missing (fun s h => run_resolveDevice_of_isSome h) (fun s s' h ho => ?_) fun s h => ?_
  · rcases h.device with ⟨same, -⟩ | ⟨missing, -⟩
    · rw [same]
      exact ho
    · simp [missing] at ho
  · have ho : s.context.device = none := Option.not_isSome_iff_eq_none.mp h
    have opens : Step.resolveDevice.run s = openLast.run s := by simp [Step.resolveDevice, ho]
    rw [opens]
    cases hw : s.args.getLast? with
    | none => exact .inl ⟨_, s, run_openLast_of_missing hw, .refl s⟩
    | some word =>
        cases hd : loader s.service ⟨word⟩ with
        | error e =>
            exact .inl ⟨_, _, run_openLast_of_error hw hd, { Session.Filled.refl s with }⟩
        | ok d =>
            obtain ⟨rest, hargs⟩ := List.getLast?_eq_some_iff.mp hw
            have taken : s.args = s.args.dropLast ++ [word] := by simp [hargs]
            exact .inr ⟨_, run_openLast_of_ok hw hd, { Session.Filled.refl s with
              device := .inr ⟨ho, word, d, hd, rfl, taken⟩ }, rfl⟩

theorem resolveProfile : Stage (σ := σ) Step.resolveProfile fun c => c.profile.isSome := by
  refine of_missing (fun s h => ?_) (fun s s' h hp => ?_) fun s h => ?_
  · obtain ⟨i, hi⟩ := Option.isSome_iff_exists.mp h
    simp [Step.resolveProfile, hi]
  · obtain ⟨i, hi⟩ := Option.isSome_iff_exists.mp hp
    simp [h.profile i hi]
  · have hp : s.context.profile = none := Option.not_isSome_iff_eq_none.mp h
    rcases run_activeProfile_cases s with ⟨e, he⟩ | ⟨i, hi⟩
    · exact .inl ⟨e, s, by simp [Step.resolveProfile, hp, he], .refl s⟩
    · refine .inr ⟨_, by simp [Step.resolveProfile, hp, hi]; rfl, ?_, rfl⟩
      exact { Session.Filled.refl s with profile := fun _ h => nomatch hp.symm.trans h }

theorem resolveResolution : Stage (σ := σ) Step.resolveResolution fun c => c.resolution.isSome := by
  refine of_missing (fun s h => ?_) (fun s s' h hr => ?_) fun s h => ?_
  · obtain ⟨j, hj⟩ := Option.isSome_iff_exists.mp h
    simp [Step.resolveResolution, hj]
  · obtain ⟨j, hj⟩ := Option.isSome_iff_exists.mp hr
    simp [h.resolution j hj]
  · have hr : s.context.resolution = none := Option.not_isSome_iff_eq_none.mp h
    rcases run_activeResolution_cases s with ⟨e, he⟩ | ⟨j, hj⟩
    · exact .inl ⟨e, s, by simp [Step.resolveResolution, hr, he], .refl s⟩
    · refine .inr ⟨_, by simp [Step.resolveResolution, hr, hj]; rfl, ?_, rfl⟩
      exact { Session.Filled.refl s with resolution := fun _ h => nomatch hr.symm.trans h }

/-- To meet a need is one stage, made of those that it includes. -/
theorem resolve (r : Requirement) : Stage (σ := σ) (Step.resolve r) (·.Meets r) := by
  cases r with
  | nothing => exact ⟨fun _ _ => rfl, .refl, fun _ _ _ => trivial, fun _ _ _ _ => trivial⟩
  | device => exact resolveDevice
  | profile => exact bind resolveDevice resolveProfile
  | resolution => exact bind resolveDevice (bind resolveProfile resolveResolution)

end Stage

end Step

/-! ## Lower and higher needs -/

theorem Context.meets_iff {c : Context} {r : Requirement} :
    c.Meets r ↔ (.device ≤ r → c.device.isSome) ∧ (.profile ≤ r → c.profile.isSome) ∧
      (.resolution ≤ r → c.resolution.isSome) := by
  cases r <;> simp [Meets, Requirement.le_iff_rank, Requirement.rank]

theorem Context.Meets.mono {c : Context} {r₁ r₂ : Requirement} (h : c.Meets r₁) (hle : r₂ ≤ r₁) :
    c.Meets r₂ := by
  obtain ⟨device, profile, resolution⟩ := meets_iff.mp h
  exact meets_iff.mpr ⟨fun hd => device (Nat.le_trans hd hle),
    fun hp => profile (Nat.le_trans hp hle), fun hr => resolution (Nat.le_trans hr hle)⟩

namespace Step

variable {r₁ r₂ : Requirement}

/-- To resolve a higher need, first resolve the lower one. -/
theorem exists_resolve_eq_bind (h : r₁ ≤ r₂) :
    ∃ k : Step σ Unit, resolve r₂ = resolve r₁ >>= fun _ => k := by
  cases r₁ with
  | nothing => exact ⟨resolve r₂, rfl⟩
  | device =>
      cases r₂ with
      | nothing => exact absurd h (by decide)
      | device => exact ⟨pure (), (bind_pure _).symm⟩
      | profile => exact ⟨resolveProfile, rfl⟩
      | resolution => exact ⟨resolveProfile >>= fun _ => resolveResolution, rfl⟩
  | profile =>
      cases r₂ with
      | nothing | device => exact absurd h (by decide)
      | profile => exact ⟨pure (), (bind_pure _).symm⟩
      | resolution => exact ⟨resolveResolution, (bind_assoc _ _ _).symm⟩
  | resolution =>
      cases r₂ with
      | nothing | device | profile => exact absurd h (by decide)
      | resolution => exact ⟨pure (), (bind_pure _).symm⟩

/-- To meet a lower need first makes no difference, and to meet it again does nothing.  Whether it
can be met or not, what was selected stays, and a word is taken from the end of the words just where
a device is opened, which is the one it names. -/
theorem resolve_composes (s : Session σ) (r₁ r₂ : Requirement) :
    (r₁ ≤ r₂ →
      (∀ e s', (resolve r₁).run s = .error e s' → (resolve r₂).run s = .error e s') ∧
      ∀ s', (resolve r₁).run s = .ok () s' → (resolve r₂).run s' = (resolve r₂).run s) ∧
    (r₂ ≤ r₁ → ∀ s', (resolve r₁).run s = .ok () s' → (resolve r₂).run s' = .ok () s') ∧
    let s' := final ((resolve r₁).run s)
    s.Filled s' ∧ (s'.args = s.args ∨ ∃ word, s.args = s'.args ++ [word]) ∧
      ((∃ word, s.args = s'.args ++ [word]) ↔
        s.context.device = none ∧ s'.context.device ≠ none) := by
  have met {s' : Session σ} (h : (resolve r₁).run s = .ok () s') : s'.context.Meets r₁ :=
    (Stage.resolve r₁).meets s s' h
  refine ⟨fun hle => ?_, fun hle s' h => (Stage.resolve r₂).rests s' ((met h).mono hle), ?_⟩
  · obtain ⟨k, hk⟩ := exists_resolve_eq_bind (σ := σ) hle
    rw [hk]
    constructor
    · intro e s' h
      rw [EStateM.run_bind, h]
    · intro s' h
      rw [EStateM.run_bind, EStateM.run_bind, h, (Stage.resolve r₁).rests s' (met h)]
  · intro s'
    have filled : s.Filled s' := (Stage.resolve r₁).fills s
    refine ⟨filled, ?_, filled.takes_iff⟩
    rcases filled.device with ⟨-, same⟩ | ⟨-, word, d, -, -, taken⟩
    · exact .inl same
    · exact .inr ⟨word, taken⟩

/-- On the way to a resolution the device is opened first, by the last word. -/
theorem resolve_composes_of_mouse :
    let p : Profile := { active := true, resolutions := [{ dpi := 800, active := true }] }
    let shelf : Shelf := { entries := [(⟨"m"⟩, .device { name := "M", profiles := [p] })] }
    let s := Session.start shelf .normal ["get", "m"]
    let s' := final ((resolve .device).run s)
    (resolve .device).run s = .ok () s' ∧ s'.args = ["get"] ∧ s'.context.profile = none ∧
      (resolve .resolution).run s' = (resolve .resolution).run s ∧
      (final ((resolve .resolution).run s')).context.resolution = some 0 := by
  intro p shelf s s'
  have loads : loader s.service ⟨"m"⟩ = .ok { name := "M", profiles := [p] } :=
    Shelf.load_singleton _ _
  have opened : (resolve .device).run s = .ok () s' := by
    have opens : (resolve .device).run s = openLast.run s := rfl
    have ends : s' = final (openLast.run s) := rfl
    rw [ends, opens, run_openLast_of_ok rfl loads]
    rfl
  obtain ⟨higher, -⟩ := resolve_composes s .device .resolution
  have same : (resolve .resolution).run s' = (resolve .resolution).run s :=
    (higher (by decide)).2 s' opened
  refine ⟨opened, by decide, by decide, same, ?_⟩
  rw [same]
  decide

end Step

end MouseConfig
