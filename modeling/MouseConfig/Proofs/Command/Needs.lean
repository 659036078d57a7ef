import MouseConfig.Proofs.Command.Inversion

/-! # Needs that are met

What has been selected needs no resolving.  Where nothing has been selected, the device is what the
last word names, and profile and resolution are the active ones.
-/

namespace MouseConfig

/-- What a command needs is selected. -/
def Context.Meets (c : Context) : Requirement → Prop
  | .nothing => True
  | .device => c.device.isSome
  | .profile => c.device.isSome ∧ c.profile.isSome
  | .resolution => c.device.isSome ∧ c.profile.isSome ∧ c.resolution.isSome

namespace Search

variable {load : Loader} {p q : Stand}

theorem run_resolveProfile_of_isSome (h : p.context.profile.isSome) :
    resolveProfile.run p = .ok () p := by
  obtain ⟨i, hi⟩ := Option.isSome_iff_exists.mp h
  simp [resolveProfile, hi]

theorem run_resolveResolution_of_isSome (h : p.context.resolution.isSome) :
    resolveResolution.run p = .ok () p := by
  obtain ⟨j, hj⟩ := Option.isSome_iff_exists.mp h
  simp [resolveResolution, hj]

/-- What is needed and there already stays. -/
theorem run_resolve_of_meets {r : Requirement} (h : p.context.Meets r) :
    (resolve load r).run p = .ok () p := by
  cases r with
  | nothing => rfl
  | device => exact run_resolveDevice_of_isSome h
  | profile =>
      obtain ⟨hd, hp⟩ := h
      simp only [resolve, EStateM.run_bind, run_resolveDevice_of_isSome hd,
        run_resolveProfile_of_isSome hp]
  | resolution =>
      obtain ⟨hd, hp, hr⟩ := h
      simp only [resolve, EStateM.run_bind, run_resolveDevice_of_isSome hd,
        run_resolveProfile_of_isSome hp, run_resolveResolution_of_isSome hr]

/-- The last word is taken if what it names opens. -/
theorem run_resolveDevice_eq_ok_iff (h : p.context.device = none) :
    (resolveDevice load).run p = .ok () q ↔
      ∃ rest word d, p.args = rest ++ [word] ∧ load ⟨word⟩ = .ok d ∧
        q = { context := { p.context with device := some ⟨⟨word⟩, d⟩ }, args := rest,
              calls := p.calls ++ [.load ⟨word⟩ true] } := by
  rw [run_resolveDevice_of_none h]
  constructor
  · intro hr
    cases hw : p.args.getLast? with
    | none => cases hr.symm.trans (run_openLast_of_missing hw)
    | some word =>
        obtain ⟨rest, hargs⟩ := List.getLast?_eq_some_iff.mp hw
        cases hd : load ⟨word⟩ with
        | error e => cases hr.symm.trans (run_openLast_of_error hw hd)
        | ok d =>
            cases hr.symm.trans (run_openLast_of_ok hw hd)
            exact ⟨rest, word, d, hargs, hd, by simp [hargs]⟩
  · rintro ⟨rest, word, d, hargs, hd, rfl⟩
    rw [run_openLast_of_ok (by simp [hargs]) hd, hargs, List.dropLast_concat]

theorem run_resolveProfile_eq_ok_iff {d : Device} (h : p.context.profile = none)
    (hd : p.context.openModel = .ok d) :
    resolveProfile.run p = .ok () q ↔
      ∃ i, d.activeProfile? = some i ∧
        q = { p with context := { p.context with profile := some i } } := by
  have active : resolveProfile.run p =
      (activeProfile >>= fun i => select fun c => { c with profile := some i }).run p := by
    simp [resolveProfile, h]
  rw [active, run_bind_eq_ok_iff]
  constructor
  · rintro ⟨i, p', hi, hs⟩
    obtain ⟨d', hd', ha, rfl⟩ := run_activeProfile_eq_ok_iff.mp hi
    cases hd.symm.trans hd'
    cases hs
    exact ⟨i, ha, rfl⟩
  · rintro ⟨i, ha, rfl⟩
    exact ⟨i, p, run_activeProfile_eq_ok_iff.mpr ⟨d, hd, ha, rfl⟩, rfl⟩

theorem run_resolveResolution_eq_ok_iff {r : Profile} (h : p.context.resolution = none)
    (hr : p.context.selectedProfile = .ok r) :
    resolveResolution.run p = .ok () q ↔
      ∃ j, r.activeResolution? = some j ∧
        q = { p with context := { p.context with resolution := some j } } := by
  have active : resolveResolution.run p =
      (activeResolution >>= fun j => select fun c => { c with resolution := some j }).run p := by
    simp [resolveResolution, h]
  rw [active, run_bind_eq_ok_iff]
  constructor
  · rintro ⟨j, p', hj, hs⟩
    obtain ⟨r', hr', ha, rfl⟩ := run_activeResolution_eq_ok_iff.mp hj
    cases hr.symm.trans hr'
    cases hs
    exact ⟨j, ha, rfl⟩
  · rintro ⟨j, ha, rfl⟩
    exact ⟨j, p, run_activeResolution_eq_ok_iff.mpr ⟨r, hr, ha, rfl⟩, rfl⟩

/-! ## With nothing but a device open -/

variable {o : OpenDevice}

theorem openModel_of_eq {c : Context} (h : c.device = some o) : c.openModel = .ok o.model :=
  Context.openModel_eq_ok_iff.mpr ⟨o.path, h⟩

theorem run_resolve_profile_eq_ok_iff (hc : p.context = { device := some o }) :
    (resolve load .profile).run p = .ok () q ↔
      ∃ i, o.model.activeProfile? = some i ∧
        q = { p with context := { device := some o, profile := some i } } := by
  have device : p.context.device.isSome := by
    rw [hc]
    rfl
  simp only [resolve, EStateM.run_bind, run_resolveDevice_of_isSome device]
  rw [run_resolveProfile_eq_ok_iff (by rw [hc]) (openModel_of_eq (by rw [hc])), hc]

theorem run_resolve_resolution_eq_ok_iff (hc : p.context = { device := some o }) :
    (resolve load .resolution).run p = .ok () q ↔
      ∃ i r j, o.model.activeProfile? = some i ∧ o.model.profiles[i]? = some r ∧
        r.activeResolution? = some j ∧
        q = { p with
          context := { device := some o, profile := some i, resolution := some j } } := by
  have split : resolve load .resolution =
      (resolve load .profile >>= fun _ => resolveResolution) := by
    simp [resolve]
  have selected {i : Nat} {r : Profile} (hr : o.model.profiles[i]? = some r) :
      ({ device := some o, profile := some i } : Context).selectedProfile = .ok r :=
    Context.selectedProfile_eq_ok_iff.mpr ⟨o.model, i, openModel_of_eq rfl, rfl, hr⟩
  rw [split, run_bind_eq_ok_iff]
  constructor
  · rintro ⟨⟨⟩, p', hp, hq⟩
    obtain ⟨i, hi, rfl⟩ := (run_resolve_profile_eq_ok_iff hc).mp hp
    obtain ⟨r, hr⟩ := Device.exists_profile_of_activeProfile? hi
    obtain ⟨j, hj, rfl⟩ := (run_resolveResolution_eq_ok_iff rfl (selected hr)).mp hq
    exact ⟨i, _, j, hi, hr, hj, rfl⟩
  · rintro ⟨i, r, j, hi, hr, hj, rfl⟩
    exact ⟨(), _, (run_resolve_profile_eq_ok_iff hc).mpr ⟨i, hi, rfl⟩,
      (run_resolveResolution_eq_ok_iff rfl (selected hr)).mpr ⟨j, hj, rfl⟩⟩

end Search

open Search

variable {load : Loader} {p q : Stand} {t : Target}

/-- A node whose needs are met is searched on from where it is. -/
theorem Node.run_seekFrom_of_meets {n : Node} (h : p.context.Meets n.requirement) :
    (n.seekFrom load).run p = (n.seekOn load).run p := by
  rw [seekFrom_eq, EStateM.run_bind, run_resolve_of_meets h]

theorem Node.run_seekFrom_iff_of_meets {n : Node} (h : p.context.Meets n.requirement) :
    (n.seekFrom load).run p = .ok t q ↔ (n.seekOn load).run p = .ok t q := by
  rw [run_seekFrom_of_meets h]

theorem Node.run_seekFrom_eq_ok_iff {n : Node} :
    (n.seekFrom load).run p = .ok t q ↔
      ∃ p', (resolve load n.requirement).run p = .ok () p' ∧
        (n.seekOn load).run p' = .ok t q := by
  rw [seekFrom_eq, run_bind_eq_ok_iff]
  exact ⟨fun ⟨_, p', h⟩ => ⟨p', h⟩, fun ⟨p', h⟩ => ⟨(), p', h⟩⟩

theorem Node.run_seek_eq_ok_iff {n : Node} :
    (n.seek load).run p = .ok t q ↔
      ∃ word rest, p.args = word :: rest ∧
        (seekChild load word n.children).run { p with args := rest } = .ok t q := by
  rw [seek, run_bind_eq_ok_iff]
  constructor
  · rintro ⟨word, p', hw, h⟩
    obtain ⟨rest, hargs, rfl⟩ := run_nextWord_eq_ok_iff.mp hw
    exact ⟨word, rest, hargs, h⟩
  · rintro ⟨word, rest, hargs, h⟩
    exact ⟨word, _, run_nextWord_eq_ok_iff.mpr ⟨rest, hargs, rfl⟩, h⟩

theorem run_seekChild_eq_ok_iff {word : String} {nodes : List Node} :
    (seekChild load word nodes).run p = .ok t q ↔
      ∃ n, (nodes.find? fun c => c.name == word) = some n ∧
        (n.seekFrom load).run p = .ok t q := by
  rw [seekChild_eq]
  cases nodes.find? fun c => c.name == word with
  | none => simp
  | some n => simp

theorem run_seekChild_cons_eq_ok_iff {word : String} {n : Node} {rest : List Node} :
    (seekChild load word (n :: rest)).run p = .ok t q ↔
      n.name = word ∧ (n.seekFrom load).run p = .ok t q ∨
        n.name ≠ word ∧ (seekChild load word rest).run p = .ok t q := by
  rw [seekChild]
  by_cases h : n.name = word
  · simp [h]
  · simp [h]

theorem run_seekChild_nil_eq_ok_iff {word : String} :
    (seekChild load word []).run p = .ok t q ↔ False := by
  rw [seekChild]
  simp

end MouseConfig
