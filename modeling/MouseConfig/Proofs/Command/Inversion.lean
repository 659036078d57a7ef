import MouseConfig.Proofs.Command.Grammar
import MouseConfig.Proofs.Command.Search
import MouseConfig.Proofs.Session.Context

/-! # Where the moves of a search lead

For each move, when it succeeds and where it leaves the stand.
-/

namespace MouseConfig

namespace Search

variable {α β : Type} {p q : Stand}

theorem run_bind_eq_ok_iff {m : Search α} {k : α → Search β} {b : β} :
    (m >>= k).run p = .ok b q ↔ ∃ a p', m.run p = .ok a p' ∧ (k a).run p' = .ok b q := by
  rw [EStateM.run_bind]
  cases m.run p with
  | error e p' => simp
  | ok a p' =>
      constructor
      · intro h
        exact ⟨a, p', rfl, h⟩
      · rintro ⟨_, _, h, hk⟩
        cases h
        exact hk

theorem run_pure_eq_ok_iff {a b : α} : (pure a : Search α).run p = .ok b q ↔ a = b ∧ p = q := by
  simp

theorem run_ofExcept_eq_ok_iff {x : Except DeviceError α} {a : α} :
    (ofExcept x).run p = .ok a q ↔ x = .ok a ∧ q = p := by
  cases x with
  | error e => simp
  | ok b => simp [eq_comm]

theorem run_model_eq_ok_iff {d : Device} :
    model.run p = .ok d q ↔ p.context.openModel = .ok d ∧ q = p := by
  change (ofExcept p.context.openModel).run p = _ ↔ _
  exact run_ofExcept_eq_ok_iff

theorem run_profile_eq_ok_iff {r : Profile} :
    profile.run p = .ok r q ↔ p.context.selectedProfile = .ok r ∧ q = p := by
  change (ofExcept p.context.selectedProfile).run p = _ ↔ _
  exact run_ofExcept_eq_ok_iff

theorem run_activeProfile_eq_ok_iff {i : Nat} :
    activeProfile.run p = .ok i q ↔
      ∃ d, p.context.openModel = .ok d ∧ d.activeProfile? = some i ∧ q = p := by
  rw [activeProfile, run_bind_eq_ok_iff]
  constructor
  · rintro ⟨d, p', hd, h⟩
    obtain ⟨hd, rfl⟩ := run_model_eq_ok_iff.mp hd
    cases ha : d.activeProfile? with
    | none => simp [ha] at h
    | some j =>
        simp only [ha, run_pure_eq_ok_iff] at h
        exact ⟨d, hd, h.1 ▸ ha, h.2.symm⟩
  · rintro ⟨d, hd, ha, rfl⟩
    exact ⟨d, q, run_model_eq_ok_iff.mpr ⟨hd, rfl⟩, by simp [ha]⟩

theorem run_activeResolution_eq_ok_iff {j : Nat} :
    activeResolution.run p = .ok j q ↔
      ∃ r, p.context.selectedProfile = .ok r ∧ r.activeResolution? = some j ∧ q = p := by
  rw [activeResolution, run_bind_eq_ok_iff]
  constructor
  · rintro ⟨r, p', hr, h⟩
    obtain ⟨hr, rfl⟩ := run_profile_eq_ok_iff.mp hr
    cases ha : r.activeResolution? with
    | none => simp [ha] at h
    | some j =>
        simp only [ha, run_pure_eq_ok_iff] at h
        exact ⟨r, hr, h.1 ▸ ha, h.2.symm⟩
  · rintro ⟨r, hr, ha, rfl⟩
    exact ⟨r, q, run_profile_eq_ok_iff.mpr ⟨hr, rfl⟩, by simp [ha]⟩

/-! ## Words -/

theorem run_nextWord_eq_ok_iff {node word : String} :
    (nextWord node).run p = .ok word q ↔
      ∃ rest, p.args = word :: rest ∧ q = { p with args := rest } := by
  rcases p with ⟨c, _ | ⟨first, rest⟩, calls⟩
  · simp [nextWord, Words.takeFirst?]
  · change EStateM.Result.ok first (Stand.mk c rest calls) = _ ↔ _
    constructor
    · intro h
      cases h
      exact ⟨rest, rfl, rfl⟩
    · rintro ⟨_, h, rfl⟩
      cases h
      rfl

theorem run_expectMore_eq_ok_iff {node : String} :
    (expectMore node).run p = .ok () q ↔ p.args ≠ [] ∧ q = p := by
  rcases p with ⟨c, _ | ⟨first, rest⟩, calls⟩
  · simp [expectMore]
  · change EStateM.Result.ok () (Stand.mk c (first :: rest) calls) = _ ↔ _
    simp [eq_comm]

/-- No index comes next. -/
def NoIndex (words : List String) : Prop := Words.takeIndex? words = none

theorem run_nextIndex?_eq_ok_iff {i : Option Nat} :
    nextIndex?.run p = .ok i q ↔
      ∃ w rest, p.args = IndexWord.words w ++ rest ∧ (w = none → NoIndex rest) ∧
        i = w.map (·.index) ∧ q = { p with args := rest } := by
  obtain ⟨c, args, calls⟩ := p
  constructor
  · intro h
    cases args with
    | nil =>
        cases h
        exact ⟨none, [], rfl, fun _ => rfl, rfl, rfl⟩
    | cons word rest =>
        cases hw : Numeral.index? word with
        | none =>
            have absent : Words.takeIndex? (word :: rest) = none := by simp [Words.takeIndex?, hw]
            simp only [nextIndex?, EStateM.run_bind, EStateM.run_get, absent] at h
            cases h
            exact ⟨none, word :: rest, rfl, fun _ => absent, rfl, rfl⟩
        | some index =>
            have present : Words.takeIndex? (word :: rest) = some (index, rest) := by
              simp [Words.takeIndex?, hw]
            simp only [nextIndex?, EStateM.run_bind, EStateM.run_get, present] at h
            cases h
            exact ⟨some ⟨word, index, hw⟩, rest, rfl, by simp, rfl, rfl⟩
  · rintro ⟨w, rest, rfl, hn, rfl, rfl⟩
    cases w with
    | none =>
        have absent : Words.takeIndex? (IndexWord.words none ++ rest) = none := hn rfl
        simp only [nextIndex?, EStateM.run_bind, EStateM.run_get, absent]
        rfl
    | some w =>
        have present : Words.takeIndex? (IndexWord.words (some w) ++ rest) = some (w.index, rest) := by
          simp [Words.takeIndex?, IndexWord.words, w.reads]
        simp only [nextIndex?, EStateM.run_bind, EStateM.run_get, present]
        rfl

/-! ## Selections -/

theorem run_selectProfile_eq_ok_iff {i : Nat} :
    (selectProfile i).run p = .ok () q ↔
      ∃ d, p.context.openModel = .ok d ∧ i < d.profiles.length ∧
        q = { p with context := { p.context with profile := some i } } := by
  rw [selectProfile, run_bind_eq_ok_iff]
  constructor
  · rintro ⟨d, p', hd, h⟩
    obtain ⟨hd, rfl⟩ := run_model_eq_ok_iff.mp hd
    cases hi : d.profiles[i]? with
    | none => simp [hi] at h
    | some r =>
        simp only [hi] at h
        cases h
        exact ⟨d, hd, (List.getElem?_eq_some_iff.mp hi).1, rfl⟩
  · rintro ⟨d, hd, hi, rfl⟩
    exact ⟨d, p, run_model_eq_ok_iff.mpr ⟨hd, rfl⟩, by simp [List.getElem?_eq_getElem hi]⟩

theorem run_selectResolution_eq_ok_iff {j : Nat} :
    (selectResolution j).run p = .ok () q ↔
      ∃ r, p.context.selectedProfile = .ok r ∧ j < r.resolutions.length ∧
        q = { p with context := { p.context with resolution := some j } } := by
  rw [selectResolution, run_bind_eq_ok_iff]
  constructor
  · rintro ⟨r, p', hr, h⟩
    obtain ⟨hr, rfl⟩ := run_profile_eq_ok_iff.mp hr
    cases hj : r.resolutions[j]? with
    | none => simp [hj] at h
    | some x =>
        simp only [hj] at h
        cases h
        exact ⟨r, hr, (List.getElem?_eq_some_iff.mp hj).1, rfl⟩
  · rintro ⟨r, hr, hj, rfl⟩
    exact ⟨r, p, run_profile_eq_ok_iff.mpr ⟨hr, rfl⟩, by simp [List.getElem?_eq_getElem hj]⟩

/-- An index is taken if one comes next, whether or not it points anywhere. -/
theorem run_nextIndexOr_eq_ok_iff {active : Search Nat} {a : Option Nat} {i : Nat}
    (ha : ∀ i q, active.run p = .ok i q ↔ a = some i ∧ q = p) :
    (nextIndexOr active).run p = .ok i q ↔
      ∃ w rest, p.args = IndexWord.words w ++ rest ∧ (w = none → NoIndex rest) ∧
        (w.map (·.index)).or a = some i ∧ q = { p with args := rest } := by
  rw [nextIndexOr, run_bind_eq_ok_iff]
  constructor
  · rintro ⟨_, p', h, hk⟩
    obtain ⟨w, rest, hargs, hn, rfl, rfl⟩ := run_nextIndex?_eq_ok_iff.mp h
    refine ⟨w, rest, hargs, hn, ?_⟩
    cases w with
    | none =>
        have same : ({ p with args := rest } : Stand) = p := by
          rw [show rest = p.args from hargs.symm]
        simp only [Option.map_none, same] at hk ⊢
        exact (ha i q).mp hk
    | some w =>
        cases hk
        exact ⟨rfl, rfl⟩
  · rintro ⟨w, rest, hargs, hn, hi, rfl⟩
    refine ⟨_, _, run_nextIndex?_eq_ok_iff.mpr ⟨w, rest, hargs, hn, rfl, rfl⟩, ?_⟩
    cases w with
    | none =>
        have same : ({ p with args := rest } : Stand) = p := by
          rw [show rest = p.args from hargs.symm]
        simp only [Option.map_none, same]
        exact (ha i p).mpr ⟨hi, rfl⟩
    | some w =>
        cases hi
        rfl

end Search

/-! ## Active entries -/

theorem Device.lt_of_activeProfile? {d : Device} {i : Nat} (h : d.activeProfile? = some i) :
    i < d.profiles.length :=
  (List.findIdx?_eq_some_iff_findIdx_eq.mp h).1

theorem Device.exists_profile_of_activeProfile? {d : Device} {i : Nat}
    (h : d.activeProfile? = some i) : ∃ p, d.profiles[i]? = some p :=
  ⟨_, List.getElem?_eq_getElem (lt_of_activeProfile? h)⟩

theorem Profile.lt_of_activeResolution? {p : Profile} {j : Nat} (h : p.activeResolution? = some j) :
    j < p.resolutions.length :=
  (List.findIdx?_eq_some_iff_findIdx_eq.mp h).1

theorem IndexWord.select?_eq_some_iff {count i : Nat} {active : Option Nat} {w : Option IndexWord}
    (h : ∀ i, active = some i → i < count) :
    select? count active w = some i ↔ (w.map (·.index)).or active = some i ∧ i < count := by
  cases w with
  | none => simpa [select?] using h i
  | some w =>
      by_cases hw : w.index < count
      · simp only [select?, hw, if_true, Option.map_some, Option.some_or, Option.some.injEq]
        constructor
        · rintro rfl
          exact ⟨rfl, hw⟩
        · exact And.left
      · simp only [select?, hw, if_false, Option.map_some, Option.some_or, Option.some.injEq,
          reduceCtorEq, false_iff, not_and]
        rintro rfl
        exact hw

namespace Search

variable {p q : Stand}

/-! ## Routers -/

theorem run_profileRouter_eq_ok_iff {d : Device} {node : String}
    (hd : p.context.openModel = .ok d) :
    (Router.profile.seek node).run p = .ok () q ↔
      p.args ≠ [] ∧ ∃ w rest i, p.args = IndexWord.words w ++ rest ∧ (w = none → NoIndex rest) ∧
        IndexWord.select? d.profiles.length d.activeProfile? w = some i ∧
        q = { p with args := rest, context := { p.context with profile := some i } } := by
  have active (i : Nat) (q : Stand) :
      activeProfile.run p = .ok i q ↔ d.activeProfile? = some i ∧ q = p := by
    rw [run_activeProfile_eq_ok_iff, hd]
    simp
  have bound : ∀ i, d.activeProfile? = some i → i < d.profiles.length :=
    fun i => Device.lt_of_activeProfile?
  simp only [Router.seek, run_bind_eq_ok_iff]
  constructor
  · rintro ⟨⟨⟩, _, h, i, _, hi, hs⟩
    obtain ⟨hne, rfl⟩ := run_expectMore_eq_ok_iff.mp h
    obtain ⟨w, rest, hargs, hn, hw, rfl⟩ := (run_nextIndexOr_eq_ok_iff active).mp hi
    obtain ⟨d', hd', hlt, rfl⟩ := run_selectProfile_eq_ok_iff.mp hs
    cases hd.symm.trans hd'
    exact ⟨hne, w, rest, i, hargs, hn, (IndexWord.select?_eq_some_iff bound).mpr ⟨hw, hlt⟩, rfl⟩
  · rintro ⟨hne, w, rest, i, hargs, hn, hw, rfl⟩
    obtain ⟨hw, hlt⟩ := (IndexWord.select?_eq_some_iff bound).mp hw
    exact ⟨(), p, run_expectMore_eq_ok_iff.mpr ⟨hne, rfl⟩, i, _,
      (run_nextIndexOr_eq_ok_iff active).mpr ⟨w, rest, hargs, hn, hw, rfl⟩,
      run_selectProfile_eq_ok_iff.mpr ⟨d, hd, hlt, rfl⟩⟩

theorem run_resolutionRouter_eq_ok_iff {r : Profile} {node : String}
    (hr : p.context.selectedProfile = .ok r) :
    (Router.resolution.seek node).run p = .ok () q ↔
      p.args ≠ [] ∧ ∃ w rest j, p.args = IndexWord.words w ++ rest ∧ (w = none → NoIndex rest) ∧
        IndexWord.select? r.resolutions.length r.activeResolution? w = some j ∧
        q = { p with args := rest, context := { p.context with resolution := some j } } := by
  have active (j : Nat) (q : Stand) :
      activeResolution.run p = .ok j q ↔ r.activeResolution? = some j ∧ q = p := by
    rw [run_activeResolution_eq_ok_iff, hr]
    simp
  have bound : ∀ j, r.activeResolution? = some j → j < r.resolutions.length :=
    fun j => Profile.lt_of_activeResolution?
  simp only [Router.seek, run_bind_eq_ok_iff]
  constructor
  · rintro ⟨⟨⟩, _, h, j, _, hj, hs⟩
    obtain ⟨hne, rfl⟩ := run_expectMore_eq_ok_iff.mp h
    obtain ⟨w, rest, hargs, hn, hw, rfl⟩ := (run_nextIndexOr_eq_ok_iff active).mp hj
    obtain ⟨r', hr', hlt, rfl⟩ := run_selectResolution_eq_ok_iff.mp hs
    cases hr.symm.trans hr'
    exact ⟨hne, w, rest, j, hargs, hn, (IndexWord.select?_eq_some_iff bound).mpr ⟨hw, hlt⟩, rfl⟩
  · rintro ⟨hne, w, rest, j, hargs, hn, hw, rfl⟩
    obtain ⟨hw, hlt⟩ := (IndexWord.select?_eq_some_iff bound).mp hw
    exact ⟨(), p, run_expectMore_eq_ok_iff.mpr ⟨hne, rfl⟩, j, _,
      (run_nextIndexOr_eq_ok_iff active).mpr ⟨w, rest, hargs, hn, hw, rfl⟩,
      run_selectResolution_eq_ok_iff.mpr ⟨r, hr, hlt, rfl⟩⟩

theorem run_buttonRouter_eq_ok_iff {node : String} (hb : p.context.button = none) :
    (Router.button.seek node).run p = .ok () q ↔
      ∃ w rest, p.args = IndexWord.words w ++ rest ∧ (w = none → NoIndex rest) ∧
        q = { p with
          args := rest, context := { p.context with button := w.map (·.index) } } := by
  obtain ⟨⟨device, profile, resolution, button⟩, args, calls⟩ := p
  cases hb
  simp only [Router.seek, run_bind_eq_ok_iff]
  constructor
  · rintro ⟨_, p', h, hk⟩
    obtain ⟨w, rest, hargs, hn, rfl, rfl⟩ := run_nextIndex?_eq_ok_iff.mp h
    refine ⟨w, rest, hargs, hn, ?_⟩
    cases w with
    | none =>
        cases hk
        rfl
    | some w =>
        cases hk
        rfl
  · rintro ⟨w, rest, hargs, hn, rfl⟩
    refine ⟨_, _, run_nextIndex?_eq_ok_iff.mpr ⟨w, rest, hargs, hn, rfl, rfl⟩, ?_⟩
    cases w with
    | none => rfl
    | some w => rfl

end Search

end MouseConfig
