import MouseConfig.Proofs.Command.Lines

/-! # The course of a search

What the moves of a search come to where their outcome is known beforehand, also when they fail.  A
router without an index does just what resolving does.
-/

namespace MouseConfig

variable {load : Loader} {p : Stand} {c : Context} {args rest : List String} {calls : List Call}

namespace Search

/-! ## Opening a device -/

/-- Where nothing is selected, all that has needs begins with the last word. -/
theorem run_resolve_of_refused {r : Requirement} (hr : r ≠ .nothing) {last : String}
    {e : DeviceError} (hd : load ⟨last⟩ = .error e) :
    (resolve load r).run { args := rest ++ [last], calls := calls } =
      .error (.device e)
        { args := rest ++ [last], calls := calls ++ [.load ⟨last⟩ false] } := by
  have opening : (resolveDevice load).run { args := rest ++ [last], calls := calls } =
      .error (.device e) { args := rest ++ [last], calls := calls ++ [.load ⟨last⟩ false] } := by
    rw [run_resolveDevice_of_none rfl, run_openLast_of_error List.getLast?_concat hd]
  cases r with
  | nothing => exact absurd rfl hr
  | device => exact opening
  | profile | resolution => rw [resolve, EStateM.run_bind, opening]

theorem run_resolve_of_opened {r : Requirement} (hr : r ≠ .nothing) {last : String} {d : Device}
    (hd : load ⟨last⟩ = .ok d) :
    (resolve load r).run { args := rest ++ [last], calls := calls } =
      (resolve load r).run
        ⟨{ device := some ⟨⟨last⟩, d⟩ }, rest, calls ++ [.load ⟨last⟩ true]⟩ := by
  have opening : (resolveDevice load).run { args := rest ++ [last], calls := calls } =
      .ok () ⟨{ device := some ⟨⟨last⟩, d⟩ }, rest, calls ++ [.load ⟨last⟩ true]⟩ := by
    rw [run_resolveDevice_of_none rfl, run_openLast_of_ok List.getLast?_concat hd]
    simp
  have again (p : Stand) (h : p.context.device.isSome) : (resolveDevice load).run p = .ok () p :=
    run_resolveDevice_of_isSome h
  cases r with
  | nothing => exact absurd rfl hr
  | device => rw [resolve, opening, again _ rfl]
  | profile | resolution => rw [resolve, EStateM.run_bind, EStateM.run_bind, opening, again _ rfl]

/-! ## What is active -/

variable {o : OpenDevice} {i j : Nat} {r : Profile}

theorem run_resolveProfile_of_inactive (ho : c.device = some o) (hp : c.profile = none)
    (ha : o.model.activeProfile? = none) :
    resolveProfile.run ⟨c, args, calls⟩ = .error (.device .noActiveProfile) ⟨c, args, calls⟩ := by
  simp [resolveProfile, activeProfile, model, openModel_of_eq ho, hp, ha]

theorem run_resolveProfile_of_active (ho : c.device = some o) (hp : c.profile = none)
    (ha : o.model.activeProfile? = some i) :
    resolveProfile.run ⟨c, args, calls⟩ = .ok () ⟨{ c with profile := some i }, args, calls⟩ :=
  (run_resolveProfile_eq_ok_iff hp (openModel_of_eq ho)).mpr ⟨i, ha, rfl⟩

theorem run_resolveResolution_of_inactive (hr : c.selectedProfile = .ok r)
    (hj : c.resolution = none) (ha : r.activeResolution? = none) :
    resolveResolution.run ⟨c, args, calls⟩ =
      .error (.device .noActiveResolution) ⟨c, args, calls⟩ := by
  simp [resolveResolution, activeResolution, profile, hr, hj, ha]

theorem run_resolveResolution_of_active (hr : c.selectedProfile = .ok r)
    (hj : c.resolution = none) (ha : r.activeResolution? = some j) :
    resolveResolution.run ⟨c, args, calls⟩ =
      .ok () ⟨{ c with resolution := some j }, args, calls⟩ :=
  (run_resolveResolution_eq_ok_iff hj hr).mpr ⟨j, ha, rfl⟩

/-! ## Routers -/

theorem run_selectProfile_of_lt (ho : c.device = some o) (hi : i < o.model.profiles.length) :
    (selectProfile i).run ⟨c, args, calls⟩ =
      .ok () ⟨{ c with profile := some i }, args, calls⟩ :=
  run_selectProfile_eq_ok_iff.mpr ⟨o.model, openModel_of_eq ho, hi, rfl⟩

theorem run_selectProfile_of_le (ho : c.device = some o) (hi : o.model.profiles.length ≤ i) :
    (selectProfile i).run ⟨c, args, calls⟩ =
      .error (.unsupported (.noProfile i)) ⟨c, args, calls⟩ := by
  simp [selectProfile, model, openModel_of_eq ho, List.getElem?_eq_none hi]

theorem run_selectResolution_of_lt (hr : c.selectedProfile = .ok r)
    (hj : j < r.resolutions.length) :
    (selectResolution j).run ⟨c, args, calls⟩ =
      .ok () ⟨{ c with resolution := some j }, args, calls⟩ :=
  run_selectResolution_eq_ok_iff.mpr ⟨r, hr, hj, rfl⟩

theorem run_selectResolution_of_le (hr : c.selectedProfile = .ok r)
    (hj : r.resolutions.length ≤ j) :
    (selectResolution j).run ⟨c, args, calls⟩ =
      .error (.unsupported (.noResolution j)) ⟨c, args, calls⟩ := by
  simp [selectResolution, profile, hr, List.getElem?_eq_none hj]

/-- With an index, a router selects what it points to. -/
theorem run_profileRouter_of_index (node : String) {word : String}
    (hw : Numeral.index? word = some i) :
    (Router.profile.seek node).run ⟨c, word :: rest, calls⟩ =
      (selectProfile i).run ⟨c, rest, calls⟩ := by
  simp [Router.seek, expectMore, nextIndexOr, nextIndex?, Words.takeIndex?, hw]

theorem run_resolutionRouter_of_index (node : String) {word : String}
    (hw : Numeral.index? word = some j) :
    (Router.resolution.seek node).run ⟨c, word :: rest, calls⟩ =
      (selectResolution j).run ⟨c, rest, calls⟩ := by
  simp [Router.seek, expectMore, nextIndexOr, nextIndex?, Words.takeIndex?, hw]

theorem run_buttonRouter_of_index (node : String) {word : String}
    (hw : Numeral.index? word = some i) :
    (Router.button.seek node).run ⟨c, word :: rest, calls⟩ =
      .ok () ⟨{ c with button := some i }, rest, calls⟩ := by
  simp [Router.seek, selectButton, nextIndex?, Words.takeIndex?, hw]

/-- Without an index, a router selects what is active, as resolving does. -/
theorem run_profileRouter_of_noIndex (node : String) {word : String}
    (hw : Numeral.index? word = none) (ho : c.device = some o) (hp : c.profile = none) :
    (Router.profile.seek node).run ⟨c, word :: rest, calls⟩ =
      resolveProfile.run ⟨c, word :: rest, calls⟩ := by
  have router : (Router.profile.seek node).run ⟨c, word :: rest, calls⟩ =
      (activeProfile >>= selectProfile).run ⟨c, word :: rest, calls⟩ := by
    simp [Router.seek, expectMore, nextIndexOr, nextIndex?, Words.takeIndex?, hw]
  rw [router, EStateM.run_bind]
  cases ha : o.model.activeProfile? with
  | none =>
      rw [run_resolveProfile_of_inactive ho hp ha]
      simp [activeProfile, model, openModel_of_eq ho, ha]
  | some i =>
      have found : activeProfile.run ⟨c, word :: rest, calls⟩ = .ok i ⟨c, word :: rest, calls⟩ :=
        run_activeProfile_eq_ok_iff.mpr ⟨o.model, openModel_of_eq ho, ha, rfl⟩
      rw [run_resolveProfile_of_active ho hp ha, found]
      exact run_selectProfile_of_lt ho (Device.lt_of_activeProfile? ha)

theorem run_resolutionRouter_of_noIndex (node : String) {word : String}
    (hw : Numeral.index? word = none) (hr : c.selectedProfile = .ok r) (hj : c.resolution = none) :
    (Router.resolution.seek node).run ⟨c, word :: rest, calls⟩ =
      resolveResolution.run ⟨c, word :: rest, calls⟩ := by
  have router : (Router.resolution.seek node).run ⟨c, word :: rest, calls⟩ =
      (activeResolution >>= selectResolution).run ⟨c, word :: rest, calls⟩ := by
    simp [Router.seek, expectMore, nextIndexOr, nextIndex?, Words.takeIndex?, hw]
  rw [router, EStateM.run_bind]
  cases ha : r.activeResolution? with
  | none =>
      rw [run_resolveResolution_of_inactive hr hj ha]
      simp [activeResolution, profile, hr, ha]
  | some j =>
      have found : activeResolution.run ⟨c, word :: rest, calls⟩ =
          .ok j ⟨c, word :: rest, calls⟩ := run_activeResolution_eq_ok_iff.mpr ⟨r, hr, ha, rfl⟩
      rw [run_resolveResolution_of_active hr hj ha, found]
      exact run_selectResolution_of_lt hr (Profile.lt_of_activeResolution? ha)

end Search

open Search

/-! ## Nodes -/

/-- The next word leads to the child of that name. -/
theorem Node.run_seek_cons {n child : Node}
    (h : (n.children.find? fun k => k.name == child.name) = some child) :
    (n.seek load).run ⟨c, child.name :: rest, calls⟩ =
      (child.seekFrom load).run ⟨c, rest, calls⟩ := by
  have next : (n.seek load).run ⟨c, child.name :: rest, calls⟩ =
      (seekChild load child.name n.children).run ⟨c, rest, calls⟩ := rfl
  rw [next, seekChild_eq, h]

theorem Node.run_seekFrom_of_refused {n : Node} (hn : n.requirement ≠ .nothing) {last : String}
    {e : DeviceError} (hd : load ⟨last⟩ = .error e) :
    (n.seekFrom load).run { args := rest ++ [last], calls := calls } =
      .error (.device e) { args := rest ++ [last], calls := calls ++ [.load ⟨last⟩ false] } := by
  rw [seekFrom_eq, EStateM.run_bind, run_resolve_of_refused hn hd]

theorem Node.run_seekFrom_of_opened {n : Node} (hn : n.requirement ≠ .nothing) {last : String}
    {d : Device} (hd : load ⟨last⟩ = .ok d) :
    (n.seekFrom load).run { args := rest ++ [last], calls := calls } =
      (n.seekFrom load).run
        ⟨{ device := some ⟨⟨last⟩, d⟩ }, rest, calls ++ [.load ⟨last⟩ true]⟩ := by
  rw [seekFrom_eq, EStateM.run_bind, EStateM.run_bind, run_resolve_of_opened hn hd]

/-- From a stand with a device open, a node that needs a profile goes on in the active one. -/
theorem Node.run_seekFrom_profile {n : Node} (hn : n.requirement = .profile) {o : OpenDevice}
    (ho : c.device = some o) :
    (n.seekFrom load).run ⟨c, args, calls⟩ =
      (resolveProfile >>= fun _ => n.seekOn load).run ⟨c, args, calls⟩ := by
  have opened : (resolveDevice load).run ⟨c, args, calls⟩ = .ok () ⟨c, args, calls⟩ :=
    run_resolveDevice_of_isSome (by rw [ho]; rfl)
  rw [seekFrom_eq, hn, resolve, bind_assoc, EStateM.run_bind, opened]

theorem Node.run_seekFrom_resolution {n : Node} (hn : n.requirement = .resolution) {o : OpenDevice}
    (ho : c.device = some o) :
    (n.seekFrom load).run ⟨c, args, calls⟩ =
      (resolveProfile >>= fun _ => resolveResolution >>= fun _ => n.seekOn load).run
        ⟨c, args, calls⟩ := by
  have opened : (resolveDevice load).run ⟨c, args, calls⟩ = .ok () ⟨c, args, calls⟩ :=
    run_resolveDevice_of_isSome (by rw [ho]; rfl)
  rw [seekFrom_eq, hn, resolve, bind_assoc, bind_assoc, EStateM.run_bind, opened]

end MouseConfig
