import MouseConfig.Proofs.Command.Agreement
import MouseConfig.Proofs.Command.Course
import MouseConfig.Proofs.Service.Shelf

/-! # Commands at the top and below

The commands on resolutions and buttons can be reached at the top or below a profile, and those on
the dpi also below a resolution.  On any words, a command at the top and the same command further
down agree, as long as what is chosen on the way down is what is active.
-/

namespace MouseConfig.Commands

open Search

variable {load : Loader} {n m : Node} {o : OpenDevice} {i j : Nat} {r : Profile} {word : String}
  {args : List String} {calls : List Call}

/-- A line that begins with the name of a command goes on from there. -/
theorem run_seek_start (hn : n ∈ onDevice) (rest : List String) :
    (root.seek load).run { args := n.name :: rest } = (n.seekFrom load).run { args := rest } :=
  Node.run_seek_cons (find?_root (.inr hn))

/-- Two commands on a device are alike if they are once that has been opened. -/
theorem alike_of_opened (hn : n ∈ onDevice) (hm : m ∈ onDevice) (front front' : List String)
    (last : String)
    (h : ∀ d, load ⟨last⟩ = .ok d →
      Alike
        ((n.seekFrom load).run ⟨{ device := some ⟨⟨last⟩, d⟩ }, front, [.load ⟨last⟩ true]⟩)
        ((m.seekFrom load).run ⟨{ device := some ⟨⟨last⟩, d⟩ }, front', [.load ⟨last⟩ true]⟩)) :
    Alike ((root.seek load).run { args := n.name :: (front ++ [last]) })
      ((root.seek load).run { args := m.name :: (front' ++ [last]) }) := by
  have needs := (reads_of_mem_onDevice hn).2
  have needs' := (reads_of_mem_onDevice hm).2
  rw [run_seek_start hn, run_seek_start hm]
  cases hd : load ⟨last⟩ with
  | error e =>
      rw [Node.run_seekFrom_of_refused needs hd, Node.run_seekFrom_of_refused needs' hd]
      exact .error _ rfl rfl
  | ok d =>
      rw [Node.run_seekFrom_of_opened needs hd, Node.run_seekFrom_of_opened needs' hd]
      exact h d hd

/-! ## Below a profile -/

/-- The commands that can also be reached below a profile. -/
def ofProfile : List Node := [resolution, button]

theorem spec_of_mem_ofProfile (h : n ∈ ofProfile) :
    n ∈ onDevice ∧ n.requirement = .profile ∧ Numeral.index? n.name = none ∧
      (profile.children.find? fun k => k.name == n.name) = some n := by
  simp only [ofProfile, List.mem_cons, List.not_mem_nil, or_false] at h
  rcases h with rfl | rfl
  · exact ⟨by simp [onDevice], rfl, by decide, rfl⟩
  · exact ⟨by simp [onDevice], rfl, by decide, rfl⟩

theorem profile_mem_onDevice : profile ∈ onDevice := by simp [onDevice]

theorem resolution_mem_ofProfile : resolution ∈ ofProfile := by simp [ofProfile]

/-- The node `profile` makes its selection, and then goes on. -/
theorem run_seekFrom_profileNode :
    (profile.seekFrom load).run ⟨{ device := some o }, args, calls⟩ =
      (Router.profile.seek "profile" >>= fun _ => profile.seek load).run
        ⟨{ device := some o }, args, calls⟩ :=
  Node.run_seekFrom_of_meets (n := profile) (p := ⟨{ device := some o }, args, calls⟩) rfl

/-- Once a profile is selected, a command below it goes on as it does at the top. -/
theorem run_seek_below_profile (h : n ∈ ofProfile) :
    (profile.seek load).run ⟨{ device := some o, profile := some i }, n.name :: args, calls⟩ =
      (n.seekOn load).run ⟨{ device := some o, profile := some i }, args, calls⟩ := by
  obtain ⟨-, hr, -, hc⟩ := spec_of_mem_ofProfile h
  rw [Node.run_seek_cons hc]
  exact Node.run_seekFrom_of_meets (by rw [hr]; exact ⟨rfl, rfl⟩)

theorem run_seekFrom_in_active (h : n ∈ ofProfile) (hi : o.model.activeProfile? = some i) :
    (n.seekFrom load).run ⟨{ device := some o }, args, calls⟩ =
      (n.seekOn load).run ⟨{ device := some o, profile := some i }, args, calls⟩ := by
  obtain ⟨-, hr, -⟩ := spec_of_mem_ofProfile h
  rw [Node.run_seekFrom_profile hr rfl, EStateM.run_bind, run_resolveProfile_of_active rfl rfl hi]

/-- Without an index, both searches look for the active profile, and in the same way. -/
theorem alike_below_profile (h : n ∈ ofProfile) :
    Alike ((n.seekFrom load).run ⟨{ device := some o }, args, calls⟩)
      ((profile.seekFrom load).run ⟨{ device := some o }, n.name :: args, calls⟩) := by
  obtain ⟨-, hr, hw, -⟩ := spec_of_mem_ofProfile h
  rw [run_seekFrom_profileNode, EStateM.run_bind, run_profileRouter_of_noIndex _ hw rfl rfl]
  cases ha : o.model.activeProfile? with
  | none =>
      rw [Node.run_seekFrom_profile hr rfl, EStateM.run_bind,
        run_resolveProfile_of_inactive rfl rfl ha, run_resolveProfile_of_inactive rfl rfl ha]
      exact .error _ rfl rfl
  | some i =>
      rw [run_seekFrom_in_active h ha, run_resolveProfile_of_active rfl rfl ha]
      change Alike _ ((profile.seek load).run
        ⟨{ device := some o, profile := some i }, n.name :: args, calls⟩)
      rw [run_seek_below_profile h]
      exact .refl _

/-- With the index of the active profile, the search below the profile is the one at the top. -/
theorem run_seekFrom_profile_of_index (h : n ∈ ofProfile) (hi : o.model.activeProfile? = some i)
    (hw : Numeral.index? word = some i) :
    (profile.seekFrom load).run ⟨{ device := some o }, word :: n.name :: args, calls⟩ =
      (n.seekFrom load).run ⟨{ device := some o }, args, calls⟩ := by
  rw [run_seekFrom_profileNode, EStateM.run_bind, run_profileRouter_of_index _ hw,
    run_selectProfile_of_lt rfl (Device.lt_of_activeProfile? hi), run_seekFrom_in_active h hi]
  exact run_seek_below_profile h

/-! ## Below a resolution -/

theorem selectedProfile_of_getElem? (hr : o.model.profiles[i]? = some r) :
    ({ device := some o, profile := some i } : Context).selectedProfile = .ok r :=
  Context.selectedProfile_eq_ok_iff.mpr ⟨o.model, i, openModel_of_eq rfl, rfl, hr⟩

/-- The node `resolution` makes its selection, and then goes on. -/
theorem run_seekOn_resolutionNode (p : Stand) :
    (resolution.seekOn load).run p =
      (Router.resolution.seek "resolution" >>= fun _ => resolution.seek load).run p := rfl

/-- The node `button` makes its selection if there is one to make, and then goes on. -/
theorem run_seekOn_buttonNode (p : Stand) :
    (button.seekOn load).run p =
      (Router.button.seek "button" >>= fun _ => button.seek load).run p := rfl

/-- Once a resolution is selected, `dpi` goes on below it as it does at the top. -/
theorem run_seek_below_resolution :
    (resolution.seek load).run
        ⟨{ device := some o, profile := some i, resolution := some j }, "dpi" :: args, calls⟩ =
      (dpi.seekOn load).run
        ⟨{ device := some o, profile := some i, resolution := some j }, args, calls⟩ := by
  have child : (resolution.children.find? fun k => k.name == dpi.name) = some dpi := rfl
  rw [show "dpi" = dpi.name from rfl, Node.run_seek_cons child]
  exact Node.run_seekFrom_of_meets ⟨rfl, rfl, rfl⟩

theorem run_dpi_in_active (hi : o.model.activeProfile? = some i)
    (hr : o.model.profiles[i]? = some r) (hj : r.activeResolution? = some j) :
    (dpi.seekFrom load).run ⟨{ device := some o }, args, calls⟩ =
      (dpi.seekOn load).run
        ⟨{ device := some o, profile := some i, resolution := some j }, args, calls⟩ := by
  rw [Node.run_seekFrom_resolution rfl rfl, EStateM.run_bind,
    run_resolveProfile_of_active rfl rfl hi]
  change (resolveResolution >>= fun _ => dpi.seekOn load).run
    ⟨{ device := some o, profile := some i }, args, calls⟩ = _
  rw [EStateM.run_bind,
    run_resolveResolution_of_active (selectedProfile_of_getElem? hr) rfl hj]

/-- Without an index, both searches look for the active resolution of the active profile. -/
theorem alike_below_resolution :
    Alike ((dpi.seekFrom load).run ⟨{ device := some o }, args, calls⟩)
      ((resolution.seekFrom load).run ⟨{ device := some o }, "dpi" :: args, calls⟩) := by
  have hw : Numeral.index? "dpi" = none := by decide
  cases ha : o.model.activeProfile? with
  | none =>
      rw [Node.run_seekFrom_resolution rfl rfl, Node.run_seekFrom_profile rfl rfl,
        EStateM.run_bind, EStateM.run_bind, run_resolveProfile_of_inactive rfl rfl ha,
        run_resolveProfile_of_inactive rfl rfl ha]
      exact .error _ rfl rfl
  | some i =>
      obtain ⟨r, hr⟩ := Device.exists_profile_of_activeProfile? ha
      have selected := selectedProfile_of_getElem? hr
      rw [run_seekFrom_in_active resolution_mem_ofProfile ha, run_seekOn_resolutionNode,
        EStateM.run_bind, run_resolutionRouter_of_noIndex _ hw selected rfl]
      cases hj : r.activeResolution? with
      | none =>
          have above : (dpi.seekFrom load).run ⟨{ device := some o }, args, calls⟩ =
              (resolveResolution >>= fun _ => dpi.seekOn load).run
                ⟨{ device := some o, profile := some i }, args, calls⟩ := by
            rw [Node.run_seekFrom_resolution rfl rfl, EStateM.run_bind,
              run_resolveProfile_of_active rfl rfl ha]
          rw [above, EStateM.run_bind, run_resolveResolution_of_inactive selected rfl hj,
            run_resolveResolution_of_inactive selected rfl hj]
          exact .error _ rfl rfl
      | some j =>
          rw [run_dpi_in_active ha hr hj, run_resolveResolution_of_active selected rfl hj]
          change Alike _ ((resolution.seek load).run
            ⟨{ device := some o, profile := some i, resolution := some j }, "dpi" :: args, calls⟩)
          rw [run_seek_below_resolution]
          exact .refl _

/-- With the index of the active resolution, the search below it is the one at the top. -/
theorem run_seekFrom_resolution_of_index (hi : o.model.activeProfile? = some i)
    (hr : o.model.profiles[i]? = some r) (hj : r.activeResolution? = some j)
    (hw : Numeral.index? word = some j) :
    (resolution.seekFrom load).run ⟨{ device := some o }, word :: "dpi" :: args, calls⟩ =
      (dpi.seekFrom load).run ⟨{ device := some o }, args, calls⟩ := by
  rw [run_seekFrom_in_active resolution_mem_ofProfile hi, run_seekOn_resolutionNode,
    EStateM.run_bind, run_resolutionRouter_of_index _ hw,
    run_selectResolution_of_lt (selectedProfile_of_getElem? hr)
      (Profile.lt_of_activeResolution? hj), run_dpi_in_active hi hr hj]
  exact run_seek_below_resolution

/-! ## Lines -/

variable {σ : Type} [DeviceService σ]

/-- Whatever words follow, a command at the top and the same command further down agree.  Where an
index is given on the way down, it has to be that of the active entry. -/
theorem nested_agrees (service : σ) (v : Verbosity) (rest : List String) (hne : rest ≠ []) :
    (∀ c ∈ ["resolution", "button"],
      (tree.run service v (c :: rest)).Agrees (tree.run service v ("profile" :: c :: rest))) ∧
    (tree.run service v ("dpi" :: rest)).Agrees
      (tree.run service v ("resolution" :: "dpi" :: rest)) ∧
    (tree.run service v ("dpi" :: rest)).Agrees
      (tree.run service v ("profile" :: "resolution" :: "dpi" :: rest)) ∧
    ∀ last d i, rest.getLast? = some last → loader service ⟨last⟩ = .ok d →
      d.activeProfile? = some i →
      (∀ c ∈ ["resolution", "button"], ∀ word, Numeral.index? word = some i →
        (tree.run service v (c :: rest)).Agrees
          (tree.run service v ("profile" :: word :: c :: rest))) ∧
      ∀ p j, d.profiles[i]? = some p → p.activeResolution? = some j →
        ∀ word, Numeral.index? word = some j →
        (tree.run service v ("dpi" :: rest)).Agrees
          (tree.run service v ("resolution" :: word :: "dpi" :: rest)) := by
  have split {rest : List String} (hne : rest ≠ []) : ∃ front last, rest = front ++ [last] :=
    ⟨rest.dropLast, rest.getLast hne, (List.dropLast_concat_getLast hne).symm⟩
  have ofProfile_of_name {c : String} (hc : c ∈ ["resolution", "button"]) :
      ∃ n ∈ ofProfile, n.name = c := by
    simp only [List.mem_cons, List.not_mem_nil, or_false] at hc
    rcases hc with rfl | rfl
    · exact ⟨resolution, by simp [ofProfile], rfl⟩
    · exact ⟨button, by simp [ofProfile], rfl⟩
  have dpi_mem : dpi ∈ onDevice := by simp [onDevice]
  have resolution_mem : resolution ∈ onDevice := by simp [onDevice]
  have belowProfile (rest : List String) (hne : rest ≠ []) {n : Node} (hn : n ∈ ofProfile) :
      (tree.run service v (n.name :: rest)).Agrees
        (tree.run service v ("profile" :: n.name :: rest)) := by
    obtain ⟨front, last, rfl⟩ := split hne
    refine Tree.agrees_of_alike ?_
    exact alike_of_opened (spec_of_mem_ofProfile hn).1 profile_mem_onDevice front
      (n.name :: front) last fun d _ => alike_below_profile hn
  have belowResolution : (tree.run service v ("dpi" :: rest)).Agrees
      (tree.run service v ("resolution" :: "dpi" :: rest)) := by
    obtain ⟨front, last, rfl⟩ := split hne
    refine Tree.agrees_of_alike ?_
    exact alike_of_opened dpi_mem resolution_mem front ("dpi" :: front) last
      fun d _ => alike_below_resolution
  refine ⟨fun c hc => ?_, belowResolution, ?_, fun last d i hl hd hi => ⟨fun c hc word hw => ?_,
    fun p j hp hj word hw => ?_⟩⟩
  · obtain ⟨n, hn, rfl⟩ := ofProfile_of_name hc
    exact belowProfile rest hne hn
  · exact belowResolution.trans
      (belowProfile ("dpi" :: rest) (List.cons_ne_nil _ _) resolution_mem_ofProfile)
  · obtain ⟨n, hn, rfl⟩ := ofProfile_of_name hc
    obtain ⟨front, rfl⟩ := List.getLast?_eq_some_iff.mp hl
    refine Tree.agrees_of_alike ?_
    refine alike_of_opened (spec_of_mem_ofProfile hn).1 profile_mem_onDevice front
      (word :: n.name :: front) last fun d' hd' => ?_
    cases hd.symm.trans hd'
    rw [run_seekFrom_profile_of_index hn hi hw]
    exact .refl _
  · obtain ⟨front, rfl⟩ := List.getLast?_eq_some_iff.mp hl
    refine Tree.agrees_of_alike ?_
    refine alike_of_opened dpi_mem resolution_mem front (word :: "dpi" :: front) last
      fun d' hd' => ?_
    cases hd.symm.trans hd'
    rw [run_seekFrom_resolution_of_index hi hp hj hw]
    exact .refl _

/-- A button of the second profile, and the dpi of its second resolution, each with and without the
indices. -/
theorem nested_agrees_of_mouse :
    let p : Profile := {
      active := true, resolutions := [{ dpi := 400 }, { dpi := 800, active := true }], buttons := [{}] }
    let d : Device := {
      name := "M", capabilities := [.switchableResolution], profiles := [{}, p] }
    let shelf : Shelf := { entries := [(⟨"m"⟩, .device d)] }
    (tree.run shelf .normal ["button", "0", "get", "m"]).Agrees
        (tree.run shelf .normal ["profile", "01", "button", "0", "get", "m"]) ∧
      (tree.run shelf .raw ["dpi", "set", "900", "m"]).Agrees
        (tree.run shelf .raw ["resolution", "1", "dpi", "set", "900", "m"]) ∧
      (tree.run shelf .raw ["dpi", "set", "900", "m"]).Agrees
        (tree.run shelf .raw ["profile", "resolution", "dpi", "set", "900", "m"]) := by
  intro p d shelf
  have found : shelf.get? ⟨"m"⟩ = some (.device d) := by decide
  have loaded : loader shelf ⟨"m"⟩ = .ok d := Shelf.load_eq_ok_iff.mpr found
  have button := nested_agrees shelf .normal ["0", "get", "m"] (by decide)
  have dpi := nested_agrees shelf .raw ["set", "900", "m"] (by decide)
  refine ⟨?_, ?_, dpi.2.2.1⟩
  · exact (button.2.2.2 "m" d 1 rfl loaded rfl).1 "button" (by decide) "01" (by decide)
  · exact (dpi.2.2.2 "m" d 1 rfl loaded rfl).2 p 1 rfl rfl "1" (by decide)

end MouseConfig.Commands
