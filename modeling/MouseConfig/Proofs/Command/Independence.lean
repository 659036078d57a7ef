import Mathlib.Data.List.Pairwise
import MouseConfig.Proofs.Command.Explicit
import MouseConfig.Proofs.Command.Runs
import MouseConfig.Proofs.Files.Commits

/-! # Settings that do not depend on each other

Two settings with all indices given commute unless they set one spot of one device, and of two that
set the same the last one stays.  It does not matter whether one of them fails.
-/

namespace MouseConfig

variable {σ : Type} [DeviceService σ]

namespace Assignment

variable {S : Storage σ} {a b : Assignment} {s sa sb : σ} {d : Device} {p : Plan} {u : Update}
  {e : CommandError} {fa fb : Option CommandError} {ta tb : String}

/-! ## One line after another -/

/-- A line that fails leaves the service as it is. -/
theorem Outcome.eq_of_failure (h : a.Outcome s (some e) ta sa) (hs : S.Sound s) : sa = s := by
  cases h with
  | unopened | refused => rfl
  | uncommitted hd hv hu hc => exact S.unchanged hs hd hc

/-- After a setting, a path opens what it did before, in its frame. -/
theorem exists_loader_commit (hs : S.Sound s) (spares : S.Spares s ⟨b.path⟩ ⟨a.path⟩)
    (hb : loader s ⟨b.path⟩ = .ok d) (hv : b.verdict d = .ok p) (hu : p.update = some u)
    (hc : (DeviceService.commit s ⟨b.path⟩ (u.apply d)).1.1 = .ok ()) :
    (∀ fault, loader s ⟨a.path⟩ = .error fault →
      loader (DeviceService.commit s ⟨b.path⟩ (u.apply d)).2 ⟨a.path⟩ = .error fault) ∧
    ∀ x, loader s ⟨a.path⟩ = .ok x →
      ∃ x', loader (DeviceService.commit s ⟨b.path⟩ (u.apply d)).2 ⟨a.path⟩ = .ok x' ∧
        x.SameFrame x' := by
  by_cases same : S.Same s ⟨b.path⟩ ⟨a.path⟩
  · have ha := S.load_of_same same hb
    refine ⟨fun fault h => absurd (ha.symm.trans h) nofun, fun x hx => ?_⟩
    cases ha.symm.trans hx
    exact ⟨_, S.load_commit hs same hb hc, (sets_of_verdict hv hu).sameFrame⟩
  · have other := S.load_commit_of_not_same (u.apply d) hs same spares hb
    exact ⟨fun fault h => other.trans h, fun x hx => ⟨x, other.trans hx, .refl x⟩⟩

/-- What fails still fails after another line, and in the same way. -/
theorem Outcome.fails_after (ha : a.Outcome s (some e) ta sa) (hb : b.Outcome s fb tb sb)
    (hs : S.Sound s) (spares : S.Spares s ⟨b.path⟩ ⟨a.path⟩) : a.Outcome sb (some e) ta sb := by
  cases fb with
  | some e' =>
      rw [hb.eq_of_failure hs]
      have same := ha.eq_of_failure hs
      rwa [same] at ha
  | none =>
      cases hb with
      | @committed db pb ub hq hv hu hc =>
          obtain ⟨unopened, opened⟩ := exists_loader_commit hs spares hq hv hu hc
          cases ha with
          | unopened hd => exact .unopened (unopened _ hd)
          | refused hd hv' =>
              obtain ⟨x', hx', frame⟩ := opened _ hd
              exact .refused hx' ((a.verdict_congr frame).trans hv')
          | uncommitted hd hv' hu' hc' =>
              obtain ⟨x', hx', frame⟩ := opened _ hd
              have failed := (S.result_after hs spares hq hd (ub.apply db)
                (frame.buttonCount_apply _)).trans hc'
              have still := Outcome.uncommitted hx' ((a.verdict_congr frame).trans hv') hu' failed
              rwa [S.unchanged (S.sound_commit _ hs hq) hx' failed] at still

/-! ## Two lines -/

/-- The lines set the same in one device. -/
def SameTarget (S : Storage σ) (s : σ) (a b : Assignment) : Prop :=
  S.Same s ⟨a.path⟩ ⟨b.path⟩ ∧ a.spot = b.spot

/-- Two lines that succeed and do not set the same succeed in either order. -/
theorem Outcome.swap (ha : a.Outcome s none ta sa) (hb : b.Outcome s none tb sb)
    (hs : S.Sound s) (spares : S.Spares s ⟨a.path⟩ ⟨b.path⟩)
    (spares' : S.Spares s ⟨b.path⟩ ⟨a.path⟩) (different : ¬ SameTarget S s a b) :
    ∃ sab sba, b.Outcome sa none tb sab ∧ a.Outcome sb none ta sba ∧ S.Equal sab sba := by
  cases ha with
  | @committed da pa ua hd hv hu hc =>
      cases hb with
      | @committed db pb ub hd' hv' hu' hc' =>
          by_cases same : S.Same s ⟨a.path⟩ ⟨b.path⟩
          · -- Each line finds the one device as the other has left it, in its frame.
            cases (S.load_of_same same hd).symm.trans hd'
            have sets := sets_of_verdict hv hu
            have sets' := sets_of_verdict hv' hu'
            have frame := sets.sameFrame
            have frame' := sets'.sameFrame
            have result :=
              S.result_after hs spares hd hd' (ua.apply da) (frame.buttonCount_apply ub)
            have result' :=
              S.result_after hs spares' hd' hd (ub.apply da) (frame'.buttonCount_apply ua)
            have swapped : ub.apply (ua.apply da) = ua.apply (ub.apply da) :=
              Update.apply_comm sets sets' fun spot => different ⟨same, spot⟩
            refine ⟨_, _,
              .committed (S.load_commit hs same hd hc) ((b.verdict_congr frame).trans hv') hu'
                (result.trans hc'),
              .committed (S.load_commit hs (S.same_symm same) hd' hc')
                ((a.verdict_congr frame').trans hv) hu (result'.trans hc), ?_⟩
            rw [swapped]
            exact S.equal_of_same hs same hd hc hc' (frame'.buttonCount_apply ua)
              (ua.buttonCount_apply _)
          · have unopened : ¬ S.Same s ⟨b.path⟩ ⟨a.path⟩ := fun h => same (S.same_symm h)
            have opens := S.load_commit_of_not_same (ua.apply da) hs same spares hd
            have opens' := S.load_commit_of_not_same (ub.apply db) hs unopened spares' hd'
            have result := S.result_commit (ua.apply da) (ub.apply db) hs spares hd hd'
            have result' := S.result_commit (ub.apply db) (ua.apply da) hs spares' hd' hd
            exact ⟨_, _, .committed (opens.trans hd') hv' hu' (result.trans hc'),
              .committed (opens'.trans hd) hv hu (result'.trans hc),
              S.swap hs same spares spares' hd hd' hc hc'⟩

/-- Of two lines that set the same, what the second sets stays. -/
theorem Outcome.overwrite (ha : a.Outcome s none ta sa) (hb : b.Outcome s none tb sb)
    (hs : S.Sound s) (target : SameTarget S s a b) :
    ∃ sab, b.Outcome sa none tb sab ∧ S.Equal sab sb := by
  obtain ⟨same, spot⟩ := target
  cases ha with
  | @committed da pa ua hd hv hu hc =>
      cases hb with
      | @committed db pb ub hd' hv' hu' hc' =>
          cases (S.load_of_same same hd).symm.trans hd'
          have sets := sets_of_verdict hv hu
          have sets' := sets_of_verdict hv' hu'
          have frame := sets.sameFrame
          have result := S.result_after hs (S.spares_of_same same) hd hd' (ua.apply da)
            (frame.buttonCount_apply ub)
          refine ⟨_, .committed (S.load_commit hs same hd hc) ((b.verdict_congr frame).trans hv')
            hu' (result.trans hc'), ?_⟩
          rw [Update.apply_apply_of_sets (spot ▸ sets) sets']
          exact S.absorb hs same hd hc hc'

/-- Two lines that do not set the same come to the same in either order, also where one fails. -/
theorem Outcome.diamond (ha : a.Outcome s fa ta sa) (hb : b.Outcome s fb tb sb)
    (hs : S.Sound s) (spares : S.Spares s ⟨a.path⟩ ⟨b.path⟩)
    (spares' : S.Spares s ⟨b.path⟩ ⟨a.path⟩) (different : ¬ SameTarget S s a b) :
    ∃ sab sba, b.Outcome sa fb tb sab ∧ a.Outcome sb fa ta sba ∧ S.Equal sab sba := by
  cases fa with
  | some e =>
      have still := ha.fails_after hb hs spares'
      cases ha.eq_of_failure hs
      exact ⟨sb, sb, hb, still, S.equal.refl sb⟩
  | none =>
      cases fb with
      | some e =>
          have still := hb.fails_after ha hs spares
          cases hb.eq_of_failure hs
          exact ⟨sa, sa, still, ha, S.equal.refl sa⟩
      | none => exact ha.swap hb hs spares spares' different

end Assignment

/-! ## Lines -/

/-- What is told of a line: how it failed if it did, and what it printed. -/
def Line.told (l : Line σ) : Option CommandError × String := (l.failure, l.released.output)

namespace Commands

/-- Two lines that do not set the same come to the same after each other, and leave the same in
either order.  Of two that set the same and succeed, the second leaves what both leave, and so does
one line that is run again. -/
structure Independent (equal : σ → σ → Prop) (sameTarget : Prop) (s : σ) (a b : Assignment) :
    Prop where
  commute (v w : Verbosity) : ¬ sameTarget →
    (tree.run (tree.run s w b.words).released.service v a.words).told =
        (tree.run s v a.words).told ∧
      (tree.run (tree.run s v a.words).released.service w b.words).told =
        (tree.run s w b.words).told ∧
      equal (tree.runAll s [(v, a.words), (w, b.words)])
        (tree.runAll s [(w, b.words), (v, a.words)])
  overwrite (v w : Verbosity) : sameTarget → (tree.run s v a.words).failure = none →
    (tree.run s w b.words).failure = none →
      equal (tree.runAll s [(v, a.words), (w, b.words)]) (tree.runAll s [(w, b.words)])
  again (v w : Verbosity) : (tree.run s v a.words).failure = none →
    equal (tree.runAll s [(v, a.words), (w, a.words)]) (tree.runAll s [(w, a.words)])

variable (S : Storage σ) {s : σ} {a b : Assignment}

theorem equal_of_sameTarget (hs : S.Sound s) (target : Assignment.SameTarget S s a b)
    (v w : Verbosity) (ha : (tree.run s v a.words).failure = none)
    (hb : (tree.run s w b.words).failure = none) :
    S.Equal (tree.runAll s [(v, a.words), (w, b.words)]) (tree.runAll s [(w, b.words)]) := by
  have first := a.outcome s v
  have second := b.outcome s w
  have both := b.outcome (tree.run s v a.words).released.service w
  rw [ha] at first
  rw [hb] at second
  obtain ⟨sab, last, equal⟩ := first.overwrite second hs target
  obtain ⟨-, -, same⟩ := both.unique last
  rw [← same] at equal
  exact equal

theorem independent (hs : S.Sound s) (spares : S.Spares s ⟨a.path⟩ ⟨b.path⟩)
    (spares' : S.Spares s ⟨b.path⟩ ⟨a.path⟩) :
    Independent S.Equal (S.Same s ⟨a.path⟩ ⟨b.path⟩ ∧ a.spot = b.spot) s a b where
  commute v w different := by
    obtain ⟨sab, sba, hab, hba, equal⟩ :=
      (a.outcome s v).diamond (b.outcome s w) hs spares spares' different
    obtain ⟨fb, tb, second⟩ := (b.outcome (tree.run s v a.words).released.service w).unique hab
    obtain ⟨fa, ta, first⟩ := (a.outcome (tree.run s w b.words).released.service v).unique hba
    rw [← first, ← second] at equal
    exact ⟨Prod.ext fa ta, Prod.ext fb tb, equal⟩
  overwrite v w target ha hb := equal_of_sameTarget S hs target v w ha hb
  again v w ha := by
    have ran := a.outcome s v
    obtain ⟨same, -, -⟩ := (a.outcome s w).unique ran
    have target : Assignment.SameTarget S s a a := by
      rw [ha] at ran
      generalize (tree.run s v a.words).released.output = text at ran
      generalize (tree.run s v a.words).released.service = left at ran
      cases ran with
      | committed hd => exact ⟨S.same_self hd, rfl⟩
    exact equal_of_sameTarget S hs target v w ha (same.trans ha)

/-- On any service that keeps devices apart, settings with all indices given commute or overwrite
one another.  A shelf is such a service, and so are files of which neither is beside the other. -/
theorem settings_commute_or_overwrite :
    (∀ (σ : Type) [DeviceService σ] (S : Storage σ) (s : σ) (a b : Assignment), S.Sound s →
      S.Spares s ⟨a.path⟩ ⟨b.path⟩ → S.Spares s ⟨b.path⟩ ⟨a.path⟩ →
        Independent S.Equal (S.Same s ⟨a.path⟩ ⟨b.path⟩ ∧ a.spot = b.spot) s a b) ∧
    (∀ (shelf : Shelf) (a b : Assignment),
      Independent Eq (Path.same ⟨a.path⟩ ⟨b.path⟩ ∧ a.spot = b.spot) shelf a b) ∧
    ∀ (store : FileStore) (a b : Assignment), store.files.Grounded →
      store.Spares ⟨a.path⟩ ⟨b.path⟩ → store.Spares ⟨b.path⟩ ⟨a.path⟩ →
        Independent FileStore.Alike (store.Joined ⟨a.path⟩ ⟨b.path⟩ ∧ a.spot = b.spot) store a b :=
  ⟨fun _ _ S _ _ _ hs spares spares' => independent S hs spares spares',
    fun _ _ _ => independent Shelf.storage trivial trivial trivial,
    fun _ _ _ hg spares spares' => independent FileStore.storage hg spares spares'⟩

/-- The dpi of a resolution, set twice and beside a button, on a shelf and in a file.  The paths are
not written alike. -/
theorem settings_commute_or_overwrite_of_mouse :
    let d : Device := {
      name := "M", capabilities := [.switchableResolution, .buttonKey]
      profiles := [
        { active := true, resolutions := [{ dpi := 400, active := true }, { dpi := 800 }]
          buttons := [{}] }] }
    let shelf : Shelf := { entries := [(⟨"m"⟩, .device d)] }
    let text := "name = 'M'\ncapabilities = ['switchable-resolution']\n[[profile]]\n" ++
      "active = true\n[[profile.resolution]]\ndpi = 400\nactive = true\n"
    let store : FileStore := {
      files := { entries := [(["m"], .text text)] }, inputDir := ⟨""⟩, nodePrefix := "" }
    let first : IndexWord := ⟨"0", 0, by decide⟩
    let second : IndexWord := ⟨"01", 1, by decide⟩
    let dpi (r : IndexWord) (word path : String) : Assignment := ⟨first, .dpi r word, path⟩
    let button : Assignment := ⟨first, .action first "key" "KEY_A", "m"⟩
    let active : Assignment := ⟨first, .activeResolution first "0", "./m"⟩
    let x := (dpi second "900" "m/").words
    let y := (dpi second "700" "m").words
    let z := (dpi first "900" "m").words
    tree.runAll shelf [(.normal, x), (.raw, button.words)] =
        tree.runAll shelf [(.raw, button.words), (.normal, x)] ∧
      tree.runAll shelf [(.normal, x), (.raw, y)] = tree.runAll shelf [(.raw, y)] ∧
      (tree.runAll store [(.normal, z), (.normal, active.words)]).Alike
        (tree.runAll store [(.normal, active.words), (.normal, z)]) := by
  intro d shelf text store first second dpi button active x y z
  have onShelf := settings_commute_or_overwrite.2.1 shelf (dpi second "900" "m/")
  have grounded : store.files.Grounded := by decide
  have places : ∀ p ∈ [⟨"m"⟩, ⟨"./m"⟩], ∀ q ∈ [⟨"m"⟩, ⟨"./m"⟩],
      store.files.locate (FileSystem.staging p) ≠ store.files.locate q := by decide +kernel
  have spares : store.Spares ⟨"m"⟩ ⟨"./m"⟩ ∧ store.Spares ⟨"./m"⟩ ⟨"m"⟩ :=
    ⟨fun k hk hl => places _ (by decide) _ (by decide) (hk.trans hl.symm),
      fun k hk hl => places _ (by decide) _ (by decide) (hk.trans hl.symm)⟩
  have inFile :=
    settings_commute_or_overwrite.2.2 store (dpi first "900" "m") active grounded spares.1 spares.2
  refine ⟨?_, ?_, ?_⟩
  · exact ((onShelf button).commute .normal .raw (by decide)).2.2
  · exact (onShelf (dpi second "700" "m")).overwrite .normal .raw (by decide) (by decide +kernel)
      (by decide +kernel)
  · exact (inFile.commute .normal .normal fun h => absurd h.2 (by decide)).2.2

/-- Lines of which no two set the same leave one shelf in any order. -/
theorem runAll_perm (v : Verbosity) {lines lines' : List Assignment} (h : lines.Perm lines')
    (different : lines.Pairwise fun a b => ¬ (Path.same ⟨a.path⟩ ⟨b.path⟩ ∧ a.spot = b.spot))
    (shelf : Shelf) :
    tree.runAll shelf (lines.map fun a => (v, a.words)) =
      tree.runAll shelf (lines'.map fun a => (v, a.words)) := by
  have commute : lines.Pairwise fun a b => ∀ s : Shelf,
      tree.runAll s [(v, a.words), (v, b.words)] = tree.runAll s [(v, b.words), (v, a.words)] := by
    refine different.imp fun {a b} hne s => ?_
    have unrelated : Independent Eq _ s a b := independent Shelf.storage trivial trivial trivial
    exact (unrelated.commute v v hne).2.2
  have anyOrder := commute.forall_of_forall_of_flip (fun a _ s => rfl)
    (commute.imp fun h s => (h s).symm)
  rw [Tree.runAll, Tree.runAll, List.foldl_map, List.foldl_map]
  exact h.foldl_eq' (fun a ha b hb => anyOrder ha hb) shelf

end Commands

end MouseConfig
