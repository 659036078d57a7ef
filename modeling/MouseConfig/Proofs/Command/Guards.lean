import MouseConfig.Proofs.Command.Runs
import MouseConfig.Proofs.Command.Success
import MouseConfig.Proofs.Device.Guarded

/-! # Capabilities guard runs

What a line writes back is the device at the end of the line, with an update that the capabilities of
the device permit.  So a device keeps what its capabilities guard in any run of lines.
-/

namespace MouseConfig

/-- No task is granted an update that the capabilities of the device do not permit. -/
theorem Grant.permitted {c : Context} {d : Device} {t : Task} {args : List String} {u : Update}
    (h : Grant c d t args (some u)) : u.Permitted d := by
  cases h with
  | dpiSet can | activeResolutionSet can | activeProfileSet can | switchVolumeKeys can => exact can
  | buttonSet can plays | changeButton can plays => exact ⟨can, plays⟩

variable {σ : Type} [DeviceService σ]

namespace Commands

/-- A service as it is, or as one commit of a permitted update over the device at the end of a line
leaves it. -/
inductive Written (service : σ) (words : List String) : σ → Prop
  | untouched : Written service words service
  | committed {last : String} {d : Device} {u : Update} (hl : words.getLast? = some last)
      (hd : loader service ⟨last⟩ = .ok d) (hu : u.Permitted d) :
      Written service words (DeviceService.commit service ⟨last⟩ (u.apply d)).2

/-- A line writes nothing else, done or failed. -/
theorem written_released (service : σ) (v : Verbosity) (words : List String) :
    Written service words (tree.run service v words).released.service := by
  rw [(released_same tree service v words).1]
  have outcome := Commands.outcome service v words
  generalize (tree.run service v words).failure = failure at outcome
  generalize (tree.run service v words).dispatched = s' at outcome ⊢
  cases outcome with
  | lost => exact .untouched
  | listing hw ht =>
      rcases Task.service_of_outcome ht with same | ⟨p, u, o, hp, -⟩
      · rw [same]
        exact .untouched
      · cases hp
  | worded hw hd hc ht =>
      rcases Task.service_of_outcome ht with same | ⟨p, u, o, hp, hu, ho, written⟩
      · rw [same]
        exact .untouched
      · cases ho
        have granted := Plan.grant_of_ok (Context.openModel_eq_ok_iff.mpr ⟨_, rfl⟩) hp
        rw [hu] at granted
        rw [written]
        exact .committed (by simp [hw]) hd granted.permitted

/-- What is kept by whatever each line may write is kept by all lines together. -/
theorem runAll_keeps_of_written {P : σ → Prop} {lines : List (Verbosity × List String)}
    (step : ∀ line ∈ lines, ∀ service service', P service → Written service line.2 service' →
      P service') {service : σ} (h : P service) : P (tree.runAll service lines) := by
  induction lines generalizing service with
  | nil => exact h
  | cons line rest ih =>
      rw [Tree.runAll_cons]
      refine ih (fun l hl => step l (List.mem_cons_of_mem line hl)) ?_
      exact step line List.mem_cons_self service _ h (written_released service line.1 line.2)

/-! ## Devices on a shelf and in files -/

theorem exists_guarded_on_shelf {shelf : Shelf} {lines : List (Verbosity × List String)}
    {path : Path} {d : Device} (hd : shelf.load path = .ok d) :
    ∃ d', (tree.runAll shelf lines).load path = .ok d' ∧ d.Guarded d' := by
  refine runAll_keeps_of_written (P := fun s : Shelf => ∃ d', s.load path = .ok d' ∧ d.Guarded d')
    (fun line _ s s' h hw => ?_) ⟨d, hd, .refl d⟩
  obtain ⟨d', hd', guarded⟩ := h
  cases hw with
  | untouched => exact ⟨d', hd', guarded⟩
  | @committed last x u _ hx hu =>
      rcases Shelf.load_commit_cases (d := u.apply x) hx path with same | ⟨found, stored⟩
      · exact ⟨d', same.trans hd', guarded⟩
      · cases hd'.symm.trans found
        exact ⟨u.apply d', stored, guarded.trans (.apply hu)⟩

theorem guarded_of_load_runAll {store : FileStore} {lines : List (Verbosity × List String)}
    {path : Path} {d d' : Device} (hg : store.files.Grounded) (hd : (store.load path).1 = .ok d)
    (hd' : ((tree.runAll store lines).load path).1 = .ok d') : d.Guarded d' := by
  have kept : (tree.runAll store lines).files.Grounded ∧
      ∀ x, ((tree.runAll store lines).load path).1 = .ok x → d.Guarded x := by
    refine runAll_keeps_of_written
      (P := fun s : FileStore => s.files.Grounded ∧ ∀ x, (s.load path).1 = .ok x → d.Guarded x)
      (fun line _ s s' h hw => ?_) ⟨hg, fun x hx => ?_⟩
    · obtain ⟨grounded, guarded⟩ := h
      cases hw with
      | untouched => exact ⟨grounded, guarded⟩
      | @committed last x u _ hx hu =>
          refine ⟨(FileStore.loaded_of_commit grounded hx).1, fun y hy => ?_⟩
          rcases FileStore.load_commit_cases (d := u.apply x) grounded hx path with
            same | ⟨found, stored⟩ | ⟨k, -, -, lost⟩
          · exact guarded y (same.symm.trans hy)
          · cases hy.symm.trans stored
            exact (guarded x found).trans (.apply hu)
          · cases hy.symm.trans lost
    · cases hd.symm.trans hx
      exact .refl d
  exact kept.2 d' hd'

/-- A device stays in its file if no line writes new content of another file there first. -/
theorem exists_load_runAll {store : FileStore} {lines : List (Verbosity × List String)}
    {path : Path} {d : Device} (hg : store.files.Grounded) (hd : (store.load path).1 = .ok d)
    (apart : ∀ line ∈ lines, ∀ last ∈ line.2.getLast?,
      store.files.locate (FileSystem.staging ⟨last⟩) ≠ store.files.locate path) :
    ∃ d', ((tree.runAll store lines).load path).1 = .ok d' := by
  have kept : (tree.runAll store lines).files.Grounded ∧
      store.files.SameDirectories (tree.runAll store lines).files ∧
      ∃ d', ((tree.runAll store lines).load path).1 = .ok d' := by
    refine runAll_keeps_of_written (P := fun s : FileStore => s.files.Grounded ∧
        store.files.SameDirectories s.files ∧ ∃ d', (s.load path).1 = .ok d')
      (fun line hline s s' h hw => ?_) ⟨hg, .refl _, d, hd⟩
    obtain ⟨grounded, dirs, d', hd'⟩ := h
    cases hw with
    | untouched => exact ⟨grounded, dirs, d', hd'⟩
    | @committed last x u hl hx hu =>
        refine ⟨(FileStore.loaded_of_commit grounded hx).1,
          dirs.trans (s.sameDirectories_commit ⟨last⟩ (u.apply x)), ?_⟩
        rcases FileStore.load_commit_cases (d := u.apply x) grounded hx path with
          same | ⟨-, stored⟩ | ⟨k, hk, hp, -⟩
        · exact ⟨d', same.trans hd'⟩
        · exact ⟨u.apply x, stored⟩
        · have together := (dirs.locate_iff.mp hk).trans (dirs.locate_iff.mp hp).symm
          exact absurd together (apart line hline last hl)
  exact kept.2.2

/-- Whatever lines are run on a store of devices, a device that is stored at a path is still itself
at the end, with all that its capabilities guard.  In files, it may only be lost to a line on a path
whose new content is first written to the very same place. -/
theorem runs_keep_guarded :
    (∀ (shelf : Shelf) (lines : List (Verbosity × List String)) (path : Path) (d : Device),
      shelf.load path = .ok d →
      ∃ d', (tree.runAll shelf lines).load path = .ok d' ∧ d.Guarded d') ∧
    ∀ (store : FileStore) (lines : List (Verbosity × List String)) (path : Path) (d : Device),
      store.files.Grounded → (store.load path).1 = .ok d →
      (∀ d', ((tree.runAll store lines).load path).1 = .ok d' → d.Guarded d') ∧
      ((∀ line ∈ lines, ∀ last ∈ line.2.getLast?,
          store.files.locate (FileSystem.staging ⟨last⟩) ≠ store.files.locate path) →
        ∃ d', ((tree.runAll store lines).load path).1 = .ok d') :=
  ⟨fun _ _ _ _ hd => exists_guarded_on_shelf hd,
    fun _ _ _ _ hg hd => ⟨fun _ hd' => guarded_of_load_runAll hg hd hd', exists_load_runAll hg hd⟩⟩

/-- A dpi setting, a mapping that is refused for want of a capability, and a line on another file. -/
theorem runs_keep_guarded_of_mouse :
    let d : Device := {
      name := "M", capabilities := [.switchableResolution]
      profiles := [{ active := true, resolutions := [{ dpi := 400, active := true }], buttons := [{}] }] }
    let shelf : Shelf := { entries := [(⟨"m"⟩, .device d)] }
    let text := "name = 'M'\ncapabilities = ['switchable-resolution']\n[[profile]]\nactive = true\n" ++
      "[[profile.resolution]]\ndpi = 400\nactive = true\n[[profile.button]]\n"
    let store : FileStore := {
      files := { entries := [(["m"], .text text), (["n"], .text text)] }, inputDir := ⟨""⟩
      nodePrefix := "" }
    let lines := [(.normal, ["dpi", "set", "800", "m"]),
      (.normal, ["button", "0", "set", "key", "KEY_A", "m"]), (.raw, ["dpi", "set", "900", "n"])]
    (∃ d', (tree.runAll shelf lines).load ⟨"m"⟩ = .ok d' ∧ d.Guarded d') ∧
      ∃ d', ((tree.runAll store lines).load ⟨"m"⟩).1 = .ok d' ∧ d.Guarded d' := by
  intro d shelf text store lines
  have onShelf : shelf.load ⟨"m"⟩ = .ok d := by decide
  have grounded : store.files.Grounded := by decide
  have inFile : (store.load ⟨"m"⟩).1 = .ok d := by decide +kernel
  have apart : ∀ line ∈ lines, ∀ last ∈ line.2.getLast?,
      store.files.locate (FileSystem.staging ⟨last⟩) ≠ store.files.locate ⟨"m"⟩ := by decide +kernel
  obtain ⟨guarded, kept⟩ := runs_keep_guarded.2 store lines ⟨"m"⟩ d grounded inFile
  obtain ⟨d', hd'⟩ := kept apart
  exact ⟨runs_keep_guarded.1 shelf lines ⟨"m"⟩ d onShelf, d', hd', guarded d' hd'⟩

end Commands

end MouseConfig
