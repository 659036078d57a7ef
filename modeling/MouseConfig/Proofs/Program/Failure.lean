import MouseConfig.Program
import MouseConfig.Proofs.Command.Failure
import MouseConfig.Proofs.Files.Store
import MouseConfig.Service.Shelf

/-! # Failed runs

A run of the program that ends with an exit code other than zero has printed nothing and left all
files as they were.
-/

namespace MouseConfig

/-! ## Devices on a shelf and in files -/

theorem Shelf.steady (s : Shelf) : Steady s := by
  intro path d₀ d e _ h
  cases hf : s.commitFailure with
  | some reason => simp [DeviceService.commit, Shelf.commit, hf]
  | none => simp [DeviceService.commit, Shelf.commit, hf] at h

namespace FileStore

variable {s : FileStore}

/-- A device either has no description, or its description replaces the file. -/
theorem steady (h : s.files.Grounded) : Steady s := by
  intro path d₀ d e hl hc
  obtain ⟨text, hs, -⟩ := load_eq_ok_iff.mp hl
  simp only [DeviceService.commit, commit] at hc ⊢
  cases hd : d.description? with
  | none => rfl
  | some content =>
      rw [hd] at hc
      cases hr : (s.files.replace path content).1 with
      | ok u => simp [hr] at hc
      | error fault =>
          have same : (s.files.replace path content).2 = s.files :=
            h.replace_error hs (by simp) hr
          simp only [hr, same]

end FileStore

/-! ## Runs -/

namespace Program

/-- A line that fails leaves a steady service as it was. -/
theorem service_eq_of_failure {σ : Type} [DeviceService σ] {service : σ} {v : Verbosity}
    {words : List String} {e : CommandError} (hs : Steady service)
    (h : (Commands.tree.run service v words).failure = some e) :
    (Commands.tree.run service v words).dispatched.service = service ∧
      (Commands.tree.run service v words).released.service = service := by
  have u := Tree.unwritten_of_failure h
  obtain ⟨calls, log, hr, -⟩ := Tree.released_eq Commands.tree service v words
  rw [hr]
  have same := u.service_eq hs
  exact ⟨same, same⟩

theorem run_of_exitCode_ne_zero {c : Config} {o : Options} {fs : FileSystem} (h : fs.Grounded)
    (hx : (run c o fs).exitCode ≠ 0) : (run c o fs).output = "" ∧ (run c o fs).files = fs := by
  rw [run] at hx ⊢
  cases ho : o.help with
  | true => simp [ho] at hx
  | false =>
      simp only [ho, Bool.false_eq_true, if_false] at hx ⊢
      cases hf : (Commands.tree.run (store c fs) o.verbosity o.words).failure with
      | none => simp [hf] at hx
      | some e =>
          have u := Tree.unwritten_of_failure hf
          obtain ⟨calls, log, hr, -⟩ :=
            Tree.released_eq Commands.tree (store c fs) o.verbosity o.words
          have steady : Steady (store c fs) := FileStore.steady h
          have same := (service_eq_of_failure steady hf).2
          rw [hr] at same ⊢
          exact ⟨u.output, congrArg FileStore.files same⟩

theorem execute_of_exitCode_ne_zero {e : Environment} {filter : Option String}
    {args : List String} {fs : FileSystem} (h : fs.Grounded)
    (hx : (execute e filter args fs).exitCode ≠ 0) :
    (execute e filter args fs).output = "" ∧ (execute e filter args fs).files = fs := by
  rw [execute] at hx ⊢
  cases ho : Options.read args with
  | error f =>
      cases hf : f.isError with
      | true => simp [hf]
      | false => simp [ho, hf, refusalCode] at hx
  | ok o =>
      simp only [ho, runWith] at hx ⊢
      cases hc : (Config.load fs (configFile e.configDirectory)).1 with
      | error fault => simp
      | ok c =>
          simp only [hc] at hx ⊢
          cases hl : Log.Filter.ofText? (filterText c o.verbosity filter) with
          | none => simp
          | some f =>
              simp only [hl] at hx ⊢
              exact run_of_exitCode_ne_zero h hx

/-- What fails has printed nothing and changed nothing: a run of the program, the whole program, and
a line on any service.  The devices on a shelf and in files stay, also where the one that is open has
been changed. -/
theorem failure_changes_nothing :
    (∀ (c : Config) (o : Options) (fs : FileSystem), fs.Grounded → (run c o fs).exitCode ≠ 0 →
      (run c o fs).output = "" ∧ (run c o fs).files = fs) ∧
    (∀ (e : Environment) (filter : Option String) (args : List String) (fs : FileSystem),
      fs.Grounded → (execute e filter args fs).exitCode ≠ 0 →
      (execute e filter args fs).output = "" ∧ (execute e filter args fs).files = fs) ∧
    (∀ (σ : Type) [DeviceService σ] (service : σ) (v : Verbosity) (words : List String)
      (e : CommandError), (Commands.tree.run service v words).failure = some e →
      (Commands.tree.run service v words).released.output = "" ∧
      ∀ path, (path, true) ∉ (Commands.tree.run service v words).released.commits) ∧
    (∀ (shelf : Shelf) (v : Verbosity) (words : List String) (e : CommandError),
      (Commands.tree.run shelf v words).failure = some e →
      (Commands.tree.run shelf v words).dispatched.service = shelf ∧
      (Commands.tree.run shelf v words).released.service = shelf) ∧
    (∀ (store : FileStore) (v : Verbosity) (words : List String) (e : CommandError),
      store.files.Grounded → (Commands.tree.run store v words).failure = some e →
      (Commands.tree.run store v words).dispatched.service = store ∧
      (Commands.tree.run store v words).released.service = store) := by
  refine ⟨fun c o fs => run_of_exitCode_ne_zero, fun e filter args fs =>
    execute_of_exitCode_ne_zero, fun σ _ service v words e h => ?_,
    fun shelf v words e => service_eq_of_failure shelf.steady,
    fun store v words e hg => service_eq_of_failure (FileStore.steady hg)⟩
  · have u := Tree.unwritten_of_failure h
    obtain ⟨calls, log, hr, hc⟩ := Tree.released_eq Commands.tree service v words
    rw [hr]
    refine ⟨u.output, fun path => ?_⟩
    have same := ((Commands.tree.run service v words).dispatched.commits_grown hc log)
    exact same ▸ u.not_committed rfl path

/-- There is no device `n`; new content for `m` cannot be written beside it; the shelf is full. -/
theorem failure_changes_nothing_on_full_shelf :
    let text := "name = 'M'\nbuttons = 1\ncapabilities = ['button-key']\n[[profile]]\nactive = true\n" ++
      "default = true\nresolution = []\n[[profile.button]]\ntype = 'left'\naction.kind = 'none'\n"
    let fs : FileSystem := { entries := [(["m"], .text text), (["m.tmp"], .directory)] }
    let words := ["change-button", "0", "button", "1", "m"]
    let d : Device := {
      name := "M", buttonCount := 1, capabilities := [.buttonKey]
      profiles := [{ active := true, buttons := [{}] }] }
    let shelf : Shelf := { entries := [(⟨"m"⟩, .device d)], commitFailure := some "full" }
    let files : FileStore := store {} fs
    (run {} { words := ["info", "n"] } fs).files = fs ∧ (execute {} none words fs).files = fs ∧
      (Commands.tree.run shelf .normal words).released.output = "" ∧
      (Commands.tree.run shelf .normal words).released.service = shelf ∧
      (Commands.tree.run files .normal words).released.service = files := by
  intro text fs words d shelf files
  obtain ⟨hrun, hexecute, hservice, hshelf, hfiles⟩ := failure_changes_nothing
  have hg : fs.Grounded := by decide
  have full : (Commands.tree.run shelf .normal words).failure =
      some (.device (.notCommitted ⟨"m"⟩ "full")) := by decide
  refine ⟨(hrun {} _ fs hg (by decide +kernel)).2, (hexecute {} none words fs hg ?_).2,
    (hservice Shelf shelf .normal words _ full).1, (hshelf shelf .normal words _ full).2, ?_⟩
  · decide +kernel
  · have fails : (Commands.tree.run files .normal words).failure.isSome = true := by decide +kernel
    obtain ⟨e, he⟩ := Option.isSome_iff_exists.mp fails
    exact (hfiles files .normal words e hg he).2

end Program

end MouseConfig
