import MouseConfig.Files.Store
import MouseConfig.Proofs.Command.Checks
import MouseConfig.Proofs.Command.Outcome
import MouseConfig.Service.Shelf

/-! # Needs that suffice

A task that finds all that it looks at never fails for want of a selection.  Together with what the
search provides this holds for every line, unless the service itself says that nothing is selected.
-/

namespace MouseConfig

/-- What is planned works on the open device. -/
theorem Task.device_le_needs {t : Task} {command : String} {c : Context} {args : List String}
    {x : Except CommandError Plan} (hx : t.plan? command c args = some x) : .device ≤ t.needs := by
  cases t with
  | list | record => cases hx
  | info | changeButton | switchVolumeKeys | buttonGet | buttonSet | activeProfileGet
  | activeProfileSet | activeResolutionGet | activeResolutionSet | dpiGet | dpiSet => decide

variable {σ : Type} [DeviceService σ]

/-- The service itself says that something is not selected. -/
def Denies (service : σ) (what : Selection) : Prop :=
  (∃ path, loader service path = .error (.notSelected what)) ∨
    (∃ path d, (DeviceService.commit service path d).1.1 = .error (.notSelected what)) ∨
    DeviceService.discover service = .error (.notSelected what)

/-- What is left where nothing was missed. -/
def Session.Sufficed (s : Session σ) (service : σ) (failure : Option CommandError) : Prop :=
  s.context.Fits ∧ ∀ what, failure = some (.device (.notSelected what)) → Denies service what

variable {s s' : Session σ} {failure : Option CommandError}

/-- A task that finds what it looks at leaves what fits. -/
theorem Task.sufficed_of_outcome {t : Task} {command : String} {level : Requirement}
    (hc : s.context.Holds level) (hl : t.needs ≤ level) (h : t.Outcome command s failure s') :
    s'.Sufficed s.service failure := by
  have fits (u : Update) : (s.context.modifyModel u.apply).Fits := hc.fits.modifyModel u.layout_apply
  cases h with
  | surplus => exact ⟨hc.fits, nofun⟩
  | undiscovered _ _ hd =>
      refine ⟨hc.fits, fun what he => .inr (.inr ?_)⟩
      cases he
      exact hd
  | listed => exact ⟨hc.fits, nofun⟩
  | recorded => exact ⟨hc.fits, nofun⟩
  | @refused e log hp =>
      have checked : Plan.Checked s.context t.needs (Plan.Admissible s.context) (.error e) :=
        Plan.checked_of_plan hp
      exact ⟨hc.fits, fun what he => absurd (checked what (Option.some.inj he)) (hc.not_lacks hl)⟩
  | shown => exact ⟨hc.fits, nofun⟩
  | closed hp _ ho =>
      obtain ⟨o, ho'⟩ := hc.exists_device (Nat.le_trans (device_le_needs hp) hl)
      cases ho.symm.trans ho'
  | uncommitted _ _ _ hw =>
      refine ⟨fits _, fun what he => ?_⟩
      cases he
      exact .inr (.inl ⟨_, _, hw⟩)
  | committed => exact ⟨fits _, nofun⟩

/-- So does a line, in a tree in which nothing is missed. -/
theorem Node.sufficed_of_outcome {n : Node} (hc : s.context.Holds .nothing)
    (hn : allSuffice .nothing n.children = true) (h : n.Outcome s failure s') :
    s'.Sufficed s.service failure := by
  have arrives := n.seek_arrives (loader s.service) hn
  cases h with
  | lost hr =>
      obtain ⟨fits, stops⟩ := Leads.of_error arrives hc hr
      refine ⟨fits, fun what he => .inl (stops what ?_)⟩
      cases he
      rfl
  | @arrived t p log _ _ hr ht =>
      obtain ⟨level, hl, hp⟩ := Leads.of_ok arrives hc hr
      have held : (s.moved p log).context.Holds level := hp
      exact Task.sufficed_of_outcome (s := s.moved p log) held hl ht

/-- No service that the program uses says that something is not selected. -/
theorem Shelf.not_denies (shelf : Shelf) (what : Selection) : ¬ Denies shelf what := by
  rintro (⟨path, h⟩ | ⟨path, d, h⟩ | h)
  · change shelf.load path = _ at h
    rw [load] at h
    rcases hg : shelf.get? path with _ | _ | _ | _ <;> rw [hg] at h <;> cases h
  · change (shelf.commit path d).1 = _ at h
    rw [commit] at h
    cases hf : shelf.commitFailure <;> rw [hf] at h <;> cases h
  · change shelf.discover = _ at h
    rw [discover] at h
    cases hf : shelf.searchFailure <;> rw [hf] at h <;> cases h

theorem FileStore.not_denies (store : FileStore) (what : Selection) : ¬ Denies store what := by
  rintro (⟨path, h⟩ | ⟨path, d, h⟩ | h)
  · change (store.load path).1 = _ at h
    rw [load] at h
    rcases hs : store.files.stat path with _ | _ | content | _ <;> rw [hs] at h
    case ok.text =>
      change parse path content = _ at h
      rw [parse] at h
      cases hp : Device.ofDescription content <;> rw [hp] at h <;> cases h
    all_goals cases h
  · change (store.commit path d).1.1 = _ at h
    rw [commit] at h
    cases hd : d.description? with
    | none => rw [hd] at h; cases h
    | some content =>
        rw [hd] at h
        rcases hr : store.files.replace path content with ⟨_ | _, files⟩ <;>
          simp only [hr] at h <;> cases h
  · cases h

namespace Commands

/-- What the nodes of the tree ask for is enough.  Whatever a line has selected when it ends fits the
open device, and no line fails for want of a selection. -/
theorem requirements_suffice :
    (∀ (σ : Type) [DeviceService σ] (service : σ) (v : Verbosity) (words : List String),
      (tree.run service v words).dispatched.context.Fits ∧
      ∀ what, (tree.run service v words).failure ≠ some (.device (.notSelected what)) ∨
        Denies service what) ∧
    (∀ (shelf : Shelf) (v : Verbosity) (words : List String) (what : Selection),
      (tree.run shelf v words).failure ≠ some (.device (.notSelected what))) ∧
    ∀ (store : FileStore) (v : Verbosity) (words : List String) (what : Selection),
      (tree.run store v words).failure ≠ some (.device (.notSelected what)) := by
  have all (σ : Type) [DeviceService σ] (service : σ) (v : Verbosity) (words : List String) :
      (tree.run service v words).dispatched.Sufficed service (tree.run service v words).failure :=
    Node.sufficed_of_outcome (.nothing rfl rfl rfl) root_suffices (tree.outcome service v words)
  refine ⟨fun σ _ service v words => ⟨(all σ service v words).1, fun what => ?_⟩, ?_, ?_⟩
  · by_cases h : (tree.run service v words).failure = some (.device (.notSelected what))
    · exact .inr ((all σ service v words).2 what h)
    · exact .inl h
  · intro shelf v words what h
    exact shelf.not_denies what ((all Shelf shelf v words).2 what h)
  · intro store v words what h
    exact store.not_denies what ((all FileStore store v words).2 what h)

end Commands

end MouseConfig
