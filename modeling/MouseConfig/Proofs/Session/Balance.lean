import Mathlib.Data.List.Perm.Basic
import MouseConfig.Proofs.Command.Outcome

/-! # The balance of openings and releases

Calls are read from the first one on, with the devices that are open as a stack: a release has to be
that of the device opened last.  A session is balanced when the device that it has selected, if any,
is all that its calls have left open.
-/

namespace MouseConfig

namespace Call

variable {calls calls' : List Call} {held held' : List Path}

/-- The path of a device that was opened. -/
def opened? : Call → Option Path
  | load path true => some path
  | _ => none

def released? : Call → Option Path
  | release path => some path
  | _ => none

/-- The devices that are open after a call, the last one first; `none` if it releases another. -/
def track (held : List Path) : Call → Option (List Path)
  | load path true => some (path :: held)
  | release path => if held.head? = some path then some held.tail else none
  | _ => some held

/-- The devices that calls leave open. -/
def leftOpen (calls : List Call) : Option (List Path) := calls.foldlM track []

theorem leftOpen_append :
    leftOpen (calls ++ calls') = (leftOpen calls).bind fun held => calls'.foldlM track held :=
  List.foldlM_append

/-- One call keeps what was opened and is not released yet. -/
theorem perm_of_track {c : Call} (h : track held c = some held') :
    (c.opened?.toList ++ held).Perm (c.released?.toList ++ held') := by
  cases c with
  | load path succeeded =>
      cases succeeded with
      | true =>
          cases h
          exact List.Perm.refl _
      | false =>
          cases h
          exact List.Perm.refl _
  | release path =>
      by_cases hp : held.head? = some path
      · obtain ⟨rest, rfl⟩ := List.head?_eq_some_iff.mp hp
        rw [track, if_pos hp] at h
        cases h
        exact List.Perm.refl _
      · rw [track, if_neg hp] at h
        cases h
  | commit | discover =>
      cases h
      exact List.Perm.refl _

/-- What was opened was released, or is left. -/
theorem perm_of_foldlM (h : calls.foldlM track held = some held') :
    (calls.filterMap opened? ++ held).Perm (calls.filterMap released? ++ held') := by
  induction calls generalizing held with
  | nil =>
      cases h
      exact List.Perm.refl _
  | cons c calls ih =>
      rw [List.foldlM_cons] at h
      obtain ⟨between, ht, h⟩ := Option.bind_eq_some_iff.mp h
      have front (f : Call → Option Path) :
          (c :: calls).filterMap f = (f c).toList ++ calls.filterMap f := by
        rw [List.filterMap_cons]
        cases f c <;> rfl
      rw [front, front]
      calc (c.opened?.toList ++ calls.filterMap opened? ++ held).Perm
            (calls.filterMap opened? ++ (c.opened?.toList ++ held)) := by
            rw [← List.append_assoc]
            exact List.perm_append_comm.append_right held
        List.Perm _ (calls.filterMap opened? ++ (c.released?.toList ++ between)) :=
            (perm_of_track ht).append_left _
        List.Perm _ (c.released?.toList ++ (calls.filterMap opened? ++ between)) := by
            rw [← List.append_assoc, ← List.append_assoc]
            exact List.perm_append_comm.append_right between
        List.Perm _ (c.released?.toList ++ (calls.filterMap released? ++ held')) :=
            (ih h).append_left _
        List.Perm _ (c.released?.toList ++ calls.filterMap released? ++ held') := by
            rw [List.append_assoc]

theorem perm_of_leftOpen (h : leftOpen calls = some held) :
    (calls.filterMap opened?).Perm (calls.filterMap released? ++ held) := by
  simpa using perm_of_foldlM h

/-! ## Listings -/

/-- A device that is looked at is released again. -/
theorem foldlM_visit (load : Loader) (path : Path) : (visit load path).foldlM track held = some held := by
  rw [visit]
  cases load path with
  | ok d => simp [track]
  | error e => rfl

theorem foldlM_tour (load : Loader) (paths : List Path) :
    (tour load paths).foldlM track held = some held := by
  have visits : (paths.flatMap (visit load)).foldlM track held = some held := by
    induction paths with
    | nil => rfl
    | cons path rest ih =>
        rw [List.flatMap_cons, List.foldlM_append, foldlM_visit]
        exact ih
  rw [tour, List.foldlM_cons]
  exact visits

end Call

/-! ## Searches -/

/-- The paths of the devices that a context holds. -/
def Context.held (c : Context) : List Path := (c.device.map (·.path)).toList

@[simp] theorem Context.held_modifyModel (c : Context) (f : Device → Device) :
    (c.modifyModel f).held = c.held := by
  rw [held, held, modifyModel]
  cases c.device <;> rfl

/-- The open device is all that is left open. -/
def Stand.Balanced (p : Stand) : Prop := Call.leftOpen p.calls = some p.context.held

namespace Stand.Balanced

variable {p : Stand}

theorem append (h : p.Balanced) {calls : List Call} {c : Context}
    (hc : calls.foldlM Call.track p.context.held = some c.held) (args : List String) :
    Stand.Balanced ⟨c, args, p.calls ++ calls⟩ := by
  rw [Balanced, Call.leftOpen_append, show Call.leftOpen p.calls = _ from h]
  exact hc

/-- A device is opened only where none is open. -/
theorem invariant (load : Loader) : Search.Invariant load Stand.Balanced Stand.Balanced where
  fails _ hp := hp
  words _ _ _ hp := hp
  selects p c hc hp := by
    rw [Balanced, Context.held, hc.device_eq]
    exact hp
  refused p word _ hp ho _ _ := by
    refine hp.append ?_ p.args
    rw [Context.held, ho]
    rfl
  opened p word d hp ho _ _ := by
    refine hp.append ?_ p.args.dropLast
    rw [Context.held, ho]
    rfl

end Stand.Balanced

/-! ## Tasks and lines -/

variable {σ : Type} [DeviceService σ] {s s' : Session σ} {failure : Option CommandError}

theorem Session.balanced_written (h : s.stand.Balanced) (o : OpenDevice) :
    (s.written o).stand.Balanced :=
  Stand.Balanced.append h rfl s.args

omit [DeviceService σ] in
theorem Session.balanced_updated (h : s.stand.Balanced) (u : Update) :
    (s.updated u).stand.Balanced := by
  rw [Stand.Balanced, show (s.updated u).stand.context.held = s.context.held from
    s.context.held_modifyModel u.apply]
  exact h

/-- A task opens only what it releases again. -/
theorem Task.balanced_of_outcome {t : Task} {command : String} (hs : s.stand.Balanced)
    (h : t.Outcome command s failure s') : s'.stand.Balanced := by
  cases h with
  | surplus => exact hs
  | undiscovered => exact Stand.Balanced.append hs rfl s.args
  | listed => exact Stand.Balanced.append hs (Call.foldlM_tour _ _) s.args
  | recorded => exact hs
  | refused => exact hs
  | shown => exact hs
  | closed => exact Session.balanced_updated hs _
  | uncommitted => exact Session.balanced_written (Session.balanced_updated hs _) _
  | committed => exact Session.balanced_written (Session.balanced_updated hs _) _

theorem Node.balanced_of_outcome {n : Node} (hs : s.stand.Balanced) (h : n.Outcome s failure s') :
    s'.stand.Balanced := by
  have along := n.seek_along (Stand.Balanced.invariant (loader s.service)) s.stand hs
  cases h with
  | lost hr =>
      rw [hr] at along
      exact along
  | @arrived t p log _ _ hr ht =>
      rw [hr] at along
      have reached : (s.moved p log).stand.Balanced := along
      exact Task.balanced_of_outcome reached ht

/-- When the selections have been given up, nothing is left open. -/
theorem Step.leftOpen_release (hs : s.stand.Balanced) :
    Call.leftOpen (s.after Step.release).2.calls = some [] := by
  obtain ⟨log, h⟩ := Step.run_release s
  rw [Session.after_of_ok h]
  change Call.leftOpen (s.calls ++ s.context.closing) = some []
  rw [Call.leftOpen_append, show Call.leftOpen s.calls = some s.context.held from hs,
    Context.closing, Context.held]
  cases s.context.device with
  | none => rfl
  | some o => simp [Call.track]

end MouseConfig
