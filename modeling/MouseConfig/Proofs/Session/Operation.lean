import MouseConfig.Proofs.Session.Balance

/-! # Operations on one session

Between its start and its end, a session may go through any operations in any order, and go on after
those that fail.  Whatever they are, each device that was opened is released once.
-/

namespace MouseConfig

/-- Something that is done with a session. -/
inductive Operation where
  | resolve (needs : Requirement) (args : List String)
  | dispatch (args : List String)
  | selectProfile (index : Nat)
  | selectResolution (index : Nat)
  | selectButton (index : Nat)
  | activateProfile (index : Nat)
  | activateResolution (index : Nat)
  | setDpi (dpi : UInt32)
  | setAction (index : Nat) (action : Action)
  /-- Change the open device in some other way. -/
  | change (f : Device → Device)
  | commit
  | release

variable {σ : Type} [DeviceService σ]

namespace Operation

/-- The words that an operation comes with. -/
def args : Operation → List String
  | resolve _ args | dispatch args => args
  | _ => []

def step (t : Tree) : Operation → Step σ Unit
  | resolve needs _ => Step.resolve needs
  | dispatch _ => t.root.dispatch
  | selectProfile index => Step.selectProfile index
  | selectResolution index => Step.selectResolution index
  | selectButton index => Step.selectButton index
  | activateProfile index => do let _ ← Step.activateProfile index
  | activateResolution index => do let _ ← Step.activateResolution index
  | setDpi dpi => Step.setDpi dpi
  | setAction index action => Step.setAction index action
  | change f => do
    let _ ← Step.model
    Step.select (·.modifyModel f)
  | commit => Step.commit
  | release => Step.release

end Operation

namespace Session

/-- The session after an operation, which may have failed. -/
def perform (t : Tree) (s : Session σ) (op : Operation) : Session σ :=
  ({ s with args := op.args }.after (op.step t)).2

def performAll (t : Tree) (s : Session σ) (ops : List Operation) : Session σ :=
  ops.foldl (perform t) s

/-- The paths of the devices that were opened, in order. -/
def opened (s : Session σ) : List Path := s.calls.filterMap Call.opened?

def released (s : Session σ) : List Path := s.calls.filterMap Call.released?

end Session

/-! ## Balance -/

namespace Step

variable {α β : Type}

/-- The step keeps a session balanced, also when it fails. -/
def Balances (m : Step σ α) : Prop :=
  Leads (fun s => s.stand.Balanced) m (fun _ s => s.stand.Balanced) fun _ s => s.stand.Balanced

namespace Balances

omit [DeviceService σ] in
theorem bind {m : Step σ α} {k : α → Step σ β} (hm : m.Balances) (hk : ∀ a, (k a).Balances) :
    (m >>= k).Balances := Leads.bind hm hk

omit [DeviceService σ] in
theorem pure (a : α) : (pure a : Step σ α).Balances := Leads.pure fun _ hs => hs

omit [DeviceService σ] in
theorem ofExcept (x : Except DeviceError α) : (Step.ofExcept x : Step σ α).Balances := by
  cases x with
  | ok a => exact pure a
  | error e => exact Leads.throw fun _ hs => hs

/-- What a search keeps balanced, the step that follows it does. -/
theorem of_follows {m : Step σ α} {f : Loader → Search α} (h : m.Follows f)
    (hf : ∀ load, Search.Along Stand.Balanced Stand.Balanced (f load)) : m.Balances := by
  intro s hs
  obtain ⟨log, hr⟩ := h s
  have along := hf (loader s.service) s.stand hs
  rw [hr]
  cases hp : (f (loader s.service)).run s.stand with
  | ok a p =>
      rw [hp] at along
      exact along
  | error e p =>
      rw [hp] at along
      exact along

theorem model : (Step.model : Step σ Device).Balances :=
  of_follows Follows.model fun load => .of_leads (Stand.Balanced.invariant load).model

theorem profile : (Step.profile : Step σ Profile).Balances :=
  of_follows Follows.profile fun load => .of_leads (Stand.Balanced.invariant load).profile

omit [DeviceService σ] in
theorem resolution : (Step.resolution : Step σ Resolution).Balances := by
  intro s hs
  rw [run_resolution]
  exact ofExcept _ s hs

omit [DeviceService σ] in
/-- A change of the selections or of the open device leaves the device open. -/
theorem select {f : Context → Context} (hf : ∀ c, (f c).held = c.held) :
    (Step.select f : Step σ Unit).Balances := by
  refine Leads.move fun s hs => ?_
  rw [Stand.Balanced, show ({ s with context := f s.context } : Session σ).stand.context.held =
    s.context.held from hf s.context]
  exact hs

theorem commit : (Step.commit : Step σ Unit).Balances := by
  intro s hs
  cases ho : s.context.device with
  | none =>
      rw [run_commit_of_none ho]
      exact hs
  | some o =>
      rw [run_commit ho]
      exact ofExcept _ _ (Session.balanced_written hs o)

theorem release : (Step.release : Step σ Unit).Balances := by
  intro s hs
  have none := leftOpen_release hs
  obtain ⟨log, h⟩ := run_release s
  rw [Session.after_of_ok h] at none
  rw [h]
  exact none

theorem dispatch (n : Node) : (n.dispatch : Step σ Unit).Balances := by
  intro s hs
  obtain ⟨failure, s', h, ha⟩ := n.exists_outcome s
  have balanced : s'.stand.Balanced := Node.balanced_of_outcome hs h
  cases hr : (n.dispatch : Step σ Unit).run s with
  | ok u q =>
      cases (Session.after_of_ok hr).symm.trans ha
      exact balanced
  | error e q =>
      cases (Session.after_of_error hr).symm.trans ha
      exact balanced

end Balances

end Step

theorem Context.held_modifyProfile (c : Context) (f : Profile → Profile) :
    (c.modifyProfile f).held = c.held := by
  rw [modifyProfile]
  cases c.profile with
  | none => rfl
  | some i => exact c.held_modifyModel _

theorem Context.held_modifyResolution (c : Context) (f : Resolution → Resolution) :
    (c.modifyResolution f).held = c.held := by
  rw [modifyResolution]
  cases c.resolution with
  | none => rfl
  | some j => exact c.held_modifyProfile _

open Step in
theorem Operation.balances_step (t : Tree) (op : Operation) : (op.step t : Step σ Unit).Balances := by
  cases op with
  | resolve needs =>
      exact Balances.of_follows (Follows.resolve needs) fun load =>
        (Stand.Balanced.invariant load).resolve needs
  | dispatch => exact Balances.dispatch t.root
  | selectProfile index =>
      exact Balances.of_follows (Follows.selectProfile index) fun load =>
        (Stand.Balanced.invariant load).selectProfile index
  | selectResolution index =>
      exact Balances.of_follows (Follows.selectResolution index) fun load =>
        (Stand.Balanced.invariant load).selectResolution index
  | selectButton index =>
      exact Balances.of_follows (Follows.selectButton index) fun load =>
        (Stand.Balanced.invariant load).selectButton index
  | activateProfile index =>
      refine Balances.bind (Balances.bind Balances.model fun d => ?_) fun _ => Balances.pure ()
      cases d.activate? index with
      | none => exact Balances.pure _
      | some d' =>
          exact Balances.bind (Balances.select fun c => c.held_modifyModel _) fun _ =>
            Balances.pure _
  | activateResolution index =>
      refine Balances.bind (Balances.bind Balances.profile fun p => ?_) fun _ => Balances.pure ()
      cases p.activate? index with
      | none => exact Balances.pure _
      | some p' =>
          exact Balances.bind (Balances.select fun c => c.held_modifyProfile _) fun _ =>
            Balances.pure _
  | setDpi dpi =>
      exact Balances.bind Balances.resolution fun _ =>
        Balances.select fun c => c.held_modifyResolution _
  | setAction index action => exact Balances.select fun c => c.held_modifyProfile _
  | change f => exact Balances.bind Balances.model fun _ => Balances.select fun c => c.held_modifyModel f
  | commit => exact Balances.commit
  | release => exact Balances.release

namespace Session

variable {s : Session σ} {t : Tree}

theorem balanced_perform (hs : s.stand.Balanced) (op : Operation) :
    (s.perform t op).stand.Balanced := by
  have start : ({ s with args := op.args } : Session σ).stand.Balanced := hs
  have step := op.balances_step t _ start
  rw [perform, after]
  cases hr : (op.step t).run { s with args := op.args } with
  | ok u q =>
      rw [hr] at step
      exact step
  | error e q =>
      rw [hr] at step
      exact step

theorem balanced_performAll (hs : s.stand.Balanced) (ops : List Operation) :
    (s.performAll t ops).stand.Balanced := by
  induction ops generalizing s with
  | nil => exact hs
  | cons op ops ih => exact ih (balanced_perform hs op)

/-- After each of some operations, as many devices were opened as were released, and one more if the
session holds a device.  When the session has ended, the devices were released in the reverse order
of their opening wherever several were open, each at the path that it was opened from. -/
theorem releases_each_device_once (t : Tree) (service : σ) (v : Verbosity) (ops : List Operation) :
    let s := (Session.start service v []).performAll t ops
    let last := (s.after Step.release).2
    s.opened.length = s.released.length + (if s.context.device.isSome then 1 else 0) ∧
      last.opened.length = last.released.length ∧ last.opened.Perm last.released ∧
      Call.leftOpen last.calls = some [] := by
  intro s last
  have start : (Session.start service v []).stand.Balanced := rfl
  have balanced : s.stand.Balanced := balanced_performAll start ops
  have closed : Call.leftOpen last.calls = some [] := Step.leftOpen_release balanced
  have all : last.opened.Perm last.released := by
    rw [opened, released]
    simpa using Call.perm_of_leftOpen closed
  refine ⟨?_, all.length_eq, all, closed⟩
  have count := (Call.perm_of_leftOpen balanced).length_eq
  rw [List.length_append] at count
  rw [opened, released]
  cases hd : s.context.device with
  | none => simpa [Context.held, Session.stand, hd] using count
  | some o => simpa [Context.held, Session.stand, hd] using count

end Session

end MouseConfig
