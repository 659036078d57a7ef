import MouseConfig.Proofs.Command.Nesting

/-! # Accounts of lines

What a line comes to from outside: how it fails, what it prints, which calls it makes, and the
service that it leaves.  A line on a device has its account settled by the device that opens and by
what its task plans there.
-/

namespace MouseConfig

/-- What a line comes to, but for its log and what it has selected. -/
structure Account (σ : Type) where
  failure : Option CommandError := none
  output : String := ""
  calls : List Call
  service : σ
deriving DecidableEq, Repr

def Line.account {σ : Type} (l : Line σ) : Account σ where
  failure := l.failure
  output := l.released.output
  calls := l.released.calls
  service := l.released.service

namespace Account

variable {σ : Type} [DeviceService σ]

/-- The device does not open. -/
def unopened (service : σ) (path : Path) (e : DeviceError) : Account σ where
  failure := some (.device e)
  calls := [.load path false]
  service := service

/-- The device opens, and the line fails there or carries its plan out. -/
def opened (service : σ) (path : Path) (d : Device) : Except CommandError Plan → Account σ
  | .error e => { failure := some e, calls := [.load path true, .release path], service }
  | .ok { update := none, output } =>
    { output, calls := [.load path true, .release path], service }
  | .ok { update := some u, output } =>
    let written := (DeviceService.commit service path (u.apply d)).2
    match (DeviceService.commit service path (u.apply d)).1.1 with
    | .ok () =>
      { output, calls := [.load path true, .commit path true, .release path], service := written }
    | .error e =>
      { failure := some (.device e)
        calls := [.load path true, .commit path false, .release path]
        service := written }

variable {s : σ} {path : Path} {d : Device} {u : Update} {output : String}
  {x : Except CommandError Plan}

theorem opened_of_committed (hc : (DeviceService.commit s path (u.apply d)).1.1 = .ok ()) :
    opened s path d (.ok { update := some u, output }) = {
      output, calls := [.load path true, .commit path true, .release path]
      service := (DeviceService.commit s path (u.apply d)).2 } := by
  simp only [opened, hc]

theorem opened_of_uncommitted {e : DeviceError}
    (hc : (DeviceService.commit s path (u.apply d)).1.1 = .error e) :
    opened s path d (.ok { update := some u, output }) = {
      failure := some (.device e)
      calls := [.load path true, .commit path false, .release path]
      service := (DeviceService.commit s path (u.apply d)).2 } := by
  simp only [opened, hc]

/-- What does not fail has been planned, and its update is committed. -/
theorem exists_plan_of_opened (h : (opened s path d x).failure = none) :
    ∃ p, x = .ok p ∧
      ∀ u ∈ p.update, (DeviceService.commit s path (u.apply d)).1.1 = .ok () := by
  rcases x with e | ⟨_ | u, output⟩
  · cases h
  · exact ⟨_, rfl, nofun⟩
  · refine ⟨_, rfl, fun u' hu => ?_⟩
    cases hu
    cases hc : (DeviceService.commit s path (u.apply d)).1.1 with
    | ok _ => rfl
    | error e =>
        rw [opened_of_uncommitted hc] at h
        cases h

end Account

/-! ## Searches that settle it -/

/-- With a device opened, a search stops for a reason, or arrives at a task that plans something. -/
inductive Search.Concludes (path : Path) (d : Device) :
    EStateM.Result CommandError Stand Target → Except CommandError Plan → Prop
  | lost {e : CommandError} {p : Stand} (ho : p.context.device = some ⟨path, d⟩)
      (hk : p.calls = [.load path true]) : Concludes path d (.error e p) (.error e)
  | arrived {t : Target} {p : Stand} {x : Except CommandError Plan}
      (ho : p.context.device = some ⟨path, d⟩) (hk : p.calls = [.load path true])
      (hp : t.task.plan? t.command p.context p.args = some x) : Concludes path d (.ok t p) x

variable {σ : Type} [DeviceService σ]

/-- The account of a session that ends with its line. -/
def Session.account (s : Session σ) (failure : Option CommandError) : Account σ where
  failure := failure
  output := s.output
  calls := s.calls ++ s.context.closing
  service := s.service

/-- A session with just a device opened ends as its task has planned. -/
theorem Task.Outcome.account_eq {t : Task} {command : String} {s s' : Session σ}
    {failure : Option CommandError} {path : Path} {d : Device} {x : Except CommandError Plan}
    (h : t.Outcome command s failure s') (hp : t.plan? command s.context s.args = some x)
    (ho : s.context.device = some ⟨path, d⟩) (hk : s.calls = [.load path true])
    (hs : s.output = "") : s'.account failure = .opened s.service path d x := by
  have closing : s.context.closing = [.release path] := by rw [Context.closing, ho]; rfl
  cases h with
  | surplus ht | undiscovered ht | listed ht | recorded ht =>
      rw [ht] at hp
      cases hp
  | refused hp' =>
      cases hp.symm.trans hp'
      simp [Session.account, Account.opened, Session.noted, closing, hk, hs]
  | @shown p _ hp' hu =>
      cases hp.symm.trans hp'
      obtain ⟨update, output⟩ := p
      cases hu
      simp [Session.account, Account.opened, Session.noted, closing, hk, hs]
  | closed hp' hu ho' => cases ho.symm.trans ho'
  | @uncommitted p u o e log hp' hu ho' hc =>
      cases hp.symm.trans hp'
      cases ho.symm.trans ho'
      obtain ⟨update, output⟩ := p
      cases hu
      have failed : (DeviceService.commit s.service path (u.apply d)).1.1 = .error e := hc
      rw [Account.opened_of_uncommitted failed]
      simp [Session.account, Session.written, Session.updated, Session.noted, Context.closing,
        Context.modifyModel, ho, hk, hs, failed, Step.succeeded]
  | @committed p u o log hp' hu ho' hc =>
      cases hp.symm.trans hp'
      cases ho.symm.trans ho'
      obtain ⟨update, output⟩ := p
      cases hu
      have done : (DeviceService.commit s.service path (u.apply d)).1.1 = .ok () := hc
      rw [Account.opened_of_committed done]
      simp [Session.account, Session.written, Session.updated, Session.noted, Context.closing,
        Context.modifyModel, ho, hk, hs, done, Step.succeeded]

namespace Tree

variable {t : Tree} {service : σ} {words : List String} {path : Path}

theorem exists_account (t : Tree) (service : σ) (v : Verbosity) (words : List String) :
    ∃ failure s, t.root.Outcome (Session.start service v words) failure s ∧
      (t.run service v words).account = s.account failure := by
  obtain ⟨closing, released⟩ := t.exists_released service v words
  refine ⟨_, _, t.outcome service v words, ?_⟩
  rw [Line.account, released]
  rfl

theorem account_of_unopened {e : DeviceError} {p : Stand} (v : Verbosity)
    (h : (t.root.seek (loader service)).run { args := words } = .error (.device e) p)
    (ho : p.context.device = none) (hk : p.calls = [.load path false]) :
    (t.run service v words).account = .unopened service path e := by
  obtain ⟨failure, s, outcome, account⟩ := t.exists_account service v words
  rw [account]
  cases outcome with
  | arrived h' => cases h.symm.trans h'
  | lost h' =>
      cases h.symm.trans h'
      simp [Session.account, Account.unopened, Session.moved, Session.start, Context.closing, ho, hk]

theorem account_of_concludes {d : Device} {x : Except CommandError Plan} (v : Verbosity)
    (h : Search.Concludes path d ((t.root.seek (loader service)).run { args := words }) x) :
    (t.run service v words).account = .opened service path d x := by
  obtain ⟨failure, s, outcome, account⟩ := t.exists_account service v words
  rw [account]
  generalize hr : (t.root.seek (loader service)).run { args := words } = r at h
  cases h with
  | lost ho hk =>
      cases outcome with
      | arrived h' => cases hr.symm.trans h'
      | lost h' =>
          cases hr.symm.trans h'
          simp [Session.account, Account.opened, Session.moved, Session.start, Context.closing, ho,
            hk]
  | arrived ho hk hp =>
      cases outcome with
      | lost h' => cases hr.symm.trans h'
      | arrived h' ht =>
          cases hr.symm.trans h'
          exact ht.account_eq hp ho hk rfl

end Tree

/-! ## Lines on a device -/

namespace Commands

open Search

variable {service : σ} {n : Node} {last : String} {d : Device}

theorem account_of_refused (hn : n ∈ onDevice) (v : Verbosity) (front : List String) {e : DeviceError}
    (hd : loader service ⟨last⟩ = .error e) :
    (tree.run service v (n.name :: (front ++ [last]))).account = .unopened service ⟨last⟩ e := by
  have search : (root.seek (loader service)).run { args := n.name :: (front ++ [last]) } =
      .error (.device e) { args := front ++ [last], calls := [.load ⟨last⟩ false] } :=
    (run_seek_start hn _).trans (Node.run_seekFrom_of_refused (reads_of_mem_onDevice hn).2 hd)
  exact Tree.account_of_unopened v search rfl rfl

theorem account_of_opened (hn : n ∈ onDevice) (v : Verbosity) {front : List String}
    (hd : loader service ⟨last⟩ = .ok d) {x : Except CommandError Plan}
    (h : Concludes ⟨last⟩ d ((n.seekFrom (loader service)).run
      ⟨{ device := some ⟨⟨last⟩, d⟩ }, front, [.load ⟨last⟩ true]⟩) x) :
    (tree.run service v (n.name :: (front ++ [last]))).account = .opened service ⟨last⟩ d x := by
  refine Tree.account_of_concludes v ?_
  have search : (root.seek (loader service)).run { args := n.name :: (front ++ [last]) } =
      (n.seekFrom (loader service)).run
        ⟨{ device := some ⟨⟨last⟩, d⟩ }, front, [.load ⟨last⟩ true]⟩ :=
    (run_seek_start hn _).trans (Node.run_seekFrom_of_opened (reads_of_mem_onDevice hn).2 hd)
  exact search ▸ h

/-- A command that needs a profile goes on in the active one, or fails where there is none. -/
theorem account_in_active (hn : n ∈ onDevice) (hr : n.requirement = .profile) (v : Verbosity)
    {front : List String} (hd : loader service ⟨last⟩ = .ok d)
    {verdict : Nat → Except CommandError Plan}
    (h : ∀ i, d.activeProfile? = some i → Concludes ⟨last⟩ d ((n.seekOn (loader service)).run
      ⟨{ device := some ⟨⟨last⟩, d⟩, profile := some i }, front, [.load ⟨last⟩ true]⟩) (verdict i)) :
    (tree.run service v (n.name :: (front ++ [last]))).account =
      .opened service ⟨last⟩ d (Plan.activeProfile d >>= verdict) := by
  refine account_of_opened hn v hd ?_
  rw [Node.run_seekFrom_profile hr rfl, EStateM.run_bind, Plan.activeProfile]
  cases ha : d.activeProfile? with
  | none =>
      rw [run_resolveProfile_of_inactive rfl rfl ha]
      exact .lost rfl rfl
  | some i =>
      rw [run_resolveProfile_of_active rfl rfl ha]
      exact h i ha

end Commands

end MouseConfig
