import MouseConfig.Proofs.Command.Follows
import MouseConfig.Proofs.Device.Outline
import MouseConfig.Proofs.Session.Oblivious

/-! # What more detail discloses

Only the opening of a device heeds how much detail was asked for: it adds the raw description to the
log, or does not.  A walk opens at most one device, so what it adds to the log is the same for any
detail, or the same but for that one event.
-/

namespace MouseConfig

variable {σ : Type} {α β : Type}

/-- What is logged of an attempt to open a device. -/
def Log.attempt [DeviceService σ] (service : σ) (path : Path) : List Log.Event :=
  Log.debug .resolver s!"Opening device '{path.text}'" :: (DeviceService.load service path).2

/-- What is logged when a device opens. -/
def Log.opening [DeviceService σ] (service : σ) (path : Path) (d : Device) (v : Verbosity) :
    List Log.Event :=
  attempt service path ++
    if v = .raw then
      [Log.debug .resolver s!"Raw description of '{path.text}':\n{d.outline.block 0}"]
    else []

/-- With the raw description, what is logged tells which device has opened. -/
theorem Log.opening_raw_inj [DeviceService σ] {service : σ} {path : Path} {d d' : Device}
    (h : opening service path d .raw = opening service path d' .raw) : d = d' := by
  have events := List.append_cancel_left h
  have texts := congrArg Log.Event.message (List.cons.inj events).1
  exact Device.block_outline_inj ((String.append_right_inj _).mp texts)

/-- The events that are added for each amount of detail, from what is open to what is open then. -/
inductive Disclosure [DeviceService σ] (service : σ) :
    Option OpenDevice → Option OpenDevice → (Verbosity → List Log.Event) → Prop
  | nothing (o : Option OpenDevice) (events : List Log.Event) :
      Disclosure service o o fun _ => events
  | device {path : Path} {d : Device} (hd : loader service path = .ok d)
      (first later : List Log.Event) :
      Disclosure service none (some ⟨path, d⟩) fun v =>
        first ++ Log.opening service path d v ++ later

/-- There is no second device to be opened. -/
theorem Disclosure.trans [DeviceService σ] {service : σ} {o o' o'' : Option OpenDevice}
    {shown shown' : Verbosity → List Log.Event} (h : Disclosure service o o' shown)
    (h' : Disclosure service o' o'' shown') :
    Disclosure service o o'' fun v => shown v ++ shown' v := by
  cases h with
  | nothing o events =>
      cases h' with
      | nothing o events' => exact .nothing o (events ++ events')
      | device hd first later =>
          simp only [← List.append_assoc]
          exact .device hd (events ++ first) later
  | device hd first later =>
      cases h' with
      | nothing o events =>
          simp only [List.append_assoc _ later]
          exact .device hd first (later ++ events)

namespace Step

/-- Whatever was logged before, the step does the same, and adds to the log what is shown for the
detail asked for. -/
def Logs (m : Step σ α) (s : Session σ) (shown : Verbosity → List Log.Event) : Prop :=
  ∀ v log, m.run (s.relogged v log) = relogged v (log ++ shown v) (m.run s)

theorem Logs.bind_of_error {m : Step σ α} {k : α → Step σ β} {s s' : Session σ} {e : CommandError}
    {shown : Verbosity → List Log.Event} (h : m.Logs s shown) (hr : m.run s = .error e s') :
    (m >>= k).Logs s shown := by
  intro v log
  rw [EStateM.run_bind, EStateM.run_bind, h, hr]
  rfl

theorem Logs.bind_of_ok {m : Step σ α} {k : α → Step σ β} {s s' : Session σ} {a : α}
    {shown shown' : Verbosity → List Log.Event} (h : m.Logs s shown) (hr : m.run s = .ok a s')
    (h' : (k a).Logs s' shown') : (m >>= k).Logs s fun v => shown v ++ shown' v := by
  intro v log
  rw [EStateM.run_bind, EStateM.run_bind, h, hr, ← List.append_assoc]
  exact h' v (log ++ shown v)

/-- The session that is left at the end or by a failure. -/
def final : EStateM.Result CommandError (Session σ) α → Session σ
  | .ok _ s => s
  | .error _ s => s

variable [DeviceService σ]

/-! ## The opening of a device -/

section Opening

variable {s : Session σ} {word : String}

theorem run_openLast_of_missing (hw : s.args.getLast? = none) :
    (openLast : Step σ Unit).run s = .error (.device .missingPath) s := by
  simp [openLast, hw]

theorem run_openLast_of_error {e : DeviceError} (hw : s.args.getLast? = some word)
    (hd : loader s.service ⟨word⟩ = .error e) :
    (openLast : Step σ Unit).run s = .error (.device e) { s with
      calls := s.calls ++ [.load ⟨word⟩ false]
      log := s.log ++ Log.attempt s.service ⟨word⟩ } := by
  have hd : (DeviceService.load s.service ⟨word⟩).1 = .error e := hd
  simp [openLast, run_load, hw, hd, succeeded, Log.attempt]

theorem run_openLast_of_ok {d : Device} (hw : s.args.getLast? = some word)
    (hd : loader s.service ⟨word⟩ = .ok d) :
    (openLast : Step σ Unit).run s = .ok () { s with
      context := { s.context with device := some ⟨⟨word⟩, d⟩ }
      args := s.args.dropLast
      calls := s.calls ++ [.load ⟨word⟩ true]
      log := s.log ++ Log.opening s.service ⟨word⟩ d s.verbosity } := by
  have hd : (DeviceService.load s.service ⟨word⟩).1 = .ok d := hd
  by_cases hv : s.verbosity = .raw <;>
    simp [openLast, run_load, hw, hd, hv, succeeded, Log.opening, Log.attempt]

theorem run_resolveDevice_of_isSome (h : s.context.device.isSome) :
    (resolveDevice : Step σ Unit).run s = .ok () s := by
  obtain ⟨o, ho⟩ := Option.isSome_iff_exists.mp h
  simp [resolveDevice, ho]

end Opening

/-- The step discloses no more than the opening of one device, and changes nothing in the service. -/
def Discloses (m : Step σ α) : Prop :=
  ∀ s, (final (m.run s)).service = s.service ∧ ∃ shown, m.Logs s shown ∧
    Disclosure s.service s.context.device (final (m.run s)).context.device shown

namespace Discloses

theorem bind {m : Step σ α} {k : α → Step σ β} (hm : m.Discloses) (hk : ∀ a, (k a).Discloses) :
    (m >>= k).Discloses := by
  intro s
  obtain ⟨same, shown, logs, disclosure⟩ := hm s
  cases hr : m.run s with
  | error e s' =>
      rw [hr] at same disclosure
      rw [EStateM.run_bind, hr]
      exact ⟨same, shown, logs.bind_of_error hr, disclosure⟩
  | ok a s' =>
      rw [hr] at same disclosure
      obtain ⟨same', shown', logs', disclosure'⟩ := hk a s'
      have same : s'.service = s.service := same
      rw [EStateM.run_bind, hr]
      rw [same] at same' disclosure'
      exact ⟨same', _, logs.bind_of_ok hr logs', disclosure.trans disclosure'⟩

/-- A step that leaves the service and the open device alone. -/
theorem of_oblivious {m : Step σ α} (hm : m.Oblivious)
    (service : ∀ s, (final (m.run s)).service = s.service)
    (device : ∀ s, (final (m.run s)).context.device = s.context.device) : m.Discloses := by
  intro s
  obtain ⟨added, h⟩ := hm s
  refine ⟨service s, fun _ => added, h, ?_⟩
  rw [device]
  exact .nothing _ added

theorem pure (a : α) : (pure a : Step σ α).Discloses :=
  of_oblivious (.pure a) (fun _ => rfl) fun _ => rfl

theorem throw (e : CommandError) : (MonadExcept.throw e : Step σ α).Discloses :=
  of_oblivious (.throw e) (fun _ => rfl) fun _ => rfl

theorem note (e : Log.Event) : (Step.note e : Step σ Unit).Discloses :=
  of_oblivious (.note e) (fun _ => rfl) fun _ => rfl

theorem select {f : Context → Context} (h : ∀ c : Context, (f c).device = c.device) :
    (Step.select f : Step σ Unit).Discloses :=
  of_oblivious (.select f) (fun _ => rfl) fun s => h s.context

/-- To look at a session, but for its log. -/
theorem look {k : Session σ → Step σ β} (same : ∀ s v log, k (s.relogged v log) = k s)
    (h : ∀ s, (k s).Discloses) : (get >>= k).Discloses := by
  intro s
  obtain ⟨service, shown, logs, disclosure⟩ := h s s
  exact ⟨service, shown, fun v log => (run_look (same s v log)).trans (logs v log), disclosure⟩

theorem ofExcept (x : Except DeviceError α) : (Step.ofExcept x : Step σ α).Discloses := by
  cases x with
  | ok a => exact pure a
  | error e => exact throw _

theorem context : (Step.context : Step σ Context).Discloses :=
  look (fun _ _ _ => rfl) fun _ => pure _

/-! ## The steps of a walk -/

theorem model : (Step.model : Step σ Device).Discloses := bind context fun _ => ofExcept _

theorem profile : (Step.profile : Step σ Profile).Discloses := bind context fun _ => ofExcept _

theorem activeProfile : (Step.activeProfile : Step σ Nat).Discloses := by
  refine bind model fun d => ?_
  cases d.activeProfile? with
  | some index => exact pure index
  | none => exact throw _

theorem activeResolution : (Step.activeResolution : Step σ Nat).Discloses := by
  refine bind profile fun p => ?_
  cases p.activeResolution? with
  | some index => exact pure index
  | none => exact throw _

/-- Only where a device opens does the detail count. -/
theorem openLast {s : Session σ} (hs : s.context.device = none) :
    (final (Step.openLast.run s)).service = s.service ∧ ∃ shown, Step.openLast.Logs s shown ∧
      Disclosure s.service none (final (Step.openLast.run s)).context.device shown := by
  cases hw : s.args.getLast? with
  | none =>
      have missing (v : Verbosity) (log : List Log.Event) :=
        run_openLast_of_missing (s := s.relogged v log) hw
      rw [run_openLast_of_missing hw]
      refine ⟨rfl, fun _ => [], fun v log => ?_, ?_⟩
      · rw [run_openLast_of_missing hw, missing, List.append_nil]
        rfl
      · rw [final, hs]
        exact .nothing none []
  | some word =>
      cases hd : loader s.service ⟨word⟩ with
      | error e =>
          have refused (v : Verbosity) (log : List Log.Event) :=
            run_openLast_of_error (s := s.relogged v log) hw hd
          rw [run_openLast_of_error hw hd]
          refine ⟨rfl, fun _ => Log.attempt s.service ⟨word⟩, fun v log => ?_, ?_⟩
          · rw [run_openLast_of_error hw hd, refused]
            rfl
          · rw [final, hs]
            exact .nothing none _
      | ok d =>
          have opened (v : Verbosity) (log : List Log.Event) :=
            run_openLast_of_ok (s := s.relogged v log) hw hd
          rw [run_openLast_of_ok hw hd]
          refine ⟨rfl, Log.opening s.service ⟨word⟩ d, fun v log => ?_, ?_⟩
          · rw [run_openLast_of_ok hw hd, opened]
            rfl
          · have disclosure := Disclosure.device hd [] []
            simp only [List.nil_append, List.append_nil] at disclosure
            exact disclosure

theorem resolveDevice : (Step.resolveDevice : Step σ Unit).Discloses := by
  intro s
  cases hs : s.context.device with
  | none =>
      have opening (s' : Session σ) (h : s'.context = s.context) :
          (Step.resolveDevice : Step σ Unit).run s' = Step.openLast.run s' := by
        simp [Step.resolveDevice, h, hs]
      obtain ⟨service, shown, logs, disclosure⟩ := openLast hs
      rw [opening s rfl]
      refine ⟨service, shown, fun v log => ?_, disclosure⟩
      rw [opening s rfl, opening (s.relogged v log) rfl]
      exact logs v log
  | some o =>
      have met (s' : Session σ) (h : s'.context = s.context) :
          (Step.resolveDevice : Step σ Unit).run s' = .ok () s' :=
        run_resolveDevice_of_isSome (by simp [h, hs])
      rw [met s rfl]
      refine ⟨rfl, fun _ => [], fun v log => ?_, ?_⟩
      · rw [met s rfl, met (s.relogged v log) rfl, List.append_nil]
        rfl
      · change Disclosure s.service (some o) s.context.device _
        rw [hs]
        exact .nothing _ []

theorem resolveProfile : (Step.resolveProfile : Step σ Unit).Discloses := by
  refine bind context fun c => ?_
  cases c.profile with
  | none => exact bind activeProfile fun index => bind (note _) fun _ => select fun _ => rfl
  | some i => exact pure ()

theorem resolveResolution : (Step.resolveResolution : Step σ Unit).Discloses := by
  refine bind context fun c => ?_
  cases c.resolution with
  | none => exact bind activeResolution fun index => bind (note _) fun _ => select fun _ => rfl
  | some i => exact pure ()

theorem resolve (r : Requirement) : (Step.resolve r : Step σ Unit).Discloses := by
  cases r with
  | nothing => exact pure ()
  | device => exact resolveDevice
  | profile => exact bind resolveDevice fun _ => resolveProfile
  | resolution =>
      exact bind resolveDevice fun _ => bind resolveProfile fun _ => resolveResolution

theorem keepWords (words : List String) :
    (modify fun s => { s with args := words } : Step σ Unit).Discloses :=
  of_oblivious (.silent fun _ _ _ => rfl) (fun _ => rfl) fun _ => rfl

theorem nextWord (node : String) : (Step.nextWord node : Step σ String).Discloses := by
  refine look (fun _ _ _ => rfl) fun s => ?_
  cases Words.takeFirst? s.args with
  | none => exact throw _
  | some next => exact bind (keepWords next.2) fun _ => pure next.1

theorem nextIndex? : (Step.nextIndex? : Step σ (Option Nat)).Discloses := by
  refine look (fun _ _ _ => rfl) fun s => ?_
  cases Words.takeIndex? s.args with
  | none => exact pure none
  | some next => exact bind (keepWords next.2) fun _ => pure _

theorem nextIndexOr {active : Step σ Nat} (h : active.Discloses) :
    (Step.nextIndexOr active).Discloses := by
  refine bind nextIndex? fun index => ?_
  cases index with
  | some i => exact pure i
  | none => exact h

theorem expectMore (node : String) : (Step.expectMore node : Step σ Unit).Discloses := by
  refine look (fun _ _ _ => rfl) fun s => ?_
  cases s.args.isEmpty with
  | true => exact throw _
  | false => exact pure ()

theorem selectProfile (index : Nat) : (Step.selectProfile index : Step σ Unit).Discloses := by
  refine bind model fun d => ?_
  cases d.profiles[index]? with
  | none => exact throw _
  | some p => exact bind (note _) fun _ => select fun _ => rfl

theorem selectResolution (index : Nat) : (Step.selectResolution index : Step σ Unit).Discloses := by
  refine bind profile fun p => ?_
  cases p.resolutions[index]? with
  | none => exact throw _
  | some r => exact bind (note _) fun _ => select fun _ => rfl

theorem selectButton (index : Nat) : (Step.selectButton index : Step σ Unit).Discloses :=
  bind (note _) fun _ => select fun _ => rfl

theorem router (node : String) (r : Router) : (r.select node : Step σ Unit).Discloses := by
  cases r with
  | profile => exact bind (expectMore node) fun _ => bind (nextIndexOr activeProfile) selectProfile
  | resolution =>
      exact bind (expectMore node) fun _ => bind (nextIndexOr activeResolution) selectResolution
  | button =>
      refine bind nextIndex? fun index => ?_
      cases index with
      | none => exact pure ()
      | some i => exact selectButton i

end Discloses

end Step

open Step

/-! ## Whole walks -/

variable [DeviceService σ]

mutual

/-- By recursion on the tree, together with lists of siblings. -/
theorem Node.enter_discloses : (n : Node) → (n.enter : Step σ Target).Discloses
  | ⟨name, hint, help, requirement, handler, children⟩ => by
    have below (word : String) : (enterChild word children : Step σ Target).Discloses :=
      enterChild_discloses word children
    simp only [Node.enter]
    refine .bind (.note _) fun _ => .bind (.resolve requirement) fun _ => ?_
    rcases handler with _ | r | t
    · exact .bind (.nextWord name) below
    · exact .bind (.router name r) fun _ => .bind (.nextWord name) below
    · exact .pure _

theorem enterChild_discloses (word : String) : (nodes : List Node) →
    (enterChild word nodes : Step σ Target).Discloses
  | [] => .throw _
  | c :: rest => by
    have first : (c.enter : Step σ Target).Discloses := c.enter_discloses
    have others : (enterChild word rest : Step σ Target).Discloses :=
      enterChild_discloses word rest
    simp only [enterChild]
    cases c.name == word with
    | true => exact first
    | false => exact others

end

theorem Node.walk_discloses (n : Node) : (n.walk : Step σ Target).Discloses :=
  .bind (.nextWord n.name) fun word => enterChild_discloses word n.children

end MouseConfig
