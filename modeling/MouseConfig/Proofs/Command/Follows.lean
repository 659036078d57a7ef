import MouseConfig.Proofs.Command.Search

/-! # Walks follow searches

Each step of a walk does to a session what the move of the same name does to its stand.  The
service, the output and the commands noted stay as they are, and the log only grows.
-/

namespace MouseConfig

variable {σ : Type} {α β : Type}

namespace Session

/-- Where a session stands in its search. -/
def stand (s : Session σ) : Stand := ⟨s.context, s.args, s.calls⟩

/-- The session after a search has moved its stand. -/
def moved (s : Session σ) (p : Stand) (log : List Log.Event) : Session σ :=
  { s with context := p.context, args := p.args, calls := p.calls, log := s.log ++ log }

@[simp] theorem stand_moved (s : Session σ) (p : Stand) (log : List Log.Event) :
    (s.moved p log).stand = p := rfl

@[simp] theorem service_moved (s : Session σ) (p : Stand) (log : List Log.Event) :
    (s.moved p log).service = s.service := rfl

@[simp] theorem moved_moved (s : Session σ) (p q : Stand) (log log' : List Log.Event) :
    (s.moved p log).moved q log' = s.moved q (log ++ log') := by
  simp [moved, List.append_assoc]

/-- What a search comes to, with the session around its stand. -/
def arrive (s : Session σ) (log : List Log.Event) :
    EStateM.Result CommandError Stand α → EStateM.Result CommandError (Session σ) α
  | .ok a p => .ok a (s.moved p log)
  | .error e p => .error e (s.moved p log)

@[simp] theorem arrive_ok (s : Session σ) (log : List Log.Event) (a : α) (p : Stand) :
    s.arrive log (.ok a p) = .ok a (s.moved p log) := rfl

@[simp] theorem arrive_error (s : Session σ) (log : List Log.Event) (e : CommandError) (p : Stand) :
    s.arrive log (.error e p : EStateM.Result _ _ α) = .error e (s.moved p log) := rfl

theorem arrive_moved (s : Session σ) (p : Stand) (log log' : List Log.Event)
    (r : EStateM.Result CommandError Stand α) :
    (s.moved p log).arrive log' r = s.arrive (log ++ log') r := by
  cases r <;> simp

end Session

variable [DeviceService σ]

/-- What there is at the paths of a service. -/
def loader (service : σ) : Loader := fun path => (DeviceService.load service path).1

namespace Step

/-- The step does to every session what the search does to its stand, and adds to the log. -/
def Follows (m : Step σ α) (f : Loader → Search α) : Prop :=
  ∀ s, ∃ log, m.run s = s.arrive log ((f (loader s.service)).run s.stand)

namespace Follows

theorem pure (a : α) : (pure a : Step σ α).Follows fun _ => Pure.pure a :=
  fun s => ⟨[], by simp [Session.arrive, Session.moved, Session.stand]⟩

theorem throw (e : CommandError) :
    (MonadExcept.throw e : Step σ α).Follows fun _ => MonadExcept.throw e :=
  fun s => ⟨[], by
    change EStateM.Result.error e s = .error e (s.moved s.stand [])
    simp [Session.moved, Session.stand]⟩

theorem ofExcept (x : Except DeviceError α) :
    (Step.ofExcept x : Step σ α).Follows fun _ => Search.ofExcept x := by
  cases x with
  | ok a => exact pure a
  | error e => exact throw _

theorem note (e : Log.Event) : (Step.note e : Step σ Unit).Follows fun _ => Pure.pure () :=
  fun _ => ⟨[e], rfl⟩

theorem select (f : Context → Context) :
    (Step.select f : Step σ Unit).Follows fun _ => Search.select f :=
  fun s => ⟨[], by simp [Session.arrive, Session.moved, Session.stand, Search.select]⟩

theorem bind {m : Step σ α} {f : Loader → Search α} {k : α → Step σ β} {g : α → Loader → Search β}
    (hm : m.Follows f) (hk : ∀ a, (k a).Follows (g a)) :
    (m >>= k).Follows fun load => f load >>= fun a => g a load := by
  intro s
  obtain ⟨log, h⟩ := hm s
  simp only [EStateM.run_bind, h]
  cases (f (loader s.service)).run s.stand with
  | error e p => exact ⟨log, rfl⟩
  | ok a p =>
      obtain ⟨log', h'⟩ := hk a (s.moved p log)
      exact ⟨log ++ log', by simpa [Session.arrive_moved] using h'⟩

/-- A step whose log does not count may stand in front. -/
theorem note_bind (e : Log.Event) {m : Step σ β} {g : Loader → Search β} (hm : m.Follows g) :
    (Step.note e >>= fun _ => m).Follows g := by
  have h := bind (note (σ := σ) e) fun _ => hm
  simpa using h

theorem context : (Step.context : Step σ Context).Follows fun _ => Search.context :=
  fun s => ⟨[], by simp [Session.moved, Session.stand]⟩

/-! ## The steps of a walk -/

theorem model : (Step.model : Step σ Device).Follows fun _ => Search.model :=
  bind context fun _ => ofExcept _

theorem profile : (Step.profile : Step σ Profile).Follows fun _ => Search.profile :=
  bind context fun _ => ofExcept _

theorem activeProfile : (Step.activeProfile : Step σ Nat).Follows fun _ => Search.activeProfile := by
  refine bind model fun d => ?_
  cases d.activeProfile? with
  | none => exact throw _
  | some index => exact pure index

theorem activeResolution :
    (Step.activeResolution : Step σ Nat).Follows fun _ => Search.activeResolution := by
  refine bind profile fun p => ?_
  cases p.activeResolution? with
  | none => exact throw _
  | some index => exact pure index

/-- What the service logs, and the raw description if it is asked for, only the session has. -/
theorem openLast : (Step.openLast : Step σ Unit).Follows Search.openLast := by
  intro s
  cases hw : s.args.getLast? with
  | none => exact ⟨[], by simp [Step.openLast, Search.openLast, Session.moved, Session.stand, hw]⟩
  | some word =>
      let opening := Log.debug .resolver s!"Opening device '{word}'"
      let logged := (DeviceService.load s.service ⟨word⟩).2
      cases hd : (DeviceService.load s.service ⟨word⟩).1 with
      | error e =>
          refine ⟨opening :: logged, ?_⟩
          simp [Step.openLast, Search.openLast, run_load, loader, Session.moved, Session.stand, hw,
            hd, opening, logged]
      | ok d =>
          by_cases hv : s.verbosity = .raw
          · let raw := Log.debug .resolver s!"Raw description of '{word}':\n{d.outline.block 0}"
            refine ⟨opening :: logged ++ [raw], ?_⟩
            simp [Step.openLast, Search.openLast, run_load, loader, Session.moved, Session.stand,
              hw, hd, hv, opening, logged, raw]
          · refine ⟨opening :: logged, ?_⟩
            simp [Step.openLast, Search.openLast, run_load, loader, Session.moved, Session.stand,
              hw, hd, hv, opening, logged]

theorem resolveDevice : (Step.resolveDevice : Step σ Unit).Follows Search.resolveDevice := by
  refine bind context fun c => ?_
  cases c.device with
  | none => exact openLast
  | some o => exact pure ()

theorem resolveProfile : (Step.resolveProfile : Step σ Unit).Follows fun _ => Search.resolveProfile := by
  refine bind context fun c => ?_
  cases c.profile with
  | none => exact bind activeProfile fun index => note_bind _ (select _)
  | some i => exact pure ()

theorem resolveResolution :
    (Step.resolveResolution : Step σ Unit).Follows fun _ => Search.resolveResolution := by
  refine bind context fun c => ?_
  cases c.resolution with
  | none => exact bind activeResolution fun index => note_bind _ (select _)
  | some i => exact pure ()

theorem resolve (r : Requirement) :
    (Step.resolve r : Step σ Unit).Follows fun load => Search.resolve load r := by
  cases r with
  | nothing => exact pure ()
  | device => exact resolveDevice
  | profile => exact bind resolveDevice fun _ => resolveProfile
  | resolution =>
      exact bind resolveDevice fun _ => bind resolveProfile fun _ => resolveResolution

theorem nextWord (node : String) :
    (Step.nextWord node : Step σ String).Follows fun _ => Search.nextWord node := by
  intro s
  refine ⟨[], ?_⟩
  cases hw : Words.takeFirst? s.args with
  | none => simp [Step.nextWord, Search.nextWord, Session.moved, Session.stand, hw, -bind_pure_comp]
  | some p => simp [Step.nextWord, Search.nextWord, Session.moved, Session.stand, hw, -bind_pure_comp]

theorem nextIndex? : (Step.nextIndex? : Step σ (Option Nat)).Follows fun _ => Search.nextIndex? := by
  intro s
  refine ⟨[], ?_⟩
  cases hw : Words.takeIndex? s.args with
  | none => simp [Step.nextIndex?, Search.nextIndex?, Session.moved, Session.stand, hw, -bind_pure_comp]
  | some p => simp [Step.nextIndex?, Search.nextIndex?, Session.moved, Session.stand, hw, -bind_pure_comp]

theorem nextIndexOr {m : Step σ Nat} {f : Loader → Search Nat} (hm : m.Follows f) :
    (Step.nextIndexOr m).Follows fun load => Search.nextIndexOr (f load) := by
  refine bind nextIndex? fun index => ?_
  cases index with
  | none => exact hm
  | some i => exact pure i

theorem expectMore (node : String) :
    (Step.expectMore node : Step σ Unit).Follows fun _ => Search.expectMore node := by
  rintro ⟨service, verbosity, words, c, calls, log, output, reached⟩
  refine ⟨[], ?_⟩
  cases words <;> simp [Step.expectMore, Search.expectMore, Session.moved, Session.stand]

theorem selectProfile (index : Nat) :
    (Step.selectProfile index : Step σ Unit).Follows fun _ => Search.selectProfile index := by
  refine bind model fun d => ?_
  cases d.profiles[index]? with
  | none => exact throw _
  | some p => exact note_bind _ (select _)

theorem selectResolution (index : Nat) :
    (Step.selectResolution index : Step σ Unit).Follows fun _ => Search.selectResolution index := by
  refine bind profile fun p => ?_
  cases p.resolutions[index]? with
  | none => exact throw _
  | some r => exact note_bind _ (select _)

theorem selectButton (index : Nat) :
    (Step.selectButton index : Step σ Unit).Follows fun _ => Search.selectButton index :=
  note_bind _ (select _)

theorem router (node : String) (r : Router) :
    (r.select node : Step σ Unit).Follows fun _ => r.seek node := by
  cases r with
  | profile =>
      exact bind (expectMore node) fun _ => bind (nextIndexOr activeProfile) selectProfile
  | resolution =>
      exact bind (expectMore node) fun _ => bind (nextIndexOr activeResolution) selectResolution
  | button =>
      refine bind nextIndex? fun index => ?_
      cases index with
      | none => exact pure ()
      | some i => exact selectButton i

end Follows

end Step

open Step

/-! ## Whole walks -/

mutual

/-- By recursion on the tree, together with lists of siblings. -/
theorem Node.enter_follows : (n : Node) → (n.enter : Step σ Target).Follows n.seekFrom
  | ⟨name, hint, help, requirement, handler, children⟩ => by
    have below (word : String) : (enterChild word children : Step σ Target).Follows
        fun load => seekChild load word children := enterChild_follows word children
    simp only [Node.enter, Node.seekFrom]
    refine Follows.note_bind _ (Follows.bind (Follows.resolve requirement) fun _ => ?_)
    rcases handler with _ | r | t
    · exact Follows.bind (Follows.nextWord name) below
    · exact Follows.bind (Follows.router name r) fun _ =>
        Follows.bind (Follows.nextWord name) below
    · exact Follows.pure _

theorem enterChild_follows (word : String) : (nodes : List Node) →
    (enterChild word nodes : Step σ Target).Follows fun load => seekChild load word nodes
  | [] => Follows.throw _
  | c :: rest => by
    have first : (c.enter : Step σ Target).Follows c.seekFrom := c.enter_follows
    have others : (enterChild word rest : Step σ Target).Follows
      fun load => seekChild load word rest := enterChild_follows word rest
    simp only [enterChild, seekChild]
    cases c.name == word with
    | true => exact first
    | false => exact others

end

/-- A walk does to a session what the search does to its stand. -/
theorem Node.walk_follows (n : Node) : (n.walk : Step σ Target).Follows fun load => n.seek load :=
  Follows.bind (Follows.nextWord n.name) fun word => enterChild_follows word n.children

end MouseConfig
