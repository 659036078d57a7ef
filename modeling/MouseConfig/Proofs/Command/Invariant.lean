import MouseConfig.Proofs.Command.Inversion
import MouseConfig.Proofs.Session.Leads

/-! # Invariants of a search

A search drops words from the front, selects what is there, and opens a device if none is open.
What these three keep holds all through a search, in any tree.  A search that fails may have tried
to open a device in vain, and something weaker may be left.
-/

namespace MouseConfig

variable {α β : Type} {load : Loader} {P E : Stand → Prop}

namespace Search

/-- The search keeps `P` as long as it succeeds, and leaves `E` where it fails. -/
def Along (P E : Stand → Prop) (m : Search α) : Prop := Leads P m (fun _ => P) fun _ => E

/-- What is known besides does not count. -/
theorem Along.of_leads {m : Search α} {Q : α → Stand → Prop}
    (h : Leads P m (fun a p => P p ∧ Q a p) fun _ => E) : Along P E m :=
  Leads.imp h (fun _ hp => hp) (fun _ _ hp => hp.1) fun _ _ he => he

/-- What holds all through a search, and what is left where it fails. -/
structure Invariant (load : Loader) (P E : Stand → Prop) : Prop where
  fails : ∀ p, P p → E p
  words : ∀ p args, args <:+ p.args → P p → P { p with args := args }
  selects : ∀ (p : Stand) (c : Context), p.context.Selects c → P p → P { p with context := c }
  refused : ∀ p word e, P p → p.context.device = none → p.args.getLast? = some word →
    load ⟨word⟩ = .error e → E { p with calls := p.calls ++ [.load ⟨word⟩ false] }
  opened : ∀ p word d, P p → p.context.device = none → p.args.getLast? = some word →
    load ⟨word⟩ = .ok d →
    P { context := { p.context with device := some ⟨⟨word⟩, d⟩ }, args := p.args.dropLast,
        calls := p.calls ++ [.load ⟨word⟩ true] }

namespace Invariant

variable (h : Invariant load P E)

include h

/-! ## Looking at what is selected -/

omit h in
theorem context : Along P E Search.context := fun _ hp => hp

/-- What is found is there, and nothing has changed. -/
theorem look (found : Context → Except DeviceError α) :
    Leads P (Search.context >>= fun c => Search.ofExcept (found c))
      (fun a p => P p ∧ found p.context = .ok a) fun _ => E := by
  intro p hp
  rw [EStateM.run_bind]
  simp only [run_context]
  cases hr : found p.context with
  | ok a =>
      rw [run_ofExcept_ok]
      exact ⟨hp, hr⟩
  | error e =>
      rw [run_ofExcept_error]
      exact h.fails p hp

theorem model :
    Leads P Search.model (fun d p => P p ∧ p.context.openModel = .ok d) fun _ => E :=
  h.look Context.openModel

theorem profile :
    Leads P Search.profile (fun r p => P p ∧ p.context.selectedProfile = .ok r) fun _ => E :=
  h.look Context.selectedProfile

theorem activeProfile :
    Leads P Search.activeProfile (fun i p => P p ∧ ∃ d r, p.context.openModel = .ok d ∧
      d.profiles[i]? = some r) fun _ => E := by
  refine Leads.bind h.model fun d => ?_
  cases hi : d.activeProfile? with
  | none => exact Leads.throw fun p hp => h.fails p hp.1
  | some i =>
      obtain ⟨r, hr⟩ := Device.exists_profile_of_activeProfile? hi
      exact Leads.pure fun p hp => ⟨hp.1, d, r, hp.2, hr⟩

theorem activeResolution :
    Leads P Search.activeResolution (fun j p => P p ∧ ∃ r x, p.context.selectedProfile = .ok r ∧
      r.resolutions[j]? = some x) fun _ => E := by
  refine Leads.bind h.profile fun r => ?_
  cases hj : r.activeResolution? with
  | none => exact Leads.throw fun p hp => h.fails p hp.1
  | some j =>
      have hx := List.getElem?_eq_getElem (Profile.lt_of_activeResolution? hj)
      exact Leads.pure fun p hp => ⟨hp.1, r, _, hp.2, hx⟩

/-! ## Resolving -/

theorem select {f : Context → Context} {Q : Stand → Prop}
    (hf : ∀ p, Q p → p.context.Selects (f p.context)) :
    Leads (fun p => P p ∧ Q p) (Search.select f) (fun _ => P) fun _ => E :=
  Leads.move fun p hp => h.selects p _ (hf p hp.2) hp.1

theorem openLast : Leads (fun p => P p ∧ p.context.device = none) (Search.openLast load)
    (fun _ => P) fun _ => E := by
  rintro p ⟨hp, ho⟩
  cases hw : p.args.getLast? with
  | none =>
      rw [run_openLast_of_missing hw]
      exact h.fails p hp
  | some word =>
      cases hd : load ⟨word⟩ with
      | error e =>
          rw [run_openLast_of_error hw hd]
          exact h.refused p word e hp ho hw hd
      | ok d =>
          rw [run_openLast_of_ok hw hd]
          exact h.opened p word d hp ho hw hd

theorem resolveDevice : Along P E (Search.resolveDevice load) := by
  intro p hp
  cases ho : p.context.device with
  | some o =>
      rw [run_resolveDevice_of_isSome (by rw [ho]; rfl)]
      exact hp
  | none =>
      rw [run_resolveDevice_of_none ho]
      exact h.openLast p ⟨hp, ho⟩

theorem resolveProfile : Along P E Search.resolveProfile := by
  refine Leads.bind context fun c => ?_
  cases c.profile with
  | none =>
      refine Leads.bind h.activeProfile fun index => h.select ?_
      rintro p ⟨d, r, hd, hr⟩
      exact .profile hd hr
  | some i => exact Leads.pure fun _ hp => hp

theorem resolveResolution : Along P E Search.resolveResolution := by
  refine Leads.bind context fun c => ?_
  cases c.resolution with
  | none =>
      refine Leads.bind h.activeResolution fun index => h.select ?_
      rintro p ⟨r, x, hr, hx⟩
      exact .resolution hr hx
  | some i => exact Leads.pure fun _ hp => hp

theorem resolve (r : Requirement) : Along P E (Search.resolve load r) := by
  cases r with
  | nothing => exact Leads.pure fun _ hp => hp
  | device => exact h.resolveDevice
  | profile => exact Leads.bind h.resolveDevice fun _ => h.resolveProfile
  | resolution =>
      exact Leads.bind h.resolveDevice fun _ =>
        Leads.bind h.resolveProfile fun _ => h.resolveResolution

/-! ## Words and selections -/

theorem nextWord (node : String) : Along P E (Search.nextWord node) := by
  rintro ⟨c, _ | ⟨word, rest⟩, calls⟩ hp
  · exact h.fails _ hp
  · exact h.words _ rest (List.suffix_cons word rest) hp

theorem nextIndex? : Along P E Search.nextIndex? := by
  intro p hp
  cases hw : Words.takeIndex? p.args with
  | none =>
      rw [run_nextIndex?_of_none hw]
      exact hp
  | some found =>
      obtain ⟨index, rest⟩ := found
      rw [run_nextIndex?_of_some hw]
      refine h.words p rest ?_ hp
      rcases ha : p.args with _ | ⟨word, tail⟩
      · rw [ha] at hw
        cases hw
      · rw [ha] at hw
        obtain ⟨i, -, hi⟩ := Option.map_eq_some_iff.mp hw
        cases hi
        exact List.suffix_cons word rest

theorem nextIndexOr {active : Search Nat} (ha : Along P E active) :
    Along P E (Search.nextIndexOr active) := by
  refine Leads.bind h.nextIndex? fun index => ?_
  cases index with
  | none => exact ha
  | some i => exact Leads.pure fun _ hp => hp

theorem expectMore (node : String) : Along P E (Search.expectMore node) := by
  rintro ⟨c, _ | ⟨word, rest⟩, calls⟩ hp
  · exact h.fails _ hp
  · exact hp

theorem selectProfile (index : Nat) : Along P E (Search.selectProfile index) := by
  refine Leads.bind h.model fun d => ?_
  cases hp : d.profiles[index]? with
  | none => exact Leads.throw fun p hp => h.fails p hp.1
  | some r => exact h.select fun p hd => .profile hd hp

theorem selectResolution (index : Nat) : Along P E (Search.selectResolution index) := by
  refine Leads.bind h.profile fun r => ?_
  cases hx : r.resolutions[index]? with
  | none => exact Leads.throw fun p hp => h.fails p hp.1
  | some x => exact h.select fun p hr => .resolution hr hx

theorem selectButton (index : Nat) : Along P E (Search.selectButton index) :=
  Leads.move fun p hp => h.selects p _ (.button index) hp

theorem router (node : String) (r : Router) : Along P E (r.seek node) := by
  cases r with
  | profile =>
      exact Leads.bind (h.expectMore node) fun _ =>
        Leads.bind (h.nextIndexOr (.of_leads h.activeProfile)) h.selectProfile
  | resolution =>
      exact Leads.bind (h.expectMore node) fun _ =>
        Leads.bind (h.nextIndexOr (.of_leads h.activeResolution)) h.selectResolution
  | button =>
      refine Leads.bind h.nextIndex? fun index => ?_
      cases index with
      | none => exact Leads.pure fun _ hp => hp
      | some i => exact h.selectButton i

end Invariant

end Search

open Search

mutual

/-- By recursion on the tree, together with lists of siblings. -/
theorem Node.seekFrom_along (h : Invariant load P E) : (n : Node) → Along P E (n.seekFrom load)
  | ⟨name, hint, help, requirement, handler, children⟩ => by
    have below (word : String) : Along P E (seekChild load word children) :=
      seekChild_along h word children
    simp only [Node.seekFrom]
    refine Leads.bind (h.resolve requirement) fun _ => ?_
    rcases handler with _ | r | t
    · exact Leads.bind (h.nextWord name) below
    · exact Leads.bind (h.router name r) fun _ => Leads.bind (h.nextWord name) below
    · exact Leads.pure fun _ hp => hp

theorem seekChild_along (h : Invariant load P E) (word : String) :
    (nodes : List Node) → Along P E (seekChild load word nodes)
  | [] => Leads.throw h.fails
  | c :: rest => by
    have first : Along P E (c.seekFrom load) := c.seekFrom_along h
    have others : Along P E (seekChild load word rest) := seekChild_along h word rest
    simp only [seekChild]
    cases c.name == word with
    | true => exact first
    | false => exact others

end

theorem Node.seek_along (h : Invariant load P E) (n : Node) : Along P E (n.seek load) :=
  Leads.bind (h.nextWord n.name) fun word => seekChild_along h word n.children

end MouseConfig
