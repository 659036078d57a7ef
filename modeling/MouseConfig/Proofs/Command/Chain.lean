import MouseConfig.Proofs.Command.Course
import MouseConfig.Proofs.Command.Lawful
import MouseConfig.Proofs.Command.Level

/-! # Chains of commands

What the words of a line name in a tree, said without walking: a chain of children, down to the
first that has a handler, and behind their names the words left to it and the path of the device
that it needs.  Where no such chain is named, there is a first step that fails.  A search finds just
that, also where the path has been taken from the back long before the last name is looked for.
-/

namespace MouseConfig

variable {load : Loader} {words args args' : List String} {c c' : Context} {r level : Requirement}
  {e : DeviceError} {o : OpenDevice} {i j : Nat} {p : Profile}

/-! ## What is needed -/

/-- The last of some words is the path of a device. -/
structure Opens (load : Loader) (words args : List String) (o : OpenDevice) : Prop where
  last : words = args ++ [o.path.text]
  loads : load o.path = .ok o.model

/-- From the words behind the name of a command, its needs make a selection and leave it some. -/
inductive Gathers (load : Loader) (words : List String) :
    Requirement → Context → List String → Prop
  | nothing : Gathers load words .nothing {} words
  | device {args : List String} {o : OpenDevice} (ho : Opens load words args o) :
      Gathers load words .device { device := some o } args
  | profile {args : List String} {o : OpenDevice} {i : Nat} (ho : Opens load words args o)
      (hi : o.model.activeProfile? = some i) :
      Gathers load words .profile { device := some o, profile := some i } args
  | resolution {args : List String} {o : OpenDevice} {i j : Nat} {p : Profile}
      (ho : Opens load words args o) (hi : o.model.activeProfile? = some i)
      (hp : o.model.profiles[i]? = some p) (hj : p.activeResolution? = some j) :
      Gathers load words .resolution
        { device := some o, profile := some i, resolution := some j } args

/-- What is missing first of all that a command needs. -/
inductive Misses (load : Loader) (words : List String) : Requirement → DeviceError → Prop
  | path {r : Requirement} (hr : .device ≤ r) (hw : words = []) : Misses load words r .missingPath
  | device {r : Requirement} {args : List String} {last : String} {e : DeviceError}
      (hr : .device ≤ r) (hw : words = args ++ [last]) (hd : load ⟨last⟩ = .error e) :
      Misses load words r e
  | profile {r : Requirement} {args : List String} {o : OpenDevice} (hr : .profile ≤ r)
      (ho : Opens load words args o) (ha : o.model.activeProfile? = none) :
      Misses load words r .noActiveProfile
  | resolution {r : Requirement} {args : List String} {o : OpenDevice} {i : Nat} {p : Profile}
      (hr : .resolution ≤ r) (ho : Opens load words args o) (hi : o.model.activeProfile? = some i)
      (hp : o.model.profiles[i]? = some p) (ha : p.activeResolution? = none) :
      Misses load words r .noActiveResolution

namespace Opens

theorem ne_nil (h : Opens load words args o) : words ≠ [] := by
  rw [h.last]
  exact List.append_ne_nil_of_right_ne_nil _ (List.cons_ne_nil _ _)

theorem not_error {last : String} (h : Opens load words args o) (hw : words = args' ++ [last]) :
    load ⟨last⟩ ≠ .error e := by
  obtain ⟨-, hlast⟩ := List.append_inj' (hw.symm.trans h.last) rfl
  rw [(List.cons.inj hlast).1, show (⟨o.path.text⟩ : Path) = o.path from rfl, h.loads]
  exact nofun

theorem unique {o' : OpenDevice} (h : Opens load words args o)
    (h' : Opens load words args' o') : args = args' ∧ o = o' := by
  obtain ⟨path, d⟩ := o
  obtain ⟨path', d'⟩ := o'
  obtain ⟨hargs, hlast⟩ := List.append_inj' (h.last.symm.trans h'.last) rfl
  obtain rfl : path = path' := congrArg Path.mk (List.cons.inj hlast).1
  have same : d = d' := Except.ok.inj (h.loads.symm.trans h'.loads)
  rw [same]
  exact ⟨hargs, rfl⟩

end Opens

namespace Gathers

theorem unique (h : Gathers load words r c args) (h' : Gathers load words r c' args') :
    c = c' ∧ args = args' := by
  cases h with
  | nothing =>
      cases h'
      exact ⟨rfl, rfl⟩
  | device ho =>
      cases h' with
      | device ho' =>
          obtain ⟨rfl, rfl⟩ := ho.unique ho'
          exact ⟨rfl, rfl⟩
  | profile ho hi =>
      cases h' with
      | profile ho' hi' =>
          obtain ⟨rfl, rfl⟩ := ho.unique ho'
          cases hi.symm.trans hi'
          exact ⟨rfl, rfl⟩
  | resolution ho hi hp hj =>
      cases h' with
      | resolution ho' hi' hp' hj' =>
          obtain ⟨rfl, rfl⟩ := ho.unique ho'
          cases hi.symm.trans hi'
          cases hp.symm.trans hp'
          cases hj.symm.trans hj'
          exact ⟨rfl, rfl⟩

/-- The words to come do not matter to what stands in front of them. -/
theorem cons (h : Gathers load words r c args) (word : String) :
    Gathers load (word :: words) r c (word :: args) := by
  have opens {o : OpenDevice} (ho : Opens load words args o) :
      Opens load (word :: words) (word :: args) o :=
    ⟨by rw [ho.last]; rfl, ho.loads⟩
  cases h with
  | nothing => exact .nothing
  | device ho => exact .device (opens ho)
  | profile ho hi => exact .profile (opens ho) hi
  | resolution ho hi hp hj => exact .resolution (opens ho) hi hp hj

theorem append (h : Gathers load words r c args) (front : List String) :
    Gathers load (front ++ words) r c (front ++ args) := by
  induction front with
  | nil => exact h
  | cons word rest ih => exact ih.cons word

theorem tail {word : String} (h : Gathers load words r c (word :: args)) :
    ∃ rest, words = word :: rest ∧ Gathers load rest r c args := by
  have opens {o : OpenDevice} (ho : Opens load words (word :: args) o) :
      words = word :: (args ++ [o.path.text]) ∧ Opens load (args ++ [o.path.text]) args o :=
    ⟨ho.last, rfl, ho.loads⟩
  cases h with
  | nothing => exact ⟨args, rfl, .nothing⟩
  | device ho => exact ⟨_, (opens ho).1, .device (opens ho).2⟩
  | profile ho hi => exact ⟨_, (opens ho).1, .profile (opens ho).2 hi⟩
  | resolution ho hi hp hj => exact ⟨_, (opens ho).1, .resolution (opens ho).2 hi hp hj⟩

/-- Who has all that is needed has what less needs. -/
theorem lower (h : Gathers load words r c args) (hl : level ≤ r) :
    ∃ c' args', Gathers load words level c' args' := by
  have short {r r' : Requirement} (h : r' ≤ r) (hr : ¬ r' ≤ r) : False := hr h
  cases level with
  | nothing => exact ⟨_, _, .nothing⟩
  | device =>
      cases h with
      | nothing => exact (short hl (by decide)).elim
      | device ho | profile ho | resolution ho => exact ⟨_, _, .device ho⟩
  | profile =>
      cases h with
      | nothing | device => exact (short hl (by decide)).elim
      | profile ho hi | resolution ho hi => exact ⟨_, _, .profile ho hi⟩
  | resolution =>
      cases h with
      | nothing | device | profile => exact (short hl (by decide)).elim
      | resolution ho hi hp hj => exact ⟨_, _, .resolution ho hi hp hj⟩

/-- The last word is the path, for all that has needs. -/
theorem exists_opens (h : Gathers load words r c args) (hr : .device ≤ r) :
    ∃ o, Opens load words args o := by
  cases h with
  | nothing => exact absurd hr (by decide)
  | device ho | profile ho | resolution ho => exact ⟨_, ho⟩

/-- Nothing is missing where all that is needed has been gathered. -/
theorem not_misses (h : Gathers load words r c args) : ¬ Misses load words r e := by
  intro hm
  cases hm with
  | path hr hw =>
      obtain ⟨o, ho⟩ := h.exists_opens hr
      exact ho.ne_nil hw
  | device hr hw hd =>
      obtain ⟨o, ho⟩ := h.exists_opens hr
      exact ho.not_error hw hd
  | profile hr ho ha =>
      cases h with
      | nothing | device => exact absurd hr (by decide)
      | profile ho' hi | resolution ho' hi =>
          obtain ⟨rfl, rfl⟩ := ho.unique ho'
          cases ha.symm.trans hi
  | resolution hr ho hi hp ha =>
      cases h with
      | nothing | device | profile => exact absurd hr (by decide)
      | resolution ho' hi' hp' hj =>
          obtain ⟨rfl, rfl⟩ := ho.unique ho'
          cases hi.symm.trans hi'
          cases hp.symm.trans hp'
          cases ha.symm.trans hj

end Gathers

namespace Misses

theorem mono (h : Misses load words r e) (hr : r ≤ level) : Misses load words level e := by
  cases h with
  | path hd hw => exact .path (Nat.le_trans hd hr) hw
  | device hd hw he => exact .device (Nat.le_trans hd hr) hw he
  | profile hd ho ha => exact .profile (Nat.le_trans hd hr) ho ha
  | resolution hd ho hi hp ha => exact .resolution (Nat.le_trans hd hr) ho hi hp ha

/-- What is missing first is one thing. -/
theorem unique {e' : DeviceError} (h : Misses load words r e) (h' : Misses load words r e') :
    e = e' := by
  cases h with
  | path _ hw =>
      cases h' with
      | path => rfl
      | device _ hw' => exact absurd (hw'.symm.trans hw) (by simp)
      | profile _ ho | resolution _ ho => exact absurd hw ho.ne_nil
  | device _ hw hd =>
      cases h' with
      | path _ hw' => exact absurd (hw.symm.trans hw') (by simp)
      | device _ hw' hd' =>
          obtain ⟨-, hlast⟩ := List.append_inj' (hw.symm.trans hw') rfl
          rw [(List.cons.inj hlast).1] at hd
          exact Except.error.inj (hd.symm.trans hd')
      | profile _ ho | resolution _ ho => exact absurd hd (ho.not_error hw)
  | profile _ ho ha =>
      cases h' with
      | path _ hw => exact absurd hw ho.ne_nil
      | device _ hw hd => exact absurd hd (ho.not_error hw)
      | profile => rfl
      | resolution _ ho' hi =>
          obtain ⟨rfl, rfl⟩ := ho.unique ho'
          cases ha.symm.trans hi
  | resolution _ ho hi hp ha =>
      cases h' with
      | path _ hw => exact absurd hw ho.ne_nil
      | device _ hw hd => exact absurd hd (ho.not_error hw)
      | profile _ ho' ha' =>
          obtain ⟨rfl, rfl⟩ := ho.unique ho'
          cases hi.symm.trans ha'
      | resolution => rfl

end Misses

/-! ## Resolving -/

namespace Search

/-- Needs that are met one after the other, from what has been gathered for a level. -/
def Meets (load : Loader) (words : List String) (level : Requirement) (m : Search Unit)
    (r : Requirement) : Prop :=
  Leads (fun p => Gathers load words level p.context p.args) m
    (fun _ p => Gathers load words (level.join r) p.context p.args)
    fun e _ => ∃ e', e = .device e' ∧ Misses load words r e'

namespace Meets

theorem resolveDevice : Meets load words level (Search.resolveDevice load) .device := by
  rintro ⟨c, args, calls⟩ h
  cases h with
  | nothing =>
      rw [run_resolveDevice_of_none rfl]
      rcases List.eq_nil_or_concat' args with rfl | ⟨front, last, rfl⟩
      · rw [run_openLast_of_missing rfl]
        exact ⟨_, rfl, .path (by decide) rfl⟩
      · cases hd : load ⟨last⟩ with
        | error e =>
            rw [run_openLast_of_error List.getLast?_concat hd]
            exact ⟨e, rfl, .device (by decide) rfl hd⟩
        | ok d =>
            rw [run_openLast_of_ok List.getLast?_concat hd]
            exact .device ⟨by simp, hd⟩
  | device ho =>
      rw [run_resolveDevice_of_isSome rfl]
      exact .device ho
  | profile ho hi =>
      rw [run_resolveDevice_of_isSome rfl]
      exact .profile ho hi
  | resolution ho hi hp hj =>
      rw [run_resolveDevice_of_isSome rfl]
      exact .resolution ho hi hp hj

theorem resolveProfile (hl : .device ≤ level) :
    Meets load words level Search.resolveProfile .profile := by
  rintro ⟨c, args, calls⟩ h
  cases h with
  | nothing => exact absurd hl (by decide)
  | @device args o ho =>
      cases ha : o.model.activeProfile? with
      | none =>
          rw [run_resolveProfile_of_inactive rfl rfl ha]
          exact ⟨_, rfl, .profile (by decide) ho ha⟩
      | some i =>
          rw [run_resolveProfile_of_active rfl rfl ha]
          exact .profile ho ha
  | profile ho hi =>
      rw [run_resolveProfile_of_isSome rfl]
      exact .profile ho hi
  | resolution ho hi hp hj =>
      rw [run_resolveProfile_of_isSome rfl]
      exact .resolution ho hi hp hj

theorem resolveResolution (hl : .profile ≤ level) :
    Meets load words level Search.resolveResolution .resolution := by
  rintro ⟨c, args, calls⟩ h
  cases h with
  | nothing => exact absurd hl (by decide)
  | device => exact absurd hl (by decide)
  | @profile args o i ho hi =>
      obtain ⟨p, hp⟩ := Device.exists_profile_of_activeProfile? hi
      have selected : ({ device := some o, profile := some i } : Context).selectedProfile = .ok p :=
        Context.selectedProfile_eq_ok_iff.mpr ⟨o.model, i, openModel_of_eq rfl, rfl, hp⟩
      cases ha : p.activeResolution? with
      | none =>
          rw [run_resolveResolution_of_inactive selected rfl ha]
          exact ⟨_, rfl, .resolution (by decide) ho hi hp ha⟩
      | some j =>
          rw [run_resolveResolution_of_active selected rfl ha]
          exact .resolution ho hi hp ha
  | resolution ho hi hp hj =>
      rw [run_resolveResolution_of_isSome rfl]
      exact .resolution ho hi hp hj

theorem bind {m m' : Search Unit} {r' : Requirement} (hm : Meets load words level m r)
    (hm' : Meets load words (level.join r) m' r') (hr : r ≤ r')
    (hj : (level.join r).join r' = level.join r') :
    Meets load words level (m >>= fun _ => m') r' := by
  refine Leads.bind (Leads.imp hm (fun _ hp => hp) (fun _ _ hp => hp) ?_) fun _ => ?_
  · rintro _ _ ⟨e, rfl, he⟩
    exact ⟨e, rfl, he.mono hr⟩
  · rw [Meets, hj] at hm'
    exact hm'

theorem resolve (r : Requirement) : Meets load words level (Search.resolve load r) r := by
  have device : .device ≤ level.join .device := by cases level <;> decide
  have profile : .profile ≤ level.join .profile := by cases level <;> decide
  have both : Meets load words level
      (Search.resolveDevice load >>= fun _ => Search.resolveProfile) .profile :=
    resolveDevice.bind (resolveProfile device) (by decide) (by cases level <;> rfl)
  cases r with
  | nothing =>
      intro p hp
      have same : level.join .nothing = level := by cases level <;> rfl
      rw [same]
      exact hp
  | device => exact resolveDevice
  | profile => exact both
  | resolution =>
      have all := both.bind (resolveResolution profile) (by decide) (by cases level <;> rfl)
      simpa only [Search.resolve, bind_assoc] using all

end Meets

end Search

/-- Whatever is needed, it can be gathered, or something is missing. -/
theorem gathers_or_misses (load : Loader) (words : List String) (r : Requirement) :
    (∃ c args, Gathers load words r c args) ∨ ∃ e, Misses load words r e := by
  have meets : Search.Meets load words .nothing (Search.resolve load r) r := Search.Meets.resolve r
  have h := meets { args := words } .nothing
  have same : Requirement.join .nothing r = r := by cases r <;> rfl
  cases hr : (Search.resolve load r).run { args := words } with
  | ok u p =>
      rw [hr, same] at h
      exact .inl ⟨p.context, p.args, h⟩
  | error e p =>
      rw [hr] at h
      obtain ⟨e', -, he⟩ := h
      exact .inr ⟨e', he⟩

/-! ## Chains -/

/-- Children below one another, from a node down to the first of them that has a handler. -/
inductive Node.Chain : Node → List Node → Node → Prop
  | last {n k : Node} (hk : k ∈ n.children) (hh : k.handler ≠ none) : Chain n [k] k
  | next {n k m : Node} {chain : List Node} (hk : k ∈ n.children) (hh : k.handler = none)
      (h : Chain k chain m) : Chain n (k :: chain) m

/-- The words name a node: the names down a chain to it, the words that are left to it, and the path
of the device that it needs, in which all that it needs is active. -/
structure Node.Called (load : Loader) (n : Node) (words : List String) (chain : List Node)
    (m : Node) (c : Context) (args : List String) : Prop where
  down : n.Chain chain m
  named : ∃ rest, words = chain.map (·.name) ++ rest ∧ Gathers load rest m.requirement c args

/-- The first step that fails on the way down from a node, where a level of needs has been met.  The
word that comes next is missing, or names no child, or the needs of the child that it names are not
met; or else the child has no handler, and it is a step below it. -/
inductive Node.Stops (load : Loader) : Requirement → Node → List String → CommandError → Prop
  | missing {level : Requirement} {n : Node} {words : List String} {c : Context}
      (hg : Gathers load words level c []) :
      Stops load level n words (.usage (.missingCommand n.name))
  | unknown {level : Requirement} {n : Node} {word : String} {rest args : List String} {c : Context}
      (hg : Gathers load rest level c args) (hw : ∀ k ∈ n.children, k.name ≠ word) :
      Stops load level n (word :: rest) (.usage (.unknownCommand word))
  | unmet {level : Requirement} {n k : Node} {rest args : List String} {c : Context}
      {e : DeviceError} (hg : Gathers load rest level c args) (hk : k ∈ n.children)
      (hm : Misses load rest k.requirement e) : Stops load level n (k.name :: rest) (.device e)
  | further {level : Requirement} {n k : Node} {rest args : List String} {c : Context}
      {e : CommandError} (hg : Gathers load rest level c args) (hk : k ∈ n.children)
      (hh : k.handler = none) (h : Stops load k.requirement k rest e) :
      Stops load level n (k.name :: rest) e

namespace Node

variable {n k m : Node} {chain chain' : List Node} {calls : List Call} {m' : Node}

/-- No node of a chain needs less than what has been met before it. -/
theorem Chain.le_requirement (h : n.Chain chain m) (hn : n.Lawful)
    (hl : ∀ k ∈ n.children, level ≤ k.requirement) : level ≤ m.requirement := by
  induction h generalizing level with
  | last hk => exact hl _ hk
  | next hk _ _ ih =>
      exact Nat.le_trans (hl _ hk) (ih (hn.child hk) fun m hm => hn.grows hk hm)

/-- Words name one node, by one chain, and leave it the same. -/
theorem Called.unique (hn : n.Lawful) (h : n.Called load words chain m c args)
    (h' : n.Called load words chain' m' c' args') :
    chain = chain' ∧ m = m' ∧ c = c' ∧ args = args' := by
  obtain ⟨hc, rest, hw, hg⟩ := h
  obtain ⟨hc', rest', hw', hg'⟩ := h'
  have names := hw.symm.trans hw'
  have same : chain = chain' ∧ m = m' ∧ rest = rest' := by
    clear hw hw' hg hg'
    induction hc generalizing chain' with
    | last hk hh =>
        cases hc' with
        | last hk' =>
            obtain ⟨hname, rfl⟩ := List.cons.inj names
            cases hn.eq_of_name_eq hk hk' hname
            exact ⟨rfl, rfl, rfl⟩
        | next hk' hh' =>
            cases hn.eq_of_name_eq hk hk' (List.cons.inj names).1
            exact absurd hh' hh
    | next hk hh _ ih =>
        cases hc' with
        | last hk' hh' =>
            cases hn.eq_of_name_eq hk hk' (List.cons.inj names).1
            exact absurd hh hh'
        | next hk' _ hc' =>
            obtain ⟨hname, below⟩ := List.cons.inj names
            cases hn.eq_of_name_eq hk hk' hname
            obtain ⟨rfl, rfl, rfl⟩ := ih (hn.child hk) hc' below
            exact ⟨rfl, rfl, rfl⟩
  obtain ⟨rfl, rfl, rfl⟩ := same
  obtain ⟨rfl, rfl⟩ := hg.unique hg'
  exact ⟨rfl, rfl, rfl, rfl⟩

/-- Either the words name a node, or there is a first step that fails.  By induction on the words,
with what the names before them have gathered. -/
theorem called_or_stops (hn : n.Lawful) (hl : ∀ k ∈ n.children, level ≤ k.requirement)
    (hg : Gathers load words level c args) :
    (∃ chain m c' args', n.Called load words chain m c' args') ∨
      ∃ e, n.Stops load level words e := by
  induction words generalizing n level c args with
  | nil =>
      have empty : args = [] := by
        cases hg with
        | nothing => rfl
        | device ho | profile ho | resolution ho => exact absurd rfl ho.ne_nil
      subst empty
      exact .inr ⟨_, .missing hg⟩
  | cons word rest ih =>
      rcases args with _ | ⟨first, args⟩
      · exact .inr ⟨_, .missing hg⟩
      obtain ⟨_, hw, behind⟩ := hg.tail
      obtain ⟨rfl, rfl⟩ := List.cons.inj hw
      by_cases hk : ∃ k ∈ n.children, k.name = word
      · obtain ⟨k, hk, rfl⟩ := hk
        rcases gathers_or_misses load rest k.requirement with
          ⟨c', args', hg'⟩ | ⟨e, hm⟩
        · by_cases hh : k.handler = none
          · rcases ih (hn.child hk) (fun m hm => hn.grows hk hm) hg' with
              ⟨chain, m, c'', args'', hc, rest', hw, hg''⟩ | ⟨e, he⟩
            · exact .inl ⟨k :: chain, m, c'', args'', .next hk hh hc, rest', by rw [hw]; rfl, hg''⟩
            · exact .inr ⟨e, .further behind hk hh he⟩
          · exact .inl ⟨[k], k, c', args', .last hk hh, rest, rfl, hg'⟩
        · exact .inr ⟨_, .unmet behind hk hm⟩
      · exact .inr ⟨_, .unknown behind fun k hk' hname => hk ⟨k, hk', hname⟩⟩

end Node

end MouseConfig
