import MouseConfig.Proofs.Command.Lawful

/-! # What the check of a tree refuses

The check goes down a tree and stops at the first thing that is out of order.  The error that it
stops with is true of some node, so a tree where everything is in order is accepted.  That an
accepted tree is in order everywhere is read off its being lawful.
-/

namespace MouseConfig

namespace Node

/-- The node stands under another one, at any depth. -/
inductive Below : Node → Node → Prop
  | child {n k : Node} (hk : k ∈ n.children) : Below k n
  | deeper {n m k : Node} (hm : m ∈ n.children) (h : Below k m) : Below k n

/-- Two children of the node have the name. -/
def CallsTwo (n : Node) (name : String) : Prop :=
  ∃ a b, [a, b].Sublist n.children ∧ a.name = name ∧ b.name = name

theorem CallsTwo.not_nodup {n : Node} {name : String} (h : n.CallsTwo name) :
    ¬ (n.children.map (·.name)).Nodup := by
  obtain ⟨a, b, both, rfl, hb⟩ := h
  intro nodup
  have names : ([a, b].map (·.name)).Nodup := nodup.sublist (both.map _)
  simp [hb] at names

end Node

/-- What the error says is so at a node. -/
def TreeError.TrueOf (n : Node) : TreeError → Prop
  | duplicateName parent name => n.name = parent ∧ n.CallsTwo name
  | missingHandler name => n.name = name ∧ n.children = [] ∧ n.handler = none
  | requirementDecreases parent child =>
    n.name = parent ∧ ∃ k ∈ n.children, k.name = child ∧ k.requirement < n.requirement

/-- Every node of the tree is in order.  The root never runs: it needs no handler and bounds no
requirement, but the names of its children count. -/
structure Node.InOrder (root : Node) : Prop where
  names : ∀ n : Node, n = root ∨ n.Below root → (n.children.map (·.name)).Nodup
  leaves : ∀ n : Node, n.Below root → n.children = [] → n.handler ≠ none
  grows : ∀ n : Node, n.Below root → ∀ k ∈ n.children, n.requirement ≤ k.requirement

/-! ## Siblings -/

/-- A repeated name comes twice in the list, or once after it has been seen. -/
theorem Node.sublist_of_repeated? {seen names : List String} {name : String}
    (h : repeated? seen names = some name) :
    name ∈ seen ∧ name ∈ names ∨ [name, name].Sublist names := by
  induction names generalizing seen with
  | nil => cases h
  | cons first rest ih =>
      rw [repeated?] at h
      split at h
      · next known =>
        cases h
        exact .inl ⟨known, List.mem_cons_self⟩
      · rcases ih h with ⟨known, later⟩ | twice
        · rcases List.mem_cons.mp known with rfl | known
          · exact .inr ((List.singleton_sublist.mpr later).cons_cons name)
          · exact .inl ⟨known, List.mem_cons_of_mem first later⟩
        · exact .inr (twice.cons first)

theorem Node.trueOf_of_checkSiblings {n : Node} {e : TreeError} (h : n.checkSiblings = .error e) :
    e.TrueOf n ∧ ∃ name, e = .duplicateName n.name name := by
  rw [checkSiblings] at h
  cases hr : repeated? [] (n.children.map (·.name)) with
  | none => simp [hr] at h
  | some name =>
      have twice : [name, name].Sublist (n.children.map (·.name)) := by
        simpa using sublist_of_repeated? hr
      obtain ⟨both, below, names⟩ := List.sublist_map_iff.mp twice
      obtain ⟨a, rest, rfl, ha, names⟩ := List.map_eq_cons_iff.mp names.symm
      obtain ⟨b, rest, rfl, hb, names⟩ := List.map_eq_cons_iff.mp names
      cases List.map_eq_nil_iff.mp names
      simp only [hr] at h
      cases h
      exact ⟨⟨rfl, a, b, below, ha, hb⟩, name, rfl⟩

/-! ## Nodes -/

/-- Where the check of a node stops. -/
theorem Node.cases_of_check {n : Node} {e : TreeError} (h : n.check = .error e) :
    n.children = [] ∧ n.handler = none ∧ e = .missingHandler n.name ∨
      n.checkSiblings = .error e ∨ checkBelow n.name n.requirement n.children = .error e := by
  obtain ⟨name, hint, help, requirement, handler, children⟩ := n
  rw [check] at h
  by_cases hl : children.isEmpty && handler.isNone
  · rw [if_pos hl] at h
    cases h
    exact .inl (by simpa using hl)
  · rw [if_neg hl] at h
    cases hs : checkSiblings ⟨name, hint, help, requirement, handler, children⟩ with
    | error e' =>
        rw [hs] at h
        cases h
        exact .inr (.inl rfl)
    | ok u =>
        rw [hs] at h
        exact .inr (.inr h)

/-- Where the check of some siblings stops. -/
theorem cases_of_checkBelow {parent : String} {least : Requirement} {nodes : List Node}
    {e : TreeError} (h : Node.checkBelow parent least nodes = .error e) :
    ∃ k ∈ nodes, k.requirement < least ∧ e = .requirementDecreases parent k.name ∨
      k.check = .error e := by
  induction nodes with
  | nil => cases h
  | cons c rest ih =>
      rw [Node.checkBelow] at h
      by_cases hc : c.requirement < least
      · rw [if_pos hc] at h
        cases h
        exact ⟨c, List.mem_cons_self, .inl ⟨hc, rfl⟩⟩
      · rw [if_neg hc] at h
        cases hk : c.check with
        | error e' =>
            rw [hk] at h
            cases h
            exact ⟨c, List.mem_cons_self, .inr hk⟩
        | ok u =>
            rw [hk] at h
            obtain ⟨k, hk, stops⟩ := ih h
            exact ⟨k, List.mem_cons_of_mem c hk, stops⟩

mutual

/-- By recursion on the tree, together with lists of siblings. -/
theorem Node.exists_trueOf_of_check {e : TreeError} : (n : Node) → n.check = .error e →
    ∃ k, (k = n ∨ k.Below n) ∧ e.TrueOf k
  | ⟨name, hint, help, requirement, handler, children⟩, h => by
    rcases Node.cases_of_check h with ⟨leaf, unserved, rfl⟩ | hs | hb
    · exact ⟨_, .inl rfl, rfl, leaf, unserved⟩
    · exact ⟨_, .inl rfl, (Node.trueOf_of_checkSiblings hs).1⟩
    · obtain ⟨k, hk, ⟨less, rfl⟩ | hc⟩ := cases_of_checkBelow hb
      · exact ⟨_, .inl rfl, rfl, k, hk, rfl, less⟩
      · obtain ⟨m, rfl | hm, holds⟩ := exists_trueOf_of_checks children k hk hc
        · exact ⟨m, .inr (.child hk), holds⟩
        · exact ⟨m, .inr (.deeper hk hm), holds⟩

theorem exists_trueOf_of_checks {e : TreeError} : (nodes : List Node) → ∀ k ∈ nodes,
    k.check = .error e → ∃ m, (m = k ∨ m.Below k) ∧ e.TrueOf m
  | [] => fun _ hk => absurd hk List.not_mem_nil
  | c :: rest => by
    have first : c.check = .error e → ∃ m, (m = c ∨ m.Below c) ∧ e.TrueOf m :=
      c.exists_trueOf_of_check
    have others := exists_trueOf_of_checks (e := e) rest
    exact List.forall_mem_cons.mpr ⟨first, others⟩

end

/-! ## Trees -/

/-- At the root only a repeated name stops the check. -/
theorem Tree.exists_trueOf_of_check {root : Node} {e : TreeError} (h : check root = .error e) :
    ∃ n, e.TrueOf n ∧ (n.Below root ∨ n = root ∧ ∃ name, e = .duplicateName root.name name) := by
  rw [check] at h
  cases hb : Node.checkBelow root.name .nothing root.children with
  | error e' =>
      rw [hb] at h
      cases h
      obtain ⟨k, hk, ⟨less, -⟩ | hc⟩ := cases_of_checkBelow hb
      · exact absurd less (Nat.not_lt_zero _)
      · obtain ⟨n, rfl | hn, holds⟩ := k.exists_trueOf_of_check hc
        · exact ⟨n, holds, .inl (.child hk)⟩
        · exact ⟨n, holds, .inl (.deeper hk hn)⟩
  | ok u =>
      rw [hb] at h
      obtain ⟨holds, repeats⟩ := Node.trueOf_of_checkSiblings h
      exact ⟨root, holds, .inr ⟨rfl, repeats⟩⟩

/-- Where everything is in order no error is true. -/
theorem Node.InOrder.check_eq_ok {root : Node} (h : root.InOrder) : Tree.check root = .ok () := by
  cases hc : Tree.check root with
  | ok u => rfl
  | error e =>
      obtain ⟨n, holds, hn⟩ := Tree.exists_trueOf_of_check hc
      cases e with
      | duplicateName parent name =>
          have here : n = root ∨ n.Below root := hn.elim .inr fun root => .inl root.1
          exact absurd (h.names n here) holds.2.not_nodup
      | missingHandler name =>
          obtain hn | ⟨-, _, repeats⟩ := hn
          · exact absurd holds.2.2 (h.leaves n hn holds.2.1)
          · cases repeats
      | requirementDecreases parent child =>
          obtain hn | ⟨-, _, repeats⟩ := hn
          · obtain ⟨-, k, hk, -, less⟩ := holds
            exact absurd less (Nat.not_lt.mpr (h.grows n hn k hk))
          · cases repeats

/-- Every node is a root in order, and a child in order of the node above it. -/
theorem Node.Lawful.of_below {n k : Node} (below : k.Below n) (h : n.Lawful) :
    k.Lawful ∧ (k.children = [] → k.handler ≠ none) ∧
      ∀ m ∈ k.children, k.requirement ≤ m.requirement := by
  induction below with
  | child hk => exact ⟨h.child hk, h.leaves hk, fun m hm => h.grows hk hm⟩
  | deeper hm _ ih => exact ih (h.child hm)

theorem Node.Lawful.inOrder {root : Node} (h : root.Lawful) : root.InOrder where
  names n hn := by
    rcases hn with rfl | hn
    · exact h.names
    · exact (h.of_below hn).1.names
  leaves _ hn := (h.of_below hn).2.1
  grows _ hn := (h.of_below hn).2.2

theorem Tree.check_eq_ok_iff {root : Node} : check root = .ok () ↔ root.InOrder :=
  ⟨fun h => (lawful ⟨root, h⟩).inOrder, fun h => h.check_eq_ok⟩

theorem Tree.ofRoot_of_ok {root : Node} (h : check root = .ok ()) :
    ofRoot root = .ok ⟨root, h⟩ := by
  rw [ofRoot]
  split
  · rfl
  · next e he => cases h.symm.trans he

theorem Tree.ofRoot_of_error {root : Node} {e : TreeError} (h : check root = .error e) :
    ofRoot root = .error e := by
  rw [ofRoot]
  split
  · next ho => cases ho.symm.trans h
  · next e' he =>
    cases he.symm.trans h
    rfl

/-- A tree is accepted, as it is, just where every node of it is in order.  Otherwise the error is
true of a node below the root, or it is that two children of the root have one name. -/
theorem Tree.accepts_exactly_inOrder (root : Node) :
    ((∃ t, ofRoot root = .ok t) ↔ root.InOrder) ∧
      (∀ t, ofRoot root = .ok t → t.root = root) ∧
      ∀ e, ofRoot root = .error e →
        ∃ n, e.TrueOf n ∧
          (n.Below root ∨ n = root ∧ ∃ name, e = .duplicateName root.name name) := by
  rw [← check_eq_ok_iff]
  cases hc : check root with
  | ok u =>
      have accepted := ofRoot_of_ok hc
      refine ⟨iff_of_true ⟨_, accepted⟩ rfl, fun t ht => ?_, fun e he => ?_⟩
      · cases accepted.symm.trans ht
        rfl
      · cases accepted.symm.trans he
  | error e =>
      have refused := ofRoot_of_error hc
      refine ⟨iff_of_false (fun ⟨t, ht⟩ => ?_) nofun, fun t ht => ?_, fun e' he => ?_⟩
      · cases refused.symm.trans ht
      · cases refused.symm.trans ht
      · cases refused.symm.trans he
        exact exists_trueOf_of_check hc

/-- A command deep in a tree that needs less than its parent is found. -/
theorem Tree.refuses_decrease_below :
    let leaf : Node := { name := "get", handler := some (.perform .dpiGet) }
    let dpi : Node := { name := "dpi", requirement := .resolution, children := [leaf] }
    let root : Node := { name := "mouse", children := [{ name := "profile", children := [dpi] }] }
    ¬ root.InOrder ∧ ∃ n, (TreeError.requirementDecreases "dpi" "get").TrueOf n ∧
      (n.Below root ∨ n = root ∧ ∃ name,
        TreeError.requirementDecreases "dpi" "get" = .duplicateName root.name name) := by
  intro leaf dpi root
  have refused : ofRoot root = .error (.requirementDecreases "dpi" "get") := rfl
  obtain ⟨accepts, -, explains⟩ := accepts_exactly_inOrder root
  refine ⟨fun h => ?_, explains _ refused⟩
  obtain ⟨t, ht⟩ := accepts.mpr h
  cases refused.symm.trans ht

end MouseConfig
