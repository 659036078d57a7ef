import Mathlib.Data.List.Nodup
import MouseConfig.Command.Tree

/-! # Lawful trees

What the check of a tree establishes, node by node.  Siblings have different names, a node without
children has a handler, and no node below the root needs less than its parent.
-/

namespace MouseConfig

/-- Below the node everything is in order.  Of the node itself only the names of its children
count, as for the root of a tree. -/
inductive Node.Lawful : Node → Prop
  | intro {n : Node} (names : (n.children.map (·.name)).Nodup)
      (leaves : ∀ k ∈ n.children, k.children = [] → k.handler ≠ none)
      (grows : ∀ k ∈ n.children, ∀ m ∈ k.children, k.requirement ≤ m.requirement)
      (below : ∀ k ∈ n.children, k.Lawful) : Lawful n

namespace Node.Lawful

variable {n k m : Node}

theorem names (h : n.Lawful) : (n.children.map (·.name)).Nodup := by
  cases h with
  | intro names => exact names

theorem leaves (h : n.Lawful) (hk : k ∈ n.children) : k.children = [] → k.handler ≠ none := by
  cases h with
  | intro _ leaves => exact leaves k hk

theorem grows (h : n.Lawful) (hk : k ∈ n.children) (hm : m ∈ k.children) :
    k.requirement ≤ m.requirement := by
  cases h with
  | intro _ _ grows => exact grows k hk m hm

theorem child (h : n.Lawful) (hk : k ∈ n.children) : k.Lawful := by
  cases h with
  | intro _ _ _ below => exact below k hk

/-- A child is known by its name. -/
theorem eq_of_name_eq (h : n.Lawful) (hk : k ∈ n.children) (hm : m ∈ n.children)
    (hname : k.name = m.name) : k = m :=
  List.inj_on_of_nodup_map h.names hk hm hname

/-- To look for the name of a child is to find the child. -/
theorem find?_name (h : n.Lawful) (hk : k ∈ n.children) :
    (n.children.find? fun c => c.name == k.name) = some k := by
  cases hf : n.children.find? fun c => c.name == k.name with
  | none => simpa using List.find?_eq_none.mp hf k hk
  | some m =>
      have name : m.name = k.name := by simpa using List.find?_some hf
      rw [h.eq_of_name_eq (List.mem_of_find?_eq_some hf) hk name]

end Node.Lawful

/-! ## The check -/

/-- No name is repeated where none of them has been seen and none comes twice. -/
theorem Node.repeated?_eq_none_iff {seen names : List String} :
    repeated? seen names = none ↔ names.Nodup ∧ ∀ name ∈ names, name ∉ seen := by
  induction names generalizing seen with
  | nil => simp [repeated?]
  | cons name rest ih =>
      by_cases h : name ∈ seen
      · simp [repeated?, h]
      · simp only [repeated?, h, if_false, ih, List.nodup_cons, List.mem_cons, not_or]
        constructor
        · rintro ⟨nodup, fresh⟩
          refine ⟨⟨fun hn => (fresh name hn).1 rfl, nodup⟩, ?_⟩
          rintro x (rfl | hx)
          · exact h
          · exact (fresh x hx).2
        · rintro ⟨⟨hn, nodup⟩, fresh⟩
          exact ⟨nodup, fun x hx => ⟨fun he => hn (he ▸ hx), fresh x (.inr hx)⟩⟩

theorem Node.checkSiblings_eq_ok_iff {n : Node} :
    n.checkSiblings = .ok () ↔ (n.children.map (·.name)).Nodup := by
  have unique : repeated? [] (n.children.map (·.name)) = none ↔ _ := repeated?_eq_none_iff
  rw [checkSiblings]
  cases h : repeated? [] (n.children.map (·.name)) with
  | none => simpa [h] using unique
  | some name => simpa [h] using unique

theorem Node.check_eq_ok_iff {n : Node} :
    n.check = .ok () ↔ (n.children = [] → n.handler ≠ none) ∧ (n.children.map (·.name)).Nodup ∧
      checkBelow n.name n.requirement n.children = .ok () := by
  obtain ⟨name, hint, help, requirement, handler, children⟩ := n
  rw [check]
  by_cases hl : children.isEmpty && handler.isNone
  · have leaf : children = [] ∧ handler = none := by simpa using hl
    simp [leaf, bind, Except.bind, throw, throwThe, MonadExceptOf.throw]
  · have served : children = [] → handler ≠ none := by simpa using hl
    simp only [hl]
    rw [← checkSiblings_eq_ok_iff (n := ⟨name, hint, help, requirement, handler, children⟩)]
    cases hs : checkSiblings ⟨name, hint, help, requirement, handler, children⟩ with
    | error e => simp [bind, Except.bind]
    | ok u => simpa [bind, Except.bind, pure, Except.pure] using fun _ => served

theorem checkBelow_eq_ok_iff {parent : String} {least : Requirement} {nodes : List Node} :
    Node.checkBelow parent least nodes = .ok () ↔
      ∀ k ∈ nodes, least ≤ k.requirement ∧ k.check = .ok () := by
  induction nodes with
  | nil => simp [Node.checkBelow]
  | cons c rest ih =>
      rw [Node.checkBelow, List.forall_mem_cons, ← ih]
      by_cases hc : c.requirement < least
      · have less : ¬ least ≤ c.requirement := Nat.not_le.mpr hc
        simp [hc, less, bind, Except.bind, throw, throwThe, MonadExceptOf.throw]
      · have enough : least ≤ c.requirement := Nat.not_lt.mp hc
        cases hk : c.check with
        | error e => simp [hc, bind, Except.bind]
        | ok u => simp [hc, enough, bind, Except.bind]

mutual

/-- By recursion on the tree, together with lists of siblings. -/
theorem Node.lawful_of_check : (n : Node) → n.check = .ok () → n.Lawful
  | ⟨name, hint, help, requirement, handler, children⟩, h => by
    obtain ⟨-, names, hb⟩ := Node.check_eq_ok_iff.mp h
    have checked := checkBelow_eq_ok_iff.mp hb
    refine .intro names (fun k hk => (Node.check_eq_ok_iff.mp (checked k hk).2).1)
      (fun k hk m hm => ?_) (lawful_of_checks children fun k hk => (checked k hk).2)
    obtain ⟨-, -, hbelow⟩ := Node.check_eq_ok_iff.mp (checked k hk).2
    exact (checkBelow_eq_ok_iff.mp hbelow m hm).1

theorem lawful_of_checks : (nodes : List Node) → (∀ k ∈ nodes, k.check = .ok ()) →
    ∀ k ∈ nodes, k.Lawful
  | [], _ => fun _ hk => absurd hk List.not_mem_nil
  | c :: rest, h => by
    have first : c.Lawful := c.lawful_of_check (h c List.mem_cons_self)
    have others := lawful_of_checks rest fun k hk => h k (List.mem_cons_of_mem c hk)
    exact List.forall_mem_cons.mpr ⟨first, others⟩

end

/-- A tree that has passed its check is lawful. -/
theorem Tree.lawful (t : Tree) : t.root.Lawful := by
  have h := t.checked
  rw [check] at h
  cases hb : Node.checkBelow t.root.name .nothing t.root.children with
  | error e => simp [hb, bind, Except.bind] at h
  | ok u =>
      simp only [hb, bind, Except.bind] at h
      have checked := checkBelow_eq_ok_iff.mp hb
      have node (k : Node) (hk : k ∈ t.root.children) := Node.check_eq_ok_iff.mp (checked k hk).2
      exact .intro (Node.checkSiblings_eq_ok_iff.mp h) (fun k hk => (node k hk).1)
        (fun k hk m hm => (checkBelow_eq_ok_iff.mp (node k hk).2.2 m hm).1)
        (lawful_of_checks _ fun k hk => (checked k hk).2)

end MouseConfig
