import MouseConfig.Proofs.Command.Invariant

/-! # What a search keeps

A search opens what is at the path that it names, and calls nothing but the opening of devices.  Both
hold wherever it stops, also where it fails.
-/

namespace MouseConfig

variable {α : Type} {load : Loader} {P : Stand → Prop}

namespace Search

/-- A search keeps a property of stands, also when it fails. -/
def Keeps (P : Stand → Prop) (m : Search α) : Prop :=
  ∀ p, P p → match m.run p with
    | .ok _ q => P q
    | .error _ q => P q

/-- What is no weaker where the search fails is kept. -/
theorem Keeps.of_along {m : Search α} (h : Along P P m) : Keeps P m := by
  intro p hp
  have along := h p hp
  cases hr : m.run p with
  | ok a q =>
      rw [hr] at along
      exact along
  | error e q =>
      rw [hr] at along
      exact along

end Search

open Search

/-- The open device is what there is at its path, and devices were opened and nothing else. -/
structure Stand.Sound (load : Loader) (p : Stand) : Prop where
  opened : ∀ o, p.context.device = some o → load o.path = .ok o.model
  loads : ∀ c ∈ p.calls, ∃ path succeeded, c = .load path succeeded

namespace Stand.Sound

/-- A session that has just started is sound. -/
theorem start (load : Loader) (args : List String) : Stand.Sound load { args := args } where
  opened _ ho := nomatch ho
  loads _ hc := nomatch hc

theorem loads_append {p : Stand} (h : p.Sound load) (path : Path) (succeeded : Bool) :
    ∀ c ∈ p.calls ++ [.load path succeeded], ∃ path succeeded, c = .load path succeeded := by
  intro c hc
  rcases List.mem_append.mp hc with hc | hc
  · exact h.loads c hc
  · exact ⟨path, succeeded, List.mem_singleton.mp hc⟩

/-- The device is looked up at the path that it is opened with. -/
theorem invariant (load : Loader) : Invariant load (Stand.Sound load) (Stand.Sound load) where
  fails _ hp := hp
  words _ _ _ hp := ⟨hp.opened, hp.loads⟩
  selects _ _ hc hp := ⟨fun o ho => hp.opened o (hc.device_eq.symm.trans ho), hp.loads⟩
  refused _ word _ hp _ _ _ := ⟨hp.opened, hp.loads_append ⟨word⟩ false⟩
  opened _ word _ hp _ _ hd := by
    refine ⟨fun o ho => ?_, hp.loads_append ⟨word⟩ true⟩
    cases ho
    exact hd

end Stand.Sound

/-- A search in any tree is sound. -/
theorem Node.seek_sound (n : Node) (load : Loader) : Keeps (Stand.Sound load) (n.seek load) :=
  .of_along (n.seek_along (Stand.Sound.invariant load))

end MouseConfig
