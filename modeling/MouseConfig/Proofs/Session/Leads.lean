import MouseConfig.Session

/-! # Where steps lead

A step leads from one property to another if it succeeds with the second wherever the first holds,
and a failure has a property of its own.  The same for the steps of a session and for the moves of a
search, which differ in what they work on.
-/

namespace MouseConfig

variable {S α β : Type}

/-- Where `P` holds, a step succeeds with `Q` or fails with `E`. -/
def Leads (P : S → Prop) (m : EStateM CommandError S α) (Q : α → S → Prop)
    (E : CommandError → S → Prop) : Prop :=
  ∀ s, P s → match m.run s with
    | .ok a s' => Q a s'
    | .error e s' => E e s'

namespace Leads

variable {P : S → Prop} {Q : α → S → Prop} {R : β → S → Prop} {E : CommandError → S → Prop}
  {m : EStateM CommandError S α} {k : α → EStateM CommandError S β}

theorem pure {a : α} (h : ∀ s, P s → Q a s) : Leads P (pure a) Q E := h

theorem throw {e : CommandError} (h : ∀ s, P s → E e s) :
    Leads P (MonadExcept.throw e : EStateM CommandError S α) Q E := h

theorem move {f : S → S} {Q : Unit → S → Prop} (h : ∀ s, P s → Q () (f s)) :
    Leads P (modify f) Q E := h

theorem bind (hm : Leads P m Q E) (hk : ∀ a, Leads (Q a) (k a) R E) : Leads P (m >>= k) R E := by
  intro s hs
  have h := hm s hs
  rw [EStateM.run_bind]
  cases hr : m.run s with
  | error e s' =>
      rw [hr] at h
      exact h
  | ok a s' =>
      rw [hr] at h
      exact hk a s' h

theorem imp {P' : S → Prop} {Q' : α → S → Prop} {E' : CommandError → S → Prop} (h : Leads P m Q E)
    (hP : ∀ s, P' s → P s) (hQ : ∀ a s, Q a s → Q' a s) (hE : ∀ e s, E e s → E' e s) :
    Leads P' m Q' E' := by
  intro s hs
  have h' := h s (hP s hs)
  cases hr : m.run s with
  | error e s' =>
      rw [hr] at h'
      exact hE e s' h'
  | ok a s' =>
      rw [hr] at h'
      exact hQ a s' h'

theorem of_ok {s s' : S} {a : α} (h : Leads P m Q E) (hs : P s) (hr : m.run s = .ok a s') :
    Q a s' := by
  have h' := h s hs
  rwa [hr] at h'

theorem of_error {s s' : S} {e : CommandError} (h : Leads P m Q E) (hs : P s)
    (hr : m.run s = .error e s') : E e s' := by
  have h' := h s hs
  rwa [hr] at h'

end Leads

end MouseConfig
