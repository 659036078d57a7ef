import MouseConfig.Proofs.Command.Sufficient
import MouseConfig.Proofs.Session.Operation

/-! # Selections in a session

Operations in any order leave a profile selected only in the open device, and a resolution only
where a profile is selected.  A resolution is looked up in the selected profile when it is selected,
and not again.  So it fits unless the last profile that is selected over it has no such resolution.
-/

namespace MouseConfig

variable {σ : Type} [DeviceService σ]

/-! ## What an operation does -/

/-- What an operation that does not search does with what is selected. -/
inductive Operation.Turns : Operation → Context → Context → Prop
  | kept {op : Operation} {c : Context} : Turns op c c
  | profile {c : Context} {d : Device} {p : Profile} {i : Nat} (hd : c.openModel = .ok d)
      (hp : d.profiles[i]? = some p) : Turns (.selectProfile i) c { c with profile := some i }
  | resolution {c : Context} {p : Profile} {r : Resolution} {j : Nat}
      (hp : c.selectedProfile = .ok p) (hr : p.resolutions[j]? = some r) :
      Turns (.selectResolution j) c { c with resolution := some j }
  | button {c : Context} {b : Nat} : Turns (.selectButton b) c { c with button := some b }
  | changed {op : Operation} {c : Context} {f : Device → Device}
      (hf : ∀ d, (f d).layout = d.layout) : Turns op c (c.modifyModel f)
  | released {c : Context} : Turns .release c {}

namespace Operation

/-- The operation adds and removes no profile and no resolution. -/
def KeepsLayout : Operation → Prop
  | change f => ∀ d, (f d).layout = d.layout
  | _ => True

/-- The operation looks for a device. -/
def searches : Operation → Bool
  | resolve _ _ | dispatch _ => true
  | _ => false

variable {op : Operation} {c : Context}

/-- A change in the selected profile is one of the device, if a profile is selected. -/
theorem Turns.modifyProfile {f : Profile → Profile}
    (hf : ∀ p, (f p).resolutions.length = p.resolutions.length) :
    op.Turns c (c.modifyProfile f) := by
  cases hi : c.profile with
  | none =>
      rw [Context.modifyProfile, hi]
      exact .kept
  | some i =>
      rw [Context.modifyProfile_eq hi]
      exact .changed fun d => d.layout_modifyProfile i hf

theorem Turns.modifyResolution (f : Resolution → Resolution) :
    op.Turns c (c.modifyResolution f) := by
  cases hj : c.resolution with
  | none =>
      rw [Context.modifyResolution, hj]
      exact .kept
  | some j =>
      rw [Context.modifyResolution, hj]
      exact .modifyProfile fun p => by simp [Profile.modifyResolution]

end Operation

namespace Step

variable {α β : Type} {c : Context} {R : Context → Prop}

/-- Whatever the step comes to, what has been selected then has a property. -/
def Turns (c : Context) (m : Step σ α) (R : Context → Prop) : Prop :=
  Leads (fun s => s.context = c) m (fun _ s => R s.context) fun _ s => R s.context

namespace Turns

omit [DeviceService σ]

theorem pure {a : α} (h : R c) : Turns c (pure a : Step σ α) R := Leads.pure fun _ hs => hs ▸ h

theorem throw {e : CommandError} (h : R c) : Turns c (MonadExcept.throw e : Step σ α) R :=
  Leads.throw fun _ hs => hs ▸ h

theorem select {f : Context → Context} (h : R (f c)) : Turns c (Step.select f : Step σ Unit) R :=
  Leads.move fun _ hs => hs ▸ h

theorem note {e : Log.Event} {m : Step σ α} (h : Turns c m R) :
    Turns c (Step.note e >>= fun _ => m) R :=
  fun s hs => h { s with log := s.log ++ [e] } hs

theorem discard {m : Step σ α} (h : Turns c m R) : Turns c (do let _ ← m) R :=
  Leads.bind h fun _ => Leads.pure fun _ hs => hs

/-- What is looked up is there, or nothing happens. -/
theorem found {look : Context → Except DeviceError α} {k : α → Step σ β} (kept : R c)
    (h : ∀ a, look c = .ok a → Turns c (k a) R) :
    Turns c (Step.context >>= fun c => Step.ofExcept (look c) >>= k) R := by
  rintro s rfl
  rw [EStateM.run_bind]
  simp only [run_context]
  cases hr : look s.context with
  | ok a => exact h a hr s rfl
  | error e => exact kept

theorem model {k : Device → Step σ β} (kept : R c)
    (h : ∀ d, c.openModel = .ok d → Turns c (k d) R) : Turns c (Step.model >>= k) R := by
  rw [Step.model, bind_assoc]
  exact found kept h

theorem profile {k : Profile → Step σ β} (kept : R c)
    (h : ∀ p, c.selectedProfile = .ok p → Turns c (k p) R) : Turns c (Step.profile >>= k) R := by
  rw [Step.profile, bind_assoc]
  exact found kept h

theorem resolution {k : Resolution → Step σ β} (kept : R c)
    (h : ∀ r, c.selectedResolution = .ok r → Turns c (k r) R) :
    Turns c (Step.resolution >>= k) R := by
  rw [Step.resolution, bind_assoc]
  exact found kept h

end Turns

end Step

open Step in
theorem Operation.turns_step (t : Tree) (op : Operation) (hk : op.KeepsLayout)
    (ho : op.searches = false) (c : Context) :
    Step.Turns c (op.step t : Step σ Unit) (op.Turns c) := by
  cases op with
  | resolve | dispatch => cases ho
  | selectProfile i =>
      refine .model .kept fun d hd => ?_
      cases hp : d.profiles[i]? with
      | none => exact .throw .kept
      | some p => exact .note (.select (.profile hd hp))
  | selectResolution j =>
      refine .profile .kept fun p hp => ?_
      cases hr : p.resolutions[j]? with
      | none => exact .throw .kept
      | some r => exact .note (.select (.resolution hp hr))
  | selectButton b => exact .note (.select .button)
  | activateProfile i =>
      refine .discard (.model .kept fun d hd => ?_)
      cases d.activate? i with
      | none => exact .pure .kept
      | some d' =>
          exact Leads.bind (Turns.select (.changed fun d => d.layout_activate i)) fun _ =>
            Leads.pure fun _ hs => hs
  | activateResolution j =>
      refine .discard (.profile .kept fun p hp => ?_)
      cases p.activate? j with
      | none => exact .pure .kept
      | some p' =>
          exact Leads.bind (Turns.select (.modifyProfile fun p => by simp)) fun _ =>
            Leads.pure fun _ hs => hs
  | setDpi dpi =>
      exact .resolution .kept fun r hr => .select (.modifyResolution _)
  | setAction b action =>
      rw [step, Step.setAction]
      exact .select (.modifyProfile fun _ => rfl)
  | change f => exact .model .kept fun d hd => .select (.changed hk)
  | commit =>
      rintro s rfl
      cases ho : s.context.device with
      | none =>
          rw [step, run_commit_of_none ho]
          exact .kept
      | some o =>
          rw [step, run_commit ho]
          cases (DeviceService.commit s.service o.path o.model).1.1 with
          | ok u => exact .kept
          | error e => exact .kept
  | release =>
      rintro s rfl
      obtain ⟨log, h⟩ := run_release s
      rw [step, h]
      exact .released

namespace Session

variable {s s' : Session σ} {t : Tree} {op : Operation}

theorem turns_of_perform (hk : op.KeepsLayout) (ho : op.searches = false) :
    op.Turns s.context (s.perform t op).context := by
  have turned := op.turns_step t hk ho s.context { s with args := op.args } rfl
  rw [perform, after]
  cases hr : (op.step t).run { s with args := op.args } with
  | ok u s' =>
      rw [hr] at turned
      exact turned
  | error e s' =>
      rw [hr] at turned
      exact turned

/-- Where a search leads, the step that follows it does. -/
theorem stand_after_of_follows {m : Step σ Unit} {f : Loader → Search Unit} {P Q : Stand → Prop}
    (h : m.Follows f) (hf : Leads P (f (loader s.service)) (fun _ => Q) fun _ => Q)
    (hp : P s.stand) : Q (s.after m).2.stand := by
  obtain ⟨log, hm⟩ := h s
  have leads := hf s.stand hp
  rw [after, hm]
  cases hr : (f (loader s.service)).run s.stand with
  | ok u p =>
      rw [hr] at leads
      exact leads
  | error e p =>
      rw [hr] at leads
      exact leads

end Session

/-- A task changes nothing of what is selected but the open device, by an update. -/
theorem Task.context_of_outcome {t : Task} {command : String} {s s' : Session σ}
    {failure : Option CommandError} (h : t.Outcome command s failure s') :
    s'.context = s.context ∨ ∃ u : Update, s'.context = s.context.modifyModel u.apply := by
  cases h with
  | surplus | undiscovered | listed | recorded | refused | shown => exact .inl rfl
  | @closed _ u | @uncommitted _ u | @committed _ u => exact .inr ⟨u, rfl⟩

/-- Where the search of a line leads, the line does, if updates lead nowhere else. -/
theorem Session.context_after_dispatch {s : Session σ} {n : Node} {P : Stand → Prop}
    {Q : Context → Prop}
    (hn : Leads P (n.seek (loader s.service)) (fun _ p => Q p.context) fun _ p => Q p.context)
    (hQ : ∀ c (u : Update), Q c → Q (c.modifyModel u.apply)) (hs : P s.stand) :
    Q (s.after n.dispatch).2.context := by
  obtain ⟨failure, s', h, ha⟩ := n.exists_outcome s
  rw [ha]
  cases h with
  | lost hr => exact Leads.of_error hn hs hr
  | @arrived t p log _ _ hr ht =>
      have arrived : Q p.context := Leads.of_ok hn hs hr
      rcases Task.context_of_outcome ht with same | ⟨u, updated⟩
      · rw [same]
        exact arrived
      · rw [updated]
        exact hQ p.context u arrived

/-! ## Profiles in devices, resolutions in profiles -/

/-- A profile is selected only in the open device, and a resolution only where a profile is. -/
structure Context.Nested (c : Context) : Prop where
  profile : ∀ i, c.profile = some i → ∃ o, c.device = some o ∧ i < o.model.profiles.length
  resolution : ∀ j, c.resolution = some j → ∃ i, c.profile = some i

namespace Context.Nested

variable {c c' : Context} {op : Operation}

theorem start : ({} : Context).Nested where
  profile _ h := nomatch h
  resolution _ h := nomatch h

theorem modifyModel (h : c.Nested) {f : Device → Device} (hf : ∀ d, (f d).layout = d.layout) :
    (c.modifyModel f).Nested where
  profile i hi := by
    obtain ⟨o, ho, hlt⟩ := h.profile i hi
    refine ⟨{ o with model := f o.model }, by rw [Context.modifyModel, ho]; rfl, ?_⟩
    rw [Device.length_profiles_of_layout (hf o.model)]
    exact hlt
  resolution := h.resolution

theorem selects (h : c.Nested) (hc : c.Selects c') : c'.Nested := by
  cases hc with
  | @profile d p i hd hp =>
      obtain ⟨path, ho⟩ := openModel_eq_ok_iff.mp hd
      refine ⟨fun k hk => ?_, fun j hj => ⟨i, rfl⟩⟩
      cases hk
      exact ⟨_, ho, (List.getElem?_eq_some_iff.mp hp).1⟩
  | resolution hp hr => exact ⟨h.profile, fun j hj => exists_profile_of_selectedProfile hp⟩
  | button b => exact ⟨h.profile, h.resolution⟩

theorem turns (h : c.Nested) (hc : op.Turns c c') : c'.Nested := by
  cases hc with
  | kept => exact h
  | profile hd hp => exact h.selects (.profile hd hp)
  | resolution hp hr => exact h.selects (.resolution hp hr)
  | button => exact h.selects (.button _)
  | changed hf => exact h.modifyModel hf
  | released => exact start

/-- Where no device is open, nothing is selected that would be in another one. -/
theorem invariant (load : Loader) :
    Search.Invariant load (fun p => p.context.Nested) fun p => p.context.Nested where
  fails _ hp := hp
  words _ _ _ hp := hp
  selects _ _ hc hp := hp.selects hc
  refused _ _ _ hp _ _ _ := hp
  opened p word d hp ho _ _ := by
    refine ⟨fun i hi => ?_, hp.resolution⟩
    obtain ⟨o, ho', -⟩ := hp.profile i hi
    cases ho.symm.trans ho'

end Context.Nested

/-- What fits is nested. -/
theorem Context.Fits.nested {c : Context} (h : c.Fits) : c.Nested where
  profile := h.profile
  resolution j hj := by
    obtain ⟨i, -, -, hi, -⟩ := h.resolution j hj
    exact ⟨i, hi⟩

theorem Session.nested_perform {s : Session σ} {t : Tree} {op : Operation}
    (h : s.context.Nested) (hk : op.KeepsLayout) : (s.perform t op).context.Nested := by
  have invariant := Context.Nested.invariant (loader s.service)
  cases ho : op.searches with
  | false => exact h.turns (turns_of_perform hk ho)
  | true =>
      cases op with
      | resolve needs args =>
          exact stand_after_of_follows (s := { s with args := args }) (Step.Follows.resolve needs)
            (invariant.resolve needs) h
      | dispatch args =>
          exact context_after_dispatch (s := { s with args := args })
            (t.root.seek_along invariant) (fun c u hc => hc.modifyModel u.layout_apply) h
      | _ => cases ho

/-! ## Resolutions that fit -/

theorem Context.Fits.exists_holds {c : Context} (h : c.Fits) : ∃ level, c.Holds level := by
  cases hj : c.resolution with
  | some j =>
      obtain ⟨i, o, p, hi, ho, hp, hlt⟩ := h.resolution j hj
      exact ⟨_, .resolution ho hi hp hj (List.getElem?_eq_getElem hlt)⟩
  | none =>
      cases hi : c.profile with
      | some i =>
          obtain ⟨o, ho, hlt⟩ := h.profile i hi
          exact ⟨_, .profile ho hi (List.getElem?_eq_getElem hlt) hj⟩
      | none =>
          cases ho : c.device with
          | some o => exact ⟨_, .device ho hi hj⟩
          | none => exact ⟨_, .nothing ho hi hj⟩

/-- A resolution that is selected is one of the selected profile. -/
def Context.ResolutionFits (c : Context) : Prop :=
  c.resolution ≠ none → ∃ r, c.selectedResolution = .ok r

theorem Context.Nested.fits {c : Context} (h : c.Nested) (hr : c.ResolutionFits) : c.Fits where
  profile := h.profile
  resolution j hj := by
    obtain ⟨r, selected⟩ := hr (by simp [hj])
    obtain ⟨p, j', hp, hj', hr⟩ := selectedResolution_eq_ok_iff.mp selected
    cases hj.symm.trans hj'
    obtain ⟨d, i, hd, hi, hp⟩ := selectedProfile_eq_ok_iff.mp hp
    obtain ⟨path, ho⟩ := openModel_eq_ok_iff.mp hd
    exact ⟨i, _, p, hi, ho, hp, (List.getElem?_eq_some_iff.mp hr).1⟩

/-- The operation may select a profile on its own account. -/
def Operation.choosesProfile : Operation → Bool
  | selectProfile _ => true
  | dispatch args => args.head? == some "profile"
  | _ => false

namespace Commands

theorem suffices_of_ne_profile :
    ∀ n ∈ root.children, n.name ≠ "profile" → n.suffices .resolution = true := by
  decide

/-- From where a resolution is selected, all lines arrive but those that begin with a profile. -/
theorem root_seek_arrives (load : Loader) :
    Leads (fun p => p.context.Holds .resolution ∧ p.args.head? ≠ some "profile") (root.seek load)
      (fun t p => ∃ level, t.task.needs ≤ level ∧ p.context.Holds level) (Search.Stops load) := by
  rintro ⟨c, _ | ⟨word, rest⟩, calls⟩ ⟨hp, hw⟩
  · exact .of_ne hp.fits nofun
  · have next : (root.seek load).run ⟨c, word :: rest, calls⟩ =
        (seekChild load word root.children).run ⟨c, rest, calls⟩ := rfl
    rw [next, seekChild_eq]
    cases hf : root.children.find? fun n => n.name == word with
    | none => exact .of_ne hp.fits (by simp)
    | some n =>
        have name : n.name = word := by simpa using List.find?_some hf
        have other : n.name ≠ "profile" := by simpa [name] using hw
        have enough := suffices_of_ne_profile n (List.mem_of_find?_eq_some hf) other
        exact n.seekFrom_arrives load enough ⟨c, rest, calls⟩ hp

end Commands

namespace Context.Fits

variable {c c' : Context} {op : Operation}

/-- What is selected still fits, unless a profile is selected over a resolution. -/
theorem turns (h : c.Fits) (hc : op.Turns c c') (hr : op.choosesProfile → c.resolution = none) :
    c'.Fits := by
  cases hc with
  | kept => exact h
  | @profile _ d p i hd hp =>
      have open' : c.Nested := h.nested
      refine ⟨(open'.selects (.profile hd hp)).profile, fun j hj => ?_⟩
      cases (hr rfl).symm.trans hj
  | resolution hp hx => exact (Holds.selectResolution hp hx).fits
  | button =>
      obtain ⟨level, hl⟩ := h.exists_holds
      exact hl.selectButton.fits
  | changed hf => exact h.modifyModel hf
  | released => exact (Holds.nothing rfl rfl rfl).fits

end Context.Fits

namespace Session

variable {s : Session σ} {op : Operation}

/-- A line fits what it has selected, if it does not begin with a profile where a resolution is
selected. -/
theorem fits_dispatch (h : s.context.Fits)
    (hr : s.args.head? = some "profile" → s.context.resolution = none) :
    (s.after Commands.tree.root.dispatch).2.context.Fits := by
  have updates (c : Context) (u : Update) (hc : c.Fits) : (c.modifyModel u.apply).Fits :=
    hc.modifyModel u.layout_apply
  have arrives {P : Stand → Prop} (ha : Leads P (Commands.root.seek (loader s.service))
      (fun t p => ∃ level, t.task.needs ≤ level ∧ p.context.Holds level)
      (Search.Stops (loader s.service))) (hp : P s.stand) :
      (s.after Commands.tree.root.dispatch).2.context.Fits :=
    context_after_dispatch
      (ha.imp (fun _ hp => hp) (fun _ _ ⟨_, _, hl⟩ => hl.fits) fun _ _ he => he.1) updates hp
  obtain ⟨level, hl⟩ := h.exists_holds
  cases level with
  | nothing => exact arrives (Node.seek_arrives _ (by decide)) hl
  | device => exact arrives (Node.seek_arrives _ (by decide)) hl
  | profile => exact arrives (Node.seek_arrives _ (by decide)) hl
  | resolution =>
      refine arrives (Commands.root_seek_arrives _) ⟨hl, fun hw => ?_⟩
      cases hl with
      | resolution _ _ _ hj => cases (hr hw).symm.trans hj

theorem fits_perform (h : s.context.Fits) (hk : op.KeepsLayout)
    (hr : op.choosesProfile → s.context.resolution = none) :
    (s.perform Commands.tree op).context.Fits := by
  cases ho : op.searches with
  | false => exact h.turns (turns_of_perform hk ho) hr
  | true =>
      cases op with
      | resolve needs args =>
          obtain ⟨level, hl⟩ := h.exists_holds
          have climbs : Search.Climbs (loader s.service) level (Search.resolve _ needs) _ :=
            Search.Climbs.resolve needs
          exact stand_after_of_follows (s := { s with args := args }) (Step.Follows.resolve needs)
            (climbs.imp (fun _ hp => hp) (fun _ _ hl => hl.fits) fun _ _ he => he.1) hl
      | dispatch args =>
          exact fits_dispatch (s := { s with args := args }) h fun hw =>
            hr (by simpa [Operation.choosesProfile] using hw)
      | _ => cases ho

/-- If a resolution is selected when the last operation is performed that may select a profile, then
the selected profile has the resolution that is selected after it. -/
def FitsAtLast (s : Session σ) : List Operation → Prop
  | [] => True
  | op :: ops =>
    (op.choosesProfile → (∀ op' ∈ ops, ¬ op'.choosesProfile) → s.context.resolution ≠ none →
      (s.perform Commands.tree op).context.ResolutionFits) ∧
    (s.perform Commands.tree op).FitsAtLast ops

theorem nested_performAll {t : Tree} {ops : List Operation} (h : s.context.Nested)
    (hk : ∀ op ∈ ops, op.KeepsLayout) : (s.performAll t ops).context.Nested := by
  induction ops generalizing s with
  | nil => exact h
  | cons op ops ih =>
      obtain ⟨hop, hops⟩ := List.forall_mem_cons.mp hk
      exact ih (nested_perform h hop) hops

/-- An operation that may select a profile leaves selections that fit if it leaves a resolution that
fits wherever one was selected before. -/
theorem fits_perform_of_choosesProfile (h : s.context.Nested) (hk : op.KeepsLayout)
    (hr : s.context.resolution ≠ none → (s.perform Commands.tree op).context.ResolutionFits) :
    (s.perform Commands.tree op).context.Fits := by
  by_cases hj : s.context.resolution = none
  · exact fits_perform (h.fits fun hj' => absurd hj hj') hk fun _ => hj
  · exact (nested_perform h hk).fits (hr hj)

/-- Before the last operation that may select a profile, the resolution need not fit. -/
theorem fits_performAll {ops : List Operation} (hn : s.context.Nested)
    (h : s.context.Fits ∨ ∃ op ∈ ops, op.choosesProfile) (hk : ∀ op ∈ ops, op.KeepsLayout)
    (hl : s.FitsAtLast ops) : (s.performAll Commands.tree ops).context.Fits := by
  induction ops generalizing s with
  | nil => exact h.resolve_right (by simp)
  | cons op ops ih =>
      obtain ⟨hop, hops⟩ := List.forall_mem_cons.mp hk
      refine ih (nested_perform hn hop) ?_ hops hl.2
      by_cases later : ∃ op' ∈ ops, op'.choosesProfile
      · exact .inr later
      · refine .inl ?_
        by_cases chooses : op.choosesProfile
        · exact fits_perform_of_choosesProfile hn hop
            (hl.1 chooses fun op' hm hc => later ⟨op', hm, hc⟩)
        · have fits : s.context.Fits := h.resolve_right (by simp [chooses, not_exists.mp later])
          exact fits_perform fits hop fun hc => absurd hc chooses

/-- After any operations, a profile that is selected is one of the open device, and a profile is
selected wherever a resolution is.  The resolution that is selected is one of the selected profile,
unless it was left over when a profile was selected for the last time, and that profile has no such
resolution. -/
theorem selections_fit (service : σ) (v : Verbosity) (ops : List Operation)
    (hk : ∀ op ∈ ops, op.KeepsLayout) :
    let first := Session.start service v []
    let c := (first.performAll Commands.tree ops).context
    (c.profile ≠ none → c.device ≠ none ∧ ∃ p, c.selectedProfile = .ok p) ∧
      (c.resolution ≠ none → c.profile ≠ none) ∧
      (first.FitsAtLast ops → ∀ j, c.resolution = some j →
        ∃ p r, c.selectedProfile = .ok p ∧ p.resolutions[j]? = some r ∧
          c.selectedResolution = .ok r) := by
  intro first c
  have nested : c.Nested := nested_performAll Context.Nested.start hk
  refine ⟨fun hp => ?_, fun hr => ?_, fun last j hj => ?_⟩
  · obtain ⟨i, hi⟩ := Option.ne_none_iff_exists'.mp hp
    obtain ⟨o, ho, hlt⟩ := nested.profile i hi
    have opened : c.openModel = .ok o.model := Context.openModel_eq_ok_iff.mpr ⟨o.path, ho⟩
    exact ⟨by simp [ho], _, Context.selectedProfile_eq_ok_iff.mpr
      ⟨o.model, i, opened, hi, List.getElem?_eq_getElem hlt⟩⟩
  · obtain ⟨j, hj⟩ := Option.ne_none_iff_exists'.mp hr
    obtain ⟨i, hi⟩ := nested.resolution j hj
    simp [hi]
  · have fits : c.Fits :=
      fits_performAll Context.Nested.start (.inl (Context.Holds.nothing rfl rfl rfl).fits) hk last
    obtain ⟨i, o, p, hi, ho, hp, hlt⟩ := fits.resolution j hj
    have opened : c.openModel = .ok o.model := Context.openModel_eq_ok_iff.mpr ⟨o.path, ho⟩
    have selected : c.selectedProfile = .ok p :=
      Context.selectedProfile_eq_ok_iff.mpr ⟨o.model, i, opened, hi, hp⟩
    have found : p.resolutions[j]? = some p.resolutions[j] := List.getElem?_eq_getElem hlt
    exact ⟨p, _, selected, found,
      Context.selectedResolution_eq_ok_iff.mpr ⟨p, j, selected, hj, found⟩⟩

/-- The second resolution of the first profile is selected, and then the second profile, which has a
second resolution, too.  A line sets the dpi of that. -/
theorem selections_fit_in_second_profile :
    let p : Profile := {
      active := true, resolutions := [{ dpi := 800, active := true }, { dpi := 1600 }] }
    let q : Profile := { resolutions := [{ dpi := 400, active := true }, { dpi := 3200 }] }
    let d : Device := {
      name := "M", capabilities := [.switchableResolution], profiles := [p, q] }
    let shelf : Shelf := { entries := [(⟨"m"⟩, .device d)] }
    let ops : List Operation := [.resolve .profile ["m"], .selectResolution 1, .selectProfile 1,
      .dispatch ["dpi", "set", "900"]]
    let first := Session.start shelf .normal []
    let c := (first.performAll Commands.tree ops).context
    (∀ op ∈ ops, op.KeepsLayout) ∧ first.FitsAtLast ops ∧ c.resolution = some 1 ∧
      ∃ p r, c.selectedProfile = .ok p ∧ p.resolutions[1]? = some r ∧
        c.selectedResolution = .ok r := by
  intro p q d shelf ops first c
  have kept : ∀ op ∈ ops, op.KeepsLayout := by simp [ops, Operation.KeepsLayout]
  have last : first.FitsAtLast ops :=
    ⟨nofun, nofun, fun _ _ _ _ => ⟨{ dpi := 3200 }, by decide⟩, nofun, trivial⟩
  have selected : c.resolution = some 1 := by decide
  exact ⟨kept, last, selected, (selections_fit shelf .normal ops kept).2.2 last 1 selected⟩

/-- The profile that is selected last has only one resolution, and the second one of the profile
before it is still selected. -/
theorem keeps_stale_resolution :
    let p : Profile := {
      active := true, resolutions := [{ dpi := 800, active := true }, { dpi := 1600 }] }
    let q : Profile := { resolutions := [{ dpi := 400, active := true }] }
    let shelf : Shelf := { entries := [(⟨"m"⟩, .device { name := "M", profiles := [p, q] })] }
    let c := ((Session.start shelf .normal []).performAll Commands.tree
      [.resolve .device ["m"], .selectProfile 0, .selectResolution 1, .selectProfile 1]).context
    c.profile = some 1 ∧ c.resolution = some 1 ∧
      c.selectedResolution = .error (.notSelected .resolution) := by
  exact ⟨rfl, rfl, rfl⟩

end Session

end MouseConfig
