import MouseConfig.Proofs.Command.Grant
import MouseConfig.Proofs.Command.Nesting
import MouseConfig.Proofs.Device.Spots

/-! # Settings with all indices given

A line that sets something and names the profile, and the button or resolution in it, finds its way
by the indices alone.  What becomes of it can be told from the frame of the device that it opens:
whatever else is set in that device, the line is refused or goes through all the same.
-/

namespace MouseConfig

/-- The context with a resolution of a profile selected. -/
def IndexWord.selectResolution (c : Context) (p : Profile) (r : IndexWord) :
    Except CommandError Context :=
  if r.index < p.resolutions.length then .ok { c with resolution := some r.index }
  else .error (.unsupported (.noResolution r.index))

theorem IndexWord.selectResolution_eq_ok_iff {c c' : Context} {p : Profile} {r : IndexWord} :
    r.selectResolution c p = .ok c' ↔
      r.index < p.resolutions.length ∧ { c with resolution := some r.index } = c' := by
  by_cases h : r.index < p.resolutions.length <;> simp [selectResolution, h]

/-- What is set in a profile, and the words that say to what. -/
inductive ProfileSetting where
  | action (button : IndexWord) (kind arg : String)
  | dpi (resolution : IndexWord) (word : String)
  | activeResolution (resolution : IndexWord) (word : String)

namespace ProfileSetting

def words : ProfileSetting → List String
  | action b kind arg => ["button", b.word, "set", kind, arg]
  | dpi r word => ["resolution", r.word, "dpi", "set", word]
  | activeResolution r word => ["resolution", r.word, "active", "set", word]

/-- The words that are left to the task. -/
def args : ProfileSetting → List String
  | action _ kind arg => [kind, arg]
  | dpi _ word | activeResolution _ word => [word]

def task : ProfileSetting → Task
  | action .. => .buttonSet
  | dpi .. => .dpiSet
  | activeResolution .. => .activeResolutionSet

/-- The spot in the profile at a position. -/
def spot (i : Nat) : ProfileSetting → Spot
  | action b _ _ => .action i b.index
  | dpi r _ => .dpi i r.index
  | activeResolution _ _ => .activeResolution i

/-- What is selected besides the profile.  A button need not be there. -/
def select (c : Context) (p : Profile) : ProfileSetting → Except CommandError Context
  | action b _ _ => .ok { c with button := some b.index }
  | dpi r _ | activeResolution r _ => r.selectResolution c p

def plan (c : Context) : ProfileSetting → Except CommandError Plan
  | action _ kind arg => Plan.buttonSet "set" c [kind, arg]
  | dpi _ word => Plan.dpiSet "set" c [word]
  | activeResolution _ word => Plan.activeResolutionSet "set" c [word]

theorem plan?_task (s : ProfileSetting) (c : Context) :
    s.task.plan? "set" c s.args = some (s.plan c) := by
  cases s <;> rfl

end ProfileSetting

/-- A line that sets something in a profile of the device at a path. -/
structure Assignment where
  profile : IndexWord
  setting : ProfileSetting
  path : String

namespace Assignment

variable (a : Assignment)

def words : List String := "profile" :: a.profile.word :: (a.setting.words ++ [a.path])

example (p x : IndexWord) (kind arg path : String) :
    words ⟨p, .action x kind arg, path⟩ =
        ["profile", p.word, "button", x.word, "set", kind, arg, path] ∧
      words ⟨p, .dpi x arg, path⟩ =
        ["profile", p.word, "resolution", x.word, "dpi", "set", arg, path] ∧
      words ⟨p, .activeResolution x arg, path⟩ =
        ["profile", p.word, "resolution", x.word, "active", "set", arg, path] :=
  ⟨rfl, rfl, rfl⟩

def spot : Spot := a.setting.spot a.profile.index

/-- All that is selected in a device. -/
def select (d : Device) : Except CommandError Context :=
  match d.profiles[a.profile.index]? with
  | some p => a.setting.select { device := some ⟨⟨a.path⟩, d⟩, profile := some a.profile.index } p
  | none => .error (.unsupported (.noProfile a.profile.index))

/-- What the line is about to do to a device. -/
def verdict (d : Device) : Except CommandError Plan := do a.setting.plan (← a.select d)

end Assignment

/-! ## The search -/

namespace Commands

open Search

variable {load : Loader} {o : OpenDevice} {i : Nat} {p : Profile} {calls : List Call}

/-- With an index, the search goes on in the profile that it points to. -/
theorem run_seekFrom_profile_at (w : IndexWord) (rest : List String) :
    (profile.seekFrom load).run ⟨{ device := some o }, w.word :: rest, calls⟩ =
      (selectProfile w.index >>= fun _ => profile.seek load).run
        ⟨{ device := some o }, rest, calls⟩ := by
  rw [run_seekFrom_profileNode, EStateM.run_bind, run_profileRouter_of_index _ w.reads,
    ← EStateM.run_bind]

theorem run_seek_button_at (b : IndexWord) (rest : List String) :
    (profile.seek load).run
        ⟨{ device := some o, profile := some i }, "button" :: b.word :: rest, calls⟩ =
      (button.seek load).run
        ⟨{ device := some o, profile := some i, button := some b.index }, rest, calls⟩ := by
  have button_mem : button ∈ ofProfile := by simp [ofProfile]
  refine (run_seek_below_profile button_mem).trans ?_
  rw [run_seekOn_buttonNode, EStateM.run_bind, run_buttonRouter_of_index _ b.reads]

theorem run_seek_resolution_at (r : IndexWord) (hp : o.model.profiles[i]? = some p)
    (rest : List String) :
    (profile.seek load).run
        ⟨{ device := some o, profile := some i }, "resolution" :: r.word :: rest, calls⟩ =
      match r.selectResolution { device := some o, profile := some i } p with
      | .ok c => (resolution.seek load).run ⟨c, rest, calls⟩
      | .error e => .error e ⟨{ device := some o, profile := some i }, rest, calls⟩ := by
  have selected := selectedProfile_of_getElem? hp
  refine (run_seek_below_profile resolution_mem_ofProfile).trans ?_
  rw [run_seekOn_resolutionNode, EStateM.run_bind, run_resolutionRouter_of_index _ r.reads,
    IndexWord.selectResolution]
  by_cases hj : r.index < p.resolutions.length
  · rw [if_pos hj, run_selectResolution_of_lt selected hj]
  · rw [if_neg hj, run_selectResolution_of_le selected (Nat.not_lt.mp hj)]

theorem run_seek_setting (s : ProfileSetting) (hp : o.model.profiles[i]? = some p) :
    match s.select { device := some o, profile := some i } p with
    | .ok c => (profile.seek load).run ⟨{ device := some o, profile := some i }, s.words, calls⟩ =
        .ok ⟨"set", s.task⟩ ⟨c, s.args, calls⟩
    | .error e => ∃ q,
        (profile.seek load).run ⟨{ device := some o, profile := some i }, s.words, calls⟩ =
          .error e q := by
  cases s with
  -- Whether there is such a button, the task finds out.
  | action b kind arg => exact run_seek_button_at b ["set", kind, arg]
  | dpi r word | activeResolution r word =>
      simp only [ProfileSetting.select, ProfileSetting.words]
      rw [run_seek_resolution_at r hp]
      cases hs : r.selectResolution { device := some o, profile := some i } p with
      | error e => exact ⟨_, rfl⟩
      | ok c =>
          obtain ⟨-, rfl⟩ := IndexWord.selectResolution_eq_ok_iff.mp hs
          rfl

/-- The search goes where the indices say, once the device has been opened. -/
theorem run_seek_assignment (a : Assignment) {d : Device} (hd : load ⟨a.path⟩ = .ok d) :
    match a.select d with
    | .ok c => (root.seek load).run { args := a.words } =
        .ok ⟨"set", a.setting.task⟩ ⟨c, a.setting.args, [.load ⟨a.path⟩ true]⟩
    | .error e => ∃ q, (root.seek load).run { args := a.words } = .error e q := by
  have needs := (reads_of_mem_onDevice profile_mem_onDevice).2
  have start : (root.seek load).run { args := a.words } =
      (selectProfile a.profile.index >>= fun _ => profile.seek load).run
        ⟨{ device := some ⟨⟨a.path⟩, d⟩ }, a.setting.words, [.load ⟨a.path⟩ true]⟩ := by
    refine (run_seek_start profile_mem_onDevice _).trans ?_
    rw [← List.cons_append, Node.run_seekFrom_of_opened needs hd, run_seekFrom_profile_at]
    rfl
  rw [start, EStateM.run_bind, Assignment.select]
  cases hp : d.profiles[a.profile.index]? with
  | none =>
      rw [run_selectProfile_of_le rfl (List.getElem?_eq_none_iff.mp hp)]
      exact ⟨_, rfl⟩
  | some p =>
      rw [run_selectProfile_of_lt rfl (List.getElem?_eq_some_iff.mp hp).1]
      exact run_seek_setting (o := ⟨⟨a.path⟩, d⟩) a.setting hp

theorem run_seek_unopened (a : Assignment) {e : DeviceError} (hd : load ⟨a.path⟩ = .error e) :
    ∃ q, (root.seek load).run { args := a.words } = .error (.device e) q := by
  have needs := (reads_of_mem_onDevice profile_mem_onDevice).2
  have start : (root.seek load).run { args := a.words } =
      (profile.seekFrom load).run { args := (a.profile.word :: a.setting.words) ++ [a.path] } :=
    run_seek_start profile_mem_onDevice _
  rw [start, Node.run_seekFrom_of_refused needs hd]
  exact ⟨_, rfl⟩

end Commands

/-! ## Verdicts -/

variable {d d' : Device} {c : Context} {i : Nat} {q q' : Profile} {p : Plan}

/-- A setting that goes through sets its spot. -/
theorem ProfileSetting.exists_update_of_plan (s : ProfileSetting) (hd : c.openModel = .ok d)
    (hi : c.profile = some i)
    (h : s.select c q >>= s.plan = .ok p) : ∃ u, p.update = some u ∧ u.Sets d (s.spot i) := by
  obtain ⟨c', hc, h⟩ := Plan.bind_eq_ok_iff.mp h
  cases s with
  | action b kind arg =>
      cases hc
      have h : Plan.buttonSet "set" { c with button := some b.index } [kind, arg] = .ok p := h
      have grant := Plan.grant_of_buttonSet (c := { c with button := some b.index }) hd h
      generalize p.update = update at grant
      cases grant with
      | buttonSet can plays hi' hb =>
          cases hi.symm.trans hi'
          cases hb
          exact ⟨_, rfl, .action i b.index _⟩
  | dpi r word =>
      obtain ⟨-, rfl⟩ := IndexWord.selectResolution_eq_ok_iff.mp hc
      have h : Plan.dpiSet "set" { c with resolution := some r.index } [word] = .ok p := h
      have grant := Plan.grant_of_dpiSet (c := { c with resolution := some r.index }) hd h
      generalize p.update = update at grant
      cases grant with
      | dpiSet can fits hi' hj =>
          cases hi.symm.trans hi'
          cases hj
          exact ⟨_, rfl, .dpi i r.index _⟩
  | activeResolution r word =>
      obtain ⟨-, rfl⟩ := IndexWord.selectResolution_eq_ok_iff.mp hc
      have h : Plan.activeResolutionSet "set" { c with resolution := some r.index } [word] =
        .ok p := h
      have grant :=
        Plan.grant_of_activeResolutionSet (c := { c with resolution := some r.index }) hd h
      generalize p.update = update at grant
      cases grant with
      | activeResolutionSet can hi' hq' hw hm =>
          cases hi.symm.trans hi'
          exact ⟨_, rfl, .activeResolution hq' hm⟩

theorem Assignment.exists_update_of_verdict {a : Assignment} (h : a.verdict d = .ok p) :
    ∃ u, p.update = some u ∧ u.Sets d a.spot := by
  rw [verdict, select] at h
  cases hq : d.profiles[a.profile.index]? with
  | none => simp [hq, bind, Except.bind] at h
  | some q =>
      rw [hq] at h
      exact a.setting.exists_update_of_plan rfl rfl h

theorem Assignment.sets_of_verdict {a : Assignment} {u : Update} (h : a.verdict d = .ok p)
    (hu : p.update = some u) : u.Sets d a.spot := by
  obtain ⟨u', hu', sets⟩ := exists_update_of_verdict h
  cases hu.symm.trans hu'
  exact sets

/-! ## What a verdict depends on -/

namespace Device.SameFrame

/-- The entries of a profile are as many as before. -/
theorem getElem?_profiles (h : d.SameFrame d') (i : Nat) :
    d.profiles[i]? = none ∧ d'.profiles[i]? = none ∨
      ∃ q q', d.profiles[i]? = some q ∧ d'.profiles[i]? = some q' ∧
        q'.resolutions.length = q.resolutions.length ∧ q'.buttons.length = q.buttons.length := by
  have counts := congrArg (·[i]?) h.counts
  simp only [List.getElem?_map] at counts
  cases hq : d.profiles[i]? with
  | none =>
      rw [hq] at counts
      exact .inl ⟨rfl, by simpa using counts⟩
  | some q =>
      rw [hq] at counts
      obtain ⟨q', hq', same⟩ := Option.map_eq_some_iff.mp counts
      exact .inr ⟨q, q', rfl, hq', (Prod.mk.inj same).1, (Prod.mk.inj same).2⟩

theorem expectCapability (h : d.SameFrame d') (capability : Capability) (r : String → Refusal) :
    Plan.expectCapability d' capability r = Plan.expectCapability d capability r := by
  rw [Plan.expectCapability, Plan.expectCapability, Device.has, Device.has, h.capabilities, h.name]

end Device.SameFrame

namespace Plan

/-- All that counts of a button is whether it is there. -/
theorem mapButton_eq (hd : c.openModel = .ok d) (hq : c.selectedProfile = .ok q) (index : Nat)
    (action : Action) :
    mapButton c index action = (do
      expectCapability d .buttonKey .noProgrammableButtons
      if action.isSequence then expectCapability d .buttonMacros .noSequences
      if index < q.buttons.length then
        return { update := c.profile.map fun i => .setAction i index action }
      else refuse (.noButton index)) := by
  have there : (profileButton c index >>= fun _ =>
      (pure { update := c.profile.map fun i => .setAction i index action } :
        Except CommandError Plan)) =
      if index < q.buttons.length then
        pure { update := c.profile.map fun i => .setAction i index action }
      else refuse (.noButton index) := by
    by_cases hb : index < q.buttons.length
    · simp [profileButton, hq, hb, bind, Except.bind, pure, Except.pure]
    · simp [profileButton, hq, hb, bind, Except.bind, refuse]
  rw [mapButton, hd, ← there]
  rfl

/-- All that counts of a resolution is whether it is there. -/
theorem dpiSet_eq {r : Resolution} (hd : c.openModel = .ok d)
    (hr : c.selectedResolution = .ok r) (command word : String) :
    dpiSet command c [word] = (do
      let some dpi := Numeral.word? word | misuse (.dpi word)
      expectCapability d .switchableResolution .noSwitchableResolution
      if let some range := d.dpiRange then
        unless range.contains dpi do refuse (.dpiOutOfRange dpi range)
      return { update := c.profile.bind fun i => c.resolution.map fun j => .setDpi i j dpi }) := by
  rw [dpiSet, hd, hr]
  rfl

theorem activeResolutionSet_eq (hd : c.openModel = .ok d) (hq : c.selectedProfile = .ok q)
    (command word : String) :
    activeResolutionSet command c [word] = (do
      let some index := Numeral.index? word | misuse (.resolution word)
      expectCapability d .switchableResolution .noSwitchableResolution
      unless index < q.resolutions.length do refuse (.resolutionOutOfRange index)
      return {
        update := c.profile.map fun i => .activateResolution i index
        output := s!"Switched '{d.name}' to resolution '{index}'" ++ "\n" }) := by
  rw [activeResolutionSet, hd, hq]
  rfl

end Plan

/-- A setting is checked against the frame of the device, and selects by it. -/
theorem ProfileSetting.plan_congr (s : ProfileSetting) {path : Path} (h : d.SameFrame d')
    (hq : d.profiles[i]? = some q) (hq' : d'.profiles[i]? = some q')
    (resolutions : q'.resolutions.length = q.resolutions.length)
    (buttons : q'.buttons.length = q.buttons.length) :
    s.select { device := some ⟨path, d'⟩, profile := some i } q' >>= s.plan =
      s.select { device := some ⟨path, d⟩, profile := some i } q >>= s.plan := by
  have selected {e : Device} {x : Profile} (hx : e.profiles[i]? = some x) (j b : Option Nat) :
      ({ device := some ⟨path, e⟩, profile := some i, resolution := j, button := b } :
        Context).selectedProfile = .ok x :=
    Context.selectedProfile_eq_ok_iff.mpr ⟨e, i, rfl, rfl, hx⟩
  cases s with
  | action b kind arg =>
      have plan {o : OpenDevice} :
          ProfileSetting.plan { device := some o, profile := some i, button := some b.index }
            (.action b kind arg) = (Plan.parsedAction kind arg >>= Plan.mapButton
              { device := some o, profile := some i, button := some b.index } b.index) := rfl
      refine plan.trans (Eq.trans ?_ plan.symm)
      refine congrArg (Plan.parsedAction kind arg >>= ·) (funext fun action => ?_)
      rw [Plan.mapButton_eq rfl (selected hq' none b.index),
        Plan.mapButton_eq rfl (selected hq none b.index), h.expectCapability, h.expectCapability,
        buttons]
  | dpi r word =>
      simp only [select, IndexWord.selectResolution, resolutions]
      by_cases hj : r.index < q.resolutions.length
      · have chosen {e : Device} {x : Profile} (hx : e.profiles[i]? = some x)
            (hj : r.index < x.resolutions.length) :
            ({ device := some ⟨path, e⟩, profile := some i, resolution := some r.index } :
              Context).selectedResolution = .ok x.resolutions[r.index] :=
          Context.selectedResolution_eq_ok_iff.mpr
            ⟨x, r.index, selected hx r.index none, rfl, List.getElem?_eq_getElem hj⟩
        simp only [if_pos hj]
        refine (Plan.dpiSet_eq rfl (chosen hq' (resolutions ▸ hj)) "set" word).trans ?_
        rw [h.expectCapability, h.dpiRange]
        exact (Plan.dpiSet_eq rfl (chosen hq hj) "set" word).symm
      · rw [if_neg hj, if_neg hj]
  | activeResolution r word =>
      simp only [select, IndexWord.selectResolution, resolutions]
      by_cases hj : r.index < q.resolutions.length
      · rw [if_pos hj, if_pos hj]
        refine (Plan.activeResolutionSet_eq rfl (selected hq' r.index none) "set" word).trans ?_
        rw [h.expectCapability, h.name, resolutions]
        exact (Plan.activeResolutionSet_eq rfl (selected hq r.index none) "set" word).symm
      · rw [if_neg hj, if_neg hj]

/-- The verdict on a device is a matter of its frame. -/
theorem Assignment.verdict_congr (a : Assignment) (h : d.SameFrame d') :
    a.verdict d' = a.verdict d := by
  rw [verdict, verdict, select, select]
  rcases h.getElem?_profiles a.profile.index with ⟨hq, hq'⟩ | ⟨q, q', hq, hq', hr, hb⟩
  · rw [hq, hq']
  · rw [hq, hq']
    exact a.setting.plan_congr h hq hq' hr hb

/-! ## Outcomes -/

namespace Assignment

theorem device_of_select {a : Assignment} (h : a.select d = .ok c) :
    c.device = some ⟨⟨a.path⟩, d⟩ := by
  rw [select] at h
  cases hq : d.profiles[a.profile.index]? with
  | none =>
      rw [hq] at h
      cases h
  | some q =>
      simp only [hq] at h
      cases hs : a.setting with
      | action b kind arg =>
          rw [hs] at h
          cases h
          rfl
      | dpi r word | activeResolution r word =>
          rw [hs] at h
          obtain ⟨-, rfl⟩ := IndexWord.selectResolution_eq_ok_iff.mp h
          rfl

variable {σ : Type} [DeviceService σ]

/-- All that such a line may come to: how it fails if it does, what it prints, and the service that
it leaves. -/
inductive Outcome (a : Assignment) (service : σ) : Option CommandError → String → σ → Prop
  | unopened {e : DeviceError} (hd : loader service ⟨a.path⟩ = .error e) :
      Outcome a service (some (.device e)) "" service
  | refused {d : Device} {e : CommandError} (hd : loader service ⟨a.path⟩ = .ok d)
      (hv : a.verdict d = .error e) : Outcome a service (some e) "" service
  | uncommitted {d : Device} {p : Plan} {u : Update} {e : DeviceError}
      (hd : loader service ⟨a.path⟩ = .ok d) (hv : a.verdict d = .ok p) (hu : p.update = some u)
      (hc : (DeviceService.commit service ⟨a.path⟩ (u.apply d)).1.1 = .error e) :
      Outcome a service (some (.device e)) ""
        (DeviceService.commit service ⟨a.path⟩ (u.apply d)).2
  | committed {d : Device} {p : Plan} {u : Update}
      (hd : loader service ⟨a.path⟩ = .ok d) (hv : a.verdict d = .ok p) (hu : p.update = some u)
      (hc : (DeviceService.commit service ⟨a.path⟩ (u.apply d)).1.1 = .ok ()) :
      Outcome a service none p.output (DeviceService.commit service ⟨a.path⟩ (u.apply d)).2

theorem outcome (a : Assignment) (service : σ) (v : Verbosity) :
    a.Outcome service (Commands.tree.run service v a.words).failure
      (Commands.tree.run service v a.words).released.output
      (Commands.tree.run service v a.words).released.service := by
  obtain ⟨closing, released⟩ := Commands.tree.exists_released service v a.words
  have outcome := Commands.tree.outcome service v a.words
  rw [released]
  generalize (Commands.tree.run service v a.words).failure = failure at outcome ⊢
  generalize (Commands.tree.run service v a.words).dispatched = s' at outcome ⊢
  cases hd : loader service ⟨a.path⟩ with
  | error e =>
      obtain ⟨q, search⟩ := Commands.run_seek_unopened a hd
      cases outcome with
      | lost h =>
          cases search.symm.trans h
          exact .unopened hd
      | arrived h => cases search.symm.trans h
  | ok d =>
      have search := Commands.run_seek_assignment a hd
      cases hc : a.select d with
      | error e =>
          rw [hc] at search
          obtain ⟨q, search⟩ := search
          cases outcome with
          | lost h =>
              cases search.symm.trans h
              exact .refused hd (by rw [verdict, hc]; rfl)
          | arrived h => cases search.symm.trans h
      | ok c =>
          rw [hc] at search
          have verdict : a.verdict d = a.setting.plan c := by rw [verdict, hc]; rfl
          have planned := a.setting.plan?_task c
          rw [← verdict] at planned
          have opened := device_of_select hc
          cases outcome with
          | lost h => cases search.symm.trans h
          | arrived h ht =>
              cases search.symm.trans h
              cases ht with
              | surplus ht | undiscovered ht | listed ht | recorded ht =>
                  rw [show a.setting.task = _ from ht] at planned
                  cases planned
              | refused hp => exact .refused hd (Option.some.inj (planned.symm.trans hp))
              | shown hp hu =>
                  have hv := Option.some.inj (planned.symm.trans hp)
                  obtain ⟨u, hu', -⟩ := exists_update_of_verdict hv
                  cases hu.symm.trans hu'
              | closed hp hu ho => cases ho.symm.trans opened
              | uncommitted hp hu ho hc =>
                  cases opened.symm.trans ho
                  exact .uncommitted hd (Option.some.inj (planned.symm.trans hp)) hu hc
              | committed hp hu ho hc =>
                  cases opened.symm.trans ho
                  exact .committed hd (Option.some.inj (planned.symm.trans hp)) hu hc

variable {a : Assignment} {service : σ} {f f' : Option CommandError} {t t' : String} {s s' : σ}

/-- Such a line comes to one thing only. -/
theorem Outcome.unique (h : a.Outcome service f t s) (h' : a.Outcome service f' t' s') :
    f = f' ∧ t = t' ∧ s = s' := by
  cases h with
  | unopened hd =>
      cases h' with
      | unopened hd' =>
          cases hd.symm.trans hd'
          exact ⟨rfl, rfl, rfl⟩
      | refused hd' | uncommitted hd' | committed hd' => cases hd.symm.trans hd'
  | refused hd hv =>
      cases h' with
      | unopened hd' => cases hd.symm.trans hd'
      | refused hd' hv' =>
          cases hd.symm.trans hd'
          cases hv.symm.trans hv'
          exact ⟨rfl, rfl, rfl⟩
      | uncommitted hd' hv' | committed hd' hv' =>
          cases hd.symm.trans hd'
          cases hv.symm.trans hv'
  | uncommitted hd hv hu hc =>
      cases h' with
      | unopened hd' => cases hd.symm.trans hd'
      | refused hd' hv' =>
          cases hd.symm.trans hd'
          cases hv.symm.trans hv'
      | uncommitted hd' hv' hu' hc' =>
          cases hd.symm.trans hd'
          cases hv.symm.trans hv'
          cases hu.symm.trans hu'
          cases hc.symm.trans hc'
          exact ⟨rfl, rfl, rfl⟩
      | committed hd' hv' hu' hc' =>
          cases hd.symm.trans hd'
          cases hv.symm.trans hv'
          cases hu.symm.trans hu'
          cases hc.symm.trans hc'
  | committed hd hv hu hc =>
      cases h' with
      | unopened hd' => cases hd.symm.trans hd'
      | refused hd' hv' =>
          cases hd.symm.trans hd'
          cases hv.symm.trans hv'
      | uncommitted hd' hv' hu' hc' =>
          cases hd.symm.trans hd'
          cases hv.symm.trans hv'
          cases hu.symm.trans hu'
          cases hc.symm.trans hc'
      | committed hd' hv' hu' hc' =>
          cases hd.symm.trans hd'
          cases hv.symm.trans hv'
          cases hu.symm.trans hu'
          exact ⟨rfl, rfl, rfl⟩

end Assignment

end MouseConfig
