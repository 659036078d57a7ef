import MouseConfig.Proofs.Command.Lines
import MouseConfig.Service.Shelf

/-! # What a line opens

A line that is no listing calls the service about one device at most, the one that its last word
names.  A listing looks at what the service has found, and writes nothing.
-/

namespace MouseConfig

/-- All that is done with one device: it is opened in vain, or opened and released, or written back
in between. -/
inductive Call.Single (path : Path) : List Call → Prop
  | refused : Single path [.load path false]
  | opened : Single path [.load path true, .release path]
  | committed (done : Bool) : Single path [.load path true, .commit path done, .release path]

/-- The path that is looked at, whether or not a device opens there. -/
def Call.looked? : Call → Option Path
  | load path _ => some path
  | _ => none

theorem Call.filterMap_looked?_visit (load : Loader) (path : Path) :
    (visit load path).filterMap looked? = [path] := by
  rw [visit]
  cases load path with
  | ok d => rfl
  | error e => rfl

/-- A listing looks at each path once, in the order in which they were found. -/
theorem Call.filterMap_looked?_tour (load : Loader) (paths : List Path) :
    (tour load paths).filterMap looked? = paths := by
  have visits : (paths.flatMap (visit load)).filterMap looked? = paths := by
    induction paths with
    | nil => rfl
    | cons path rest ih =>
        rw [List.flatMap_cons, List.filterMap_append, filterMap_looked?_visit, ih]
        rfl
  exact visits

/-! ## Searches -/

/-- How far a search among some words has come that began with nothing selected. -/
inductive Stand.Looks (words : List String) (p : Stand) : Prop
  | before (ho : p.context.device = none) (hc : p.calls = []) (ha : p.args <:+ words)
  | after {last : String} {d : Device} (hl : words.getLast? = some last)
      (ho : p.context.device = some ⟨⟨last⟩, d⟩) (hc : p.calls = [.load ⟨last⟩ true])

/-- Where such a search may stop. -/
inductive Stand.Looked (words : List String) (p : Stand) : Prop
  | looks (h : p.Looks words)
  | in_vain {last : String} (hl : words.getLast? = some last) (ho : p.context.device = none)
      (hc : p.calls = [.load ⟨last⟩ false])

theorem getLast?_of_suffix {α : Type} {xs ys : List α} {x : α} (h : xs <:+ ys)
    (hx : xs.getLast? = some x) : ys.getLast? = some x := by
  obtain ⟨front, rfl⟩ := h
  rw [List.getLast?_append, hx]
  rfl

/-- The words are dropped from the front, so that the last one stays until the device is opened. -/
theorem Stand.Looks.invariant (load : Loader) (words : List String) :
    Search.Invariant load (Stand.Looks words) (Stand.Looked words) where
  fails _ hp := .looks hp
  words p args ha hp := by
    cases hp with
    | before ho hc hw => exact .before ho hc (ha.trans hw)
    | after hl ho hc => exact .after hl ho hc
  selects p c hc hp := by
    cases hp with
    | before ho hcalls ha => exact .before (hc.device_eq.trans ho) hcalls ha
    | after hl ho hcalls => exact .after hl (hc.device_eq.trans ho) hcalls
  refused p word _ hp ho hw _ := by
    cases hp with
    | before _ hc ha => exact .in_vain (getLast?_of_suffix ha hw) ho (by rw [hc]; rfl)
    | after _ ho' => cases ho.symm.trans ho'
  opened p word d hp ho hw _ := by
    cases hp with
    | before _ hc ha => exact .after (getLast?_of_suffix ha hw) rfl (by rw [hc]; rfl)
    | after _ ho' => cases ho.symm.trans ho'

/-- A search that has failed has called nothing, or has tried to open what the last word names. -/
theorem Stand.Looked.single {words : List String} {p : Stand} (h : p.Looked words) :
    p.calls ++ p.context.closing = [] ∨
      ∃ last, words.getLast? = some last ∧ Call.Single ⟨last⟩ (p.calls ++ p.context.closing) := by
  rcases h with (⟨ho, hc, -⟩ | ⟨hl, ho, hc⟩) | ⟨hl, ho, hc⟩
  · exact .inl (by simp [hc, Context.closing, ho])
  · refine .inr ⟨_, hl, ?_⟩
    rw [hc, Context.closing, ho]
    exact .opened
  · refine .inr ⟨_, hl, ?_⟩
    rw [hc, Context.closing, ho]
    exact .refused

variable {σ : Type} [DeviceService σ]

/-! ## Tasks -/

/-- A task writes back only the device that is open. -/
theorem Task.single_of_outcome {t : Task} {command : String} {s s' : Session σ} {o : OpenDevice}
    {failure : Option CommandError} {x : Except CommandError Plan}
    (hx : t.plan? command s.context s.args = some x) (ho : s.context.device = some o)
    (hc : s.calls = [.load o.path true]) (h : t.Outcome command s failure s') :
    Call.Single o.path (s'.calls ++ s'.context.closing) := by
  have closing : s.context.closing = [.release o.path] := by
    rw [Context.closing, ho]
    rfl
  have same : Call.Single o.path (s.calls ++ s.context.closing) := by
    rw [hc, closing]
    exact .opened
  have written (u : Update) (d : Device) (log : List Log.Event) : Call.Single o.path
      ((((s.noted log).updated u).written ⟨o.path, d⟩).calls ++
        (((s.noted log).updated u).written ⟨o.path, d⟩).context.closing) := by
    have still : (((s.noted log).updated u).written ⟨o.path, d⟩).context.closing =
        [.release o.path] := by
      simp [Session.updated, Session.noted, Context.closing, Context.modifyModel, ho]
    have calls : (((s.noted log).updated u).written ⟨o.path, d⟩).calls =
        s.calls ++ [.commit o.path _] := rfl
    rw [still, calls, hc]
    exact .committed _
  cases h with
  | surplus ht => rw [ht] at hx; cases hx
  | undiscovered ht => rw [ht] at hx; cases hx
  | listed ht => rw [ht] at hx; cases hx
  | recorded ht => rw [ht] at hx; cases hx
  | refused => exact same
  | shown => exact same
  | closed _ _ ho' => cases ho.symm.trans ho'
  | uncommitted _ _ ho' =>
      cases ho.symm.trans ho'
      exact written _ _ _
  | committed _ _ ho' =>
      cases ho.symm.trans ho'
      exact written _ _ _

/-- A listing calls nothing if it has words that it does not take, and goes round all that is found
otherwise. -/
theorem Task.calls_of_list {command : String} {s s' : Session σ} {failure : Option CommandError}
    (h : Task.list.Outcome command s failure s') :
    s'.context = s.context ∧ (s.args ≠ [] ∧ s'.calls = s.calls ∨
      s.args = [] ∧ s'.calls = s.calls ++ match DeviceService.discover s.service with
        | .ok paths => Call.tour (loader s.service) paths
        | .error _ => [.discover]) := by
  cases h with
  | surplus _ ha => exact ⟨rfl, .inl ⟨ha, rfl⟩⟩
  | undiscovered _ ha hd =>
      refine ⟨rfl, .inr ⟨ha, ?_⟩⟩
      rw [hd]
      rfl
  | listed _ ha hd =>
      refine ⟨rfl, .inr ⟨ha, ?_⟩⟩
      rw [hd]
      rfl
  | recorded ht => cases ht
  | refused hp => cases hp
  | shown hp => cases hp
  | closed hp => cases hp
  | uncommitted hp => cases hp
  | committed hp => cases hp

/-! ## Lines -/

namespace Commands

variable {service : σ} {v : Verbosity} {words : List String} {s' : Session σ}
  {failure : Option CommandError}

/-- Where the first word is no command, or nothing comes after it, nothing is called. -/
theorem calls_of_lost {load : Loader} {e : CommandError} {p : Stand}
    (h : (root.seek load).run { args := words } = .error e p) :
    p.calls ++ p.context.closing = [] ∨
      ∃ n ∈ root.children, ∃ tail last, words = n.name :: tail ∧ tail.getLast? = some last ∧
        Call.Single ⟨last⟩ (p.calls ++ p.context.closing) := by
  cases words with
  | nil =>
      cases h
      exact .inl rfl
  | cons word tail =>
      have h : (seekChild load word root.children).run { args := tail } = .error e p := h
      rw [seekChild_eq] at h
      cases hn : root.children.find? fun c => c.name == word with
      | none =>
          rw [hn] at h
          cases h
          exact .inl rfl
      | some n =>
          rw [hn] at h
          have start : Stand.Looks tail { args := tail } := .before rfl rfl (List.suffix_refl tail)
          have along := n.seekFrom_along (Stand.Looks.invariant load tail)
          rcases (Leads.of_error along start h).single with hnone | ⟨last, hl, hs⟩
          · exact .inl hnone
          · have name : n.name = word := by simpa using List.find?_some hn
            exact .inr ⟨n, List.mem_of_find?_eq_some hn, tail, last, by rw [name], hl, hs⟩

theorem exists_child_of_wording (w : Wording) :
    ∃ n ∈ root.children, n.name ≠ "list" ∧ ∃ tail, w.words = n.name :: tail := by
  obtain ⟨n, hn, tail, hw⟩ := exists_node_of_wording w
  have known : ∀ n ∈ onDevice, n.name ≠ "list" := by decide
  refine ⟨n, List.mem_of_find?_eq_some (find?_root (.inr hn)), known n hn, tail, hw⟩

/-- A line that is no listing. -/
theorem calls_of_outcome (h : Outcome service v words failure s') (hw : words.head? ≠ some "list") :
    s'.calls ++ s'.context.closing = [] ∨
      ∃ n ∈ root.children, ∃ tail last, words = n.name :: tail ∧ tail.getLast? = some last ∧
        Call.Single ⟨last⟩ (s'.calls ++ s'.context.closing) := by
  cases h with
  | lost hr => exact calls_of_lost hr
  | listing hl =>
      rw [hl] at hw
      exact absurd rfl hw
  | @worded w rest last d c log _ _ hl hd hc ht =>
      obtain ⟨n, hn, -, tail, hname⟩ := exists_child_of_wording w
      obtain ⟨x, hx⟩ := w.exists_plan w.command { c with device := some ⟨⟨last⟩, d⟩ } rest
      refine .inr ⟨n, hn, tail ++ rest ++ [last], last, ?_, by simp, ?_⟩
      · rw [hl, hname]
        rfl
      · exact Task.single_of_outcome hx rfl rfl ht

/-- A line that is a listing. -/
theorem listing_of_outcome {rest : List String}
    (h : Outcome service v ("list" :: rest) failure s') :
    s'.context = {} ∧ (rest ≠ [] ∧ s'.calls = [] ∨
      rest = [] ∧ s'.calls = match DeviceService.discover service with
        | .ok paths => Call.tour (loader service) paths
        | .error _ => [.discover]) := by
  cases h with
  | lost hr =>
      have found : (root.seek (loader service)).run { args := "list" :: rest } =
          .ok ⟨"list", .list⟩ { args := rest } := run_seek_root.mpr (.inl ⟨rest, rfl, rfl, rfl⟩)
      cases hr.symm.trans found
  | listing hl ht =>
      cases hl
      exact Task.calls_of_list ht
  | @worded w _ _ _ _ _ _ _ hl =>
      obtain ⟨n, -, hn, tail, hname⟩ := exists_child_of_wording w
      rw [hname] at hl
      exact absurd (List.cons.inj hl).1.symm hn

theorem calls_released (service : σ) (v : Verbosity) (words : List String) :
    (tree.run service v words).released.calls =
      (tree.run service v words).dispatched.calls ++
        (tree.run service v words).dispatched.context.closing := by
  obtain ⟨log, h⟩ := tree.exists_released service v words
  rw [h]
  rfl

/-- A line that is no listing opens at most one device, the one that its last word names, and
writes back at most once, to the device that it has opened.  It opens nothing if its first word is
no command, or its only word.  A listing opens nothing, or what has been found, each path once and
in that order, and writes nothing back. -/
theorem opens_only_last (service : σ) (v : Verbosity) (words : List String) :
    let s := (tree.run service v words).released
    (words.head? ≠ some "list" →
      (s.calls = [] ∨ ∃ last, words.getLast? = some last ∧ Call.Single ⟨last⟩ s.calls) ∧
      (words.length ≤ 1 ∨ (∀ n ∈ root.children, words.head? ≠ some n.name) → s.calls = [])) ∧
    (words.head? = some "list" →
      (s.calls.filterMap Call.looked? = [] ∨ ∃ paths, DeviceService.discover service = .ok paths ∧
        s.calls.filterMap Call.looked? = paths) ∧
      (words.length = 1 → ∀ paths, DeviceService.discover service = .ok paths →
        s.calls.filterMap Call.looked? = paths) ∧
      s.commits = []) := by
  intro s
  have h := outcome service v words
  have calls : s.calls = _ := calls_released service v words
  refine ⟨fun hw => ?_, fun hw => ?_⟩
  · rw [calls]
    rcases calls_of_outcome h hw with hnone | ⟨n, hn, tail, last, hwords, hl, hs⟩
    · exact ⟨.inl hnone, fun _ => hnone⟩
    · refine ⟨.inr ⟨last, ?_, hs⟩, fun hshort => ?_⟩
      · rw [hwords]
        exact getLast?_of_suffix (List.suffix_cons n.name tail) hl
      · rcases hshort with hshort | hunknown
        · obtain ⟨front, rfl⟩ := List.getLast?_eq_some_iff.mp hl
          simp [hwords] at hshort
        · exact absurd (by rw [hwords]; rfl) (hunknown n hn)
  · obtain ⟨rest, rfl⟩ := List.head?_eq_some_iff.mp hw
    obtain ⟨hcontext, ⟨hne, hcalls⟩ | ⟨hrest, hcalls⟩⟩ := listing_of_outcome h
    · rw [hcontext, hcalls] at calls
      have none : s.calls = [] := calls
      rw [Session.commits, none]
      refine ⟨.inl rfl, fun hlen => ?_, rfl⟩
      exact absurd (by simpa using hlen) hne
    · rw [hcontext, hcalls] at calls
      rw [Session.commits, calls]
      cases hd : DeviceService.discover service with
      | error e =>
          refine ⟨.inl rfl, fun _ paths hp => ?_, rfl⟩
          cases hp
      | ok paths =>
          have closed : Call.tour (loader service) paths ++ ({} : Context).closing =
              Call.tour (loader service) paths := List.append_nil _
          have looked := Call.filterMap_looked?_tour (loader service) paths
          simp only [closed]
          refine ⟨.inr ⟨paths, rfl, looked⟩, fun _ paths' hp => ?_, ?_⟩
          · cases hp
            exact looked
          · exact List.filterMap_eq_nil_iff.mpr fun _ => Call.commit?_of_mem_tour

/-- A device on a shelf is opened to set its dpi, nothing is opened for an unknown word or for a
command without a device, and a listing looks at all that there is. -/
theorem opens_only_last_on_shelf :
    let d : Device := {
      name := "M", capabilities := [.switchableResolution]
      profiles := [{ active := true, resolutions := [{ dpi := 400, active := true }] }] }
    let shelf : Shelf := { entries := [(⟨"m"⟩, .device d)], found := some [⟨"m"⟩, ⟨"n"⟩] }
    (∃ last, ["dpi", "set", "900", "m"].getLast? = some last ∧
      Call.Single ⟨last⟩ (tree.run shelf .normal ["dpi", "set", "900", "m"]).released.calls) ∧
    (tree.run shelf .normal ["reticulate", "m"]).released.calls = [] ∧
    (tree.run shelf .normal ["info"]).released.calls = [] ∧
    (tree.run shelf .normal ["list"]).released.calls.filterMap Call.looked? = [⟨"m"⟩, ⟨"n"⟩] := by
  intro d shelf
  have called : (tree.run shelf .normal ["dpi", "set", "900", "m"]).released.calls ≠ [] := by decide
  have found : DeviceService.discover shelf = .ok [⟨"m"⟩, ⟨"n"⟩] := rfl
  refine ⟨?_, ?_, ?_, ?_⟩
  · rcases ((opens_only_last shelf .normal ["dpi", "set", "900", "m"]).1 (by decide)).1 with h | h
    · exact absurd h called
    · exact h
  · exact ((opens_only_last shelf .normal ["reticulate", "m"]).1 (by decide)).2 (.inr (by decide))
  · exact ((opens_only_last shelf .normal ["info"]).1 (by decide)).2 (.inl (by decide))
  · exact ((opens_only_last shelf .normal ["list"]).2 rfl).2.1 rfl _ found

end Commands

end MouseConfig
