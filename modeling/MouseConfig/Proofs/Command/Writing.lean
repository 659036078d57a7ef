import MouseConfig.Proofs.Command.Follows
import MouseConfig.Proofs.Command.Perform
import MouseConfig.Proofs.Command.Sound

/-! # What a task writes

A plan that is carried out commits its update once and then prints.  The listing of devices commits
nothing.
-/

namespace MouseConfig

variable {σ : Type}

/-- The path of a commit, and whether it succeeded. -/
def Call.commit? : Call → Option (Path × Bool)
  | commit path succeeded => some (path, succeeded)
  | _ => none

namespace Session

def commits (s : Session σ) : List (Path × Bool) := s.calls.filterMap Call.commit?

theorem commits_moved {load : Loader} {s : Session σ} {p : Stand} (h : p.Sound load)
    (log : List Log.Event) : (s.moved p log).commits = [] := by
  refine List.filterMap_eq_nil_iff.mpr fun c hc => ?_
  obtain ⟨path, succeeded, rfl⟩ := h.loads c hc
  rfl

/-- The session with an update made in its open device. -/
def updated (s : Session σ) (u : Update) : Session σ :=
  { s with context := s.context.modifyModel u.apply }

/-- The session after more calls and log events. -/
def grown (s : Session σ) (calls : List Call) (log : List Log.Event) : Session σ :=
  { s with calls := s.calls ++ calls, log := s.log ++ log }

theorem grown_grown (s : Session σ) (calls calls' : List Call) (log log' : List Log.Event) :
    (s.grown calls log).grown calls' log' = s.grown (calls ++ calls') (log ++ log') := by
  simp [grown, List.append_assoc]

theorem noted_grown (s : Session σ) (calls : List Call) (log log' : List Log.Event) :
    (s.grown calls log).noted log' = s.grown calls (log ++ log') := by
  simp [grown, noted, List.append_assoc]

theorem commits_grown (s : Session σ) {calls : List Call} (h : ∀ c ∈ calls, c.commit? = none)
    (log : List Log.Event) : (s.grown calls log).commits = s.commits := by
  have none : calls.filterMap Call.commit? = [] := List.filterMap_eq_nil_iff.mpr h
  simp [commits, grown, none]

theorem commits_written [DeviceService σ] (s : Session σ) (o : OpenDevice) :
    (s.written o).commits = s.commits ++
      [(o.path, Step.succeeded (DeviceService.commit s.service o.path o.model).1.1)] := by
  simp [commits, written, Call.commit?]

end Session

open Step

variable [DeviceService σ] {s s' : Session σ}

/-! ## Plans -/

namespace Plan

variable {p : Plan}

theorem run_carryOut_of_none (h : p.update = none) :
    (p.carryOut : Step σ Unit).run s = .ok () { s with output := s.output ++ p.output } := by
  simp [carryOut, h]

theorem run_carryOut_of_some {u : Update} {o : OpenDevice} (h : p.update = some u)
    (ho : s.context.device = some o) :
    (p.carryOut : Step σ Unit).run s =
      (Step.ofExcept (DeviceService.commit s.service o.path (u.apply o.model)).1.1 >>= fun _ =>
        Step.print p.output).run ((s.updated u).written ⟨o.path, u.apply o.model⟩) := by
  have changed : (s.updated u).context.device = some ⟨o.path, u.apply o.model⟩ := by
    simp [Session.updated, Context.modifyModel, ho]
  have committed := run_commit changed
  simp only [carryOut, h, EStateM.run_bind, run_select]
  rw [show ({ s with context := s.context.modifyModel u.apply } : Session σ) = s.updated u from rfl,
    committed]
  rfl

theorem run_carryOut_of_closed {u : Update} (h : p.update = some u)
    (ho : s.context.device = none) :
    (p.carryOut : Step σ Unit).run s = .error (.device (.notSelected .device)) (s.updated u) := by
  have closed : (s.updated u).context.device = none := by
    simp [Session.updated, Context.modifyModel, ho]
  have committed := run_commit_of_none closed
  simp only [carryOut, h, EStateM.run_bind, run_select]
  rw [show ({ s with context := s.context.modifyModel u.apply } : Session σ) = s.updated u from rfl,
    committed]

end Plan

/-! ## The listing of devices -/

/-- The calls that look at a path.  A device that opens is released again. -/
def Call.visit (load : Loader) (path : Path) : List Call :=
  match load path with
  | .ok _ => [.load path true, .release path]
  | .error _ => [.load path false]

theorem Call.commit?_of_mem_visit {load : Loader} {path : Path} {c : Call}
    (h : c ∈ visit load path) : c.commit? = none := by
  rw [visit] at h
  cases hd : load path with
  | ok d =>
      rw [hd] at h
      rcases h with _ | ⟨_, _ | ⟨_, h⟩⟩
      · rfl
      · rfl
      · cases h
  | error e =>
      rw [hd] at h
      rcases h with _ | ⟨_, h⟩
      · rfl
      · cases h

/-- The calls of a listing of some paths. -/
def Call.tour (load : Loader) (paths : List Path) : List Call :=
  .discover :: paths.flatMap (visit load)

theorem Call.commit?_of_mem_tour {load : Loader} {paths : List Path} {c : Call}
    (h : c ∈ tour load paths) : c.commit? = none := by
  rcases List.mem_cons.mp h with rfl | h
  · rfl
  · obtain ⟨path, -, hc⟩ := List.mem_flatMap.mp h
    exact commit?_of_mem_visit hc

namespace Task

/-- What is listed of a path: the name of its device, if it opens. -/
def listing? (load : Loader) (path : Path) : Option (Path × String) :=
  (load path).toOption.map fun d => (path, d.name)

/-- What is printed of the devices that have been found. -/
def listingText (found : List (Path × String)) : String :=
  if found.isEmpty then "No supported devices found\n"
  else Text.unlines (found.map fun e => s!"{e.1.text}:\t{e.2}")

/-- The paths are looked at one after the other. -/
theorem run_listed (paths : List Path) (s : Session σ) :
    ∃ log, (listed paths : Step σ _).run s =
      .ok (paths.filterMap (listing? (loader s.service)))
        (s.grown (paths.flatMap (Call.visit (loader s.service))) log) := by
  induction paths generalizing s with
  | nil => exact ⟨[], by simp [listed, Session.grown]⟩
  | cons path rest ih =>
      let loaded := (DeviceService.load s.service path).2
      cases hd : (DeviceService.load s.service path).1 with
      | error e =>
          let skipped := Log.debug .listing s!"Skipping '{path.text}': {e.message}"
          have visited : Call.visit (loader s.service) path = [.load path false] := by
            simp [Call.visit, loader, hd]
          have passed : listing? (loader s.service) path = none := by
            simp [listing?, loader, hd, Except.toOption]
          obtain ⟨log, h⟩ := ih ((s.grown [.load path false] loaded).noted [skipped])
          refine ⟨loaded ++ [skipped] ++ log, ?_⟩
          have opened : (load path : Step σ _).run s =
              .ok (.error e) (s.grown [.load path false] loaded) := by
            rw [run_load, hd]
            rfl
          rw [Session.noted_grown, Session.grown_grown] at h
          rw [List.flatMap_cons, visited, List.filterMap_cons_none passed]
          simp only [listed, EStateM.run_bind, opened]
          refine Eq.trans ?_ h
          rw [← Session.noted_grown]
          rfl
      | ok d =>
          let released := DeviceService.release s.service path
          have visited : Call.visit (loader s.service) path =
              [.load path true] ++ [.release path] := by
            simp [Call.visit, loader, hd]
          have named : listing? (loader s.service) path = some (path, d.name) := by
            simp [listing?, loader, hd, Except.toOption]
          obtain ⟨log, h⟩ :=
            ih ((s.grown [.load path true] loaded).grown [.release path] released)
          refine ⟨loaded ++ released ++ log, ?_⟩
          have opened : (load path : Step σ _).run s =
              .ok (.ok d) (s.grown [.load path true] loaded) := by
            rw [run_load, hd]
            rfl
          have closed : (releaseDevice path : Step σ _).run (s.grown [.load path true] loaded) =
              .ok () ((s.grown [.load path true] loaded).grown [.release path] released) := rfl
          rw [List.flatMap_cons, visited, List.filterMap_cons_some named]
          simp only [listed, EStateM.run_bind, opened, closed, h, EStateM.run_pure]
          simp only [Session.grown_grown]
          rfl

theorem run_list_of_args {command : String} (h : s.args ≠ []) :
    (runList command : Step σ Unit).run s = .error (.usage (.surplusArguments command)) s := by
  have refused : (noArguments command : Step σ Unit).run s =
      .error (.usage (.surplusArguments command)) s := by
    rw [(Judges.noArguments command).run_eq, Plan.noArguments, if_neg h]
    rfl
  simp [runList, refused]

theorem run_list_of_nil {command : String} (h : s.args = []) :
    (runList command : Step σ Unit).run s = (supportedDevices >>= fun found =>
      if found.isEmpty then printLine "No supported devices found"
      else print (Text.unlines (found.map fun e => s!"{e.1.text}:\t{e.2}"))).run s := by
  have passed : (noArguments command : Step σ Unit).run s = .ok () s := by
    rw [(Judges.noArguments command).run_eq, Plan.noArguments, if_pos h]
    rfl
  simp only [runList, EStateM.run_bind, passed]

/-- The listing fails before it has opened anything if there is nowhere to look. -/
theorem run_list_of_undiscovered {command : String} {e : DeviceError} (h : s.args = [])
    (hd : DeviceService.discover s.service = .error e) :
    (runList command : Step σ Unit).run s = .error (.device e) (s.grown [.discover] []) := by
  have looked : (supportedDevices : Step σ _).run s =
      .error (.device e) (s.grown [.discover] []) := by
    simp [supportedDevices, Step.discover, hd, Session.grown]
  simp only [run_list_of_nil h, EStateM.run_bind, looked]

/-- Otherwise it looks at all that it has found, and prints once at its end. -/
theorem run_list_of_discovered {command : String} {paths : List Path} (h : s.args = [])
    (hd : DeviceService.discover s.service = .ok paths) :
    ∃ log, (runList command : Step σ Unit).run s =
      .ok () { s.grown (Call.tour (loader s.service) paths) log with
        output := s.output ++ listingText (paths.filterMap (listing? (loader s.service))) } := by
  obtain ⟨log, hl⟩ := run_listed paths (s.grown [.discover] [])
  have looked : (supportedDevices : Step σ _).run s =
      .ok (paths.filterMap (listing? (loader s.service)))
        (s.grown (Call.tour (loader s.service) paths) log) := by
    rw [Session.grown_grown] at hl
    refine Eq.trans ?_ hl
    simp [supportedDevices, Step.discover, hd, Session.grown]
  simp only [run_list_of_nil h, EStateM.run_bind, looked]
  refine ⟨log, ?_⟩
  rw [listingText]
  cases (paths.filterMap (listing? (loader s.service))).isEmpty <;> rfl

end Task

/-! ## The end of a session -/

/-- The calls that give up what is selected. -/
def Context.closing (c : Context) : List Call := (c.device.map fun o => .release o.path).toList

theorem Context.commit?_of_mem_closing {c : Context} {call : Call} (h : call ∈ c.closing) :
    call.commit? = none := by
  obtain ⟨o, -, rfl⟩ := Option.map_eq_some_iff.mp (Option.mem_toList.mp h)
  rfl

theorem Step.run_release (s : Session σ) :
    ∃ log, (Step.release : Step σ Unit).run s =
      .ok () { s.grown s.context.closing log with context := {} } := by
  obtain ⟨service, verbosity, words, ⟨device, profile, resolution, button⟩, -, -, -, -⟩ := s
  let noted := (resolution.map fun i => Log.debug .context s!"Releasing resolution {i}").toList ++
    (profile.map fun i => Log.debug .context s!"Releasing profile {i}").toList
  cases device with
  | none =>
      refine ⟨noted, ?_⟩
      cases resolution <;> cases profile <;>
        simp [Step.release, Session.grown, Context.closing, noted]
  | some o =>
      refine ⟨noted ++ DeviceService.release service o.path, ?_⟩
      cases resolution <;> cases profile <;>
        simp [Step.release, Session.grown, Context.closing, noted, run_releaseDevice]

end MouseConfig
