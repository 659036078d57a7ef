import MouseConfig.Command.Run

/-! # Running steps

What each basic step does to a session, as equations.
-/

namespace MouseConfig

variable {σ : Type}

namespace Step

variable {α : Type}

@[simp] theorem run_throw (e : CommandError) (s : Session σ) :
    (throw e : Step σ α).run s = .error e s := rfl

@[simp] theorem run_ofExcept_ok (x : α) (s : Session σ) :
    (ofExcept (.ok x) : Step σ α).run s = .ok x s := rfl

@[simp] theorem run_ofExcept_error (e : DeviceError) (s : Session σ) :
    (ofExcept (.error e) : Step σ α).run s = .error (.device e) s := rfl

@[simp] theorem run_context (s : Session σ) : (context : Step σ Context).run s = .ok s.context s :=
  rfl

@[simp] theorem run_note (e : Log.Event) (s : Session σ) :
    (note e : Step σ Unit).run s = .ok () { s with log := s.log ++ [e] } := rfl

@[simp] theorem run_print (text : String) (s : Session σ) :
    (print text : Step σ Unit).run s = .ok () { s with output := s.output ++ text } := rfl

@[simp] theorem run_called (c : Call) (s : Session σ) :
    (called c : Step σ Unit).run s = .ok () { s with calls := s.calls ++ [c] } := rfl

@[simp] theorem run_select (f : Context → Context) (s : Session σ) :
    (select f : Step σ Unit).run s = .ok () { s with context := f s.context } := rfl

theorem run_model (s : Session σ) :
    (model : Step σ Device).run s = (ofExcept s.context.openModel).run s := rfl

theorem run_profile (s : Session σ) :
    (profile : Step σ Profile).run s = (ofExcept s.context.selectedProfile).run s := rfl

theorem run_resolution (s : Session σ) :
    (resolution : Step σ Resolution).run s = (ofExcept s.context.selectedResolution).run s := rfl

variable [DeviceService σ]

theorem run_load (path : Path) (s : Session σ) :
    (load path : Step σ _).run s = .ok (DeviceService.load s.service path).1
      { s with
        calls := s.calls ++ [.load path (succeeded (DeviceService.load s.service path).1)]
        log := s.log ++ (DeviceService.load s.service path).2 } := rfl

theorem run_releaseDevice (path : Path) (s : Session σ) :
    (releaseDevice path : Step σ Unit).run s = .ok ()
      { s with
        calls := s.calls ++ [.release path]
        log := s.log ++ DeviceService.release s.service path } := rfl

end Step

/-- The session after a device has been written back, or could not be. -/
def Session.written [DeviceService σ] (s : Session σ) (o : OpenDevice) : Session σ :=
  { s with
    service := (DeviceService.commit s.service o.path o.model).2
    calls :=
      s.calls ++ [.commit o.path (Step.succeeded (DeviceService.commit s.service o.path o.model).1.1)]
    log := s.log ++ (DeviceService.commit s.service o.path o.model).1.2 }

@[simp] theorem Session.context_written [DeviceService σ] (s : Session σ) (o : OpenDevice) :
    (s.written o).context = s.context := rfl

namespace Step

variable [DeviceService σ]

theorem run_commit {s : Session σ} {o : OpenDevice} (h : s.context.device = some o) :
    (commit : Step σ Unit).run s =
      (ofExcept (DeviceService.commit s.service o.path o.model).1.1).run (s.written o) := by
  simp only [commit, EStateM.run_bind, run_context, Context.openDevice, h, run_ofExcept_ok]
  rfl

theorem run_commit_of_none {s : Session σ} (h : s.context.device = none) :
    (commit : Step σ Unit).run s = .error (.device (.notSelected .device)) s := by
  simp [commit, Context.openDevice, h]

end Step

end MouseConfig
