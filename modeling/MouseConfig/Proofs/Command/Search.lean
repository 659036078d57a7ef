import MouseConfig.Proofs.Session.Run

/-! # Searching for a command

A walk only reads the service, and its log decides nothing.  What is left of it is a search: it
moves a `Stand`, and whether a device opens is a parameter.  `Node.walk_follows` says that a walk
does to a session what the search does to its stand, and adds to the log.
-/

namespace MouseConfig

/-- All of a session that a walk depends on or changes, the log excepted. -/
structure Stand where
  context : Context := {}
  args : List String := []
  calls : List Call := []
deriving DecidableEq, Repr

abbrev Search (α : Type) := EStateM CommandError Stand α

/-- What there is at a path. -/
abbrev Loader := Path → Except DeviceError Device

/-! ## The moves of a search -/

namespace Search

variable {α : Type}

def ofExcept : Except DeviceError α → Search α
  | .ok x => pure x
  | .error e => throw (.device e)

def select (f : Context → Context) : Search Unit :=
  modify fun p => { p with context := f p.context }

def context : Search Context := return (← get).context

def model : Search Device := do ofExcept (← context).openModel

def profile : Search Profile := do ofExcept (← context).selectedProfile

def activeProfile : Search Nat := do
  let some index := (← model).activeProfile? | throw (.device .noActiveProfile)
  return index

def activeResolution : Search Nat := do
  let some index := (← profile).activeResolution? | throw (.device .noActiveResolution)
  return index

/-- Note a call. -/
def called (c : Call) : Search Unit := modify fun p => { p with calls := p.calls ++ [c] }

def openLast (load : Loader) : Search Unit := do
  let some word := (← get).args.getLast? | throw (.device .missingPath)
  called (.load ⟨word⟩ (Step.succeeded (load ⟨word⟩)))
  let d ← ofExcept (load ⟨word⟩)
  modify fun p => { p with args := p.args.dropLast }
  select fun c => { c with device := some ⟨⟨word⟩, d⟩ }

def resolveDevice (load : Loader) : Search Unit := do
  if (← context).device.isNone then openLast load

def resolveProfile : Search Unit := do
  if (← context).profile.isNone then
    let index ← activeProfile
    select fun c => { c with profile := some index }

def resolveResolution : Search Unit := do
  if (← context).resolution.isNone then
    let index ← activeResolution
    select fun c => { c with resolution := some index }

def resolve (load : Loader) : Requirement → Search Unit
  | .nothing => pure ()
  | .device => resolveDevice load
  | .profile => do
    resolveDevice load
    resolveProfile
  | .resolution => do
    resolveDevice load
    resolveProfile
    resolveResolution

def nextWord (node : String) : Search String := do
  let some (word, rest) := Words.takeFirst? (← get).args | throw (.usage (.missingCommand node))
  modify fun p => { p with args := rest }
  return word

def nextIndex? : Search (Option Nat) := do
  match Words.takeIndex? (← get).args with
  | none => return none
  | some (index, rest) =>
    modify fun p => { p with args := rest }
    return some index

def nextIndexOr (active : Search Nat) : Search Nat := do
  match ← nextIndex? with
  | some index => return index
  | none => active

def expectMore (node : String) : Search Unit := do
  if (← get).args.isEmpty then throw (.usage (.missingCommand node))

def selectProfile (index : Nat) : Search Unit := do
  let some _ := (← model).profiles[index]? | throw (.unsupported (.noProfile index))
  select fun c => { c with profile := some index }

def selectResolution (index : Nat) : Search Unit := do
  let some _ := (← profile).resolutions[index]? | throw (.unsupported (.noResolution index))
  select fun c => { c with resolution := some index }

def selectButton (index : Nat) : Search Unit := select fun c => { c with button := some index }

/-! ## Running a search -/

@[simp] theorem run_throw (e : CommandError) (p : Stand) :
    (throw e : Search α).run p = .error e p := rfl

@[simp] theorem run_ofExcept_ok (x : α) (p : Stand) : (ofExcept (.ok x)).run p = .ok x p := rfl

@[simp] theorem run_ofExcept_error (e : DeviceError) (p : Stand) :
    (ofExcept (.error e) : Search α).run p = .error (.device e) p := rfl

@[simp] theorem run_context (p : Stand) : context.run p = .ok p.context p := rfl

@[simp] theorem run_select (f : Context → Context) (p : Stand) :
    (select f).run p = .ok () { p with context := f p.context } := rfl

@[simp] theorem run_called (c : Call) (p : Stand) :
    (called c).run p = .ok () { p with calls := p.calls ++ [c] } := rfl

variable {load : Loader} {p : Stand}

theorem run_nextIndex?_of_none (h : Words.takeIndex? p.args = none) :
    nextIndex?.run p = .ok none p := by
  simp [nextIndex?, h]

theorem run_nextIndex?_of_some {i : Nat} {rest : List String}
    (h : Words.takeIndex? p.args = some (i, rest)) :
    nextIndex?.run p = .ok (some i) { p with args := rest } := by
  simp [nextIndex?, h, -bind_pure_comp]

/-! ## Opening a device -/

theorem run_openLast_of_missing (hw : p.args.getLast? = none) :
    (openLast load).run p = .error (.device .missingPath) p := by
  simp [openLast, hw]

theorem run_openLast_of_error {word : String} {e : DeviceError} (hw : p.args.getLast? = some word)
    (hd : load ⟨word⟩ = .error e) :
    (openLast load).run p =
      .error (.device e) { p with calls := p.calls ++ [.load ⟨word⟩ false] } := by
  simp [openLast, hw, hd, Step.succeeded]

theorem run_openLast_of_ok {word : String} {d : Device} (hw : p.args.getLast? = some word)
    (hd : load ⟨word⟩ = .ok d) :
    (openLast load).run p = .ok ()
      { context := { p.context with device := some ⟨⟨word⟩, d⟩ }, args := p.args.dropLast,
        calls := p.calls ++ [.load ⟨word⟩ true] } := by
  simp [openLast, hw, hd, Step.succeeded]

theorem run_resolveDevice_of_none (h : p.context.device = none) :
    (resolveDevice load).run p = (openLast load).run p := by
  simp [resolveDevice, h]

theorem run_resolveDevice_of_isSome (h : p.context.device.isSome) :
    (resolveDevice load).run p = .ok () p := by
  obtain ⟨o, ho⟩ := Option.isSome_iff_exists.mp h
  simp [resolveDevice, ho]

end Search

open Search in
/-- The selection of a router. -/
def Router.seek (node : String) : Router → Search Unit
  | profile => do
    expectMore node
    selectProfile (← nextIndexOr activeProfile)
  | resolution => do
    expectMore node
    selectResolution (← nextIndexOr activeResolution)
  | button => do
    if let some index ← nextIndex? then selectButton index

open Search

mutual

/-- Search on from a node that has been matched. -/
def Node.seekFrom (load : Loader) : Node → Search Target
  | ⟨name, _, _, requirement, handler, children⟩ => do
    Search.resolve load requirement
    match handler with
    | some (.perform task) => return ⟨name, task⟩
    | some (.route router) =>
      router.seek name
      seekChild load (← nextWord name) children
    | none => seekChild load (← nextWord name) children

/-- Search on from the first node of a list that has the name. -/
def seekChild (load : Loader) (word : String) : List Node → Search Target
  | [] => throw (.usage (.unknownCommand word))
  | c :: rest => if c.name == word then c.seekFrom load else seekChild load word rest

end

/-- Search for the command that the words name. -/
def Node.seek (load : Loader) (n : Node) : Search Target := do
  seekChild load (← nextWord n.name) n.children

/-- Search on from a node whose needs have been met. -/
def Node.seekOn (load : Loader) (n : Node) : Search Target :=
  match n.handler with
  | some (.perform task) => return ⟨n.name, task⟩
  | some (.route router) => do
    router.seek n.name
    n.seek load
  | none => n.seek load

theorem Node.seekFrom_eq (load : Loader) (n : Node) :
    n.seekFrom load = Search.resolve load n.requirement >>= fun _ => n.seekOn load := by
  obtain ⟨name, hint, help, requirement, handler, children⟩ := n
  rcases handler with _ | _ | _ <;> simp only [seekFrom, seek, seekOn]

/-- The search goes on from the first child of the name. -/
theorem seekChild_eq (load : Loader) (word : String) (nodes : List Node) :
    seekChild load word nodes = match nodes.find? fun c => c.name == word with
      | some c => c.seekFrom load
      | none => throw (.usage (.unknownCommand word)) := by
  induction nodes with
  | nil => rw [seekChild]; rfl
  | cons c rest ih =>
      rw [seekChild, ih, List.find?_cons]
      cases c.name == word <;> rfl

end MouseConfig
