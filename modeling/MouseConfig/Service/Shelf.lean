import MouseConfig.Service.Basic

/-! # Devices on a shelf

A service that keeps devices as values.  Some entries cannot be opened, and the whole shelf may
refuse to commit or to be searched.
-/

namespace MouseConfig

inductive Shelf.Entry where
  | device (d : Device)
  | malformed (reason : String)
  | unreadable (reason : String)
deriving DecidableEq, Repr

structure Shelf where
  entries : List (Path × Shelf.Entry) := []
  /-- Why nothing can be committed. -/
  commitFailure : Option String := none
  /-- Why nothing can be found. -/
  searchFailure : Option String := none
  /-- What is found, if not every entry. -/
  found : Option (List Path) := none
deriving DecidableEq, Repr

namespace Shelf

/-- The entry at a path. -/
def get? (s : Shelf) (path : Path) : Option Entry :=
  (s.entries.find? fun e => e.1.same path).map (·.2)

/-- Put an entry at a path, in place of the one that is there. -/
def put (path : Path) (entry : Entry) : List (Path × Entry) → List (Path × Entry)
  | [] => [(path, entry)]
  | e :: rest => if e.1.same path then (e.1, entry) :: rest else e :: put path entry rest

/-- The devices of the shelf with their paths. -/
def devices (s : Shelf) : List (Path × Device) :=
  s.entries.filterMap fun e => match e.2 with
    | .device d => some (e.1, d)
    | _ => none

def load (s : Shelf) (path : Path) : Except DeviceError Device :=
  match s.get? path with
  | none => .error (.notSupported path)
  | some (.device d) => .ok d
  | some (.malformed reason) => .error (.malformed path reason)
  | some (.unreadable reason) => .error (.unreadable path reason)

def commit (s : Shelf) (path : Path) (d : Device) : Except DeviceError Unit × Shelf :=
  match s.commitFailure with
  | some reason => (.error (.notCommitted path reason), s)
  | none => (.ok (), { s with entries := put path (.device d) s.entries })

def discover (s : Shelf) : Except DeviceError (List Path) :=
  match s.searchFailure with
  | some reason => .error (.unreadable ⟨"devices"⟩ reason)
  | none => .ok (s.found.getD ((s.entries.map (·.1)).mergeSort Path.le))

instance : DeviceService Shelf where
  load s path := (s.load path, [])
  commit s path d := let (r, s') := s.commit path d; ((r, []), s')
  discover := discover
  release _ _ := []

end Shelf

end MouseConfig
