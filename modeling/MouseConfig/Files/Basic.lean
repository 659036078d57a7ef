import MouseConfig.Path

/-! # Files and directories

A file system says what is at each place of a tree of directories.  A path leads to a place from the
working directory, or from the root if it starts with a slash, and every place that it passes has to
be a directory.  Paths and names have a greatest length, in bytes.
-/

namespace MouseConfig

/-- A place: the names that lead to it from the root. -/
abbrev Location := List String

inductive Entry where
  | directory
  /-- A file that holds a text. -/
  | text (content : String)
  /-- A file whose bytes are not a text. -/
  | binary (bytes : List UInt8)
deriving DecidableEq, Repr

structure FileSystem where
  workingDirectory : Location := []
  entries : List (Location × Entry) := []
deriving DecidableEq, Repr

/-- Why the system refuses. -/
inductive SystemError where
  | notFound
  | busy
  | notDirectory
  | isDirectory
  | nameTooLong
  | nulInName
  | notText
deriving DecidableEq, Repr

def SystemError.message : SystemError → String
  | notFound => "No such file or directory (os error 2)"
  | busy => "Device or resource busy (os error 16)"
  | notDirectory => "Not a directory (os error 20)"
  | isDirectory => "Is a directory (os error 21)"
  | nameTooLong => "File name too long (os error 36)"
  | nulInName => "file name contained an unexpected NUL byte"
  | notText => "stream did not contain valid UTF-8"

namespace FileSystem

/-! ## Places -/

/-- What is at a place.  The root is always there. -/
def get? (fs : FileSystem) (l : Location) : Option Entry :=
  if l = [] then some .directory else fs.entries.lookup l

/-- Nothing is at a place any more. -/
def erase (fs : FileSystem) (l : Location) : FileSystem :=
  { fs with entries := fs.entries.filter fun e => e.1 != l }

/-- Put an entry at a place. -/
def put (fs : FileSystem) (l : Location) (e : Entry) : FileSystem :=
  { fs with entries := (l, e) :: (fs.erase l).entries }

@[simp] theorem get?_root (fs : FileSystem) : fs.get? [] = some .directory := by
  simp [get?]

theorem lookup_erase_of_ne (fs : FileSystem) {l l' : Location} (h : l' ≠ l) :
    (fs.erase l).entries.lookup l' = fs.entries.lookup l' := by
  simp only [erase]
  induction fs.entries with
  | nil => rfl
  | cons e rest ih =>
    obtain ⟨k, e⟩ := e
    by_cases he : k = l
    · subst he
      have : (l' == k) = false := by simpa using h
      simp [List.lookup_cons, this, ih]
    · simp [he, List.lookup_cons, ih]

/-- To remove an entry leaves all others as they are. -/
theorem get?_erase_of_ne (fs : FileSystem) {l l' : Location} (h : l' ≠ l) :
    (fs.erase l).get? l' = fs.get? l' := by
  simp only [get?, lookup_erase_of_ne fs h]

theorem get?_erase (fs : FileSystem) {l : Location} (h : l ≠ []) :
    (fs.erase l).get? l = none := by
  simp only [get?, h, if_false, erase]
  induction fs.entries with
  | nil => rfl
  | cons e rest ih =>
    obtain ⟨k, e⟩ := e
    by_cases he : k = l
    · rw [List.filter_cons_of_neg (by simp [he]), ih]
    · have : (l == k) = false := by simpa using Ne.symm he
      rw [List.filter_cons_of_pos (by simp [he]), List.lookup_cons, this, ih]

theorem get?_put (fs : FileSystem) {l : Location} (e : Entry) (h : l ≠ []) :
    (fs.put l e).get? l = some e := by
  simp [get?, put, h]

/-- To put an entry somewhere leaves all others as they are. -/
theorem get?_put_of_ne (fs : FileSystem) {l l' : Location} (e : Entry) (h : l' ≠ l) :
    (fs.put l e).get? l' = fs.get? l' := by
  have : (l' == l) = false := by simpa using h
  simp [get?, put, List.lookup_cons, this, lookup_erase_of_ne fs h]

/-- The names in a directory. -/
def names (fs : FileSystem) (l : Location) : List String :=
  (fs.entries.filterMap fun e => if e.1.dropLast = l then e.1.getLast? else none).eraseDups

/-! ## Paths -/

def expectDirectory (fs : FileSystem) (l : Location) : Except SystemError Unit :=
  match fs.get? l with
  | some .directory => .ok ()
  | some _ => .error .notDirectory
  | none => .error .notFound

/-- The place that a piece of a path leads to. -/
def next (l : Location) (piece : String) : Location :=
  if piece = "" ∨ piece = "." then l else if piece = ".." then l.dropLast else l ++ [piece]

/-- The bytes that a name in a directory may have. -/
def nameLimit : Nat := 255

/-- The bytes that a path may have. -/
def pathLimit : Nat := 4095

/-- The place that pieces of a path lead to.  Nothing need be there. -/
def walk (fs : FileSystem) (l : Location) : List String → Except SystemError Location
  | [] => .ok l
  | piece :: rest => do
    fs.expectDirectory l
    if nameLimit < piece.utf8ByteSize then throw .nameTooLong
    fs.walk (next l piece) rest

/-- Refuse a path that no file system has to look at. -/
def accept (p : Path) : Except SystemError Unit :=
  if p.text.toList.contains '\x00' then .error .nulInName
  else if p.text = "" then .error .notFound
  else if pathLimit < p.text.utf8ByteSize then .error .nameTooLong
  else .ok ()

/-- Where a path starts. -/
def start (fs : FileSystem) (p : Path) : Location :=
  if p.isAbsolute then [] else fs.workingDirectory

/-- The place that a path leads to. -/
def locate (fs : FileSystem) (p : Path) : Except SystemError Location := do
  accept p
  fs.walk (fs.start p) p.pieces

/-- What a path leads to. -/
def stat (fs : FileSystem) (p : Path) : Except SystemError Entry := do
  match fs.get? (← fs.locate p) with
  | some e => return e
  | none => throw .notFound

/-! ## Files -/

def read (fs : FileSystem) (p : Path) : Except SystemError String := do
  match ← fs.stat p with
  | .directory => throw .isDirectory
  | .text content => return content
  | .binary _ => throw .notText

/-- Write a file, which need not be there. -/
def write (fs : FileSystem) (p : Path) (content : String) : Except SystemError FileSystem := do
  let l ← fs.locate p
  if fs.get? l = some .directory then throw .isDirectory
  return fs.put l (.text content)

/-- Remove a file if it is there. -/
def remove (fs : FileSystem) (p : Path) : FileSystem :=
  match fs.locate p with
  | .ok l => if fs.get? l = some .directory then fs else fs.erase l
  | .error _ => fs

/-- The place that a file can be moved to.  The last name of the path has to be a proper one, and no
slash may follow it. -/
def destination (fs : FileSystem) (p : Path) : Except SystemError Location := do
  accept p
  let pieces := (p.pieces.reverse.dropWhile (· = "")).reverse
  let l ← fs.walk (fs.start p) pieces
  if pieces.getLast?.all fun last => last = "." ∨ last = ".." then throw .busy
  if pieces ≠ p.pieces then throw .notDirectory
  return l

/-- Move a file, in place of the file that may be there. -/
def move (fs : FileSystem) (source target : Path) : Except SystemError FileSystem := do
  let l ← fs.locate source
  let e ← fs.stat source
  let l' ← fs.destination target
  if fs.get? l' = some .directory then throw .isDirectory
  return (fs.erase l).put l' e

/-- The file beside a file that new content goes to first. -/
def staging (p : Path) : Path := ⟨p.text ++ ".tmp"⟩

/-- Replace the content of a file as a whole: it is written beside the file and then moved. -/
def replace (fs : FileSystem) (p : Path) (content : String) : Except SystemError Unit × FileSystem :=
  match fs.write (staging p) content with
  | .error e => (.error e, fs)
  | .ok staged =>
    match staged.move (staging p) p with
    | .error e => (.error e, staged.remove (staging p))
    | .ok moved => (.ok (), moved)

/-! ## Directories -/

/-- The entries of a directory whose names start with `lead`, in the order of their names.  What is
not a directory has none. -/
def scan (fs : FileSystem) (directory : Path) (lead : String) : List Path :=
  match fs.locate directory with
  | .error _ => []
  | .ok l =>
    if fs.get? l = some .directory then
      (((fs.names l).filter fun n => lead.toList.isPrefixOf n.toList).mergeSort
        fun a b => decide (a ≤ b)).map directory.join
    else []

end FileSystem

/-- Why a file cannot be used. -/
inductive FileError where
  | read (path : Path) (e : SystemError)
  | write (path : Path) (e : SystemError)
deriving DecidableEq, Repr

def FileError.message : FileError → String
  | read path e => s!"Failed to read file '{path.text}': {e.message}"
  | write path e => s!"Failed to write file '{path.text}': {e.message}"

end MouseConfig
