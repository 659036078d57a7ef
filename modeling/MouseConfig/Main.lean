import MouseConfig.Program

/-! # The command line

What a run may look at is read beforehand: the configuration, the place that the last argument leads
to, and the directory where devices are looked for.  What the run has changed is written afterwards.
-/

namespace MouseConfig.Main

/-! ## Reading -/

/-- The names that lead to the working directory. -/
def workingDirectory : IO Location := do
  return ((← IO.currentDir).toString.splitOn "/").filter (· ≠ "")

/-- The path to a place. -/
def pathTo (l : Location) := (IO.FS.DirEntry.mk "/" ("/".intercalate l)).path

/-- What is at a place.  What is neither a file nor a directory counts as nothing. -/
def entryAt (l : Location) : IO (Option Entry) := do
  let path := pathTo l
  if ← path.isDir then return some .directory
  unless ← path.pathExists do return none
  match (← path.metadata).type with
  | .file =>
    let bytes ← IO.FS.readBinFile path
    return some (match String.fromUTF8? bytes with
      | some content => .text content
      | none => .binary bytes.toList)
  | _ => return none

def record (fs : FileSystem) (l : Location) : IO FileSystem := do
  match ← entryAt l with
  | some e => return fs.put l e
  | none => return fs

/-- Read all that a path passes. -/
def follow (fs : FileSystem) (p : Path) : IO FileSystem := do
  let mut fs := fs
  let mut l := fs.start p
  for piece in p.pieces do
    fs ← record fs l
    l := FileSystem.next l piece
  record fs l

/-- Read a directory with the files in it. -/
def followDirectory (fs : FileSystem) (p : Path) : IO FileSystem := do
  let mut fs ← follow fs p
  if let .ok l := fs.locate p then
    if fs.get? l = some .directory then
      for entry in ← (pathTo l).readDir do
        fs ← record fs (l ++ [entry.fileName])
  return fs

def environment : IO Environment := do
  return {
    configDir := ← IO.getEnv "RATBAG_COMMAND_CONFIG_DIR"
    configHome := ← IO.getEnv "XDG_CONFIG_HOME"
    home := ← IO.getEnv "HOME" }

/-- The files that a run may look at. -/
def filesFor (e : Environment) (args : List String) : IO FileSystem := do
  let path := configFile e.configDirectory
  let mut fs ← follow { workingDirectory := ← workingDirectory } path
  if let (.ok c, _) := Config.load fs path then
    fs ← followDirectory fs c.effectiveInputDir
  if let some last := args.getLast? then
    fs ← follow fs ⟨last⟩
    fs ← follow fs (FileSystem.staging ⟨last⟩)
  return fs

/-! ## Writing -/

/-- Write the files that have changed, each one as a whole. -/
def writeBack (before after : FileSystem) : IO Unit := do
  for (l, e) in after.entries do
    if before.get? l ≠ some e then
      if let .text content := e then
        let staging := (pathTo l).addExtension "tmp"
        IO.FS.writeFile staging content
        IO.FS.rename staging (pathTo l)

end MouseConfig.Main

open MouseConfig in
def main (args : List String) : IO UInt32 := do
  let e ← Main.environment
  let fs ← Main.filesFor e args
  let r := Program.execute e (← IO.getEnv "RUST_LOG") args fs
  try
    Main.writeBack fs r.files
  catch fault =>
    IO.eprint (Program.errorLine (toString fault))
    return UInt32.ofNat Program.failureCode
  IO.print r.output
  IO.eprint r.errors
  return UInt32.ofNat r.exitCode
