import MouseConfig.Device.Description
import MouseConfig.Device.Sheet
import MouseConfig.Files.Basic
import MouseConfig.Service.Basic

/-! # Devices in files

A service that keeps each device as a description in a file of its own.
-/

namespace MouseConfig

structure FileStore where
  files : FileSystem
  /-- The directory where devices are looked for. -/
  inputDir : Path
  /-- How the names of their files start. -/
  nodePrefix : String
deriving DecidableEq, Repr

namespace FileStore

/-- The device that a text describes. -/
def parse (path : Path) (text : String) : Except DeviceError Device :=
  match Device.ofDescription text with
  | .ok d => .ok d
  | .error f => .error (.malformed path f.message)

def load (s : FileStore) (path : Path) : Except DeviceError Device × List Log.Event :=
  match s.files.stat path with
  | .ok (.text content) => (parse path content, [])
  | .ok (.binary _) => (.error (.unreadable path (FileError.read path .notText).message), [])
  | _ => (.error (.notSupported path),
      [Log.debug .description s!"'{path.text}' is not a regular file"])

def commit (s : FileStore) (path : Path) (d : Device) :
    (Except DeviceError Unit × List Log.Event) × FileStore :=
  match d.description? with
  | none => ((.error (.notCommitted path "out-of-range value for u64 type"), []), s)
  | some content =>
    let writing : Log.Event :=
      ⟨.trace, .description, s!"Writing description of '{path.text}':\n{content}"⟩
    let (r, files) := s.files.replace path content
    match r with
    | .error e =>
      ((.error (.notCommitted path (FileError.write path e).message), [writing]), { s with files })
    | .ok () =>
      ((.ok (), [writing, Log.debug .description s!"Committed changes to '{path.text}'"]),
        { s with files })

def discover (s : FileStore) : List Path := s.files.scan s.inputDir s.nodePrefix

instance : DeviceService FileStore where
  load := load
  commit := commit
  discover s := .ok s.discover
  release _ path := [Log.debug .service s!"Releasing device '{path.text}'"]

end FileStore

end MouseConfig
