import MouseConfig.Files.Basic
import MouseConfig.Log.Event
import MouseConfig.Toml.Record

/-! # Configuration

A file says where devices are looked for and what is logged.  Whatever it leaves out has a default,
and so has everything if there is no file.
-/

namespace MouseConfig

open Toml

structure Config where
  inputDir : Option Path := none
  nodePrefix : Option String := none
  filter : Option String := none
deriving DecidableEq, Repr

inductive ConfigError where
  | unreadable (path : Path) (reason : String)
  | malformed (path : Path) (reason : String)
deriving DecidableEq, Repr

def ConfigError.message : ConfigError → String
  | unreadable path reason => s!"Failed to read config file '{path.text}': {reason}"
  | malformed path reason => s!"Failed to parse config file '{path.text}': {reason}"

namespace Config

/-! ## Settings in effect -/

def effectiveInputDir (c : Config) : Path := c.inputDir.getD ⟨"/dev/input"⟩

def effectivePrefix (c : Config) : String := c.nodePrefix.getD "event"

def effectiveFilter (c : Config) : String := c.filter.getD "warn"

/-! ## Reading -/

/-- The settings of a section.  In an array all of them are there. -/
def section? (keys : List String) : Value → Option (List (String × Value))
  | .array vs => if keys.length ≤ vs.length then some (keys.zip vs) else none
  | v => v.entries?

/-- A setting that may be left out. -/
def setting? (es : List (String × Value)) (key : String) : Option (Option String) :=
  fieldD es key (fun v => v.text?.map some) none

def ofEntries? (es : List (String × Value)) : Option Config := do
  let devices ← fieldD es "devices" (section? ["input_dir", "node_prefix"]) []
  let log ← fieldD es "log" (section? ["filter"]) []
  return {
    inputDir := (← setting? devices "input_dir").map Path.mk
    nodePrefix := ← setting? devices "node_prefix"
    filter := ← setting? log "filter" }

def ofText (text : String) : Except Fault Config := readAs ofEntries? text

/-- Load the configuration from a file that need not be there. -/
def load (fs : FileSystem) (path : Path) : Except ConfigError Config × List Log.Event :=
  match fs.stat path with
  | .error _ =>
    (.ok {}, [Log.debug .configuration s!"No config file at '{path.text}', using defaults"])
  | .ok _ =>
    match fs.read path with
    | .error e => (.error (.unreadable path e.message), [])
    | .ok text =>
      match ofText text with
      | .error f => (.error (.malformed path f.message), [])
      | .ok c => (.ok c, [])

end Config

/-! # Where the configuration is -/

/-- What the environment says about directories. -/
structure Environment where
  /-- The directory of the configuration, if one is given outright. -/
  configDir : Option String := none
  /-- The directory of all configurations. -/
  configHome : Option String := none
  home : Option String := none
  /-- The home directory of the user account. -/
  accountHome : Option String := none
deriving DecidableEq, Repr

namespace Environment

/-- A text that is not empty. -/
def nonEmpty (s : String) : Bool := s != ""

def homeDir? (e : Environment) : Option Path :=
  ((e.home.filter nonEmpty).orElse fun _ => e.accountHome).map Path.mk

/-- The directory of all configurations: an absolute one that is given, or one in the home
directory. -/
def configHome? (e : Environment) : Option Path :=
  ((e.configHome.map Path.mk).filter Path.isAbsolute).orElse fun _ =>
    e.homeDir?.map (·.join ".config")

def configDirectory (e : Environment) : Path :=
  match e.configDir.filter nonEmpty with
  | some dir => ⟨dir⟩
  | none => (e.configHome?.getD ⟨"./.config"⟩).join "ratbag-command"

end Environment

/-- The configuration file in a directory. -/
def configFile (directory : Path) : Path := directory.join "config.toml"

end MouseConfig
