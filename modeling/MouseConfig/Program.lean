import MouseConfig.Command.Run
import MouseConfig.Command.Standard
import MouseConfig.Command.Usage
import MouseConfig.Config
import MouseConfig.Files.Store
import MouseConfig.Log.Filter
import MouseConfig.Log.Line
import MouseConfig.Options

/-! # The program

What the program does with its arguments, as a function of the files and the environment.
-/

namespace MouseConfig.Program

/-- The short version.  The long one, which also names the revision and the target of the build, is
left out: they are known only to the build. -/
def versionLine : String := Commands.programName ++ " 0.1.0\n"

/-- The exit code of a failure outside a command. -/
def failureCode : Nat := 3

/-- A line that reports an error. -/
def errorLine (message : String) : String := s!"✗ {message}\n"

/-- How a failed command is reported, with the usage if it was misused. -/
def errorReport (e : CommandError) : String :=
  if e.wantsUsage then errorLine e.message ++ "\n" ++ Usage.text Commands.tree
  else errorLine e.message

/-- What a run leaves behind. -/
structure Outcome where
  exitCode : Nat
  output : String := ""
  log : List Log.Event := []
  /-- The report of an error. -/
  report : String := ""
  files : FileSystem
deriving DecidableEq, Repr

/-- The devices that a configuration speaks of. -/
def store (c : Config) (fs : FileSystem) : FileStore where
  files := fs
  inputDir := c.effectiveInputDir
  nodePrefix := c.effectivePrefix

/-- Run a command, or show the usage. -/
def run (c : Config) (o : Options) (fs : FileSystem) : Outcome :=
  if o.help then { exitCode := 0, output := Usage.text Commands.tree, files := fs }
  else
    let line := Commands.tree.run (store c fs) o.verbosity o.words
    let s := line.released
    { exitCode := (line.failure.map CommandError.exitCode).getD 0
      output := s.output
      log := s.log
      report := (line.failure.map errorReport).getD ""
      files := s.service.files }

/-! ## The whole program -/

/-- The log filter: from the environment, or else as the verbosity asks, or else as configured. -/
def filterText (c : Config) (v : Verbosity) (given : Option String) : String :=
  match given.filter Environment.nonEmpty with
  | some text => text
  | none => match v with
    | .normal => c.effectiveFilter
    | .verbose => "debug"
    | .raw => "trace"

/-- The texts and the code that a program ends with. -/
structure Result where
  exitCode : Nat
  output : String := ""
  errors : String := ""
  files : FileSystem
deriving DecidableEq, Repr

/-- How a log filter that cannot be read is reported.  The text is abbreviated: what the parser of
filters says about the directive itself is left out. -/
def filterFault : String := "Invalid log filter: invalid filter directive"

/-- A run whose arguments have been read. -/
def runWith (e : Environment) (filter : Option String) (o : Options) (fs : FileSystem) : Result :=
  let directory := e.configDirectory
  match (Config.load fs (configFile directory)).1 with
  | .error fault =>
    { exitCode := failureCode
      errors := errorLine s!"Failed to load configuration: {fault.message}"
      files := fs }
  | .ok c =>
    match Log.Filter.ofText? (filterText c o.verbosity filter) with
    | none =>
      { exitCode := failureCode
        errors := errorLine filterFault
        files := fs }
    | some f =>
      let start := Log.debug .program s!"Using config directory '{directory.text}'"
      let outcome := run c o fs
      let events := (start :: outcome.log).filter f.enables
      { exitCode := outcome.exitCode
        output := outcome.output
        errors := String.join (events.map Log.Event.line) ++ outcome.report
        files := outcome.files }

/-- How arguments are refused.  The texts are abbreviated to the kind of fault: what a parser of
arguments quotes of them, and its hint at the help, are left out. -/
def refusal : Options.Fault → String
  | .invalidValue => "error: invalid value for '--verbose[=<raw>]'\n"
  | .conflict => "error: an option cannot be used multiple times\n"
  | .tooManyValues => "error: unexpected value for an option\n"
  | .version => versionLine

/-- The exit code when arguments are refused. -/
def refusalCode (f : Options.Fault) : Nat := if f.isError then 2 else 0

/-- The whole program. -/
def execute (e : Environment) (filter : Option String) (args : List String) (fs : FileSystem) :
    Result :=
  match Options.read args with
  | .error f =>
    if f.isError then { exitCode := refusalCode f, errors := refusal f, files := fs }
    else { exitCode := refusalCode f, output := refusal f, files := fs }
  | .ok o => runWith e filter o fs

end MouseConfig.Program
