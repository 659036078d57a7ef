import MouseConfig.Session

/-! # Global options

Options stand before the command.  The first word that is none of them starts the command, and from
there on every word is taken as it is.  Two dashes end the options and are dropped.
-/

namespace MouseConfig

structure Options where
  verbosity : Verbosity := .normal
  help : Bool := false
  words : List String := []
deriving DecidableEq, Repr

/-- Why no command is run. -/
inductive Options.Fault where
  | invalidValue
  | conflict
  | tooManyValues
  /-- The version is asked for, which is not an error. -/
  | version
deriving DecidableEq, Repr

/-- Whether it is an error, which is told on the error output. -/
def Options.Fault.isError : Options.Fault → Bool
  | version => false
  | _ => true

namespace Options

/-- Set the verbosity, once. -/
def setVerbosity (o : Options) (v : Verbosity) : Except Fault Options :=
  if o.verbosity = .normal then .ok { o with verbosity := v } else .error .conflict

/-- Ask for help, once. -/
def setHelp (o : Options) : Except Fault Options :=
  if o.help then .error .conflict else .ok { o with help := true }

/-- A value of the verbosity after an equals sign.  That the option comes twice is found out before
its value is looked at. -/
def setDetail (o : Options) (value : List Char) : Except Fault Options := do
  let o' ← o.setVerbosity .verbose
  if value = "debug".toList then return o'
  else if value = "raw".toList then return { o' with verbosity := .raw }
  else throw .invalidValue

/-- One of the short options, behind a single dash. -/
inductive Short where
  | help | version
deriving DecidableEq, Repr

def Short.ofChar? : Char → Option Short
  | 'h' => some .help
  | 'V' => some .version
  | _ => none

def setShort (o : Options) : List Short → Except Fault Options
  | [] => .ok o
  | .help :: rest => do (← o.setHelp).setShort rest
  | .version :: _ => .error .version

/-- What follows after some characters and an equals sign. -/
def valueOf? (name word : List Char) : Option (List Char) :=
  if (name ++ ['=']).isPrefixOf word then some (word.drop (name.length + 1)) else none

/-- Take an option, unless the word is none. -/
def take? (o : Options) (word : List Char) : Option (Except Fault Options) :=
  match word with
  | '-' :: '-' :: name =>
    if name = "verbose".toList then some (o.setVerbosity .verbose)
    else if name = "help".toList then some o.setHelp
    else if name = "version".toList then some (.error .version)
    else if let some value := valueOf? "verbose".toList name then some (o.setDetail value)
    else if (valueOf? "help".toList name).isSome ∨ (valueOf? "version".toList name).isSome then
      some (.error .tooManyValues)
    else none
  | '-' :: c :: cs => ((c :: cs).mapM Short.ofChar?).map o.setShort
  | _ => none

/-- Read options from the front, on top of those that have been read. -/
def readFrom (o : Options) : List String → Except Fault Options
  | [] => .ok o
  | "--" :: rest => .ok { o with words := rest }
  | word :: rest =>
    match o.take? word.toList with
    | none => .ok { o with words := word :: rest }
    | some (.error f) => .error f
    | some (.ok o') => o'.readFrom rest

/-- Read the arguments of the program. -/
def read (args : List String) : Except Fault Options := readFrom {} args

end Options

end MouseConfig
