/-! # Log events -/

namespace MouseConfig.Log

inductive Level where
  | error | warn | info | debug | trace
deriving DecidableEq, Repr

namespace Level

/-- More detailed levels rank higher. -/
def rank : Level → Nat
  | error => 1
  | warn => 2
  | info => 3
  | debug => 4
  | trace => 5

def name : Level → String
  | error => "ERROR"
  | warn => "WARN"
  | info => "INFO"
  | debug => "DEBUG"
  | trace => "TRACE"

end Level

/-- The part of the program that an event comes from. -/
inductive Source where
  | program | dispatch | resolver | context | service | configuration
  | listing | button | resolution | description
deriving DecidableEq, Repr

/-- The name of a part, which log filters refer to. -/
def Source.target : Source → String
  | program => "ratbag_command"
  | dispatch => "ratbag_command::core::dispatch"
  | resolver => "ratbag_command::core::resolver"
  | context => "ratbag_command::core::context"
  | service => "ratbag_command::core::service"
  | configuration => "ratbag_command::core::global_config"
  | listing => "ratbag_command::cli::commands::list"
  | button => "ratbag_command::cli::commands::button"
  | resolution => "ratbag_command::cli::commands::resolution"
  | description => "ratbag_command::infra::description"

structure Event where
  level : Level
  source : Source
  message : String
deriving DecidableEq, Repr

def debug (source : Source) (message : String) : Event := ⟨.debug, source, message⟩

end MouseConfig.Log
