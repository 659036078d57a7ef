import MouseConfig.Key
import MouseConfig.Text.Lines
import MouseConfig.Text.Numeral

/-! # What a button does

A button is mapped to exactly one action.  On the command line an action is a kind and one
argument; a key sequence is written as a name, a colon and the keys between commas, each of which
is pressed and released.
-/

namespace MouseConfig

/-- Functions of the device itself. -/
inductive Special where
  | doubleclick | wheelLeft | wheelRight | wheelUp | wheelDown | ratchetModeSwitch
  | resolutionCycleUp | resolutionCycleDown | resolutionUp | resolutionDown
  | resolutionAlternate | resolutionDefault
  | profileCycleUp | profileCycleDown | profileUp | profileDown
  | secondMode | batteryLevel
deriving DecidableEq, Repr

namespace Special

def all : List Special :=
  [doubleclick, wheelLeft, wheelRight, wheelUp, wheelDown, ratchetModeSwitch,
   resolutionCycleUp, resolutionCycleDown, resolutionUp, resolutionDown,
   resolutionAlternate, resolutionDefault,
   profileCycleUp, profileCycleDown, profileUp, profileDown,
   secondMode, batteryLevel]

theorem mem_all (s : Special) : s ∈ all := by cases s <;> decide

def name : Special → String
  | doubleclick => "doubleclick"
  | wheelLeft => "wheel-left"
  | wheelRight => "wheel-right"
  | wheelUp => "wheel-up"
  | wheelDown => "wheel-down"
  | ratchetModeSwitch => "ratchet-mode-switch"
  | resolutionCycleUp => "resolution-cycle-up"
  | resolutionCycleDown => "resolution-cycle-down"
  | resolutionUp => "resolution-up"
  | resolutionDown => "resolution-down"
  | resolutionAlternate => "resolution-alternate"
  | resolutionDefault => "resolution-default"
  | profileCycleUp => "profile-cycle-up"
  | profileCycleDown => "profile-cycle-down"
  | profileUp => "profile-up"
  | profileDown => "profile-down"
  | secondMode => "second-mode"
  | batteryLevel => "battery-level"

def ofName? (text : String) : Option Special := all.find? fun s => s.name == text

end Special

inductive KeyEvent.Edge where
  | pressed | released
deriving DecidableEq, Repr

namespace KeyEvent.Edge

def name : Edge → String
  | pressed => "pressed"
  | released => "released"

def ofName? (text : String) : Option Edge := [pressed, released].find? fun e => e.name == text

def sign : Edge → String
  | pressed => "+"
  | released => "-"

end KeyEvent.Edge

/-- One step of a key sequence. -/
structure KeyEvent where
  edge : KeyEvent.Edge
  key : String
deriving DecidableEq, Repr

namespace KeyEvent

def text (e : KeyEvent) : String := e.edge.sign ++ e.key

/-- A press and a release of one key. -/
def stroke (key : String) : List KeyEvent := [⟨.pressed, key⟩, ⟨.released, key⟩]

end KeyEvent

inductive Action where
  | disabled
  | button (number : UInt32)
  | key (name : String)
  | special (function : Special)
  | sequence (name : String) (events : List KeyEvent)
deriving DecidableEq, Repr

/-- Why the words of an action are refused. -/
inductive Action.Error where
  | kind (word : String)
  | button (word : String)
  | key (word : String)
  | special (word : String)
  | sequence (word : String)
deriving DecidableEq, Repr

def Action.Error.message : Action.Error → String
  | kind word => s!"Invalid action type '{word}'"
  | button word => s!"Invalid button number '{word}'"
  | key word => s!"Failed to resolve key {word}"
  | special word => s!"Invalid special command '{word}'"
  | sequence word => s!"Invalid macro '{word}', expected name:KEY_FOO,KEY_BAR,..."

namespace Action

instance : Inhabited Action := ⟨disabled⟩

/-- The events of a list of keys, or the first one that is not a key. -/
def strokes : List String → Except Error (List KeyEvent)
  | [] => .ok []
  | k :: rest =>
    if Key.isKnown k then (strokes rest).map (KeyEvent.stroke k ++ ·) else .error (.key k)

/-- Read a key sequence, `name:KEY_FOO,KEY_BAR`.  Neither side of the first colon is empty. -/
def ofSequence? (word : String) : Except Error Action :=
  match Text.cut ':' word.toList with
  | some (c :: name, k :: keys) =>
    (strokes ((Text.pieces (k :: keys)).map String.ofList)).map
      (.sequence (String.ofList (c :: name)))
  | _ => .error (.sequence word)

/-- Read an action from its kind and argument on the command line. -/
def ofWords? (kind word : String) : Except Error Action :=
  match kind with
  | "button" => match Numeral.word? word with
    | some n => .ok (.button n)
    | none => .error (.button word)
  | "key" => if Key.isKnown word then .ok (.key word) else .error (.key word)
  | "special" => match Special.ofName? word with
    | some s => .ok (.special s)
    | none => .error (.special word)
  | "macro" => ofSequence? word
  | other => .error (.kind other)

/-- Whether the device has to play back a sequence of keys. -/
def isSequence : Action → Bool
  | sequence _ _ => true
  | _ => false

/-- How a mapping is shown. -/
def text : Action → String
  | disabled => "none"
  | button number => s!"button {number.toNat}"
  | key name => s!"key {name}"
  | special function => s!"special {function.name}"
  | sequence name events =>
    s!"macro {name}:" ++ events.foldr (fun e rest => " " ++ e.text ++ rest) ""

end Action

end MouseConfig
