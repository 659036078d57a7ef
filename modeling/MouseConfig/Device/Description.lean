import MouseConfig.Device.Basic
import MouseConfig.Toml.Record

/-! # Reading descriptions

A description is a TOML text.  An action is told from its kind, which comes first
in an array; an array that stands for an action, or stands inside one, has no surplus elements.
-/

namespace MouseConfig

open Toml

namespace KeyEvent

def ofValue? (v : Value) : Option KeyEvent := do
  let es ← v.strictFields? ["kind", "key"]
  return {
    edge := ← field? es "kind" (Value.strictChoice? Edge.ofName?)
    key := ← field? es "key" Value.text? }

end KeyEvent

namespace Action

/-- The fields of an action of some kind. -/
def fieldNames? : String → Option (List String)
  | "none" => some []
  | "button" => some ["button"]
  | "key" => some ["key"]
  | "special" => some ["special"]
  | "macro" => some ["name", "events"]
  | _ => none

def ofFields? (kind : String) (es : List (String × Value)) : Option Action :=
  match kind with
  | "none" => some .disabled
  | "button" => (field? es "button" Value.word?).map .button
  | "key" => (field? es "key" Value.text?).map .key
  | "special" => (field? es "special" (Value.strictChoice? Special.ofName?)).map .special
  | "macro" => do
    return .sequence (← field? es "name" Value.text?)
      (← field? es "events" (Value.list? KeyEvent.ofValue?))
  | _ => none

def ofEntries? (es : List (String × Value)) : Option Action := do
  ofFields? (← field? es "kind" Value.text?) es

def ofValue? : Value → Option Action
  | .array (.text kind :: vs) => do
    let names ← fieldNames? kind
    ofFields? kind (← (Value.array vs).strictFields? names)
  | .array _ => none
  | v => v.entries?.bind ofEntries?

end Action

namespace Button

def ofValue? (v : Value) : Option Button := do
  let es ← v.fields? ["type", "action"]
  return {
    role := ← fieldD es "type" (Value.choice? Role.ofName?) .unknown
    action := ← fieldD es "action" Action.ofValue? .disabled }

end Button

namespace Resolution

def ofValue? (v : Value) : Option Resolution := do
  let es ← v.fields? ["dpi", "dpi_y", "rate", "active", "default", "capabilities"]
  return {
    dpi := ← field? es "dpi" Value.word?
    dpiY := ← fieldD es "dpi_y" (fun v => v.word?.map some) none
    rate := ← fieldD es "rate" Value.word? 0
    active := ← fieldD es "active" Value.flag? false
    default := ← fieldD es "default" Value.flag? false
    capabilities := ← fieldD es "capabilities"
      (Value.list? (Value.choice? ResolutionCapability.ofName?)) [] }

end Resolution

namespace Profile

def ofValue? (v : Value) : Option Profile := do
  let es ← v.fields? ["active", "default", "resolution", "button"]
  return {
    active := ← fieldD es "active" Value.flag? false
    default := ← fieldD es "default" Value.flag? false
    resolutions := ← fieldD es "resolution" (Value.list? Resolution.ofValue?) []
    buttons := ← fieldD es "button" (Value.list? Button.ofValue?) [] }

end Profile

namespace DpiRange

def ofValue? (v : Value) : Option DpiRange := do
  let es ← v.fields? ["min", "max"]
  return { min := ← field? es "min" Value.word?, max := ← field? es "max" Value.word? }

end DpiRange

namespace Device

def ofEntries? (es : List (String × Value)) : Option Device := do
  return {
    name := ← field? es "name" Value.text?
    capabilities := ← fieldD es "capabilities"
      (Value.list? (Value.choice? Capability.ofName?)) []
    buttonCount := ← fieldD es "buttons" Value.count? 0
    dpiRange := ← fieldD es "dpi_range" (fun v => (DpiRange.ofValue? v).map some) none
    profiles := ← fieldD es "profile" (Value.list? Profile.ofValue?) [] }

end Device

def Device.ofDescription (text : String) : Except Fault Device := readAs Device.ofEntries? text

def Action.ofDescription (text : String) : Except Fault Action := readAs Action.ofEntries? text

end MouseConfig
