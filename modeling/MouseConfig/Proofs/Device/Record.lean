import MouseConfig.Device.Description
import MouseConfig.Device.Sheet
import MouseConfig.Proofs.Toml.Adding

/-! # Records and their entries

The sheet of a record adds entries from which the record is read back.
-/

namespace MouseConfig

open Toml

/-! ## Names -/

@[simp] theorem Capability.ofName?_name (c : Capability) : ofName? c.name = some c := by
  cases c <;> rfl

@[simp] theorem ResolutionCapability.ofName?_name (c : ResolutionCapability) :
    ofName? c.name = some c := by
  cases c
  rfl

@[simp] theorem Role.ofName?_name (r : Role) : ofName? r.name = some r := by
  cases r <;> rfl

@[simp] theorem Special.ofName?_name (s : Special) : ofName? s.name = some s := by
  cases s <;> rfl

@[simp] theorem KeyEvent.Edge.ofName?_name (e : Edge) : ofName? e.name = some e := by
  cases e <;> rfl

/-! ## Values -/

namespace Toml.Value

variable {α : Type}

theorem number?_natCast {bound n : Nat} (h : n < bound) :
    (integer n).number? bound = some n := by
  have inside : 0 ≤ (n : Int) ∧ (n : Int) < bound := ⟨Int.natCast_nonneg n, Int.ofNat_lt.mpr h⟩
  rw [number?, if_pos inside, Int.toNat_natCast]

@[simp] theorem word?_toNat (w : UInt32) : (integer w.toNat).word? = some w := by
  rw [word?, number?_natCast w.toNat_lt, Option.map_some, UInt32.ofNat_toNat]

@[simp] theorem count?_toNat (w : UInt64) : (integer w.toNat).count? = some w := by
  rw [count?, number?_natCast w.toNat_lt, Option.map_some, UInt64.ofNat_toNat]

theorem flag?_boolean (b : Bool) : (boolean b).flag? = some b := rfl

theorem list?_map {read : Value → Option α} {value : α → Value} {xs : List α}
    (h : ∀ x ∈ xs, read (value x) = some x) : (array (xs.map value)).list? read = some xs := by
  rw [list?]
  induction xs with
  | nil => rfl
  | cons x xs ih =>
      rw [List.map_cons, List.mapM_cons, h x List.mem_cons_self,
        ih fun y hy => h y (List.mem_cons_of_mem x hy)]
      rfl

/-- A list of names. -/
theorem list?_names {name : α → String} {ofName? : String → Option α}
    (h : ∀ x, ofName? (name x) = some x) (xs : List α) :
    (array ((xs.map name).map text)).list? (choice? ofName?) = some xs := by
  rw [List.map_map]
  exact list?_map fun x _ => h x

end Toml.Value

/-! ## Fields -/

namespace Toml

variable {α : Type} {es : List (String × Value)} {key : String} {read : Value → Option α}
  {v : Value} {x default : α}

theorem field?_eq_some (h : es.lookup key = some v) (hv : read v = some x) :
    field? es key read = some x := by
  rw [field?, h]
  exact hv

theorem fieldD_eq_some (h : es.lookup key = some v) (hv : read v = some x) :
    fieldD es key read default = some x := by
  rw [fieldD, h]
  exact hv

theorem fieldD_of_lookup_eq_none (h : es.lookup key = none) :
    fieldD es key read default = some default := by
  rw [fieldD, h]

end Toml

/-! ## Lists of records -/

theorem Toml.Setting.fits_toNat (w : UInt32) : (number w.toNat).Fits :=
  Nat.lt_trans w.toNat_lt (by decide)

namespace Toml.Sheet

variable {α : Type} {sheet : α → Sheet} {entries : α → List (String × Value)} {k : String}
  {xs : List α} {n : Nat}

/-- The entry that an empty list has among the settings. -/
def emptyEntries (k : String) (xs : List α) : List (String × Value) :=
  if xs.isEmpty then [(k, .array [])] else []

/-- The entry that the parts of a list make. -/
def listEntries (k : String) (entries : α → List (String × Value)) (xs : List α) :
    List (String × Value) :=
  if xs.isEmpty then [] else [(k, .array (xs.map fun x => .table (entries x)))]

theorem several_fst (k : String) (sheet : α → Sheet) (xs : List α) :
    (several k (xs.map sheet)).1 = if xs.isEmpty then [(k, .texts [])] else [] := by
  cases xs <;> rfl

theorem several_snd (k : String) (sheet : α → Sheet) (xs : List α) :
    (several k (xs.map sheet)).2 = xs.map fun x => (.oneOf k, sheet x) := by
  cases xs with
  | nil => rfl
  | cons x xs => simp [several]

theorem adds_several (h : ∀ x ∈ xs, Adds (sheet x).fill? (entries x)) :
    Adds (fillParts? (several k (xs.map sheet)).2) (listEntries k entries xs) := by
  rw [several_snd]
  cases xs with
  | nil => exact .nil
  | cons x xs => exact .oneOf h nofun

theorem partsReadable_several (hk : IsBare k) (h : ∀ x ∈ xs, (sheet x).Readable n) :
    PartsReadable (n + 1) (several k (xs.map sheet)).2 := by
  rw [several_snd]
  induction xs with
  | nil => trivial
  | cons x xs ih =>
      rw [List.map_cons, PartsReadable]
      exact ⟨hk, Nat.succ_pos n, h x List.mem_cons_self,
        ih fun y hy => h y (List.mem_cons_of_mem x hy)⟩

/-- The line of an empty list. -/
theorem line_several (hk : IsBare k) (sheet : α → Sheet) (xs : List α) :
    ∀ s ∈ (several k (xs.map sheet)).1, IsBare s.1 ∧ s.2.Fits := by
  rw [several_fst]
  split
  · rw [List.forall_mem_singleton]
    exact ⟨hk, trivial⟩
  · exact nofun

theorem partsReadable_append {ps qs : List (Heading × Sheet)} (hp : PartsReadable n ps)
    (hq : PartsReadable n qs) : PartsReadable n (ps ++ qs) := by
  induction ps with
  | nil => exact hq
  | cons p ps ih =>
      obtain ⟨h, s⟩ := p
      rw [PartsReadable] at hp
      rw [List.cons_append, PartsReadable]
      exact ⟨hp.1, hp.2.1, hp.2.2.1, ih hp.2.2.2⟩

end Toml.Sheet

open Toml.Setting (fits_toNat)
open Toml.Sheet

/-! ## Key sequences and actions -/

namespace KeyEvent

def entries (e : KeyEvent) : List (String × Value) :=
  [("kind", .text e.edge.name), ("key", .text e.key)]

theorem adds_sheet (e : KeyEvent) : Adds e.sheet.fill? e.entries :=
  .mk (by simp) .nil (by simp)

theorem readable_sheet (e : KeyEvent) (n : Nat) : e.sheet.Readable n := by
  simp only [sheet, Readable, List.forall_mem_cons]
  exact ⟨⟨⟨by decide, trivial⟩, ⟨by decide, trivial⟩, nofun⟩, trivial⟩

theorem ofValue?_entries (e : KeyEvent) : ofValue? (.table e.entries) = some e := by
  have readKind : field? e.entries "kind" (Value.strictChoice? Edge.ofName?) = some e.edge :=
    field?_eq_some rfl (Edge.ofName?_name e.edge)
  have readKey : field? e.entries "key" Value.text? = some e.key := field?_eq_some rfl rfl
  have fields : (Value.table e.entries).strictFields? ["kind", "key"] = some e.entries := rfl
  rw [ofValue?, fields, Option.bind_eq_bind, Option.bind_some, readKind, readKey]
  rfl

end KeyEvent

namespace Action

def entries : Action → List (String × Value)
  | disabled => [("kind", .text "none")]
  | button number => [("kind", .text "button"), ("button", .integer number.toNat)]
  | key name => [("kind", .text "key"), ("key", .text name)]
  | special function => [("kind", .text "special"), ("special", .text function.name)]
  | sequence name events =>
    [("kind", .text "macro"), ("name", .text name),
     ("events", .array (events.map fun e => .table e.entries))]

theorem adds_sheet (a : Action) : Adds a.sheet.fill? a.entries := by
  cases a with
  | disabled | button | key | special => exact .mk (by simp) .nil (by simp)
  | sequence name events =>
      have parts := adds_several (k := "events") fun e (_ : e ∈ events) => e.adds_sheet
      cases events with
      | nil => exact .mk (by simp) parts (by simp)
      | cons e events => exact .mk (by simp) parts (by simp)

theorem readable_sheet (a : Action) (n : Nat) : a.sheet.Readable (n + 1) := by
  cases a with
  | disabled =>
      simp only [sheet, Readable, List.forall_mem_cons]
      exact ⟨⟨⟨by decide, trivial⟩, nofun⟩, trivial⟩
  | button number =>
      simp only [sheet, Readable, List.forall_mem_cons]
      exact ⟨⟨⟨by decide, trivial⟩, ⟨by decide, fits_toNat number⟩, nofun⟩, trivial⟩
  | key | special =>
      simp only [sheet, Readable, List.forall_mem_cons]
      exact ⟨⟨⟨by decide, trivial⟩, ⟨by decide, trivial⟩, nofun⟩, trivial⟩
  | sequence name events =>
      have parts := partsReadable_several (k := "events") (by decide)
        fun e (_ : e ∈ events) => e.readable_sheet n
      simp only [sheet, Readable, List.forall_mem_append, List.forall_mem_cons]
      exact ⟨⟨⟨⟨by decide, trivial⟩, ⟨by decide, trivial⟩, nofun⟩, line_several (by decide) _ _⟩,
        parts⟩

theorem ofEntries?_of_kind (kind : String) {es : List (String × Value)}
    (h : es.lookup "kind" = some (.text kind)) : ofEntries? es = ofFields? kind es := by
  have read : field? es "kind" Value.text? = some kind := field?_eq_some h rfl
  rw [ofEntries?, read]
  rfl

theorem ofEntries?_entries (a : Action) : ofEntries? a.entries = some a := by
  cases a with
  | disabled => rw [ofEntries?_of_kind "none" rfl, ofFields?]
  | button number =>
      have read : field? (button number).entries "button" Value.word? = some number :=
        field?_eq_some rfl (Value.word?_toNat number)
      rw [ofEntries?_of_kind "button" rfl, ofFields?, read]
      rfl
  | key name =>
      have read : field? (key name).entries "key" Value.text? = some name := field?_eq_some rfl rfl
      rw [ofEntries?_of_kind "key" rfl, ofFields?, read]
      rfl
  | special function =>
      have read : field? (special function).entries "special"
          (Value.strictChoice? Special.ofName?) = some function :=
        field?_eq_some rfl (Special.ofName?_name function)
      rw [ofEntries?_of_kind "special" rfl, ofFields?, read]
      rfl
  | sequence name events =>
      have readName : field? (sequence name events).entries "name" Value.text? = some name :=
        field?_eq_some rfl rfl
      have readEvents : field? (sequence name events).entries "events"
          (Value.list? KeyEvent.ofValue?) = some events :=
        field?_eq_some rfl (Value.list?_map fun e _ => e.ofValue?_entries)
      rw [ofEntries?_of_kind "macro" rfl, ofFields?, readName, readEvents]
      rfl

theorem ofValue?_entries (a : Action) : ofValue? (.table a.entries) = some a :=
  a.ofEntries?_entries

end Action

/-! ## Buttons, resolutions and ranges -/

namespace Button

def entries (b : Button) : List (String × Value) :=
  [("type", .text b.role.name), ("action", .table b.action.entries)]

theorem adds_sheet (b : Button) : Adds b.sheet.fill? b.entries :=
  .mk (by simp) (.one b.action.adds_sheet) (by simp)

theorem readable_sheet (b : Button) (n : Nat) : b.sheet.Readable (n + 2) := by
  simp only [sheet, Readable, List.forall_mem_cons, PartsReadable]
  exact ⟨⟨⟨by decide, trivial⟩, nofun⟩, by decide, Nat.succ_pos _, b.action.readable_sheet n,
    trivial⟩

theorem ofValue?_entries (b : Button) : ofValue? (.table b.entries) = some b := by
  have readRole : fieldD b.entries "type" (Value.choice? Role.ofName?) .unknown = some b.role :=
    fieldD_eq_some rfl (Role.ofName?_name b.role)
  have readAction : fieldD b.entries "action" Action.ofValue? .disabled = some b.action :=
    fieldD_eq_some rfl b.action.ofValue?_entries
  have fields : (Value.table b.entries).fields? ["type", "action"] = some b.entries := rfl
  rw [ofValue?, fields, Option.bind_eq_bind, Option.bind_some, readRole, readAction]
  rfl

end Button

namespace Resolution

def entries (r : Resolution) : List (String × Value) :=
  ("dpi", .integer r.dpi.toNat) :: (r.dpiY.map fun y => ("dpi_y", .integer y.toNat)).toList ++
    [("rate", .integer r.rate.toNat), ("active", .boolean r.active),
     ("default", .boolean r.default),
     ("capabilities", .array ((r.capabilities.map ResolutionCapability.name).map .text))]

theorem adds_sheet (r : Resolution) : Adds r.sheet.fill? r.entries := by
  obtain ⟨dpi, dpiY, rate, active, default, capabilities⟩ := r
  cases dpiY with
  | none => exact .mk (by simp) .nil (by simp)
  | some y => exact .mk (by simp) .nil (by simp)

theorem readable_sheet (r : Resolution) (n : Nat) : r.sheet.Readable n := by
  obtain ⟨dpi, dpiY, rate, active, default, capabilities⟩ := r
  cases dpiY with
  | none =>
      simp only [sheet, Readable, List.forall_mem_append, List.forall_mem_cons]
      exact ⟨⟨⟨⟨⟨by decide, fits_toNat dpi⟩, nofun⟩, nofun⟩, ⟨by decide, fits_toNat rate⟩,
        ⟨by decide, trivial⟩, ⟨by decide, trivial⟩, ⟨by decide, trivial⟩, nofun⟩, trivial⟩
  | some y =>
      simp only [sheet, Readable, List.forall_mem_append, List.forall_mem_cons, Option.map_some,
        Option.toList_some]
      exact ⟨⟨⟨⟨⟨by decide, fits_toNat dpi⟩, nofun⟩, ⟨by decide, fits_toNat y⟩, nofun⟩,
        ⟨by decide, fits_toNat rate⟩, ⟨by decide, trivial⟩, ⟨by decide, trivial⟩,
        ⟨by decide, trivial⟩, nofun⟩, trivial⟩

theorem ofValue?_entries (r : Resolution) : ofValue? (.table r.entries) = some r := by
  have readDpi : field? r.entries "dpi" Value.word? = some r.dpi :=
    field?_eq_some rfl (Value.word?_toNat r.dpi)
  have readSecond : fieldD r.entries "dpi_y" (fun v => v.word?.map some) none = some r.dpiY := by
    rw [entries]
    cases r.dpiY with
    | none => exact fieldD_of_lookup_eq_none rfl
    | some y => exact fieldD_eq_some rfl (congrArg (Option.map some) (Value.word?_toNat y))
  have rate : r.entries.lookup "rate" = some (.integer r.rate.toNat) := by
    rw [entries]
    cases r.dpiY <;> rfl
  have active : r.entries.lookup "active" = some (.boolean r.active) := by
    rw [entries]
    cases r.dpiY <;> rfl
  have default : r.entries.lookup "default" = some (.boolean r.default) := by
    rw [entries]
    cases r.dpiY <;> rfl
  have capabilities : r.entries.lookup "capabilities" =
      some (.array ((r.capabilities.map ResolutionCapability.name).map .text)) := by
    rw [entries]
    cases r.dpiY <;> rfl
  have names := Value.list?_names ResolutionCapability.ofName?_name r.capabilities
  have fields : (Value.table r.entries).fields?
      ["dpi", "dpi_y", "rate", "active", "default", "capabilities"] = some r.entries := rfl
  rw [ofValue?, fields, Option.bind_eq_bind, Option.bind_some, readDpi, readSecond,
    fieldD_eq_some rate (Value.word?_toNat r.rate), fieldD_eq_some active (Value.flag?_boolean r.active),
    fieldD_eq_some default (Value.flag?_boolean r.default), fieldD_eq_some capabilities names]
  rfl

end Resolution

namespace DpiRange

def entries (r : DpiRange) : List (String × Value) :=
  [("min", .integer r.min.toNat), ("max", .integer r.max.toNat)]

theorem adds_sheet (r : DpiRange) : Adds r.sheet.fill? r.entries :=
  .mk (by simp) .nil (by simp)

theorem readable_sheet (r : DpiRange) (n : Nat) : r.sheet.Readable n := by
  simp only [sheet, Readable, List.forall_mem_cons]
  exact ⟨⟨⟨by decide, fits_toNat r.min⟩, ⟨by decide, fits_toNat r.max⟩, nofun⟩, trivial⟩

theorem ofValue?_entries (r : DpiRange) : ofValue? (.table r.entries) = some r := by
  have readMin : field? r.entries "min" Value.word? = some r.min :=
    field?_eq_some rfl (Value.word?_toNat r.min)
  have readMax : field? r.entries "max" Value.word? = some r.max :=
    field?_eq_some rfl (Value.word?_toNat r.max)
  have fields : (Value.table r.entries).fields? ["min", "max"] = some r.entries := rfl
  rw [ofValue?, fields, Option.bind_eq_bind, Option.bind_some, readMin, readMax]
  rfl

end DpiRange

/-! ## Profiles and devices -/

namespace Profile

def entries (p : Profile) : List (String × Value) :=
  [("active", .boolean p.active), ("default", .boolean p.default)] ++
    emptyEntries "resolution" p.resolutions ++ emptyEntries "button" p.buttons ++
    (listEntries "resolution" Resolution.entries p.resolutions ++
      listEntries "button" Button.entries p.buttons)

theorem adds_sheet (p : Profile) : Adds p.sheet.fill? p.entries := by
  obtain ⟨active, default, resolutions, buttons⟩ := p
  have first := adds_several (k := "resolution") fun r (_ : r ∈ resolutions) => r.adds_sheet
  have second := adds_several (k := "button") fun b (_ : b ∈ buttons) => b.adds_sheet
  cases resolutions with
  | nil =>
      cases buttons with
      | nil => exact .mk (by simp) (first.parts second nofun) (by simp [listEntries])
      | cons b buttons =>
          exact .mk (by simp) (first.parts second (by simp [listEntries])) (by simp [listEntries])
  | cons r resolutions =>
      cases buttons with
      | nil => exact .mk (by simp) (first.parts second nofun) (by simp [listEntries])
      | cons b buttons =>
          exact .mk (by simp) (first.parts second (by simp [listEntries])) (by simp [listEntries])

theorem readable_sheet (p : Profile) (n : Nat) : p.sheet.Readable (n + 3) := by
  have first := partsReadable_several (k := "resolution") (by decide)
    fun r (_ : r ∈ p.resolutions) => r.readable_sheet (n + 2)
  have second := partsReadable_several (k := "button") (by decide)
    fun b (_ : b ∈ p.buttons) => b.readable_sheet n
  simp only [sheet, Readable, List.forall_mem_append, List.forall_mem_cons]
  exact ⟨⟨⟨⟨⟨by decide, trivial⟩, ⟨by decide, trivial⟩, nofun⟩, line_several (by decide) _ _⟩,
    line_several (by decide) _ _⟩, partsReadable_append first second⟩

theorem ofValue?_entries (p : Profile) : ofValue? (.table p.entries) = some p := by
  have readActive : fieldD p.entries "active" Value.flag? false = some p.active :=
    fieldD_eq_some rfl (Value.flag?_boolean p.active)
  have readDefault : fieldD p.entries "default" Value.flag? false = some p.default :=
    fieldD_eq_some rfl (Value.flag?_boolean p.default)
  have resolutions : p.entries.lookup "resolution" =
      some (.array (p.resolutions.map fun r => .table r.entries)) := by
    rw [entries]
    cases p.resolutions <;> cases p.buttons <;> rfl
  have buttons : p.entries.lookup "button" =
      some (.array (p.buttons.map fun b => .table b.entries)) := by
    rw [entries]
    cases p.resolutions <;> cases p.buttons <;> rfl
  have readResolutions : fieldD p.entries "resolution" (Value.list? Resolution.ofValue?) [] =
      some p.resolutions :=
    fieldD_eq_some resolutions (Value.list?_map fun r _ => r.ofValue?_entries)
  have readButtons : fieldD p.entries "button" (Value.list? Button.ofValue?) [] =
      some p.buttons :=
    fieldD_eq_some buttons (Value.list?_map fun b _ => b.ofValue?_entries)
  have fields : (Value.table p.entries).fields? ["active", "default", "resolution", "button"] =
      some p.entries := rfl
  rw [ofValue?, fields, Option.bind_eq_bind, Option.bind_some, readActive, readDefault,
    readResolutions, readButtons]
  rfl

end Profile

namespace Device

def entries (d : Device) : List (String × Value) :=
  [("name", .text d.name), ("capabilities", .array ((d.capabilities.map Capability.name).map .text)),
   ("buttons", .integer d.buttonCount.toNat)] ++ emptyEntries "profile" d.profiles ++
    ((d.dpiRange.map fun r => ("dpi_range", .table r.entries)).toList ++
      listEntries "profile" Profile.entries d.profiles)

theorem adds_sheet (d : Device) : Adds d.sheet.fill? d.entries := by
  obtain ⟨name, capabilities, buttonCount, dpiRange, profiles⟩ := d
  have parts := adds_several (k := "profile") fun p (_ : p ∈ profiles) => p.adds_sheet
  cases dpiRange with
  | none =>
      cases profiles with
      | nil => exact .mk (by simp) parts (by simp [listEntries])
      | cons p profiles => exact .mk (by simp) parts (by simp [listEntries])
  | some r =>
      have range := Adds.one (k := "dpi_range") r.adds_sheet
      cases profiles with
      | nil => exact .mk (by simp) (range.parts parts nofun) (by simp [listEntries])
      | cons p profiles =>
          exact .mk (by simp) (range.parts parts (by simp [listEntries])) (by simp [listEntries])

theorem readable_sheet {d : Device} (h : d.buttonCount.toNat < integerBound) (n : Nat) :
    d.sheet.Readable (n + 4) := by
  have profiles := partsReadable_several (k := "profile") (by decide)
    fun p (_ : p ∈ d.profiles) => p.readable_sheet n
  have range : PartsReadable (n + 4)
      (d.dpiRange.map fun r => (Heading.one "dpi_range", r.sheet)).toList := by
    cases d.dpiRange with
    | none => trivial
    | some r =>
        simp only [Option.map_some, Option.toList_some, PartsReadable]
        exact ⟨by decide, Nat.succ_pos _, r.readable_sheet _, trivial⟩
  simp only [sheet, Readable, List.forall_mem_append, List.forall_mem_cons]
  exact ⟨⟨⟨⟨by decide, trivial⟩, ⟨by decide, trivial⟩, ⟨by decide, h⟩, nofun⟩,
    line_several (by decide) _ _⟩, partsReadable_append range profiles⟩

theorem ofEntries?_entries (d : Device) : ofEntries? d.entries = some d := by
  have readName : field? d.entries "name" Value.text? = some d.name := field?_eq_some rfl rfl
  have readCapabilities : fieldD d.entries "capabilities"
      (Value.list? (Value.choice? Capability.ofName?)) [] = some d.capabilities :=
    fieldD_eq_some rfl (Value.list?_names Capability.ofName?_name d.capabilities)
  have readCount : fieldD d.entries "buttons" Value.count? 0 = some d.buttonCount :=
    fieldD_eq_some rfl (Value.count?_toNat d.buttonCount)
  have readRange : fieldD d.entries "dpi_range" (fun v => (DpiRange.ofValue? v).map some) none =
      some d.dpiRange := by
    rw [entries]
    cases d.dpiRange with
    | none => cases d.profiles <;> exact fieldD_of_lookup_eq_none rfl
    | some r =>
        have found := congrArg (Option.map some) r.ofValue?_entries
        cases d.profiles <;> exact fieldD_eq_some rfl found
  have profiles : d.entries.lookup "profile" =
      some (.array (d.profiles.map fun p => .table p.entries)) := by
    rw [entries]
    cases d.dpiRange <;> cases d.profiles <;> rfl
  have readProfiles : fieldD d.entries "profile" (Value.list? Profile.ofValue?) [] =
      some d.profiles :=
    fieldD_eq_some profiles (Value.list?_map fun p _ => p.ofValue?_entries)
  rw [ofEntries?, readName, readCapabilities, readCount, readRange, readProfiles]
  rfl

/-- The text of a device reads back as the device. -/
theorem ofDescription_text {d : Device} (h : d.buttonCount.toNat < integerBound) :
    ofDescription d.sheet.text = .ok d := by
  have read : read? d.sheet.text = some d.entries :=
    read?_text (readable_sheet h 0) (by decide) d.adds_sheet
  rw [ofDescription, readAs, read]
  dsimp only
  rw [ofEntries?_entries]

end Device

end MouseConfig
