import Mathlib.Data.List.Nodup
import MouseConfig.Device.Outline
import MouseConfig.Proofs.Action.Text
import MouseConfig.Proofs.Text.Outline

/-! # What the outline of a device tells

Each part of a device has an outline that can be read.  So the raw description that is logged tells
all of the device that has been opened: its fields, their values and their order.
-/

namespace MouseConfig

open Outline

/-! ## Names and numbers -/

/-- One of several names can be read if no two of them have the same title. -/
theorem Outline.legible_choice {α : Type} {name : α → String} (all : List α) (mem : ∀ x, x ∈ all)
    (different : (all.map fun x => title (name x)).Nodup)
    (free : ∀ x ∈ all, ',' ∉ (title (name x)).toList) : Legible fun x => choice (name x) :=
  .leaf (fun x y same => List.inj_on_of_nodup_map different (mem x) (mem y) same)
    fun x => free x (mem x)

theorem Capability.legible_outline : Legible fun c : Capability => choice c.name :=
  legible_choice all mem_all (by decide) (by decide)

theorem ResolutionCapability.legible_outline :
    Legible fun c : ResolutionCapability => choice c.name :=
  legible_choice [separateAxes] (fun c => by cases c; decide) (by decide) (by decide)

theorem Role.legible_outline : Legible fun r : Role => choice r.name :=
  legible_choice all mem_all (by decide +kernel) (by decide +kernel)

theorem Special.legible_outline : Legible fun f : Special => choice f.name :=
  legible_choice all mem_all (by decide +kernel) (by decide +kernel)

theorem KeyEvent.Edge.legible_outline : Legible fun e : Edge => choice e.name :=
  legible_choice [pressed, released] (fun e => by cases e <;> decide) (by decide) (by decide)

theorem UInt32.legible_outline : Legible fun n : UInt32 => .number n.toNat :=
  legible_number.comp fun _ _ => UInt32.toNat_inj.mp

theorem UInt64.legible_outline : Legible fun n : UInt64 => .number n.toNat :=
  legible_number.comp fun _ _ => UInt64.toNat_inj.mp

/-! ## Actions -/

theorem KeyEvent.legible_outline : Legible outline := by
  have fields : LegibleFields fun e : KeyEvent =>
      [("kind", choice e.edge.name), ("key", .text e.key)] := by
    intro depth e e' s t same
    obtain ⟨edge, same⟩ := Edge.legible_outline.field same
    obtain ⟨key, rest⟩ := legible_text.field same
    cases e
    cases e'
    cases edge
    cases key
    exact ⟨rfl, by simpa [blockFields] using rest⟩
  exact .record fields (fun e => List.cons_ne_nil _ _) "MacroEvent"

namespace Action

theorem head?_block_outline (a : Action) (depth : Nat) (s : List Char) :
    ((a.outline.block depth).toList ++ s).head? = some a.initial.toUpper := by
  cases a <;> simp [outline, choice, title, title.go, block, initial]

theorem legible_outline : Legible outline := by
  intro depth x y s t same
  have initials : x.initial = y.initial := by
    have heads := congrArg List.head? same
    simp only [head?_block_outline, Option.some.injEq] at heads
    have lower (a : Action) : a.initial.toUpper.toLower = a.initial := by
      cases a <;> simp [initial]
    exact (lower x).symm.trans ((congrArg Char.toLower heads).trans (lower y))
  cases x with
  | disabled =>
      cases y with
      | disabled => exact ⟨rfl, by simpa using same⟩
      | button | key | special | sequence => cases initials
  | button n =>
      cases y with
      | button m =>
          obtain ⟨rfl, rest⟩ := UInt32.legible_outline.single "Button" "button" depth n m s t same
          exact ⟨rfl, rest⟩
      | disabled | key | special | sequence => cases initials
  | key k =>
      cases y with
      | key k' =>
          obtain ⟨rfl, rest⟩ := legible_text.single "Key" "key" depth k k' s t same
          exact ⟨rfl, rest⟩
      | disabled | button | special | sequence => cases initials
  | special f =>
      cases y with
      | special f' =>
          obtain ⟨rfl, rest⟩ := Special.legible_outline.single "Special" "special" depth f f' s t same
          exact ⟨rfl, rest⟩
      | disabled | button | key | sequence => cases initials
  | sequence name events =>
      cases y with
      | sequence name' events' =>
          have fields : LegibleFields fun p : String × List KeyEvent =>
              [("name", .text p.1), ("events", .list (p.2.map KeyEvent.outline))] := by
            intro depth p q s t same
            obtain ⟨names, same⟩ := legible_text.field same
            obtain ⟨events, rest⟩ := KeyEvent.legible_outline.list.field same
            exact ⟨Prod.ext names events, by simpa [blockFields] using rest⟩
          obtain ⟨both, rest⟩ := Legible.record fields (fun p => List.cons_ne_nil _ _) "Macro" depth
            (name, events) (name', events') s t same
          cases both
          exact ⟨rfl, rest⟩
      | disabled | button | key | special => cases initials

end Action

/-! ## Devices -/

theorem Button.legible_outline : Legible outline := by
  have fields : LegibleFields fun b : Button =>
      [("kind", choice b.role.name), ("action", b.action.outline)] := by
    intro depth b b' s t same
    obtain ⟨role, same⟩ := Role.legible_outline.field same
    obtain ⟨action, rest⟩ := Action.legible_outline.field same
    cases b
    cases b'
    cases role
    cases action
    exact ⟨rfl, by simpa [blockFields] using rest⟩
  exact .record fields (fun b => List.cons_ne_nil _ _) "Button"

theorem Resolution.legible_outline : Legible outline := by
  have fields : LegibleFields fun r : Resolution => [
      ("dpi", .number r.dpi.toNat), ("dpi_y", .optional (fun y => .number y.toNat) r.dpiY),
      ("rate", .number r.rate.toNat), ("active", .flag r.active), ("default", .flag r.default),
      ("capabilities", .list (r.capabilities.map fun c => choice c.name))] := by
    intro depth r r' s t same
    obtain ⟨dpi, same⟩ := UInt32.legible_outline.field same
    obtain ⟨dpiY, same⟩ := UInt32.legible_outline.optional.field same
    obtain ⟨rate, same⟩ := UInt32.legible_outline.field same
    obtain ⟨active, same⟩ := legible_flag.field same
    obtain ⟨default, same⟩ := legible_flag.field same
    obtain ⟨capabilities, rest⟩ := ResolutionCapability.legible_outline.list.field same
    cases r
    cases r'
    cases dpi
    cases dpiY
    cases rate
    cases active
    cases default
    cases capabilities
    exact ⟨rfl, by simpa [blockFields] using rest⟩
  exact .record fields (fun r => List.cons_ne_nil _ _) "Resolution"

theorem Profile.legible_outline : Legible outline := by
  have fields : LegibleFields fun p : Profile => [
      ("active", .flag p.active), ("default", .flag p.default),
      ("resolutions", .list (p.resolutions.map Resolution.outline)),
      ("buttons", .list (p.buttons.map Button.outline))] := by
    intro depth p p' s t same
    obtain ⟨active, same⟩ := legible_flag.field same
    obtain ⟨default, same⟩ := legible_flag.field same
    obtain ⟨resolutions, same⟩ := Resolution.legible_outline.list.field same
    obtain ⟨buttons, rest⟩ := Button.legible_outline.list.field same
    cases p
    cases p'
    cases active
    cases default
    cases resolutions
    cases buttons
    exact ⟨rfl, by simpa [blockFields] using rest⟩
  exact .record fields (fun p => List.cons_ne_nil _ _) "Profile"

theorem DpiRange.legible_outline : Legible outline := by
  have fields : LegibleFields fun r : DpiRange =>
      [("min", .number r.min.toNat), ("max", .number r.max.toNat)] := by
    intro depth r r' s t same
    obtain ⟨min, same⟩ := UInt32.legible_outline.field same
    obtain ⟨max, rest⟩ := UInt32.legible_outline.field same
    cases r
    cases r'
    cases min
    cases max
    exact ⟨rfl, by simpa [blockFields] using rest⟩
  exact .record fields (fun r => List.cons_ne_nil _ _) "DpiRange"

namespace Device

theorem legible_outline : Legible outline := by
  have fields : LegibleFields fun d : Device => [
      ("name", .text d.name),
      ("capabilities", .list (d.capabilities.map fun c => choice c.name)),
      ("buttons", .number d.buttonCount.toNat),
      ("dpi_range", .optional DpiRange.outline d.dpiRange),
      ("profiles", .list (d.profiles.map Profile.outline))] := by
    intro depth d d' s t same
    obtain ⟨name, same⟩ := legible_text.field same
    obtain ⟨capabilities, same⟩ := Capability.legible_outline.list.field same
    obtain ⟨buttonCount, same⟩ := UInt64.legible_outline.field same
    obtain ⟨dpiRange, same⟩ := DpiRange.legible_outline.optional.field same
    obtain ⟨profiles, rest⟩ := Profile.legible_outline.list.field same
    cases d
    cases d'
    cases name
    cases capabilities
    cases buttonCount
    cases dpiRange
    cases profiles
    exact ⟨rfl, by simpa [blockFields] using rest⟩
  exact .record fields (fun d => List.cons_ne_nil _ _) "Device"

/-- Two devices with the same raw description are the same. -/
theorem block_outline_inj {d d' : Device} {depth : Nat}
    (h : d.outline.block depth = d'.outline.block depth) : d = d' :=
  (legible_outline depth d d' [] [] (by rw [h])).1

end Device

end MouseConfig
