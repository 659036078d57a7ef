import MouseConfig.Proofs.Command.Choices
import MouseConfig.Proofs.Command.Explicit
import MouseConfig.Proofs.Service.Shelf

/-! # Why a button is not mapped

A line that maps a button checks its arguments first, then what the device can do, then whether the
profile has the button, and commits the device last.  The first of these that does not hold is how
the line fails.
-/

namespace MouseConfig

/-! ## What has to hold -/

variable {σ : Type} [DeviceService σ]

section

variable (service : σ) (path : String) (d : Device) (i : Nat) (q : Profile) (n : Nat)
  (args : List String)

/-- What has to hold of the arguments and the device for a button of a profile to be mapped. -/
structure Mappable (a : Action) : Prop where
  action : ∃ kind arg, args = [kind, arg] ∧ Action.ofWords? kind arg = .ok a
  buttonKey : d.has .buttonKey
  buttonMacros : a.isSequence → d.has .buttonMacros
  button : n < q.buttons.length

/-- The commit of a device with a button mapped. -/
def commitAction (a : Action) : Except DeviceError Unit :=
  (DeviceService.commit service ⟨path⟩ (d.modifyProfile i (·.setAction n a))).1.1

/-- How a line fails that maps a button of a profile: by the first condition that does not hold,
those before it do. -/
inductive ButtonFault : CommandError → Prop
  | arguments (h : args.length ≠ 2) :
      ButtonFault (.usage (.arguments "set" 2 args.length))
  | action {kind arg : String} {x : Action.Error} (hargs : args = [kind, arg])
      (h : Action.ofWords? kind arg = .error x) :
      ButtonFault (.usage (.action x))
  | buttonKey {kind arg : String} {a : Action} (hargs : args = [kind, arg])
      (ha : Action.ofWords? kind arg = .ok a) (h : ¬ d.has .buttonKey) :
      ButtonFault (.unsupported (.noProgrammableButtons d.name))
  | buttonMacros {kind arg : String} {a : Action} (hargs : args = [kind, arg])
      (ha : Action.ofWords? kind arg = .ok a) (can : d.has .buttonKey) (hs : a.isSequence)
      (h : ¬ d.has .buttonMacros) :
      ButtonFault (.unsupported (.noSequences d.name))
  | button {kind arg : String} {a : Action} (hargs : args = [kind, arg])
      (ha : Action.ofWords? kind arg = .ok a) (can : d.has .buttonKey)
      (plays : a.isSequence → d.has .buttonMacros) (h : q.buttons.length ≤ n) :
      ButtonFault (.unsupported (.noButton n))
  | commit {a : Action} {e : DeviceError} (checked : Mappable d q n args a)
      (h : commitAction service path d i n a = .error e) :
      ButtonFault (.device e)

/-- The line is done, or there is a fault. -/
theorem mapped_or_fault :
    (∃ a, Mappable d q n args a ∧ commitAction service path d i n a = .ok ()) ∨
      ∃ e, ButtonFault service path d i q n args e := by
  by_cases arity : args.length = 2
  · obtain ⟨kind, arg, hargs⟩ := List.length_eq_two.mp arity
    cases ha : Action.ofWords? kind arg with
    | error x => exact .inr ⟨_, .action hargs ha⟩
    | ok a =>
        by_cases can : d.has .buttonKey
        · by_cases plays : a.isSequence → d.has .buttonMacros
          · by_cases hn : n < q.buttons.length
            · have checked : Mappable d q n args a := ⟨⟨kind, arg, hargs, ha⟩, can, plays, hn⟩
              cases hc : commitAction service path d i n a with
              | ok u => exact .inl ⟨a, checked, hc⟩
              | error e => exact .inr ⟨_, .commit checked hc⟩
            · exact .inr ⟨_, .button hargs ha can plays (Nat.not_lt.mp hn)⟩
          · obtain ⟨hs, h⟩ := Classical.not_imp.mp plays
            exact .inr ⟨_, .buttonMacros hargs ha can hs h⟩
        · exact .inr ⟨_, .buttonKey hargs ha can⟩
  · exact .inr ⟨_, .arguments arity⟩

end

variable {service : σ} {path : String} {d : Device} {i n : Nat} {q : Profile} {args : List String}
  {c : Context} {kind arg : String} {a : Action} {e : CommandError}

/-! ## What is planned -/

namespace Plan

omit [DeviceService σ]

theorem buttonSet_of_length (command : String) (c : Context) (h : args.length ≠ 2) :
    buttonSet command c args = misuse (.arguments command 2 args.length) := by
  rcases args with _ | ⟨first, _ | ⟨second, _ | ⟨third, rest⟩⟩⟩
  · rfl
  · rfl
  · exact absurd rfl h
  · rfl

theorem buttonSet_of_error {x : Action.Error} (command : String) (hb : c.button = some n)
    (ha : Action.ofWords? kind arg = .error x) :
    buttonSet command c [kind, arg] = misuse (.action x) := by
  rw [buttonSet, selectedButton, hb, parsedAction, ha]
  rfl

theorem buttonSet_of_ok (command : String) (hb : c.button = some n)
    (ha : Action.ofWords? kind arg = .ok a) :
    buttonSet command c [kind, arg] = mapButton c n a := by
  rw [buttonSet, selectedButton, hb, parsedAction, ha]
  rfl

/-- Three checks one after the other, the second of them for sequences only. -/
theorem mapButton_eq_checks (hd : c.openModel = .ok d) (hq : c.selectedProfile = .ok q)
    (hi : c.profile = some i) (n : Nat) (a : Action) :
    mapButton c n a =
      expectCapability d .buttonKey .noProgrammableButtons >>= fun _ =>
        (if a.isSequence then expectCapability d .buttonMacros .noSequences else .ok ()) >>= fun _ =>
          if n < q.buttons.length then .ok { update := some (.setAction i n a) }
          else refuse (.noButton n) := by
  rw [mapButton_eq hd hq, hi]
  cases a.isSequence <;> rfl

theorem expectSequences_of_imp (h : a.isSequence → d.has .buttonMacros) :
    (if a.isSequence then expectCapability d .buttonMacros .noSequences else .ok ()) = .ok () := by
  split
  · next hs => exact expectCapability_of_has (h hs)
  · rfl

/-- All checks pass, and one update is planned. -/
theorem buttonSet_of_mappable (command : String) (hd : c.openModel = .ok d)
    (hq : c.selectedProfile = .ok q) (hi : c.profile = some i) (hb : c.button = some n)
    (h : Mappable d q n args a) :
    buttonSet command c args = .ok { update := some (.setAction i n a) } := by
  obtain ⟨kind, arg, rfl, ha⟩ := h.action
  rw [buttonSet_of_ok command hb ha, mapButton_eq_checks hd hq hi,
    expectCapability_of_has h.buttonKey, expectSequences_of_imp h.buttonMacros,
    if_pos h.button]
  rfl

end Plan

/-! ## How the line fails -/

/-- A fault is how the line fails. -/
theorem failure_of_buttonFault (hd : c.openModel = .ok d) (hq : c.selectedProfile = .ok q)
    (hi : c.profile = some i) (hb : c.button = some n)
    (h : ButtonFault service path d i q n args e) :
    (Account.opened service ⟨path⟩ d (Plan.buttonSet "set" c args)).failure = some e := by
  cases h with
  | arguments h =>
      rw [Plan.buttonSet_of_length "set" c h]
      rfl
  | action hargs h =>
      rw [hargs, Plan.buttonSet_of_error "set" hb h]
      rfl
  | buttonKey hargs ha h =>
      rw [hargs, Plan.buttonSet_of_ok "set" hb ha, Plan.mapButton_eq_checks hd hq hi,
        Plan.expectCapability_of_not_has h]
      rfl
  | buttonMacros hargs ha can hs h =>
      rw [hargs, Plan.buttonSet_of_ok "set" hb ha, Plan.mapButton_eq_checks hd hq hi,
        Plan.expectCapability_of_has can, if_pos hs, Plan.expectCapability_of_not_has h]
      rfl
  | button hargs ha can plays h =>
      rw [hargs, Plan.buttonSet_of_ok "set" hb ha, Plan.mapButton_eq_checks hd hq hi,
        Plan.expectCapability_of_has can, Plan.expectSequences_of_imp plays,
        if_neg (Nat.not_lt.mpr h)]
      rfl
  | commit checked h =>
      rw [Plan.buttonSet_of_mappable "set" hd hq hi hb checked]
      exact Account.failure_of_uncommitted h

namespace Commands

/-- A button is mapped just if its line has two arguments that spell an action, the device can do
it, the profile has the button and the device is committed.  Otherwise the first of these that is
not so is how the line fails. -/
theorem remapping_succeeds_exactly {i : Nat} (service : σ) (v : Verbosity) (choice : ProfileChoice)
    (b : IndexWord) (args : List String) (path : String) (hd : loader service ⟨path⟩ = .ok d)
    (hi : choice.select? d = some i) :
    ∃ q, d.profiles[i]? = some q ∧
      let line := tree.run service v (choice.words ++ ["button", b.word, "set"] ++ args ++ [path])
      (line.failure = none ↔
        ∃ a, Mappable d q b.index args a ∧ commitAction service path d i b.index a = .ok ()) ∧
      ∀ e, line.failure = some e ↔ ButtonFault service path d i q b.index args e := by
  obtain ⟨q, hq⟩ := choice.exists_profile hi
  refine ⟨q, hq, ?_⟩
  intro line
  let c : Context := {
    device := some ⟨⟨path⟩, d⟩, profile := some i, button := some b.index }
  have opened : c.openModel = .ok d := rfl
  have selected : c.selectedProfile = .ok q :=
    Context.selectedProfile_eq_ok_iff.mpr ⟨d, i, opened, rfl, hq⟩
  have account : line.account =
      .opened service ⟨path⟩ d (Plan.buttonSet "set" c args) :=
    account_of_choice (.button (some b) .set) v hd hi rfl rfl
  have failure : line.failure =
      (Account.opened service ⟨path⟩ d (Plan.buttonSet "set" c args)).failure :=
    congrArg Account.failure account
  rw [failure]
  refine failure_iff ?_ (fun e h => failure_of_buttonFault opened selected rfl rfl h)
    (mapped_or_fault service path d i q b.index args)
  rintro ⟨a, checked, hc⟩
  rw [Plan.buttonSet_of_mappable "set" opened selected rfl rfl checked]
  exact Account.failure_of_committed hc

/-- A button that is mapped to a key, and not to a sequence of keys. -/
theorem remapping_succeeds_exactly_of_mouse :
    let d : Device := {
      name := "M", capabilities := [.buttonKey]
      profiles := [{ buttons := [{}] }, { active := true, buttons := [{}, {}] }] }
    let shelf : Shelf := { entries := [(⟨"m"⟩, .device d)] }
    (tree.run shelf .normal ["button", "01", "set", "key", "KEY_A", "m"]).failure = none ∧
      (tree.run shelf .normal ["button", "01", "set", "macro", "hi:KEY_H", "m"]).failure =
        some (.unsupported (.noSequences "M")) := by
  intro d shelf
  have loads : loader shelf ⟨"m"⟩ = .ok d := Shelf.load_singleton _ d
  have exactly (args : List String) := remapping_succeeds_exactly shelf .normal .active
    ⟨"01", 1, by decide⟩ args "m" (i := 1) loads rfl
  obtain ⟨q, hq, succeeds, -⟩ := exactly ["key", "KEY_A"]
  obtain ⟨q', hq', -, fails⟩ := exactly ["macro", "hi:KEY_H"]
  cases hq
  cases hq'
  refine ⟨succeeds.mpr ⟨.key "KEY_A", ?_, rfl⟩, (fails _).mpr ?_⟩
  · exact ⟨⟨"key", "KEY_A", rfl, by decide⟩, by decide, nofun, by decide⟩
  · have plays : Action.ofWords? "macro" "hi:KEY_H" =
        .ok (.sequence "hi" (KeyEvent.stroke "KEY_H")) := by decide
    exact .buttonMacros rfl plays (by decide) rfl (by decide)

end Commands

end MouseConfig
