import MouseConfig.Proofs.Command.Choices
import MouseConfig.Proofs.Command.Explicit
import MouseConfig.Proofs.Service.Shelf
import MouseConfig.Proofs.Text.Numeral

/-! # Why the dpi is not set

A line that sets the dpi reads a number first, then checks what the device can do and accepts, and
commits the device last.  The first of these that does not hold is how the line fails.
-/

namespace MouseConfig

theorem DpiRange.contains_ofNat {r : DpiRange} {n : Nat} (lt : n < UInt32.size) :
    r.contains (.ofNat n) ↔ r.min.toNat ≤ n ∧ n ≤ r.max.toNat := by
  have same : (UInt32.ofNat n).toNat = n := UInt32.toNat_ofNat_of_lt' lt
  simp [contains, UInt32.le_iff_toNat_le, same]

/-! ## What has to hold -/

variable {σ : Type} [DeviceService σ]

section

variable (service : σ) (path : String) (d : Device) (i j : Nat) (args : List String)

/-- What has to hold of the arguments and the device for a dpi value to be set. -/
structure Settable (n : Nat) : Prop where
  number : ∃ word, args = [word] ∧ Numeral.Spells word n
  limit : n < UInt32.size
  capability : d.has .switchableResolution
  range : ∀ r ∈ d.dpiRange, r.min.toNat ≤ n ∧ n ≤ r.max.toNat

/-- The commit of a device with a dpi value set. -/
def commitDpi (n : Nat) : Except DeviceError Unit :=
  (DeviceService.commit service ⟨path⟩
    (d.modifyProfile i (·.modifyResolution j (·.setDpi (.ofNat n))))).1.1

/-- How a line fails that sets the dpi of a resolution: by the first condition that does not hold,
those before it do. -/
inductive DpiFault : CommandError → Prop
  | arguments (h : args.length ≠ 1) :
      DpiFault (.usage (.arguments "set" 1 args.length))
  | number {word : String} (hargs : args = [word])
      (h : ∀ n, Numeral.Spells word n → UInt32.size ≤ n) :
      DpiFault (.usage (.dpi word))
  | capability {word : String} {n : Nat} (hargs : args = [word]) (hn : Numeral.Spells word n)
      (limit : n < UInt32.size) (h : ¬ d.has .switchableResolution) :
      DpiFault (.unsupported (.noSwitchableResolution d.name))
  | range {word : String} {n : Nat} {r : DpiRange} (hargs : args = [word])
      (hn : Numeral.Spells word n) (limit : n < UInt32.size) (can : d.has .switchableResolution)
      (hr : d.dpiRange = some r) (h : ¬ (r.min.toNat ≤ n ∧ n ≤ r.max.toNat)) :
      DpiFault (.unsupported (.dpiOutOfRange (.ofNat n) r))
  | commit {n : Nat} {e : DeviceError} (checked : Settable d args n)
      (h : commitDpi service path d i j n = .error e) :
      DpiFault (.device e)

/-- The line is done, or there is a fault. -/
theorem set_or_fault :
    (∃ n, Settable d args n ∧ commitDpi service path d i j n = .ok ()) ∨
      ∃ e, DpiFault service path d i j args e := by
  by_cases arity : args.length = 1
  · obtain ⟨word, hargs⟩ := List.length_eq_one_iff.mp arity
    by_cases number : ∃ n, Numeral.Spells word n ∧ n < UInt32.size
    · obtain ⟨n, hn, limit⟩ := number
      by_cases can : d.has .switchableResolution
      · by_cases fits : ∀ r ∈ d.dpiRange, r.min.toNat ≤ n ∧ n ≤ r.max.toNat
        · have checked : Settable d args n := ⟨⟨word, hargs, hn⟩, limit, can, fits⟩
          cases hc : commitDpi service path d i j n with
          | ok u => exact .inl ⟨n, checked, hc⟩
          | error e => exact .inr ⟨_, .commit checked hc⟩
        · simp only [not_forall] at fits
          obtain ⟨r, hr, h⟩ := fits
          exact .inr ⟨_, .range hargs hn limit can hr h⟩
      · exact .inr ⟨_, .capability hargs hn limit can⟩
    · have large (n : Nat) (hn : Numeral.Spells word n) : UInt32.size ≤ n :=
        Nat.not_lt.mp fun lt => number ⟨n, hn, lt⟩
      exact .inr ⟨_, .number hargs large⟩
  · exact .inr ⟨_, .arguments arity⟩

end

variable {service : σ} {path : String} {d : Device} {i j n : Nat} {args : List String} {c : Context}
  {r : Resolution} {word : String} {e : CommandError}

/-! ## What is planned -/

namespace Plan

omit [DeviceService σ]

/-- The device accepts the dpi value. -/
def expectRange (d : Device) (dpi : UInt32) : Except CommandError Unit :=
  match d.dpiRange with
  | some r => if r.contains dpi then .ok () else refuse (.dpiOutOfRange dpi r)
  | none => .ok ()

theorem expectRange_of_fits (limit : n < UInt32.size)
    (h : ∀ r ∈ d.dpiRange, r.min.toNat ≤ n ∧ n ≤ r.max.toNat) :
    expectRange d (.ofNat n) = .ok () := by
  rw [expectRange]
  cases hr : d.dpiRange with
  | none => rfl
  | some r => exact if_pos ((DpiRange.contains_ofNat limit).mpr (h r hr))

theorem expectRange_of_not_fits {r : DpiRange} (limit : n < UInt32.size) (hr : d.dpiRange = some r)
    (h : ¬ (r.min.toNat ≤ n ∧ n ≤ r.max.toNat)) :
    expectRange d (.ofNat n) = refuse (.dpiOutOfRange (.ofNat n) r) := by
  rw [expectRange, hr]
  exact if_neg (mt (DpiRange.contains_ofNat limit).mp h)

theorem dpiSet_of_length (command : String) (c : Context) (h : args.length ≠ 1) :
    dpiSet command c args = misuse (.arguments command 1 args.length) := by
  rcases args with _ | ⟨first, _ | ⟨second, rest⟩⟩
  · rfl
  · exact absurd rfl h
  · rfl

/-- Two checks one after the other, once the number has been read. -/
theorem dpiSet_eq_checks (command : String) {dpi : UInt32} (hd : c.openModel = .ok d)
    (hr : c.selectedResolution = .ok r) (hi : c.profile = some i) (hj : c.resolution = some j)
    (hw : Numeral.word? word = some dpi) :
    dpiSet command c [word] =
      expectCapability d .switchableResolution .noSwitchableResolution >>= fun _ =>
        expectRange d dpi >>= fun _ => .ok { update := some (.setDpi i j dpi) } := by
  rw [dpiSet_eq hd hr, hw, hi, hj, expectRange]
  cases d.dpiRange with
  | none => rfl
  | some r => cases hc : r.contains dpi <;> simp [hc] <;> rfl

theorem dpiSet_of_settable (command : String) (hd : c.openModel = .ok d)
    (hr : c.selectedResolution = .ok r) (hi : c.profile = some i) (hj : c.resolution = some j)
    (h : Settable d args n) :
    dpiSet command c args = .ok { update := some (.setDpi i j (.ofNat n)) } := by
  obtain ⟨word, rfl, hn⟩ := h.number
  rw [dpiSet_eq_checks command hd hr hi hj (Numeral.word?_of_spells hn h.limit),
    expectCapability_of_has h.capability, expectRange_of_fits h.limit h.range]
  rfl

end Plan

/-! ## How the line fails -/

/-- A fault is how the line fails. -/
theorem failure_of_dpiFault (hd : c.openModel = .ok d) (hr : c.selectedResolution = .ok r)
    (hi : c.profile = some i) (hj : c.resolution = some j)
    (h : DpiFault service path d i j args e) :
    (Account.opened service ⟨path⟩ d (Plan.dpiSet "set" c args)).failure = some e := by
  cases h with
  | arguments h =>
      rw [Plan.dpiSet_of_length "set" c h]
      rfl
  | number hargs h =>
      rw [hargs, Plan.dpiSet_eq hd hr, Numeral.word?_of_not_spells h]
      rfl
  | capability hargs hn limit h =>
      rw [hargs, Plan.dpiSet_eq_checks "set" hd hr hi hj (Numeral.word?_of_spells hn limit),
        Plan.expectCapability_of_not_has h]
      rfl
  | range hargs hn limit can hrange h =>
      rw [hargs, Plan.dpiSet_eq_checks "set" hd hr hi hj (Numeral.word?_of_spells hn limit),
        Plan.expectCapability_of_has can, Plan.expectRange_of_not_fits limit hrange h]
      rfl
  | commit checked h =>
      rw [Plan.dpiSet_of_settable "set" hd hr hi hj checked]
      exact Account.failure_of_uncommitted h

namespace Commands

/-- The dpi is set just if its line has one argument that spells a number of 32 bits, the device can
do it and accepts the number, and the device is committed.  Otherwise the first of these that is
not so is how the line fails. -/
theorem dpi_succeeds_exactly {i j : Nat} (service : σ) (v : Verbosity) (choice : ResolutionChoice)
    (args : List String) (path : String) (hd : loader service ⟨path⟩ = .ok d)
    (h : choice.select? d = some (i, j)) :
    let line := tree.run service v (choice.words ++ ["dpi", "set"] ++ args ++ [path])
    (line.failure = none ↔
      ∃ n, Settable d args n ∧ commitDpi service path d i j n = .ok ()) ∧
      ∀ e, line.failure = some e ↔ DpiFault service path d i j args e := by
  obtain ⟨q, r, hq, hr⟩ := ResolutionChoice.exists_resolution h
  intro line
  let c : Context := {
    device := some ⟨⟨path⟩, d⟩, profile := some i, resolution := some j }
  have opened : c.openModel = .ok d := rfl
  have chosen : c.selectedProfile = .ok q :=
    Context.selectedProfile_eq_ok_iff.mpr ⟨d, i, opened, rfl, hq⟩
  have selected : c.selectedResolution = .ok r :=
    Context.selectedResolution_eq_ok_iff.mpr ⟨q, j, chosen, rfl, hr⟩
  have failure : line.failure =
      (Account.opened service ⟨path⟩ d (Plan.dpiSet "set" c args)).failure :=
    congrArg Account.failure (account_of_dpiSet v args hd h)
  rw [failure]
  refine failure_iff ?_ (fun e h => failure_of_dpiFault opened selected rfl rfl h)
    (set_or_fault service path d i j args)
  rintro ⟨n, checked, hc⟩
  rw [Plan.dpiSet_of_settable "set" opened selected rfl rfl checked]
  exact Account.failure_of_committed hc

/-- The greatest value that a mouse accepts, and one that is too great. -/
theorem dpi_succeeds_exactly_of_mouse :
    let range : DpiRange := ⟨100, 1600⟩
    let p : Profile := {
      active := true, resolutions := [{ dpi := 800, active := true }, { dpi := 0 }] }
    let d : Device := {
      name := "M", capabilities := [.switchableResolution]
      dpiRange := some range, profiles := [p] }
    let shelf : Shelf := { entries := [(⟨"m"⟩, .device d)] }
    (tree.run shelf .normal ["dpi", "set", "+01600", "m"]).failure = none ∧
      (tree.run shelf .normal ["resolution", "1", "dpi", "set", "1601", "m"]).failure =
        some (.unsupported (.dpiOutOfRange 1601 range)) := by
  intro range p d shelf
  have loads : loader shelf ⟨"m"⟩ = .ok d := Shelf.load_singleton _ d
  have greatest : Numeral.Spells "+01600" 1600 :=
    ⟨['0', '1', '6', '0', '0'], .inr rfl, by decide, by decide, by decide⟩
  have tooGreat : Numeral.Spells "1601" 1601 :=
    ⟨['1', '6', '0', '1'], .inl rfl, by decide, by decide, by decide⟩
  let second : ResolutionChoice := .resolution .active (some ⟨"1", 1, by decide⟩)
  obtain ⟨succeeds, -⟩ :=
    dpi_succeeds_exactly (i := 0) (j := 0) shelf .normal .active ["+01600"] "m" loads rfl
  obtain ⟨-, fails⟩ :=
    dpi_succeeds_exactly (i := 0) (j := 1) shelf .normal second ["1601"] "m" loads rfl
  refine ⟨succeeds.mpr ⟨1600, ?_, rfl⟩, (fails _).mpr ?_⟩
  · exact ⟨⟨"+01600", rfl, greatest⟩, by decide, by decide, by decide⟩
  · exact .range rfl tooGreat (by decide) (by decide) rfl (by decide)

end Commands

end MouseConfig
