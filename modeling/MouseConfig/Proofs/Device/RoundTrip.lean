import MouseConfig.Proofs.Device.Record
import MouseConfig.Proofs.Device.Update
import MouseConfig.Proofs.Toml.Range

/-! # Descriptions read back

A device that can be described reads back from its description.  What has been read from a text can
be described, also after it has been updated.
-/

namespace MouseConfig.Device

open Toml

variable {d : Device}

theorem buttonCount_lt_of_ofEntries? {es : List (String × Value)} (h : ofEntries? es = some d)
    (hv : ∀ v, es.lookup "buttons" = some v → v.InRange) : d.buttonCount.toNat < integerBound := by
  rw [ofEntries?, Option.bind_eq_bind, Option.bind_eq_some_iff] at h
  obtain ⟨name, -, h⟩ := h
  rw [Option.bind_eq_bind, Option.bind_eq_some_iff] at h
  obtain ⟨capabilities, -, h⟩ := h
  rw [Option.bind_eq_bind, Option.bind_eq_some_iff] at h
  obtain ⟨count, hc, h⟩ := h
  rw [Option.bind_eq_bind, Option.bind_eq_some_iff] at h
  obtain ⟨range, -, h⟩ := h
  rw [Option.bind_eq_bind, Option.bind_eq_some_iff] at h
  obtain ⟨profiles, -, h⟩ := h
  cases h
  rw [fieldD] at hc
  split at hc
  · next v hl => exact (hv v hl).count?_lt hc
  · cases hc
    exact show (0 : UInt64).toNat < integerBound by decide

/-- The button count that a text gives fits in a description. -/
theorem buttonCount_lt_of_ofDescription {text : String} (h : ofDescription text = .ok d) :
    d.buttonCount.toNat < integerBound := by
  rw [ofDescription, readAs] at h
  cases hr : read? text with
  | none =>
      rw [hr] at h
      cases h
  | some es =>
      rw [hr] at h
      dsimp only at h
      split at h
      · cases h
      · next he =>
          cases h
          exact buttonCount_lt_of_ofEntries? he fun v hl => inRange_of_lookup hr hl

/-- Whatever has been written reads back. -/
theorem ofDescription_of_description? {text : String} (h : d.description? = some text) :
    ofDescription text = .ok d := by
  rw [description?] at h
  split at h
  · next hd =>
      cases h
      exact ofDescription_text hd
  · cases h

theorem exists_description (h : d.buttonCount.toNat < integerBound) :
    ∃ text, d.description? = some text ∧ ofDescription text = .ok d :=
  have written : d.description? = some d.sheet.text := if_pos h
  ⟨_, written, ofDescription_of_description? written⟩

/-- A device whose button count is below the bound of integers has a description, from which it
reads back.  So has every device that comes from a text that was read, whatever has been updated. -/
theorem reads_back_from_description :
    (∀ d : Device, d.buttonCount.toNat < integerBound →
      ∃ text, d.description? = some text ∧ ofDescription text = .ok d) ∧
    (∀ (text : String) (d₀ : Device) (us : List Update), ofDescription text = .ok d₀ →
      ∃ text', (Update.applyAll us d₀).description? = some text' ∧
        ofDescription text' = .ok (Update.applyAll us d₀)) := by
  refine ⟨fun d => exists_description, fun text d₀ us h => exists_description ?_⟩
  rw [Update.buttonCount_applyAll]
  exact buttonCount_lt_of_ofDescription h

/-- Quotes of both kinds, a line break and a backslash in texts; a resolution that is changed. -/
theorem reads_back_from_description_with_quotes :
    let d : Device := {
      name := "'\"\"\"\n'''"
      profiles := [{ buttons := [{ action := .sequence "\\" [⟨.pressed, "KEY_A"⟩] }, {}] }] }
    let text := "name = 'M'\n[[profile]]\n[[profile.resolution]]\ndpi = 800\ndpi_y = 400\n"
    let d₀ : Device := { name := "M", profiles := [{ resolutions := [{ dpi := 800, dpiY := some 400 }] }] }
    (∃ text, d.description? = some text ∧ ofDescription text = .ok d) ∧
      ofDescription text = .ok d₀ ∧
      ∃ text', (Update.applyAll [.setDpi 0 0 1600] d₀).description? = some text' ∧
        ofDescription text' = .ok (Update.applyAll [.setDpi 0 0 1600] d₀) := by
  intro d text d₀
  obtain ⟨described, updated⟩ := reads_back_from_description
  have read : ofDescription text = .ok d₀ := by decide +kernel
  exact ⟨described d (by decide), read, updated text d₀ _ read⟩

end MouseConfig.Device
