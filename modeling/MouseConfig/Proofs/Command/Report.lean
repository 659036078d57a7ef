import MouseConfig.Proofs.Command.Recall

/-! # The report and the lines that get one entry

A report goes through a device on its own, and the lines that get one entry find it by its position.
They tell the same: from what those lines print, the report can be put together.
-/

namespace MouseConfig.Commands

variable {σ : Type} [DeviceService σ] {service : σ} {path : String} {d : Device}

/-! ## Entries by their positions -/

theorem prints_dpi (hd : loader service ⟨path⟩ = .ok d) (i j : IndexWord) {p : Profile}
    {r : Resolution} (hp : d.profiles[i.index]? = some p) (hr : p.resolutions[j.index]? = some r) :
    Prints service ["profile", i.word, "resolution", j.word, "dpi", "get", path]
      (toString r.dpi ++ "\n") := by
  obtain ⟨hi, -⟩ := List.getElem?_eq_some_iff.mp hp
  obtain ⟨hj, -⟩ := List.getElem?_eq_some_iff.mp hr
  let c : Context := { profile := some i.index, resolution := some j.index }
  let w : Wording := .inProfile (some i) (.resolution (some j) (.dpi .get))
  have selected : w.select? d = some c := by
    simp only [w, c, Wording.select?, Phrase.select?, IndexWord.select?, if_pos hi,
      Option.bind_eq_bind, Option.bind_some, hp, if_pos hj]
    rfl
  have resolution : { c with device := some ⟨⟨path⟩, d⟩ }.selectedResolution = .ok r :=
    Context.selectedResolution_eq_ok_iff.mpr
      ⟨p, j.index, c.selectedProfile_of_opened ⟨path⟩ rfl hp, rfl, hr⟩
  exact prints_of_plan (w := w) hd selected (congrArg some (Plan.dpiGet_eq resolution _))

theorem prints_mapping (hd : loader service ⟨path⟩ = .ok d) (i n : IndexWord) {p : Profile}
    {b : Button} (hp : d.profiles[i.index]? = some p) (hb : p.buttons[n.index]? = some b) :
    Prints service ["profile", i.word, "button", n.word, "get", path] (b.line n.index ++ "\n") := by
  obtain ⟨hi, -⟩ := List.getElem?_eq_some_iff.mp hp
  let c : Context := { profile := some i.index, button := some n.index }
  let w : Wording := .inProfile (some i) (.button (some n) .get)
  have selected : w.select? d = some c := by
    simp [w, c, Wording.select?, Phrase.select?, IndexWord.select?, hi]
  have profile := c.selectedProfile_of_opened ⟨path⟩ rfl hp
  have button : { c with device := some ⟨⟨path⟩, d⟩ }.button = some n.index := rfl
  exact prints_of_plan (w := w) hd selected
    (congrArg some (Plan.buttonGet_eq button profile hb _))

/-- What is printed by the lines that get one entry, in whatever words they give its position. -/
structure Answers (service : σ) (path : String) (d : Device) where
  /-- The dpi of the resolution at a position of the profile at a position. -/
  dpi : Nat → Nat → UInt32
  /-- The mapping of the button at a position of the profile at a position. -/
  mapping : Nat → Nat → String
  dpi_printed (i j : IndexWord) {p : Profile} {r : Resolution} :
    d.profiles[i.index]? = some p → p.resolutions[j.index]? = some r →
      Prints service ["profile", i.word, "resolution", j.word, "dpi", "get", path]
        (toString (dpi i.index j.index) ++ "\n")
  mapping_printed (i n : IndexWord) {p : Profile} {b : Button} :
    d.profiles[i.index]? = some p → p.buttons[n.index]? = some b →
      Prints service ["profile", i.word, "button", n.word, "get", path]
        (mapping i.index n.index ++ "\n")

/-- The lines at the head of a report. -/
def heading (d : Device) : List String :=
  [s!"Device '{d.name}'",
   "Capabilities: " ++ " ".intercalate ((Capability.all.filter d.has).map Capability.shortName),
   s!"Number of buttons: {d.buttonCount.toNat}",
   s!"Profiles supported: {d.profiles.length}"]

namespace Answers

/-- How a resolution is shown whose dpi is known.  Only separate axes are both shown, and the second
one has the value of the first if none is stored. -/
def resolutionText (r : Resolution) (dpi : UInt32) : String :=
  if dpi = 0 then "<disabled>"
  else
    let axes := if r.has .separateAxes then s!"{dpi}x{r.dpiY.getD dpi}dpi" else s!"{dpi}dpi"
    s!"{axes} @ {r.rate.toNat}Hz" ++ Report.marks r.active r.default

/-- The lines on one profile.  A button is shown if the profile lists it and the device is said to
have it. -/
def profileLines (a : Answers service path d) (i : Nat) (p : Profile) : List String :=
  [s!"  Profile {i}" ++ Report.marks p.active p.default, "    Resolutions:"]
    ++ p.resolutions.mapIdx (fun j r => s!"      {j}: " ++ resolutionText r (a.dpi i j))
    ++ (List.range (min d.buttonCount.toNat p.buttons.length)).map fun n => "    " ++ a.mapping i n

/-- The report that is put together from answers. -/
def reportLines (a : Answers service path d) : List String :=
  heading d ++ (d.profiles.mapIdx a.profileLines).flatten

end Answers

/-! ## The answers of a device -/

theorem mapIdx_congr_of_getElem? {α β : Type} {l : List α} {f g : Nat → α → β}
    (h : ∀ i x, l[i]? = some x → f i x = g i x) : l.mapIdx f = l.mapIdx g := by
  refine List.ext_getElem? fun i => ?_
  rw [List.getElem?_mapIdx, List.getElem?_mapIdx]
  cases hx : l[i]? with
  | none => rfl
  | some x => exact congrArg some (h i x hx)

theorem mapIdx_take_eq_map_range {α β : Type} {l : List α} {n : Nat} {f : Nat → α → β} {g : Nat → β}
    (h : ∀ i x, l[i]? = some x → f i x = g i) :
    (l.take n).mapIdx f = (List.range (min n l.length)).map g := by
  refine List.ext_getElem? fun i => ?_
  rw [List.getElem?_mapIdx, List.getElem?_map, List.getElem?_take]
  by_cases hi : i < min n l.length
  · obtain ⟨hn, hl⟩ := Nat.lt_min.mp hi
    have hx : l[i]? = some l[i] := List.getElem?_eq_getElem hl
    rw [if_pos hn, hx, List.getElem?_range hi]
    exact congrArg some (h i _ hx)
  · have outside : (if i < n then l[i]? else none) = none := by
      split
      · exact List.getElem?_eq_none (by omega)
      · rfl
    have beyond : (List.range (min n l.length)).length ≤ i := by
      rw [List.length_range]
      omega
    rw [outside, List.getElem?_eq_none beyond]
    rfl

theorem Answers.resolutionText_dpi (r : Resolution) : resolutionText r r.dpi = r.text := by
  rw [resolutionText, Resolution.text]
  by_cases off : r.dpi = 0
  · rw [if_pos off, if_pos off]
  · rw [if_neg off, if_neg off]
    rfl

/-- What the lines print about the entries of a device that opens. -/
def answers (hd : loader service ⟨path⟩ = .ok d) : Answers service path d where
  dpi i j := (d.profiles[i]?.bind fun p => p.resolutions[j]?).elim 0 (·.dpi)
  mapping i n := (d.profiles[i]?.bind fun p => p.buttons[n]?).elim "" (·.line n)
  dpi_printed i j p r hp hr := by
    rw [hp, Option.bind_some, hr]
    exact prints_dpi hd i j hp hr
  mapping_printed i n p b hp hb := by
    rw [hp, Option.bind_some, hb]
    exact prints_mapping hd i n hp hb

theorem reportLines_answers (hd : loader service ⟨path⟩ = .ok d) :
    (answers hd).reportLines = d.reportLines := by
  refine congrArg (heading d ++ ·.flatten) (mapIdx_congr_of_getElem? fun i p hp => ?_)
  have resolutions : (p.resolutions.mapIdx fun j r =>
      s!"      {j}: " ++ Answers.resolutionText r ((answers hd).dpi i j)) =
      p.resolutions.mapIdx fun j r => s!"      {j}: {r.text}" :=
    mapIdx_congr_of_getElem? fun j r hr => by
      have dpi : (answers hd).dpi i j = r.dpi := by simp [answers, hp, hr]
      rw [dpi, Answers.resolutionText_dpi]
      rfl
  have buttons : ((p.buttons.take d.buttonCount.toNat).mapIdx fun n b => "    " ++ b.line n) =
      (List.range (min d.buttonCount.toNat p.buttons.length)).map fun n =>
        "    " ++ (answers hd).mapping i n :=
    mapIdx_take_eq_map_range fun n b hb => by simp [answers, hp, hb]
  rw [Answers.profileLines, Profile.reportLines, resolutions, buttons]

theorem prints_report (hd : loader service ⟨path⟩ = .ok d) :
    Prints service ["info", path] d.report := by
  have opened : { device := some ⟨⟨path⟩, d⟩ : Context }.openModel = .ok d :=
    Context.openModel_eq_ok_iff.mpr ⟨⟨path⟩, rfl⟩
  have planned : Plan.info "info" { device := some ⟨⟨path⟩, d⟩ } [] = .ok { output := d.report } := by
    rw [Plan.info, opened]
    rfl
  exact prints_of_plan (w := .info) hd rfl (congrArg some planned)

/-- A report tells what the lines print that get its entries one by one: the dpi of all resolutions,
and the mapping of those buttons that the device is said to have. -/
theorem report_tells_answers (hd : loader service ⟨path⟩ = .ok d) :
    ∃ a : Answers service path d, Prints service ["info", path] (Text.unlines a.reportLines) := by
  refine ⟨answers hd, ?_⟩
  rw [reportLines_answers]
  exact prints_report hd

/-- Axes of their own, a resolution that is off, and more buttons than the device is said to have. -/
theorem report_tells_answers_of_mouse :
    let d : Device := {
      name := "M", buttonCount := 1
      profiles := [
        { resolutions := [
            { dpi := 800, dpiY := some 400, capabilities := [.separateAxes] }, { dpi := 0 },
            { dpi := 1600, dpiY := some 400 }]
          buttons := [{ action := .button 1 }, {}] }] }
    let shelf : Shelf := { entries := [(⟨"m"⟩, .device d)] }
    loader shelf ⟨"m"⟩ = .ok d ∧
      ∃ a : Answers shelf "m" d, Prints shelf ["info", "m"] (Text.unlines a.reportLines) := by
  intro d shelf
  have found : shelf.get? ⟨"m"⟩ = some (.device d) := by decide
  have loaded : loader shelf ⟨"m"⟩ = .ok d := Shelf.load_eq_ok_iff.mpr found
  exact ⟨loaded, report_tells_answers loaded⟩

end MouseConfig.Commands
