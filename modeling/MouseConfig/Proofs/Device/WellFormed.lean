import MouseConfig.Proofs.Device.Update

/-! # Well-formed devices

One profile of a device is active, and one resolution of each of its profiles.  Buttons are mapped to
known keys, alone or pressed and released one after the other, and what a resolution is set to lies
in the range of the sensor.  Updates keep a device well-formed if what they set is.
-/

namespace MouseConfig

/-! ## Actions -/

/-- The events are strokes of known keys, one after the other. -/
def KeyEvent.areStrokes : List KeyEvent → Bool
  | [] => true
  | ⟨.pressed, k⟩ :: ⟨.released, k'⟩ :: rest => k = k' && Key.isKnown k && areStrokes rest
  | _ => false

namespace Action

/-- An action that can be played back. -/
def WellFormed : Action → Prop
  | key name => Key.isKnown name
  | sequence name events =>
    name ≠ "" ∧ ':' ∉ name.toList ∧ events ≠ [] ∧ KeyEvent.areStrokes events
  | disabled | button _ | special _ => True

instance : DecidablePred WellFormed
  | key name => inferInstanceAs (Decidable (Key.isKnown name = true))
  | sequence name events => inferInstanceAs (Decidable
      (name ≠ "" ∧ ':' ∉ name.toList ∧ events ≠ [] ∧ KeyEvent.areStrokes events = true))
  | disabled | button _ | special _ => .isTrue trivial

/-- Keys that can be read are pressed and released one after the other. -/
theorem areStrokes_of_strokes {keys : List String} {events : List KeyEvent}
    (h : strokes keys = .ok events) :
    KeyEvent.areStrokes events ∧ (keys ≠ [] → events ≠ []) := by
  induction keys generalizing events with
  | nil =>
      cases h
      exact ⟨rfl, fun h => absurd rfl h⟩
  | cons k rest ih =>
      rw [strokes] at h
      cases hk : Key.isKnown k with
      | false => simp [hk] at h
      | true =>
          rw [hk] at h
          cases hs : strokes rest with
          | error e =>
              rw [hs] at h
              cases h
          | ok more =>
              rw [hs] at h
              cases h
              obtain ⟨hmore, -⟩ := ih hs
              refine ⟨?_, fun _ => List.cons_ne_nil _ _⟩
              simp [KeyEvent.stroke, KeyEvent.areStrokes, hk, hmore]

theorem wellFormed_of_ofSequence? {word : String} {a : Action} (h : ofSequence? word = .ok a) :
    a.WellFormed := by
  rw [ofSequence?] at h
  rcases hc : Text.cut ':' word.toList with _ | ⟨_ | ⟨c, name⟩, _ | ⟨k, keys⟩⟩ <;> rw [hc] at h
  case some.cons.cons =>
    obtain ⟨-, absent⟩ := Text.cut_eq_some_iff.mp hc
    dsimp only at h
    cases hs : strokes ((Text.pieces (k :: keys)).map String.ofList) with
    | error e =>
        rw [hs] at h
        cases h
    | ok events =>
        rw [hs] at h
        cases h
        obtain ⟨paired, some⟩ := areStrokes_of_strokes hs
        have named : String.ofList (c :: name) ≠ "" := by
          intro he
          have chars := congrArg String.toList he
          simp at chars
        exact ⟨named, by simpa using absent, some (by simp [Text.pieces]), paired⟩
  all_goals cases h

/-- What the words of a command line name is well-formed. -/
theorem wellFormed_of_ofWords? {kind word : String} {a : Action} (h : ofWords? kind word = .ok a) :
    a.WellFormed := by
  unfold ofWords? at h
  split at h
  · cases hn : Numeral.word? word <;> rw [hn] at h <;> cases h
    trivial
  · cases hk : Key.isKnown word with
    | false => simp [hk] at h
    | true =>
        rw [hk] at h
        cases h
        exact hk
  · cases hs : Special.ofName? word <;> rw [hs] at h <;> cases h
    trivial
  · exact wellFormed_of_ofSequence? h
  · cases h

end Action

/-! ## Devices -/

/-- What a resolution is set to lies in a range, unless it is disabled. -/
def Resolution.Within (range : DpiRange) (r : Resolution) : Prop :=
  r.dpi = 0 ∨ range.contains r.dpi ∧ ∀ y ∈ r.dpiY, range.contains y

structure Profile.WellFormed (p : Profile) : Prop where
  active : p.resolutions.countP (·.active) = 1
  actions : ∀ b ∈ p.buttons, b.action.WellFormed

structure Device.WellFormed (d : Device) : Prop where
  active : d.profiles.countP (·.active) = 1
  profiles : ∀ p ∈ d.profiles, p.WellFormed
  dpi : ∀ range ∈ d.dpiRange, ∀ p ∈ d.profiles, ∀ r ∈ p.resolutions, r.Within range

instance (range : DpiRange) : DecidablePred (Resolution.Within range) := fun r =>
  -- Named, as testing all numbers of 32 bits would also decide it.
  have : Decidable (∀ y ∈ r.dpiY, range.contains y = true) := Option.decidableForallMem r.dpiY
  inferInstanceAs (Decidable (r.dpi = 0 ∨ range.contains r.dpi = true ∧
    ∀ y ∈ r.dpiY, range.contains y = true))

instance : DecidablePred Profile.WellFormed := fun p =>
  decidable_of_iff (p.resolutions.countP (·.active) = 1 ∧ ∀ b ∈ p.buttons, b.action.WellFormed)
    ⟨fun ⟨h, h'⟩ => ⟨h, h'⟩, fun h => ⟨h.active, h.actions⟩⟩

instance : DecidablePred Device.WellFormed := fun d =>
  decidable_of_iff (d.profiles.countP (·.active) = 1 ∧ (∀ p ∈ d.profiles, p.WellFormed) ∧
      ∀ range ∈ d.dpiRange, ∀ p ∈ d.profiles, ∀ r ∈ p.resolutions, r.Within range)
    ⟨fun ⟨h, h', h''⟩ => ⟨h, h', h''⟩, fun h => ⟨h.active, h.profiles, h.dpi⟩⟩

/-! ## Counting what is active -/

/-- Where just one position passes a test, one entry does. -/
theorem countP_mapIdx_of_beq {α β : Type} {l : List α} {i : Nat} {f : Nat → α → β} {test : β → Bool}
    (hi : i < l.length) (hf : ∀ k x, test (f k x) = (k == i)) : (l.mapIdx f).countP test = 1 := by
  induction l generalizing i f with
  | nil => exact absurd hi (Nat.not_lt_zero i)
  | cons x rest ih =>
      rw [List.mapIdx_cons]
      cases i with
      | zero =>
          have others : (rest.mapIdx fun k => f (k + 1)).countP test = 0 := by
            rw [List.countP_eq_zero]
            intro y hy
            obtain ⟨k, hk, rfl⟩ := List.mem_mapIdx.mp hy
            simp [hf]
          rw [List.countP_cons_of_pos (by simp [hf]), others]
      | succ i =>
          rw [List.countP_cons_of_neg (by simp [hf])]
          exact ih (Nat.lt_of_succ_lt_succ hi) fun k y => by simp [hf]

theorem countP_modify {α : Type} {f : α → α} {test : α → Bool} (hf : ∀ x, test (f x) = test x)
    (l : List α) (i : Nat) : (l.modify i f).countP test = l.countP test := by
  induction l generalizing i with
  | nil => simp
  | cons x rest ih =>
      cases i with
      | zero => simp [List.modify_zero_cons, List.countP_cons, hf]
      | succ i => simp [List.modify_succ_cons, List.countP_cons, ih]

theorem mem_or_exists_of_mem_modify {α : Type} {f : α → α} {l : List α} {i : Nat} {y : α}
    (h : y ∈ l.modify i f) : y ∈ l ∨ ∃ x ∈ l, y = f x := by
  induction l generalizing i with
  | nil => simp at h
  | cons x rest ih =>
      cases i with
      | zero =>
          rw [List.modify_zero_cons] at h
          rcases List.mem_cons.mp h with rfl | h
          · exact .inr ⟨x, List.mem_cons_self, rfl⟩
          · exact .inl (List.mem_cons_of_mem x h)
      | succ i =>
          rw [List.modify_succ_cons] at h
          rcases List.mem_cons.mp h with rfl | h
          · exact .inl List.mem_cons_self
          · rcases ih h with h | ⟨z, hz, hy⟩
            · exact .inl (List.mem_cons_of_mem x h)
            · exact .inr ⟨z, List.mem_cons_of_mem x hz, hy⟩

/-! ## Updates of profiles -/

/-- A well-formed profile whose resolutions lie in the range, if there is one. -/
structure Profile.Proper (range : Option DpiRange) (p : Profile) : Prop where
  wellFormed : p.WellFormed
  dpi : ∀ r ∈ range, ∀ x ∈ p.resolutions, x.Within r

namespace Profile.Proper

variable {range : Option DpiRange} {p : Profile}

theorem activate (h : p.Proper range) (index : Nat) : (p.activate index).Proper range := by
  rcases Nat.lt_or_ge index p.resolutions.length with hi | hi
  · rw [Profile.activate_of_lt hi]
    refine ⟨⟨countP_mapIdx_of_beq hi fun k x => rfl, h.wellFormed.actions⟩, fun r hr x hx => ?_⟩
    obtain ⟨k, hk, rfl⟩ := List.mem_mapIdx.mp hx
    have old : (p.resolutions[k]).Within r := h.dpi r hr _ (List.getElem_mem hk)
    exact old
  · rw [Profile.activate_of_le hi]
    exact h

theorem setDpi (h : p.Proper range) {dpi : UInt32} (hd : ∀ r ∈ range, r.contains dpi) (j : Nat) :
    (p.modifyResolution j (·.setDpi dpi)).Proper range := by
  have kept : ∀ x : Resolution, (x.setDpi dpi).active = x.active := fun x => rfl
  refine ⟨⟨?_, h.wellFormed.actions⟩, fun r hr x hx => ?_⟩
  · exact (countP_modify kept p.resolutions j).trans h.wellFormed.active
  · rcases mem_or_exists_of_mem_modify hx with hx | ⟨y, -, rfl⟩
    · exact h.dpi r hr x hx
    · exact .inr ⟨hd r hr, nofun⟩

theorem setAction (h : p.Proper range) {a : Action} (ha : a.WellFormed) (index : Nat) :
    (p.setAction index a).Proper range := by
  refine ⟨⟨h.wellFormed.active, fun b hb => ?_⟩, h.dpi⟩
  rcases mem_or_exists_of_mem_modify hb with hb | ⟨b', -, rfl⟩
  · exact h.wellFormed.actions b hb
  · exact ha

/-- The volume keys are known keys. -/
theorem toggled (h : p.Proper range) : (VolumeKeys.toggled p).Proper range := by
  have assigned {a a' : Action} (ha : a.WellFormed) (ha' : a'.WellFormed) :
      (VolumeKeys.assign p a a').Proper range :=
    (h.setAction ha _).setAction ha' _
  rcases ht : VolumeKeys.toggle p with _ | ⟨outcome, q⟩
  · rw [VolumeKeys.toggled, ht]
    exact h
  · rw [VolumeKeys.toggled_eq ht]
    obtain ⟨-, -, -, -, ⟨-, -, rfl⟩ | ⟨-, -, rfl⟩ | ⟨-, rfl⟩⟩ := VolumeKeys.cases_of_toggle ht
    · exact assigned trivial trivial
    · exact assigned (by decide) (by decide)
    · exact h

end Profile.Proper

/-! ## Updates of devices -/

/-- What an update sets is well-formed in a device. -/
def Update.Admissible (d : Device) : Update → Prop
  | setDpi _ _ dpi => ∀ range ∈ d.dpiRange, range.contains dpi
  | setAction _ _ a => a.WellFormed
  | activateProfile _ | activateResolution _ _ | toggleVolumeKeys _ => True

namespace Device.WellFormed

variable {d : Device}

theorem proper (h : d.WellFormed) {p : Profile} (hp : p ∈ d.profiles) : p.Proper d.dpiRange :=
  ⟨h.profiles p hp, fun r hr => h.dpi r hr p hp⟩

theorem of_proper (ha : d.profiles.countP (·.active) = 1)
    (hp : ∀ p ∈ d.profiles, p.Proper d.dpiRange) : d.WellFormed :=
  ⟨ha, fun p h => (hp p h).wellFormed, fun r hr p h => (hp p h).dpi r hr⟩

theorem activate (h : d.WellFormed) (index : Nat) : (d.activate index).WellFormed := by
  rcases Nat.lt_or_ge index d.profiles.length with hi | hi
  · rw [Device.activate_of_lt hi]
    refine of_proper (countP_mapIdx_of_beq hi fun k p => rfl) fun p hp => ?_
    obtain ⟨k, hk, rfl⟩ := List.mem_mapIdx.mp hp
    have old := h.proper (List.getElem_mem hk)
    exact ⟨⟨old.wellFormed.active, old.wellFormed.actions⟩, old.dpi⟩
  · rw [Device.activate_of_le hi]
    exact h

/-- A profile is changed into a proper one without being switched. -/
theorem modifyProfile (h : d.WellFormed) {f : Profile → Profile}
    (hf : ∀ p, p.Proper d.dpiRange → (f p).Proper d.dpiRange)
    (ha : ∀ p, (f p).active = p.active) (index : Nat) : (d.modifyProfile index f).WellFormed := by
  refine of_proper ?_ fun p hp => ?_
  · exact (countP_modify ha d.profiles index).trans h.active
  · rcases mem_or_exists_of_mem_modify hp with hp | ⟨q, hq, rfl⟩
    · exact h.proper hp
    · exact hf q (h.proper hq)

/-- Updates that set what is well-formed keep a device well-formed. -/
theorem apply (h : d.WellFormed) {u : Update} (hu : u.Admissible d) : (u.apply d).WellFormed := by
  cases u with
  | activateProfile index => exact h.activate index
  | activateResolution profile index =>
      exact h.modifyProfile (fun p hp => hp.activate index) (fun p => p.active_activate index) profile
  | setDpi profile resolution dpi =>
      exact h.modifyProfile (fun p hp => hp.setDpi hu resolution) (fun p => rfl) profile
  | setAction profile button a =>
      exact h.modifyProfile (fun p hp => hp.setAction hu button) (fun p => rfl) profile
  | toggleVolumeKeys profile =>
      exact h.modifyProfile (fun p hp => hp.toggled) VolumeKeys.active_toggled profile

end Device.WellFormed

end MouseConfig
