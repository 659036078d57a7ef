import MouseConfig.Proofs.Command.Lines
import MouseConfig.Proofs.Device.Guarded

/-! # Readings

To every wording that sets something there is one that gets it, with the same words but the last.
It selects the same, wherever the same is marked as active, and prints what its task has planned.
-/

namespace MouseConfig

/-! ## Wordings that get something -/

/-- The phrase that gets what a phrase sets. -/
def ResolutionPhrase.reading : ResolutionPhrase → ResolutionPhrase
  | active _ => active .get
  | dpi _ => dpi .get

@[inherit_doc ResolutionPhrase.reading]
def Phrase.reading : Phrase → Phrase
  | resolution r phrase => resolution r phrase.reading
  | button b _ => button b .get

/-- The task that gets what a task sets. -/
def Task.reading : Task → Task
  | dpiSet => dpiGet
  | activeResolutionSet => activeResolutionGet
  | activeProfileSet => activeProfileGet
  | buttonSet => buttonGet
  | t => t

/-- The words that name a task, at the end of every wording of it. -/
def Task.ends : Task → List String
  | info => ["info"]
  | list => ["list"]
  | changeButton => ["change-button"]
  | switchVolumeKeys => ["switch-etekcity"]
  | buttonGet => ["get"]
  | buttonSet => ["set"]
  | activeProfileGet | activeResolutionGet => ["active", "get"]
  | activeProfileSet | activeResolutionSet => ["active", "set"]
  | dpiGet => ["dpi", "get"]
  | dpiSet => ["dpi", "set"]
  | record => []

/-- The wording that gets what a wording sets. -/
def Wording.reading : Wording → Wording
  | info => info
  | changeButton => changeButton
  | switchVolumeKeys => switchVolumeKeys
  | dpi _ => dpi .get
  | inActiveProfile phrase => inActiveProfile phrase.reading
  | activeProfile p _ => activeProfile p .get
  | inProfile p phrase => inProfile p phrase.reading

/-- What does not read as an index is none of the words of one. -/
theorem IndexWord.not_mem_words {word : String} (hx : Numeral.index? word = none)
    (w : Option IndexWord) : word ∉ words w := by
  cases w with
  | none => exact List.not_mem_nil
  | some w =>
      intro h
      have reads := w.reads
      rw [← List.mem_singleton.mp h, hx] at reads
      cases reads

theorem IndexWord.set_not_mem (w : Option IndexWord) : "set" ∉ words w :=
  not_mem_words (by decide) w

theorem ResolutionPhrase.exists_lead (phrase : ResolutionPhrase) :
    ∃ lead a, phrase.words = lead ++ [Access.word a] ∧ phrase.reading.words = lead ++ ["get"] ∧
      "set" ∉ lead := by
  cases phrase with
  | active a => exact ⟨["active"], a, rfl, rfl, by decide⟩
  | dpi a => exact ⟨["dpi"], a, rfl, rfl, by decide⟩

theorem Phrase.exists_lead (phrase : Phrase) :
    ∃ lead a, phrase.words = lead ++ [Access.word a] ∧ phrase.reading.words = lead ++ ["get"] ∧
      "set" ∉ lead := by
  cases phrase with
  | resolution r phrase =>
      obtain ⟨lead, a, hw, hr, hs⟩ := phrase.exists_lead
      refine ⟨"resolution" :: (IndexWord.words r ++ lead), a, ?_, ?_, ?_⟩
      · simp [words, hw]
      · simp [reading, words, hr]
      · simp [hs, IndexWord.set_not_mem]
  | button b a =>
      exact ⟨"button" :: IndexWord.words b, a, rfl, rfl, by simp [IndexWord.set_not_mem]⟩

theorem ResolutionPhrase.task_reading (phrase : ResolutionPhrase) :
    phrase.reading.task = phrase.task.reading := by
  rcases phrase with (_ | _) | (_ | _) <;> rfl

theorem Phrase.task_reading (phrase : Phrase) : phrase.reading.task = phrase.task.reading := by
  cases phrase with
  | resolution r phrase => exact phrase.task_reading
  | button b a => cases a <;> rfl

theorem ResolutionPhrase.words_eq_ends (phrase : ResolutionPhrase) :
    phrase.words = phrase.task.ends := by
  rcases phrase with (_ | _) | (_ | _) <;> rfl

theorem Phrase.exists_ends (phrase : Phrase) : ∃ lead, phrase.words = lead ++ phrase.task.ends := by
  cases phrase with
  | resolution r phrase =>
      refine ⟨"resolution" :: IndexWord.words r, ?_⟩
      rw [words, phrase.words_eq_ends]
      rfl
  | button b a =>
      refine ⟨"button" :: IndexWord.words b, ?_⟩
      cases a <;> rfl

namespace Wording

variable {w : Wording}

/-- A wording is one word, or it ends in an access, and nothing before it is spelled `set`. -/
theorem eq_singleton_or_exists_lead (w : Wording) :
    (∃ word, w.words = [word] ∧ word ≠ "set") ∨
      ∃ lead a, w.words = lead ++ [Access.word a] ∧ w.reading.words = lead ++ ["get"] ∧
        "set" ∉ lead := by
  cases w with
  | info => exact .inl ⟨"info", rfl, by decide⟩
  | changeButton => exact .inl ⟨"change-button", rfl, by decide⟩
  | switchVolumeKeys => exact .inl ⟨"switch-etekcity", rfl, by decide⟩
  | dpi a => exact .inr ⟨["dpi"], a, rfl, rfl, by decide⟩
  | inActiveProfile phrase => exact .inr phrase.exists_lead
  | activeProfile p a =>
      refine .inr ⟨"profile" :: (IndexWord.words p ++ ["active"]), a, ?_, ?_, ?_⟩
      · simp [words]
      · simp [reading, words, Access.word]
      · simp [IndexWord.set_not_mem]
  | inProfile p phrase =>
      obtain ⟨lead, a, hw, hr, hs⟩ := phrase.exists_lead
      refine .inr ⟨"profile" :: (IndexWord.words p ++ lead), a, ?_, ?_, ?_⟩
      · simp [words, hw]
      · simp [reading, words, hr]
      · simp [hs, IndexWord.set_not_mem]

theorem words_reading {front : List String} (h : w.words = front ++ ["set"]) :
    w.reading.words = front ++ ["get"] := by
  rcases w.eq_singleton_or_exists_lead with ⟨word, hw, hs⟩ | ⟨lead, a, hw, hr, -⟩
  · have only : [] ++ [word] = front ++ ["set"] := hw.symm.trans h
    obtain ⟨-, hlast⟩ := List.append_inj' only rfl
    exact absurd (List.singleton_inj.mp hlast) hs
  · obtain ⟨same, -⟩ := List.append_inj' (hw.symm.trans h) rfl
    rw [hr, same]

/-- If `set` comes up after a wording has begun, then at its end, or behind it. -/
theorem words_append_eq {front args rest : List String}
    (h : w.words ++ rest = front ++ "set" :: args) :
    w.words = front ++ ["set"] ∧ rest = args ∨
      ∃ more, front = w.words ++ more ∧ rest = more ++ "set" :: args := by
  rcases List.append_eq_append_iff.mp h with behind | ⟨more, hw, hr⟩
  · exact .inr behind
  · cases more with
    | nil => exact .inr ⟨[], by simp [hw], hr.symm⟩
    | cons word more =>
        obtain ⟨rfl, hargs⟩ := List.cons.inj hr
        rcases List.eq_nil_or_concat more with rfl | ⟨more, last, rfl⟩
        · exact .inl ⟨hw, hargs.symm⟩
        · have split : w.words = (front ++ "set" :: more) ++ [last] := by simp [hw]
          rcases w.eq_singleton_or_exists_lead with ⟨only, hw, -⟩ | ⟨lead, a, hw, -, hs⟩
          · have short := congrArg List.length (hw.symm.trans split)
            simp at short
            omega
          · obtain ⟨same, -⟩ := List.append_inj' (hw.symm.trans split) rfl
            exact absurd (by simp [same]) hs

/-! ## Tasks -/

theorem task_reading (w : Wording) : w.reading.task = w.task.reading := by
  cases w with
  | info | changeButton | switchVolumeKeys => rfl
  | dpi a | activeProfile p a => cases a <;> rfl
  | inActiveProfile phrase | inProfile p phrase => exact phrase.task_reading

theorem exists_ends (w : Wording) : ∃ lead, w.words = lead ++ w.task.ends := by
  cases w with
  | info | changeButton | switchVolumeKeys => exact ⟨[], rfl⟩
  | dpi a =>
      refine ⟨[], ?_⟩
      cases a <;> rfl
  | inActiveProfile phrase => exact phrase.exists_ends
  | activeProfile p a =>
      refine ⟨"profile" :: IndexWord.words p, ?_⟩
      cases a <;> rfl
  | inProfile p phrase =>
      obtain ⟨lead, h⟩ := phrase.exists_ends
      exact ⟨"profile" :: (IndexWord.words p ++ lead), by simp [words, h, task]⟩

/-- What sets the active resolution is said inside of a profile. -/
theorem eq_of_activeResolutionSet (h : w.task = .activeResolutionSet) :
    ∃ r, w = inActiveProfile (.resolution r (.active .set)) ∨
      ∃ p, w = inProfile p (.resolution r (.active .set)) := by
  rcases w with _ | _ | _ | ⟨_ | _⟩ | (⟨x, ⟨_ | _⟩ | ⟨_ | _⟩⟩ | ⟨x, _ | _⟩) | ⟨x, _ | _⟩ |
    ⟨x, ⟨y, ⟨_ | _⟩ | ⟨_ | _⟩⟩ | ⟨y, _ | _⟩⟩ <;> cases h
  · exact ⟨x, .inl rfl⟩
  · exact ⟨y, .inr ⟨x, rfl⟩⟩

theorem eq_of_activeProfileSet (h : w.task = .activeProfileSet) : ∃ p, w = activeProfile p .set := by
  rcases w with _ | _ | _ | ⟨_ | _⟩ | (⟨x, ⟨_ | _⟩ | ⟨_ | _⟩⟩ | ⟨x, _ | _⟩) | ⟨x, _ | _⟩ |
    ⟨x, ⟨y, ⟨_ | _⟩ | ⟨_ | _⟩⟩ | ⟨y, _ | _⟩⟩ <;> cases h
  exact ⟨x, rfl⟩

theorem eq_of_buttonSet (h : w.task = .buttonSet) :
    ∃ b, w = inActiveProfile (.button b .set) ∨ ∃ p, w = inProfile p (.button b .set) := by
  rcases w with _ | _ | _ | ⟨_ | _⟩ | (⟨x, ⟨_ | _⟩ | ⟨_ | _⟩⟩ | ⟨x, _ | _⟩) | ⟨x, _ | _⟩ |
    ⟨x, ⟨y, ⟨_ | _⟩ | ⟨_ | _⟩⟩ | ⟨y, _ | _⟩⟩ <;> cases h
  · exact ⟨x, .inl rfl⟩
  · exact ⟨y, .inr ⟨x, rfl⟩⟩

end Wording

/-! ## Selections -/

/-- Whether a profile is marked as active, and which of its resolutions are. -/
def Profile.marks (p : Profile) : Bool × List Bool := (p.active, p.resolutions.map (·.active))

/-- What a device marks as active. -/
def Device.marks (d : Device) : List (Bool × List Bool) := d.profiles.map (·.marks)

variable {d d' : Device} {c : Context} {w : Wording} {i : Nat}

/-- Which profile is the active one depends on the marks of the profiles alone. -/
theorem Device.activeProfile?_congr
    (h : d'.profiles.map (·.active) = d.profiles.map (·.active)) :
    d'.activeProfile? = d.activeProfile? := by
  have marked (d : Device) : d.activeProfile? = (d.profiles.map (·.active)).findIdx? id := by
    rw [List.findIdx?_map]
    rfl
  rw [marked, marked, h]

theorem Device.map_active_of_marks (h : d'.marks = d.marks) :
    d'.profiles.map (·.active) = d.profiles.map (·.active) := by
  have marked (d : Device) : d.profiles.map (·.active) = d.marks.map (·.1) := by
    rw [marks, List.map_map]
    rfl
  rw [marked, marked, h]

theorem Phrase.select?_congr (h : d'.marks = d.marks) (i : Nat) (phrase : Phrase) :
    phrase.select? d' i = phrase.select? d i := by
  cases phrase with
  | button b a => rfl
  | resolution r phrase =>
      have marked (d : Device) : (resolution r phrase).select? d i = d.marks[i]?.bind fun m =>
          (IndexWord.select? m.2.length (m.2.findIdx? id) r).map fun j =>
            { profile := some i, resolution := some j } := by
        rw [select?, Device.marks, List.getElem?_map]
        cases d.profiles[i]? with
        | none => rfl
        | some p =>
            have active : p.activeResolution? = p.marks.2.findIdx? id := by
              rw [Profile.marks, List.findIdx?_map]
              rfl
            have count : p.marks.2.length = p.resolutions.length := List.length_map _
            rw [Option.map_some, Option.bind_some, count, ← active, Option.map_eq_bind]
            rfl
      rw [marked, marked, h]

namespace Wording

/-- The same is selected where the same is marked. -/
theorem select?_congr (h : d'.marks = d.marks) (w : Wording) : w.select? d' = w.select? d := by
  have active := Device.activeProfile?_congr (Device.map_active_of_marks h)
  have count : d'.profiles.length = d.profiles.length := by
    simpa using congrArg List.length (Device.map_active_of_marks h)
  have phrase (i : Nat) (f : Phrase) := Phrase.select?_congr h i f
  cases w with
  | info => rfl
  | changeButton | switchVolumeKeys => rw [select?, select?, active]
  | dpi a =>
      have same (d : Device) : (dpi a).select? d =
          (inActiveProfile (.resolution none (.dpi a))).select? d := rfl
      rw [same, same, select?, select?, active]
      simp only [phrase]
  | inActiveProfile f =>
      rw [select?, select?, active]
      simp only [phrase]
  | activeProfile p a => rw [select?, select?, active, count]
  | inProfile p f =>
      rw [select?, select?, active, count]
      simp only [phrase]

/-- What is selected does not depend on the access. -/
theorem select?_reading (w : Wording) (d : Device) : w.reading.select? d = w.select? d := by
  have phrase (i : Nat) (f : Phrase) : f.reading.select? d i = f.select? d i := by
    cases f <;> rfl
  cases w with
  | info | changeButton | switchVolumeKeys | dpi | activeProfile => rfl
  | inActiveProfile f | inProfile _ f =>
      rw [reading, select?, select?]
      simp only [phrase]

end Wording

/-! ## What updates do to the marks -/

theorem Update.marks_setDpi (d : Device) (i j : Nat) (dpi : UInt32) :
    ((setDpi i j dpi).apply d).marks = d.marks := by
  have resolution (r : Resolution) : (r.setDpi dpi).active = r.active := rfl
  have profile (p : Profile) : (p.modifyResolution j (·.setDpi dpi)).marks = p.marks :=
    congrArg (p.active, ·) (map_modify_of_eq resolution p.resolutions j)
  exact map_modify_of_eq profile d.profiles i

theorem Update.marks_setAction (d : Device) (i b : Nat) (a : Action) :
    ((setAction i b a).apply d).marks = d.marks := by
  have profile (p : Profile) : (p.setAction b a).marks = p.marks := rfl
  exact map_modify_of_eq profile d.profiles i

/-- Where just one position passes a test, it is the first one. -/
theorem findIdx?_mapIdx_of_beq {α β : Type} {l : List α} {i : Nat} {f : Nat → α → β}
    {test : β → Bool} (hi : i < l.length) (hf : ∀ k x, test (f k x) = (k == i)) :
    (l.mapIdx f).findIdx? test = some i := by
  rw [List.findIdx?_eq_some_iff_getElem]
  refine ⟨by simpa using hi, by simp [hf], fun k hk => ?_⟩
  simpa [hf] using Nat.ne_of_lt hk

theorem Device.activeProfile?_activate {n : Nat} (h : n < d.profiles.length) :
    (d.activate n).activeProfile? = some n := by
  rw [activate_of_lt h]
  exact findIdx?_mapIdx_of_beq h fun _ _ => rfl

theorem Profile.activeResolution?_activate {p : Profile} {m : Nat} (h : m < p.resolutions.length) :
    (p.activate m).activeResolution? = some m := by
  rw [activate_of_lt h]
  exact findIdx?_mapIdx_of_beq h fun _ _ => rfl

theorem Device.activeProfile?_modifyProfile {f : Profile → Profile}
    (h : ∀ p, (f p).active = p.active) (d : Device) (i : Nat) :
    (d.modifyProfile i f).activeProfile? = d.activeProfile? :=
  activeProfile?_congr (map_modify_of_eq h d.profiles i)

theorem Device.getElem?_modifyProfile {p : Profile} (hp : d.profiles[i]? = some p)
    (f : Profile → Profile) : (d.modifyProfile i f).profiles[i]? = some (f p) := by
  simp [modifyProfile, hp]

/-- Something is still selected below a profile when another resolution has become active. -/
theorem Phrase.exists_select?_activate {r : Option IndexWord} {phrase : ResolutionPhrase}
    {p : Profile} {m i' : Nat} (hc : (resolution r phrase).select? d i' = some c)
    (hi : c.profile = some i) (hp : d.profiles[i]? = some p) (hm : m < p.resolutions.length) :
    ∃ c', (resolution r phrase).select? (d.modifyProfile i (·.activate m)) i' = some c' ∧
      c'.profile = some i := by
  rw [select?, Option.bind_eq_bind, Option.bind_eq_some_iff] at hc
  obtain ⟨p', hp', hc⟩ := hc
  rw [Option.bind_eq_bind, Option.bind_eq_some_iff] at hc
  obtain ⟨j, hj, hc⟩ := hc
  cases hc
  cases hi
  cases hp.symm.trans hp'
  have found := Device.getElem?_modifyProfile hp (·.activate m)
  obtain ⟨j', hj'⟩ : ∃ j', IndexWord.select? (p.activate m).resolutions.length
      (p.activate m).activeResolution? r = some j' := by
    rw [Profile.activeResolution?_activate hm, Profile.length_resolutions_activate]
    cases r with
    | none => exact ⟨m, rfl⟩
    | some word => exact ⟨j, hj⟩
  refine ⟨{ profile := some i, resolution := some j' }, ?_, rfl⟩
  rw [select?, found, Option.bind_eq_bind, Option.bind_some, hj']
  rfl

namespace Wording

theorem exists_select?_activateResolution {p : Profile} {m : Nat}
    (ht : w.task = .activeResolutionSet) (hc : w.select? d = some c) (hi : c.profile = some i)
    (hp : d.profiles[i]? = some p) (hm : m < p.resolutions.length) :
    ∃ c', w.select? (d.modifyProfile i (·.activate m)) = some c' ∧ c'.profile = some i := by
  have active := Device.activeProfile?_modifyProfile (fun p => p.active_activate m) d i
  obtain ⟨r, rfl | ⟨x, rfl⟩⟩ := eq_of_activeResolutionSet ht
  · rw [select?, Option.bind_eq_bind, Option.bind_eq_some_iff] at hc
    obtain ⟨i', hx, hc⟩ := hc
    obtain ⟨c', hc', hi'⟩ := Phrase.exists_select?_activate hc hi hp hm
    exact ⟨c', by rw [select?, active, hx]; exact hc', hi'⟩
  · rw [select?, Option.bind_eq_bind, Option.bind_eq_some_iff] at hc
    obtain ⟨i', hx, hc⟩ := hc
    obtain ⟨c', hc', hi'⟩ := Phrase.exists_select?_activate hc hi hp hm
    refine ⟨c', ?_, hi'⟩
    rw [select?, active, Device.length_profiles_modifyProfile, hx]
    exact hc'

/-- So it is when another profile has become active. -/
theorem exists_select?_activateProfile {x : Option IndexWord} {a : Access} {n : Nat}
    (hc : (activeProfile x a).select? d = some c) (hn : n < d.profiles.length) :
    ∃ c', (activeProfile x a).select? (d.activate n) = some c' := by
  rw [select?, Device.activeProfile?_activate hn, Device.length_profiles_activate]
  cases x with
  | none => exact ⟨{ profile := some n }, rfl⟩
  | some word => exact ⟨c, hc⟩

end Wording

end MouseConfig
