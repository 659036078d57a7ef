import MouseConfig.Proofs.Command.Recall

/-! # The only active entry

A line that switches to a resolution leaves it the only active one of its profile, whatever was
marked before.  So does a line that switches to a profile, unless the first active profile is the
one it names: then it changes nothing, whatever else is marked.
-/

namespace MouseConfig

/-! ## Marks -/

/-- The profile at a position is active, and no other one is. -/
def Device.OnlyActive (d : Device) (n : Nat) : Prop :=
  n < d.profiles.length ∧ ∀ k p, d.profiles[k]? = some p → (p.active ↔ k = n)

/-- The resolution at a position is active, and no other one is. -/
def Profile.OnlyActive (p : Profile) (m : Nat) : Prop :=
  m < p.resolutions.length ∧ ∀ k r, p.resolutions[k]? = some r → (r.active ↔ k = m)

theorem Device.onlyActive_activate {d : Device} {n : Nat} (h : n < d.profiles.length) :
    (d.activate n).OnlyActive n := by
  refine ⟨by rwa [length_profiles_activate], fun k p hp => ?_⟩
  rw [activate_of_lt h, List.getElem?_mapIdx] at hp
  obtain ⟨q, -, rfl⟩ := Option.map_eq_some_iff.mp hp
  exact beq_iff_eq

theorem Profile.onlyActive_activate {p : Profile} {m : Nat} (h : m < p.resolutions.length) :
    (p.activate m).OnlyActive m := by
  refine ⟨by rwa [length_resolutions_activate], fun k r hr => ?_⟩
  rw [activate_of_lt h, List.getElem?_mapIdx] at hr
  obtain ⟨q, -, rfl⟩ := Option.map_eq_some_iff.mp hr
  exact beq_iff_eq

/-! ## Words -/

namespace Wording

variable {w : Wording}

theorem resolution_mem_words (h : w.task = .activeResolutionSet) : "resolution" ∈ w.words := by
  obtain ⟨r, rfl | ⟨p, rfl⟩⟩ := eq_of_activeResolutionSet h
  · exact List.mem_cons_self
  · exact List.mem_cons_of_mem _ (List.mem_append_right _ List.mem_cons_self)

theorem resolution_not_mem_words (h : w.task = .activeProfileSet) : "resolution" ∉ w.words := by
  obtain ⟨p, rfl⟩ := eq_of_activeProfileSet h
  have word : "resolution" ∉ IndexWord.words p := IndexWord.not_mem_words (by decide) p
  simp [words, Access.word, word]

end Wording

/-! ## Lines -/

theorem Task.Outcome.profile_eq {σ : Type} [DeviceService σ] {command : String} {s s' : Session σ}
    {t : Task} {failure : Option CommandError} (h : t.Outcome command s failure s') :
    s'.context.profile = s.context.profile := by
  cases h <;> rfl

namespace Commands

variable {σ : Type} [DeviceService σ] {service : σ} {v : Verbosity}

/-- A wording selects the profile that its line has selected at its end. -/
theorem profile_of_select? {w : Wording} {rest words : List String} {last : String} {d : Device}
    {c : Context} (hw : words = w.words ++ rest ++ [last]) (hd : loader service ⟨last⟩ = .ok d)
    (hc : w.select? d = some c) :
    (tree.run service v words).dispatched.context.profile = c.profile := by
  have arrives := run_seek_root.mpr (.inr ⟨w, rest, last, d, c, hw, hd, hc, rfl, rfl⟩)
  have outcome := tree.outcome service v words
  generalize (tree.run service v words).failure = failure at outcome
  generalize (tree.run service v words).dispatched = s' at outcome ⊢
  cases outcome with
  | lost h => cases arrives.symm.trans h
  | arrived h ht =>
      cases arrives.symm.trans h
      exact ht.profile_eq

/-- What a line has been granted that ends in a switch. -/
theorem exists_grant_of_switch {front words : List String} {word path : String}
    (hr : Retentive service) (hw : words = front ++ ["active", "set", word, path])
    (h : (tree.run service v words).failure = none) :
    ∃ w d c, ∃ u : Option Update, Wording.words w = front ++ ["active", "set"] ∧
      (w.task = .activeProfileSet ∨ w.task = .activeResolutionSet) ∧
      loader service ⟨path⟩ = .ok d ∧ w.select? d = some c ∧
      Grant { c with device := some ⟨⟨path⟩, d⟩ } d w.task [word] u ∧
      loader (tree.run service v words).released.service ⟨path⟩ =
        .ok ((u.map (·.apply d)).getD d) := by
  have line : words = (front ++ ["active"]) ++ "set" :: [word] ++ [path] := by simp [hw]
  obtain ⟨w, d, c, u, hw, hd, hc, granted, stored⟩ := exists_grant_of_set hr line (by simp) h
  have hw : w.words = front ++ ["active", "set"] := by simp [hw]
  obtain ⟨lead, hl⟩ := w.exists_ends
  refine ⟨w, d, c, u, hw, ?_, hd, hc, granted, stored⟩
  have ends := hw.symm.trans hl
  generalize w.task = t at granted ends
  cases granted with
  | dpiSet => exact absurd (List.append_inj' ends rfl).2 (by decide)
  | activeResolutionSet => exact .inr rfl
  | activeProfileSet | activeProfileStay => exact .inl rfl

/-- What is the only active entry after a line has switched to it. -/
structure Switches (service : σ) : Prop where
  /-- A profile, unless it was the first active one before. -/
  profile (v : Verbosity) (p : Option IndexWord) (word path : String) :
    let line := tree.run service v
      ("profile" :: (IndexWord.words p ++ ["active", "set", word, path]))
    line.failure = none → ∃ n d d', Numeral.index? word = some n ∧
      loader service ⟨path⟩ = .ok d ∧ loader line.released.service ⟨path⟩ = .ok d' ∧
      (d.activeProfile? ≠ some n → d'.OnlyActive n) ∧ (d.activeProfile? = some n → d' = d)
  /-- A resolution, in the profile that the line has selected. -/
  resolution (v : Verbosity) (front : List String)
      (hf : front = [] ∨ ∃ p, front = "profile" :: IndexWord.words p)
      (r : Option IndexWord) (word path : String) :
    let line := tree.run service v
      (front ++ "resolution" :: (IndexWord.words r ++ ["active", "set", word, path]))
    line.failure = none → ∃ i m d' q, line.dispatched.context.profile = some i ∧
      Numeral.index? word = some m ∧ loader line.released.service ⟨path⟩ = .ok d' ∧
      d'.profiles[i]? = some q ∧ q.OnlyActive m

theorem switches (hr : Retentive service) : Switches service where
  profile v p word path := by
    intro line h
    have split : "profile" :: (IndexWord.words p ++ ["active", "set", word, path]) =
        ("profile" :: IndexWord.words p) ++ ["active", "set", word, path] := rfl
    obtain ⟨w, d, c, u, hw, ht | ht, hd, hc, granted, stored⟩ := exists_grant_of_switch hr split h
    · rw [ht] at granted
      cases granted with
      | @activeProfileSet n _ can hn hlt ha =>
          exact ⟨n, d, _, hn, hd, stored, fun _ => Device.onlyActive_activate hlt,
            fun h => absurd h ha⟩
      | @activeProfileStay n _ can hn hlt ha =>
          exact ⟨n, d, d, hn, hd, stored, fun h => absurd ha h, fun _ => rfl⟩
    · have named := Wording.resolution_mem_words ht
      have word : "resolution" ∉ IndexWord.words p := IndexWord.not_mem_words (by decide) p
      simp [hw, word] at named
  resolution v front hf r word path := by
    intro line h
    have split : front ++ "resolution" :: (IndexWord.words r ++ ["active", "set", word, path]) =
        (front ++ "resolution" :: IndexWord.words r) ++ ["active", "set", word, path] := by simp
    obtain ⟨w, d, c, u, hw, ht | ht, hd, hc, granted, stored⟩ := exists_grant_of_switch hr split h
    · refine absurd ?_ (Wording.resolution_not_mem_words ht)
      simp [hw]
    · have words : front ++ "resolution" :: (IndexWord.words r ++ ["active", "set", word, path]) =
          w.words ++ [word] ++ [path] := by simp [hw]
      have selected : line.dispatched.context.profile = c.profile :=
        profile_of_select? words hd hc
      rw [ht] at granted
      cases granted with
      | @activeResolutionSet i m p _ can hi hp hm hlt =>
          exact ⟨i, m, _, _, selected.trans hi, hm, stored,
            Device.getElem?_modifyProfile hp (·.activate m), Profile.onlyActive_activate hlt⟩

/-- What is switched to is the only active entry, on any service that keeps what is committed, unless
it is a profile that was the first active one before.  A shelf keeps it, and so do files. -/
theorem switched_is_only_active :
    (∀ (σ : Type) [DeviceService σ] (service : σ), Retentive service → Switches service) ∧
    (∀ shelf : Shelf, Switches shelf) ∧
    ∀ store : FileStore, store.files.Grounded → Switches store :=
  ⟨fun _ _ _ hr => switches hr, fun shelf => switches shelf.retentive,
    fun _ hg => switches (FileStore.retentive hg)⟩

/-- The second of two active profiles, and a resolution where none is active. -/
theorem switched_is_only_active_of_mouse :
    let p : Profile := { active := true, resolutions := [{ dpi := 400 }, { dpi := 800 }] }
    let d : Device := {
      name := "M", capabilities := [.switchableProfile, .switchableResolution], profiles := [p, p] }
    let shelf : Shelf := { entries := [(⟨"m"⟩, .device d)] }
    let text := "name = 'M'\ncapabilities = ['switchable-profile']\n" ++
      "[[profile]]\nactive = true\n[[profile]]\nactive = true\n"
    let store : FileStore := {
      files := { entries := [(["m"], .text text)] }, inputDir := ⟨""⟩, nodePrefix := "" }
    let profile := ["profile", "active", "set", "01", "m"]
    let resolution := ["profile", "1", "resolution", "1", "active", "set", "1", "m"]
    (∃ d', loader (tree.run shelf .normal profile).released.service ⟨"m"⟩ = .ok d' ∧
        d'.OnlyActive 1) ∧
      (∃ d' q, loader (tree.run shelf .normal resolution).released.service ⟨"m"⟩ = .ok d' ∧
        d'.profiles[1]? = some q ∧ q.OnlyActive 1) ∧
      ∃ d', loader (tree.run store .normal profile).released.service ⟨"m"⟩ = .ok d' ∧
        d'.OnlyActive 1 := by
  intro p d shelf text store profile resolution
  have grounded : store.files.Grounded := by decide
  have onShelf := switched_is_only_active.1 Shelf shelf shelf.retentive
  have inFile := switched_is_only_active.2.2 store grounded
  have second : Numeral.index? "01" = some 1 := by decide
  refine ⟨?_, ?_, ?_⟩
  · obtain ⟨n, d₀, d', hn, hd, stored, only, -⟩ := onShelf.profile .normal none "01" "m" (by decide)
    have loaded : loader shelf ⟨"m"⟩ = .ok d := by decide
    cases hn.symm.trans second
    cases hd.symm.trans loaded
    exact ⟨d', stored, only (by decide)⟩
  · have one : Numeral.index? "1" = some 1 := by decide
    have opens : (tree.run shelf .normal resolution).dispatched.context.profile = some 1 := by decide
    have done : (tree.run shelf .normal resolution).failure = none := by decide
    obtain ⟨i, m, d', q, hi, hm, stored, hq, only⟩ := onShelf.resolution .normal ["profile", "1"]
      (.inr ⟨some ⟨"1", 1, one⟩, rfl⟩) (some ⟨"1", 1, one⟩) "1" "m" done
    cases hm.symm.trans one
    cases hi.symm.trans opens
    exact ⟨d', q, stored, hq, only⟩
  · obtain ⟨n, d₀, d', hn, hd, stored, only, -⟩ :=
      inFile.profile .normal none "01" "m" (by decide +kernel)
    have first : ((loader store ⟨"m"⟩).map (·.activeProfile?)).toOption = some (some 0) := by
      decide +kernel
    have other : d₀.activeProfile? ≠ some 1 := by
      rw [hd] at first
      rw [show d₀.activeProfile? = some 0 from Option.some.inj first]
      decide
    have line : "profile" :: (IndexWord.words none ++ ["active", "set", "01", "m"]) = profile := rfl
    rw [Option.some.inj (hn.symm.trans second)] at only
    rw [line] at stored
    exact ⟨d', stored, only other⟩

/-- Of two active profiles, the first is the one that counts, so to switch to it changes nothing. -/
theorem switch_leaves_two_active :
    let d : Device := {
      name := "M", capabilities := [.switchableProfile]
      profiles := [{ active := true }, { active := true }] }
    let shelf : Shelf := { entries := [(⟨"m"⟩, .device d)] }
    let line := tree.run shelf .normal ["profile", "active", "set", "0", "m"]
    line.failure = none ∧ loader line.released.service ⟨"m"⟩ = .ok d ∧ ¬ d.OnlyActive 0 := by
  intro d shelf line
  refine ⟨by decide, by decide, fun h => ?_⟩
  have second : (true = true) ↔ 1 = 0 := h.2 1 { active := true } rfl
  exact absurd (second.mp rfl) (by decide)

end Commands

end MouseConfig
