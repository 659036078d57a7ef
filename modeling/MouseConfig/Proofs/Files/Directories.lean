import MouseConfig.Proofs.Files.Replace

/-! # Files come and go, directories stay

No replacement makes or removes a directory, whether it comes to its end or fails.  So all paths keep
leading where they did, and what has become of the files can be told from two places: that of the
file and that of the file beside it.
-/

namespace MouseConfig.FileSystem

variable {fs fs' fs'' : FileSystem} {p : Path} {k l : Location} {e : Entry}

/-! ## The same directories -/

/-- The same directories are there, and work is done in the same one. -/
structure SameDirectories (fs fs' : FileSystem) : Prop where
  working : fs'.workingDirectory = fs.workingDirectory
  there : ∀ l, fs'.get? l = some .directory ↔ fs.get? l = some .directory

namespace SameDirectories

theorem refl (fs : FileSystem) : SameDirectories fs fs := ⟨rfl, fun _ => .rfl⟩

theorem trans (h : SameDirectories fs fs') (h' : SameDirectories fs' fs'') :
    SameDirectories fs fs'' :=
  ⟨h'.working.trans h.working, fun l => (h'.there l).trans (h.there l)⟩

theorem start_eq (h : SameDirectories fs fs') (p : Path) : fs'.start p = fs.start p := by
  rw [start, start, h.working]

/-- Where a path leads is a matter of directories. -/
theorem locate_iff (h : SameDirectories fs fs') : fs'.locate p = .ok l ↔ fs.locate p = .ok l := by
  rw [locate_eq_ok_iff, locate_eq_ok_iff, h.start_eq p]
  exact and_congr_right fun _ =>
    ⟨walk_of_directories fun m => (h.there m).mp, walk_of_directories fun m => (h.there m).mpr⟩

theorem put (hk : fs.get? k ≠ some .directory) (he : e ≠ .directory) :
    SameDirectories fs (fs.put k e) := by
  refine ⟨rfl, fun m => ?_⟩
  by_cases hm : m = k
  · subst hm
    simp [get?_put fs e (ne_nil_of_get? hk), he, hk]
  · rw [get?_put_of_ne fs e hm]

theorem erase (hk : fs.get? k ≠ some .directory) : SameDirectories fs (fs.erase k) := by
  refine ⟨rfl, fun m => ?_⟩
  by_cases hm : m = k
  · subst hm
    simp [get?_erase fs (ne_nil_of_get? hk), hk]
  · rw [get?_erase_of_ne fs hm]

end SameDirectories

/-- The working directory is one, in directories. -/
def Anchored (fs : FileSystem) : Prop :=
  ∀ l ∈ fs.workingDirectory.inits, fs.get? l = some .directory

instance (fs : FileSystem) : Decidable fs.Anchored :=
  inferInstanceAs (Decidable (∀ l ∈ fs.workingDirectory.inits, fs.get? l = some .directory))

theorem Anchored.grounded (h : fs.Anchored) : fs.Grounded := by
  intro l hl e he
  exact Option.some.inj (he.symm.trans (h l hl))

theorem Anchored.of_sameDirectories (h : fs.Anchored) (hs : SameDirectories fs fs') :
    fs'.Anchored := by
  intro l hl
  rw [hs.working] at hl
  exact (hs.there l).mpr (h l hl)

/-! ## The file beside a file -/

/-- The new content of a file never goes to the place of the file itself. -/
theorem locate_ne_of_staging (hk : fs.locate (staging p) = .ok k) (hl : fs.locate p = .ok l) :
    k ≠ l := by
  obtain ⟨ha, hl⟩ := locate_eq_ok_iff.mp hl
  obtain ⟨-, hk⟩ := locate_eq_ok_iff.mp hk
  obtain ⟨lead, last, hp, ht⟩ := exists_pieces_staging p
  rw [hp] at hl
  rw [ht, start_staging (text_ne_of_accept ha)] at hk
  obtain ⟨d, hd, -, -, rfl⟩ := walk_concat_eq_ok_iff.mp hl
  obtain ⟨d', hd', -, -, rfl⟩ := walk_concat_eq_ok_iff.mp hk
  cases hd.symm.trans hd'
  rw [(proper_append_tmp last).next, next]
  split
  · simp
  · split
    · intro h
      have shorter := congrArg List.length h
      simp only [List.length_append, List.length_dropLast, List.length_singleton] at shorter
      omega
    · intro h
      have longer := congrArg String.length (List.singleton_inj.mp (List.append_cancel_left h))
      simp at longer

/-- Where the system leaves room for the path of the file beside a file. -/
def Roomy (p : Path) : Prop :=
  (staging p).text.utf8ByteSize ≤ pathLimit ∧
    ∀ name ∈ (staging p).pieces.getLast?, name.utf8ByteSize ≤ nameLimit

instance (p : Path) : Decidable (Roomy p) :=
  inferInstanceAs (Decidable ((staging p).text.utf8ByteSize ≤ pathLimit ∧
    ∀ name ∈ (staging p).pieces.getLast?, name.utf8ByteSize ≤ nameLimit))

theorem accept_staging (ha : accept p = .ok ()) (hr : Roomy p) : accept (staging p) = .ok () := by
  obtain ⟨nul, -, -⟩ := accept_eq_ok_iff.mp ha
  exact accept_eq_ok_iff.mpr ⟨by simp [staging, nul], by simp [staging], hr.1⟩

/-- The file beside a file that is there has a place. -/
theorem exists_locate_staging (hl : fs.locate p = .ok l) (hr : Roomy p) :
    ∃ k, fs.locate (staging p) = .ok k := by
  obtain ⟨ha, hl⟩ := locate_eq_ok_iff.mp hl
  obtain ⟨lead, last, hp, ht⟩ := exists_pieces_staging p
  rw [hp] at hl
  obtain ⟨d, hd, there, -, -⟩ := walk_concat_eq_ok_iff.mp hl
  have short : (last ++ ".tmp").utf8ByteSize ≤ nameLimit := hr.2 _ (by simp [ht])
  refine ⟨next d (last ++ ".tmp"), locate_eq_ok_iff.mpr ⟨accept_staging ha hr, ?_⟩⟩
  rw [ht, start_staging (text_ne_of_accept ha)]
  exact walk_concat_eq_ok_iff.mpr ⟨d, hd, there, short, rfl⟩

theorem size_le_of_accept (h : accept p = .ok ()) : p.text.utf8ByteSize ≤ pathLimit :=
  (accept_eq_ok_iff.mp h).2.2

/-- Without room, the file beside a file has no place. -/
theorem roomy_of_locate_staging (hk : fs.locate (staging p) = .ok k) : Roomy p := by
  obtain ⟨ha, hk⟩ := locate_eq_ok_iff.mp hk
  obtain ⟨lead, last, -, ht⟩ := exists_pieces_staging p
  rw [ht] at hk
  obtain ⟨d, -, -, short, -⟩ := walk_concat_eq_ok_iff.mp hk
  refine ⟨size_le_of_accept ha, fun name hn => ?_⟩
  have same : last ++ ".tmp" = name := by simpa [ht] using hn
  exact same ▸ short

/-! ## Names -/

theorem pieces_of_name {name : String} (h : '/' ∉ name.toList) : (⟨name⟩ : Path).pieces = [name] := by
  simp [Path.pieces, List.splitOn_eq_singleton h]

/-- A name leads to an entry of the working directory. -/
theorem locate_name {name : String} (hn : Proper name) (hs : '/' ∉ name.toList)
    (hz : '\x00' ∉ name.toList) (hl : name.utf8ByteSize ≤ nameLimit)
    (hd : fs.get? fs.workingDirectory = some .directory) :
    fs.locate ⟨name⟩ = .ok (fs.workingDirectory ++ [name]) := by
  have accepted : accept ⟨name⟩ = .ok () :=
    accept_eq_ok_iff.mpr ⟨hz, hn.1, hl.trans (by decide)⟩
  have relative : (⟨name⟩ : Path).isAbsolute = false := by
    cases hc : name.toList with
    | nil => simp [Path.isAbsolute, hc]
    | cons c rest =>
        have other : c ≠ '/' := fun h => hs (by simp [hc, h])
        simp [Path.isAbsolute, hc, other]
  refine locate_eq_ok_iff.mpr ⟨accepted, ?_⟩
  rw [pieces_of_name hs, start, relative, if_neg Bool.false_ne_true]
  exact walk_cons_eq_ok_iff.mpr ⟨hd, hl, by rw [hn.next]; rfl⟩

/-- A name that is too long for what is beside it. -/
theorem not_roomy_of_name {name : String} (hs : '/' ∉ name.toList)
    (hl : nameLimit < (name ++ ".tmp").utf8ByteSize) : ¬ Roomy ⟨name⟩ := by
  intro room
  obtain ⟨lead, last, hp, ht⟩ := exists_pieces_staging ⟨name⟩
  rw [pieces_of_name hs] at hp
  obtain ⟨rfl, rfl⟩ : lead = [] ∧ last = name := by
    cases lead with
    | nil => simpa using hp.symm
    | cons piece lead => simp at hp
  exact Nat.not_le.mpr hl (room.2 _ (by simp [ht]))

/-! ## What replacements come to -/

/-- What can be moved to is the place of a path that ends in a proper name. -/
theorem destination_eq_ok_iff :
    fs.destination p = .ok l ↔
      fs.locate p = .ok l ∧ ∃ lead name, p.pieces = lead ++ [name] ∧ Proper name := by
  constructor
  · intro h
    have ends := List.head?_dropWhile_not (· = "") p.pieces.reverse
    rw [destination] at h
    rw [locate_eq_ok_iff]
    cases ha : accept p with
    | error e => simp [ha, bind, Except.bind] at h
    | ok u =>
        simp only [ha, bind, Except.bind] at h
        cases hw : fs.walk (fs.start p) (p.pieces.reverse.dropWhile (· = "")).reverse with
        | error e => simp [hw] at h
        | ok l' =>
            simp only [hw] at h
            split at h
            · cases h
            · next named =>
                split at h
                · cases h
                · next same =>
                    cases h
                    rw [not_not] at same
                    rw [same] at named hw
                    obtain ⟨lead, name, hp⟩ : ∃ lead name, p.pieces = lead ++ [name] := by
                      rcases List.eq_nil_or_concat p.pieces with none | ⟨lead, name, hp⟩
                      · simp [none] at named
                      · exact ⟨lead, name, by simpa using hp⟩
                    rw [List.reverse_eq_iff.mp same, hp, List.reverse_concat] at ends
                    have other : name ≠ "." ∧ name ≠ ".." := by simpa [hp] using named
                    exact ⟨⟨rfl, hw⟩, lead, name, hp, by simpa using ends, other⟩
  · rintro ⟨hl, lead, name, hp, proper⟩
    obtain ⟨accepted, way⟩ := locate_eq_ok_iff.mp hl
    exact destination_eq accepted hp proper way

theorem locate_of_destination (h : fs.destination p = .ok l) : fs.locate p = .ok l :=
  (destination_eq_ok_iff.mp h).1

theorem move_eq_ok_iff {q : Path} :
    fs.move p q = .ok fs' ↔ ∃ k e l, fs.locate p = .ok k ∧ fs.get? k = some e ∧
      fs.destination q = .ok l ∧ fs.get? l ≠ some .directory ∧ (fs.erase k).put l e = fs' := by
  rw [move]
  cases hk : fs.locate p with
  | error e => simp [bind, Except.bind]
  | ok k =>
      cases he : fs.get? k with
      | none =>
          have lost : fs.stat p = .error .notFound := by
            simp [stat, hk, he, bind, Except.bind, throw, throwThe, MonadExceptOf.throw]
          simp [lost, he, bind, Except.bind]
      | some e =>
          have found : fs.stat p = .ok e := stat_eq_ok_iff.mpr ⟨k, hk, he⟩
          cases hl : fs.destination q with
          | error e => simp [found, bind, Except.bind]
          | ok l =>
              by_cases hd : fs.get? l = some .directory
              · simp [found, hd, bind, Except.bind, throw, throwThe, MonadExceptOf.throw]
              · simp [found, he, hd, bind, Except.bind, pure, Except.pure]

/-- All that a replacement may come to. -/
inductive Replacement (fs : FileSystem) (p : Path) (content : String) :
    Except SystemError Unit → FileSystem → Prop
  | unwritten {e : SystemError} (hw : fs.write (staging p) content = .error e) :
      Replacement fs p content (.error e) fs
  /-- The new content is removed again. -/
  | unmoved {e : SystemError} {k : Location} (hk : fs.locate (staging p) = .ok k)
      (free : fs.get? k ≠ some .directory) :
      Replacement fs p content (.error e) ((fs.put k (.text content)).erase k)
  | moved {k l : Location} (hk : fs.locate (staging p) = .ok k)
      (free : fs.get? k ≠ some .directory) (hl : fs.locate p = .ok l)
      (file : fs.get? l ≠ some .directory) :
      Replacement fs p content (.ok ()) (((fs.put k (.text content)).erase k).put l (.text content))

theorem replacement (fs : FileSystem) (p : Path) (content : String) :
    Replacement fs p content (fs.replace p content).1 (fs.replace p content).2 := by
  rw [replace]
  cases hw : fs.write (staging p) content with
  | error e => exact .unwritten hw
  | ok staged =>
      obtain ⟨k, hk, free, rfl⟩ := write_eq_ok_iff.mp hw
      have dirs : SameDirectories fs (fs.put k (.text content)) := .put free (by simp)
      have there := get?_put fs (.text content) (ne_nil_of_get? free)
      have found := dirs.locate_iff.mpr hk
      cases hm : (fs.put k (.text content)).move (staging p) p with
      | error e =>
          have removed : (fs.put k (.text content)).remove (staging p) =
              (fs.put k (.text content)).erase k := by
            simp [remove, found, there]
          simp only [hm, removed]
          exact .unmoved hk free
      | ok moved =>
          obtain ⟨k', e, l, hk', he, hl, file, rfl⟩ := move_eq_ok_iff.mp hm
          cases found.symm.trans hk'
          cases there.symm.trans he
          have hl := dirs.locate_iff.mp (locate_of_destination hl)
          simp only [hm]
          exact .moved hk free hl fun h => file ((dirs.there l).mpr h)

namespace Replacement

variable {content : String} {r : Except SystemError Unit}

theorem sameDirectories (h : Replacement fs p content r fs') : SameDirectories fs fs' := by
  have staged {k : Location} (free : fs.get? k ≠ some .directory) :
      SameDirectories fs ((fs.put k (.text content)).erase k) := by
    have written : SameDirectories fs (fs.put k (.text content)) := .put free nofun
    exact written.trans (.erase fun h => free ((written.there k).mp h))
  cases h with
  | unwritten => exact .refl fs
  | unmoved hk free => exact staged free
  | @moved k l hk free hl file =>
      exact (staged free).trans (.put (fun h => file (((staged free).there l).mp h)) nofun)

theorem get?_staged (free : fs.get? k ≠ some .directory) (e : Entry) (m : Location) :
    ((fs.put k e).erase k).get? m = if m = k then none else fs.get? m := by
  by_cases hm : m = k
  · subst hm
    rw [if_pos rfl, get?_erase _ (ne_nil_of_get? free)]
  · rw [if_neg hm, get?_erase_of_ne _ hm, get?_put_of_ne _ _ hm]

/-- A replacement that fails leaves all files, but for the one beside the file if there was one. -/
theorem get?_of_error {e : SystemError} (h : Replacement fs p content (.error e) fs')
    (free : ∀ k, fs.locate (staging p) = .ok k → fs.get? k = none) (m : Location) :
    fs'.get? m = fs.get? m := by
  cases h with
  | unwritten => rfl
  | @unmoved _ k hk hf =>
      rw [get?_staged hf]
      split
      · next hm => rw [hm, free k hk]
      · rfl

/-- A replacement changes the file, and removes the one beside it if there was one. -/
theorem exists_place (h : Replacement fs p content (.ok ()) fs') :
    ∃ k l, fs.locate (staging p) = .ok k ∧ fs.locate p = .ok l ∧ k ≠ l ∧
      ∀ m, fs'.get? m = if m = l then some (.text content) else if m = k then none else fs.get? m := by
  cases h with
  | @moved k l hk free hl file =>
      exact ⟨k, l, hk, hl, locate_ne_of_staging hk hl,
        get?_exchange (ne_nil_of_get? free) (ne_nil_of_get? file) _ _⟩

end Replacement

end MouseConfig.FileSystem
