import MouseConfig.Proofs.Files.Store
import MouseConfig.Proofs.Service.Storage

/-! # Commits to files

Whether a commit over a device comes to its end is a matter of directories, of the path and of the
number of buttons.  It then changes two places, that of the file and that of the file beside it, so
files keep devices apart as long as none of them is beside another.
-/

namespace MouseConfig

namespace FileSystem

variable {fs fs' : FileSystem} {p q : Path} {l d : Location}

/-! ## Where new content goes first -/

/-- The place of the file beside a file, to be written to. -/
def beside (fs : FileSystem) (p : Path) : Except SystemError Location := do
  let k ← fs.locate (staging p)
  if fs.get? k = some .directory then throw .isDirectory
  return k

theorem write_staging (fs : FileSystem) (p : Path) (content : String) :
    fs.write (staging p) content = (fs.beside p).map fun k => fs.put k (.text content) := by
  rw [write, beside]
  cases fs.locate (staging p) with
  | error e => rfl
  | ok k =>
      by_cases hk : fs.get? k = some .directory
      · simp [bind, Except.bind, hk, throw, throwThe, MonadExceptOf.throw, Except.map]
      · simp [bind, Except.bind, hk, pure, Except.pure, Except.map]

/-- Only its name can be wrong with a place in a directory. -/
theorem walk_concat_of_directory {lead : List String} (hw : fs.walk l lead = .ok d)
    (hd : fs.get? d = some .directory) (last : String) :
    fs.walk l (lead ++ [last]) =
      if nameLimit < last.utf8ByteSize then .error .nameTooLong else .ok (next d last) := by
  induction lead generalizing l with
  | nil =>
      cases hw
      rw [List.nil_append, walk, expectDirectory_eq_ok_iff.mpr hd]
      by_cases h : nameLimit < last.utf8ByteSize
      · simp [bind, Except.bind, h, throw, throwThe, MonadExceptOf.throw]
      · simp [bind, Except.bind, h, walk]
  | cons piece lead ih =>
      obtain ⟨hl, short, hw⟩ := walk_cons_eq_ok_iff.mp hw
      rw [List.cons_append, walk, expectDirectory_eq_ok_iff.mpr hl, ← ih hw]
      simp [bind, Except.bind, Nat.not_lt.mpr short]

/-- Where the path of a file leads somewhere, directories tell where that beside it does. -/
theorem locate_staging_congr (h : SameDirectories fs fs') (hl : fs.locate p = .ok l) :
    fs'.locate (staging p) = fs.locate (staging p) := by
  obtain ⟨ha, hw⟩ := locate_eq_ok_iff.mp hl
  obtain ⟨lead, last, hp, ht⟩ := exists_pieces_staging p
  obtain ⟨d, hlead, hd, -⟩ := walk_concat_eq_ok_iff.mp (hp ▸ hw)
  have hlead' : fs'.walk (fs.start p) lead = .ok d :=
    walk_of_directories (fun k hk => (h.there k).mpr hk) hlead
  have start : fs.start (staging p) = fs.start p := start_staging (text_ne_of_accept ha)
  have start' : fs'.start (staging p) = fs'.start p := start_staging (text_ne_of_accept ha)
  rw [locate, locate, ht, start, start', h.start_eq, walk_concat_of_directory hlead hd,
    walk_concat_of_directory hlead' ((h.there d).mpr hd)]

theorem beside_congr (h : SameDirectories fs fs') (hl : fs.locate p = .ok l) :
    fs'.beside p = fs.beside p := by
  rw [beside, beside, locate_staging_congr h hl]
  cases fs.locate (staging p) with
  | error e => rfl
  | ok k => simp only [bind, Except.bind, h.there k]

/-- The writing beside a file is all that can fail. -/
theorem Grounded.result_replace {e : Entry} (hg : fs.Grounded) (hs : fs.stat p = .ok e)
    (hf : e ≠ .directory) (content : String) :
    (fs.replace p content).1 = (fs.beside p).map fun _ => () := by
  have hw := fs.write_staging p content
  cases hk : fs.beside p with
  | error fault =>
      rw [hk] at hw
      rw [replace, show fs.write (staging p) content = .error fault from hw]
      rfl
  | ok k =>
      rw [hk] at hw
      obtain ⟨_, _, -, -, -, h⟩ := hg.replace_eq hs hf hw
      rw [h]
      rfl

/-- Files at one place have one file beside them. -/
theorem Grounded.locate_staging_unique {e : Entry} {k k' : Location} (hg : fs.Grounded)
    (hp : fs.locate p = .ok l) (hq : fs.locate q = .ok l) (he : fs.get? l = some e)
    (hf : e ≠ .directory) (hk : fs.locate (staging p) = .ok k)
    (hk' : fs.locate (staging q) = .ok k') : k = k' := by
  obtain ⟨lead, last, d, -, -, -, hw, -, only⟩ :=
    hg.exists_place (stat_eq_ok_iff.mpr ⟨l, hp, he⟩) hf
  obtain ⟨lead', last', d', -, -, -, hw', -, only'⟩ :=
    hg.exists_place (stat_eq_ok_iff.mpr ⟨l, hq, he⟩) hf
  cases hw.symm.trans (locate_eq_ok_iff.mp hp).2
  have place := Except.ok.inj (hw'.symm.trans (locate_eq_ok_iff.mp hq).2)
  obtain ⟨rfl, same⟩ := List.append_inj' place rfl
  rw [only k hk, only' k' hk', List.singleton_inj.mp same]

end FileSystem

namespace FileStore

variable {s t u : FileStore} {p q : Path} {d d₀ e e₀ : Device}

/-! ## What a commit comes to -/

/-- Over a device, a commit fails if it cannot be described or written beside the file. -/
theorem result_commit (hg : s.files.Grounded) (hp : (s.load p).1 = .ok d₀) (d : Device) :
    (s.commit p d).1.1 =
      if d.buttonCount.toNat < Toml.integerBound then
        ((s.files.beside p).map fun _ => ()).mapError fun fault =>
          .notCommitted p (FileError.write p fault).message
      else .error (.notCommitted p "out-of-range value for u64 type") := by
  obtain ⟨old, hs, -⟩ := load_eq_ok_iff.mp hp
  rw [commit, Device.description?]
  by_cases hd : d.buttonCount.toNat < Toml.integerBound
  · rw [if_pos hd, if_pos hd, ← hg.result_replace hs (by simp) d.sheet.text]
    dsimp only
    rcases s.files.replace p d.sheet.text with ⟨_ | _, files⟩ <;> rfl
  · rw [if_neg hd, if_neg hd]

/-- A commit over a device that fails changes nothing. -/
theorem commit_of_error (hg : s.files.Grounded) (hp : (s.load p).1 = .ok d₀) {fault : DeviceError}
    (h : (s.commit p d).1.1 = .error fault) : (s.commit p d).2 = s := by
  obtain ⟨old, hs, -⟩ := load_eq_ok_iff.mp hp
  rw [commit] at h ⊢
  cases hd : d.description? with
  | none => rfl
  | some text =>
      rw [hd] at h
      dsimp only at h ⊢
      rcases hr : s.files.replace p text with ⟨_ | _, files⟩
      · have same := hg.replace_error hs (by simp) (congrArg Prod.fst hr)
        rw [hr] at same
        rw [show files = s.files from same]
      · rw [hr] at h
        cases h

/-- What a commit writes, and at which places. -/
structure Writes (s : FileStore) (p : Path) (d : Device) (text : String) (k l : Location) :
    Prop where
  described : d.description? = some text
  beside : s.files.locate (FileSystem.staging p) = .ok k
  place : s.files.locate p = .ok l

namespace Writes

variable {text text' : String} {k k' l l' : Location}

theorem unique (h : s.Writes p d text k l) (h' : s.Writes p d text' k' l') :
    text = text' ∧ k = k' ∧ l = l' :=
  ⟨Option.some.inj (h.described.symm.trans h'.described),
    Except.ok.inj (h.beside.symm.trans h'.beside), Except.ok.inj (h.place.symm.trans h'.place)⟩

theorem of_sameDirectories (hs : s.files.SameDirectories t.files) (h : t.Writes p d text k l) :
    s.Writes p d text k l :=
  ⟨h.described, hs.locate_iff.mp h.beside, hs.locate_iff.mp h.place⟩

end Writes

/-- A commit that succeeds changes the places of the file and of the file beside it. -/
theorem exists_writes_of_commit (h : (s.commit p d).1.1 = .ok ()) :
    ∃ text k l, s.Writes p d text k l ∧ ∀ m, (s.commit p d).2.files.get? m =
      if m = l then some (.text text) else if m = k then none else s.files.get? m := by
  obtain ⟨text, hd, hr⟩ := exists_text_of_commit h
  have replacement := s.files.replacement p text
  rw [hr] at replacement
  obtain ⟨k, l, hk, hl, -, get⟩ := replacement.exists_place
  exact ⟨text, k, l, ⟨hd, hk, hl⟩, get⟩

/-! ## Places -/

/-- The paths lead to one place. -/
def Joined (s : FileStore) (p q : Path) : Prop :=
  ∃ l, s.files.locate p = .ok l ∧ s.files.locate q = .ok l

/-- The second path does not lead to the file beside the first. -/
def Spares (s : FileStore) (p q : Path) : Prop :=
  ∀ k, s.files.locate (FileSystem.staging p) = .ok k → s.files.locate q ≠ .ok k

theorem Joined.symm (h : s.Joined p q) : s.Joined q p := by
  obtain ⟨l, hp, hq⟩ := h
  exact ⟨l, hq, hp⟩

theorem Joined.spares (h : s.Joined p q) : s.Spares p q := by
  obtain ⟨l, hp, hq⟩ := h
  intro k hk hq'
  cases hq.symm.trans hq'
  exact FileSystem.locate_ne_of_staging hk hp rfl

theorem Joined.stat_eq_ok {x : Entry} (h : s.Joined p q) (hp : s.files.stat p = .ok x) :
    s.files.stat q = .ok x := by
  obtain ⟨l, hl, hq⟩ := h
  obtain ⟨l', hl', hx⟩ := FileSystem.stat_eq_ok_iff.mp hp
  cases hl.symm.trans hl'
  exact FileSystem.stat_eq_ok_iff.mpr ⟨l, hq, hx⟩

theorem Joined.load_eq_ok (h : s.Joined p q) (hp : (s.load p).1 = .ok d) :
    (s.load q).1 = .ok d := by
  obtain ⟨text, hs, hd⟩ := load_eq_ok_iff.mp hp
  exact load_eq_ok_iff.mpr ⟨text, h.stat_eq_ok hs, hd⟩

theorem exists_locate_of_load (h : (s.load p).1 = .ok d) : ∃ l, s.files.locate p = .ok l := by
  obtain ⟨text, hs, -⟩ := load_eq_ok_iff.mp h
  obtain ⟨l, hl, -⟩ := FileSystem.stat_eq_ok_iff.mp hs
  exact ⟨l, hl⟩

/-- What the paths lead to stays joined when directories stay. -/
theorem Joined.of_sameDirectories (h : s.Joined p q) (hs : s.files.SameDirectories t.files) :
    t.Joined p q := by
  obtain ⟨l, hp, hq⟩ := h
  exact ⟨l, hs.locate_iff.mpr hp, hs.locate_iff.mpr hq⟩

/-! ## The same files -/

/-- Where devices are looked for, and the directory of relative paths. -/
def setup (s : FileStore) : Path × String × Location :=
  (s.inputDir, s.nodePrefix, s.files.workingDirectory)

theorem setup_commit (s : FileStore) (p : Path) (d : Device) :
    (s.commit p d).2.setup = s.setup := by
  have working := (s.sameDirectories_commit p d).working
  rcases s.commit_cases p d with same | ⟨text, -, written⟩
  · rw [same]
  · rw [setup, working, written]
    rfl

/-- The stores have one setup, and every file the same content. -/
structure Alike (s t : FileStore) : Prop where
  setup : t.setup = s.setup
  get? : ∀ l, t.files.get? l = s.files.get? l

theorem alike_equivalence : Equivalence Alike where
  refl _ := ⟨rfl, fun _ => rfl⟩
  symm h := ⟨h.setup.symm, fun l => (h.get? l).symm⟩
  trans h h' := ⟨h'.setup.trans h.setup, fun l => (h'.get? l).trans (h.get? l)⟩

/-! ## Two commits -/

theorem load_commit_of_joined (hg : s.files.Grounded) (h : s.Joined p q)
    (hp : (s.load p).1 = .ok d₀) (hc : (s.commit p d).1.1 = .ok ()) :
    ((s.commit p d).2.load q).1 = .ok d :=
  (h.of_sameDirectories (s.sameDirectories_commit p d)).load_eq_ok (load_commit hg hp hc)

theorem load_commit_of_spares (hg : s.files.Grounded) (h : ¬ s.Joined p q) (hs : s.Spares p q)
    (hp : (s.load p).1 = .ok d₀) (d : Device) :
    ((s.commit p d).2.load q).1 = (s.load q).1 := by
  cases hc : (s.commit p d).1.1 with
  | error fault => rw [commit_of_error hg hp hc]
  | ok u =>
      obtain ⟨text, k, l, writes, get⟩ := exists_writes_of_commit hc
      refine load_congr_of_get? (s.sameDirectories_commit p d) fun m hm => ?_
      have file : m ≠ l := fun same => h ⟨l, writes.place, same ▸ hm⟩
      have staged : m ≠ k := fun same => hs k writes.beside (same ▸ hm)
      rw [get, if_neg file, if_neg staged]

theorem result_commit_commit (hg : s.files.Grounded) (hs : s.Spares p q)
    (hp : (s.load p).1 = .ok d₀) (hq : (s.load q).1 = .ok e₀) (d e : Device) :
    ((s.commit p d).2.commit q e).1.1 = (s.commit q e).1.1 := by
  obtain ⟨grounded, -⟩ := loaded_of_commit (d := d) hg hp
  obtain ⟨l, hl⟩ := exists_locate_of_load hq
  have still : ∃ e₁, ((s.commit p d).2.load q).1 = .ok e₁ := by
    cases hc : (s.commit p d).1.1 with
    | error fault =>
        rw [commit_of_error hg hp hc]
        exact ⟨e₀, hq⟩
    | ok u =>
        by_cases h : s.Joined p q
        · exact ⟨d, load_commit_of_joined hg h hp hc⟩
        · exact ⟨e₀, (load_commit_of_spares hg h hs hp d).trans hq⟩
  obtain ⟨e₁, still⟩ := still
  rw [result_commit grounded still, result_commit hg hq,
    FileSystem.beside_congr (s.sameDirectories_commit p d) hl]

/-- Two commits one after the other, in terms of the store before them. -/
theorem exists_writes_of_commits (hc : (s.commit p d).1.1 = .ok ())
    (hc' : ((s.commit p d).2.commit q e).1.1 = .ok ()) :
    ∃ text k l text' k' l', s.Writes p d text k l ∧ s.Writes q e text' k' l' ∧
      ∀ m, ((s.commit p d).2.commit q e).2.files.get? m =
        if m = l' then some (.text text') else if m = k' then none
        else if m = l then some (.text text) else if m = k then none else s.files.get? m := by
  obtain ⟨text, k, l, writes, get⟩ := exists_writes_of_commit hc
  obtain ⟨text', k', l', writes', get'⟩ := exists_writes_of_commit hc'
  refine ⟨text, k, l, text', k', l', writes,
    writes'.of_sameDirectories (s.sameDirectories_commit p d), fun m => ?_⟩
  rw [get', get]

theorem alike_of_get? (get : ∀ m, u.files.get? m = t.files.get? m) (ht : t.setup = s.setup)
    (hu : u.setup = s.setup) : t.Alike u :=
  ⟨hu.trans ht.symm, get⟩

theorem alike_of_swap (hg : s.files.Grounded) (h : ¬ s.Joined p q) (hs : s.Spares p q)
    (hs' : s.Spares q p) (hp : (s.load p).1 = .ok d₀) (hq : (s.load q).1 = .ok e₀)
    (hc : (s.commit p d).1.1 = .ok ()) (hc' : (s.commit q e).1.1 = .ok ()) :
    ((s.commit p d).2.commit q e).2.Alike ((s.commit q e).2.commit p d).2 := by
  obtain ⟨text, k, l, text', k', l', first, second, get⟩ :=
    exists_writes_of_commits hc ((result_commit_commit hg hs hp hq d e).trans hc')
  obtain ⟨_, _, _, _, _, _, second', first', get'⟩ :=
    exists_writes_of_commits hc' ((result_commit_commit hg hs' hq hp e d).trans hc)
  obtain ⟨rfl, rfl, rfl⟩ := first.unique first'
  obtain ⟨rfl, rfl, rfl⟩ := second.unique second'
  have files : l ≠ l' := fun same => h ⟨l, first.place, same ▸ second.place⟩
  have beside : k ≠ l' := fun same => hs k first.beside (same ▸ second.place)
  have beside' : k' ≠ l := fun same => hs' k' second.beside (same ▸ first.place)
  refine alike_of_get? (s := s) (fun m => ?_) ?_ ?_
  · rw [get, get']
    by_cases hl : m = l
    · rw [if_pos hl, if_neg (hl ▸ files), if_neg (hl ▸ beside'.symm), if_pos hl]
    · by_cases hl' : m = l'
      · rw [if_neg hl, if_neg (hl' ▸ beside.symm), if_pos hl', if_pos hl']
      · simp only [if_neg hl, if_neg hl']
        split <;> split <;> rfl
  · rw [setup_commit, setup_commit]
  · rw [setup_commit, setup_commit]

/-- Two commits to one place write beside the file at one place, too. -/
theorem Writes.places_unique {text text' : String} {k k' l l' : Location} (hg : s.files.Grounded)
    (h : s.Joined p q) (hp : (s.load p).1 = .ok d₀) (hw : s.Writes p d text k l)
    (hw' : s.Writes q e text' k' l') : k = k' ∧ l = l' := by
  obtain ⟨m, hm, hm'⟩ := h
  cases hw.place.symm.trans hm
  cases hw'.place.symm.trans hm'
  obtain ⟨old, hs, -⟩ := load_eq_ok_iff.mp hp
  obtain ⟨l', hl, there⟩ := FileSystem.stat_eq_ok_iff.mp hs
  cases hm.symm.trans hl
  exact ⟨hg.locate_staging_unique hm hm' there nofun hw.beside hw'.beside, rfl⟩

theorem alike_of_absorb (hg : s.files.Grounded) (h : s.Joined p q) (hp : (s.load p).1 = .ok d₀)
    (hc : (s.commit p d).1.1 = .ok ()) (hc' : (s.commit q e).1.1 = .ok ()) :
    ((s.commit p d).2.commit q e).2.Alike (s.commit q e).2 := by
  obtain ⟨text, k, l, text', k', l', first, second, get⟩ := exists_writes_of_commits hc
    ((result_commit_commit hg h.spares hp (h.load_eq_ok hp) d e).trans hc')
  obtain ⟨_, _, _, second', get'⟩ := exists_writes_of_commit hc'
  obtain ⟨rfl, rfl, rfl⟩ := second.unique second'
  obtain ⟨rfl, rfl⟩ := first.places_unique hg h hp second
  refine alike_of_get? (s := s) (fun m => ?_) ?_ (setup_commit s q e)
  · rw [get, get']
    by_cases hl : m = l
    · rw [if_pos hl, if_pos hl]
    · simp only [if_neg hl]
      split <;> rfl
  · rw [setup_commit, setup_commit]

theorem alike_of_joined (hg : s.files.Grounded) (h : s.Joined p q) (hp : (s.load p).1 = .ok d₀)
    (hc : (s.commit p d).1.1 = .ok ()) (hc' : (s.commit q d).1.1 = .ok ()) :
    (s.commit p d).2.Alike (s.commit q d).2 := by
  obtain ⟨text, k, l, first, get⟩ := exists_writes_of_commit hc
  obtain ⟨text', k', l', second, get'⟩ := exists_writes_of_commit hc'
  obtain ⟨rfl, rfl⟩ := first.places_unique hg h hp second
  cases first.described.symm.trans second.described
  exact alike_of_get? (s := s) (fun m => (get' m).trans (get m).symm) (setup_commit s p d)
    (setup_commit s q d)

/-- Files keep devices apart, by the places of the files. -/
def storage : Storage FileStore where
  Sound s := s.files.Grounded
  Same := Joined
  Spares := Spares
  Equal := Alike
  equal := alike_equivalence
  same_symm := Joined.symm
  same_self hp := by
    obtain ⟨l, hl⟩ := exists_locate_of_load hp
    exact ⟨l, hl, hl⟩
  spares_of_same := Joined.spares
  load_of_same := Joined.load_eq_ok
  sound_commit _ hg hp := (loaded_of_commit hg hp).1
  unchanged hg hp he := commit_of_error hg hp he
  load_commit := load_commit_of_joined
  load_commit_of_not_same d hg h hs hp := load_commit_of_spares hg h hs hp d
  result_congr {s p d₀ d d'} hg hp hb := by
    have same : (s.commit p d).1.1 = (s.commit p d').1.1 := by
      rw [result_commit hg hp, result_commit hg hp, hb]
    exact same
  result_commit d e hg hs hp hq := result_commit_commit hg hs hp hq d e
  swap := alike_of_swap
  absorb := alike_of_absorb
  alike := alike_of_joined

end FileStore

end MouseConfig
