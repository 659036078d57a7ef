import MouseConfig.Proofs.Files.Directories
import MouseConfig.Proofs.Files.Store

/-! # Saving is all or nothing

New content is written beside a file before it is moved there.  Where nothing has been in that place,
what is left of a failure is removed without a trace, so that a file is replaced as a whole or all
files are as they were.
-/

namespace MouseConfig

namespace FileSystem

variable {fs : FileSystem} {p : Path} {k l : Location} {content : String}

/-- Replace the content of a file; a failure is about its path, not about the one beside it. -/
def save (fs : FileSystem) (p : Path) (content : String) : Except FileError Unit × FileSystem :=
  ((fs.replace p content).1.mapError (.write p), (fs.replace p content).2)

/-- There is nothing at a path. -/
def Absent (fs : FileSystem) (p : Path) : Prop := ∀ e, fs.stat p ≠ .ok e

theorem absent_iff : fs.Absent p ↔ ∀ l, fs.locate p = .ok l → fs.get? l = none := by
  constructor
  · intro h l hl
    cases he : fs.get? l with
    | none => rfl
    | some e => exact absurd (stat_eq_ok_iff.mpr ⟨l, hl, he⟩) (h e)
  · intro h e he
    obtain ⟨l, hl, there⟩ := stat_eq_ok_iff.mp he
    rw [h l hl] at there
    cases there

/-- What is put where nothing has been, and removed, leaves no trace. -/
theorem erase_put_of_absent (e : Entry) (h : fs.get? k = none) : (fs.put k e).erase k = fs := by
  have proper : k ≠ [] := by
    rintro rfl
    rw [get?_root] at h
    cases h
  have other : ∀ x ∈ fs.entries, x.1 ≠ k := by
    rw [get?, if_neg proper, List.lookup_eq_none_iff] at h
    intro x hx same
    simpa [same] using h x hx
  have kept : fs.entries.filter (fun x => x.1 != k) = fs.entries :=
    List.filter_eq_self.mpr fun x hx => by simpa using other x hx
  simp [put, erase, kept]

/-! ## When a file can be saved -/

/-- The path is one to a name in a directory where no directory goes by it, and there is room beside
it. -/
structure Savable (fs : FileSystem) (p : Path) : Prop where
  accepted : accept p = .ok ()
  room : Roomy p
  file : ∃ lead name d, p.pieces = lead ++ [name] ∧ Proper name ∧
    fs.walk (fs.start p) lead = .ok d ∧ fs.get? d = some .directory ∧
    fs.get? (d ++ [name]) ≠ some .directory

/-- What stands in front of the name in a path leads to no directory. -/
def Orphan (fs : FileSystem) (p : Path) : Prop :=
  ∀ lead name d, p.pieces = lead ++ [name] → fs.walk (fs.start p) lead = .ok d →
    fs.get? d ≠ some .directory

theorem Orphan.not_savable (h : Orphan fs p) : ¬ Savable fs p := by
  rintro ⟨-, -, lead, name, d, hp, -, hd, directory, -⟩
  exact h lead name d hp hd directory

theorem Savable.exists_destination (h : Savable fs p) :
    ∃ l, fs.destination p = .ok l ∧ fs.get? l ≠ some .directory := by
  obtain ⟨lead, name, d, hp, proper, hd, directory, file⟩ := h.file
  have short : name.utf8ByteSize ≤ nameLimit := by
    obtain ⟨lead', last, hp', ht⟩ := exists_pieces_staging p
    obtain ⟨-, same⟩ := List.append_inj' (hp.symm.trans hp') rfl
    cases List.singleton_inj.mp same
    have longer : (name ++ ".tmp").utf8ByteSize ≤ nameLimit := h.room.2 _ (by simp [ht])
    rw [String.utf8ByteSize_append] at longer
    omega
  have way : fs.walk (fs.start p) p.pieces = .ok (d ++ [name]) :=
    hp ▸ walk_concat_eq_ok_iff.mpr ⟨d, hd, directory, short, proper.next d⟩
  exact ⟨d ++ [name], destination_eq h.accepted hp proper way, file⟩

theorem not_savable_of_directory (h : fs.stat p = .ok .directory) : ¬ Savable fs p := by
  intro savable
  obtain ⟨l, hl, file⟩ := savable.exists_destination
  obtain ⟨l', hl', directory⟩ := stat_eq_ok_iff.mp h
  cases (locate_of_destination hl).symm.trans hl'
  exact file directory

theorem SameDirectories.put_text (hk : fs.get? k ≠ some .directory) (content : String) :
    SameDirectories fs (fs.put k (.text content)) := .put hk (by simp)

theorem SameDirectories.savable_iff {fs' : FileSystem} (h : SameDirectories fs fs') :
    Savable fs' p ↔ Savable fs p := by
  have way {lead d} : fs'.walk (fs'.start p) lead = .ok d ↔ fs.walk (fs.start p) lead = .ok d := by
    rw [h.start_eq p]
    exact ⟨walk_of_directories fun m => (h.there m).mp, walk_of_directories fun m => (h.there m).mpr⟩
  constructor <;> rintro ⟨accepted, room, lead, name, d, hp, proper, hd, directory, file⟩
  · exact ⟨accepted, room, lead, name, d, hp, proper, way.mp hd, (h.there d).mp directory,
      fun hf => file ((h.there _).mpr hf)⟩
  · exact ⟨accepted, room, lead, name, d, hp, proper, way.mpr hd, (h.there d).mpr directory,
      fun hf => file ((h.there _).mp hf)⟩

theorem savable_of_destination (hl : fs.destination p = .ok l) (file : fs.get? l ≠ some .directory)
    (room : Roomy p) : Savable fs p := by
  obtain ⟨place, lead, name, hp, proper⟩ := destination_eq_ok_iff.mp hl
  obtain ⟨accepted, way⟩ := locate_eq_ok_iff.mp place
  obtain ⟨d, hd, directory, -, same⟩ := walk_concat_eq_ok_iff.mp (hp ▸ way)
  rw [proper.next] at same
  exact ⟨accepted, room, lead, name, d, hp, proper, hd, directory, same ▸ file⟩

/-- Where nothing is beside a file, all that is needed to replace it is known beforehand. -/
theorem replace_eq_ok_iff (free : fs.Absent (staging p)) :
    (fs.replace p content).1 = .ok () ↔ Savable fs p := by
  constructor
  · intro h
    rw [replace] at h
    cases hw : fs.write (staging p) content with
    | error e => simp [hw] at h
    | ok staged =>
        obtain ⟨k, hk, hfree, rfl⟩ := write_eq_ok_iff.mp hw
        -- The new content is a file, so the path leads in the staged files where it did before.
        have dirs := SameDirectories.put_text hfree content
        cases hm : (fs.put k (.text content)).move (staging p) p with
        | error e => simp [hw, hm] at h
        | ok moved =>
            obtain ⟨-, -, l, -, -, hl, file, -⟩ := move_eq_ok_iff.mp hm
            exact dirs.savable_iff.mp
              (savable_of_destination hl file (roomy_of_locate_staging hk))
  · intro h
    obtain ⟨l, hl, -⟩ := h.exists_destination
    obtain ⟨k, hk⟩ := exists_locate_staging (locate_of_destination hl) h.room
    have gone : fs.get? k = none := absent_iff.mp free k hk
    have hfree : fs.get? k ≠ some .directory := by simp [gone]
    have dirs := SameDirectories.put_text hfree content
    have hw : fs.write (staging p) content = .ok (fs.put k (.text content)) :=
      write_eq_ok_iff.mpr ⟨k, hk, hfree, rfl⟩
    obtain ⟨l', hl', file⟩ := (dirs.savable_iff.mpr h).exists_destination
    have hm := move_eq_ok_iff.mpr ⟨k, _, l', dirs.locate_iff.mpr hk,
      get?_put fs (.text content) (ne_nil_of_get? hfree), hl', file, rfl⟩
    rw [replace, hw]
    simp only [hm]

/-! ## What is saved -/

structure Saved (fs : FileSystem) (p : Path) (content : String) (fs' : FileSystem) : Prop where
  read : fs'.read p = .ok content
  beside : fs'.Absent (staging p)
  same : ∃ l, fs.locate p = .ok l ∧ ∀ m, m ≠ l → fs'.get? m = fs.get? m
  working : fs'.workingDirectory = fs.workingDirectory

theorem saved_of_replace (free : fs.Absent (staging p)) (h : (fs.replace p content).1 = .ok ()) :
    Saved fs p content (fs.replace p content).2 := by
  have replacement := fs.replacement p content
  rw [h] at replacement
  have dirs := replacement.sameDirectories
  obtain ⟨k, l, hk, hl, apart, get⟩ := replacement.exists_place
  have gone : fs.get? k = none := absent_iff.mp free k hk
  refine ⟨?_, absent_iff.mpr fun m hm => ?_, ⟨l, hl, fun m hm => ?_⟩, dirs.working⟩
  · have there := stat_eq_ok_iff.mpr ⟨l, dirs.locate_iff.mpr hl, by rw [get, if_pos rfl]⟩
    rw [FileSystem.read, there]
    rfl
  · cases hk.symm.trans (dirs.locate_iff.mp hm)
    rw [get, if_neg apart, if_pos rfl]
  · rw [get, if_neg hm]
    split
    · next same => rw [same, gone]
    · rfl

theorem eq_of_replace_error {e : SystemError} (free : fs.Absent (staging p))
    (h : (fs.replace p content).1 = .error e) : (fs.replace p content).2 = fs := by
  have replacement := fs.replacement p content
  rw [h] at replacement
  generalize (fs.replace p content).2 = fs' at replacement ⊢
  cases replacement with
  | unwritten => rfl
  | unmoved hk => exact erase_put_of_absent _ (absent_iff.mp free _ hk)

/-- Saving, where nothing is beside the file: the path leads to the new content, with all else as it
was, or all is as it was and the error is about the path.  The latter is so for a directory, and for
what is in no directory. -/
theorem save_all_or_nothing (free : fs.Absent (staging p)) :
    ((fs.save p content).1 = .ok () → Saved fs p content (fs.save p content).2) ∧
    (∀ fault, (fs.save p content).1 = .error fault →
      (fs.save p content).2 = fs ∧ ∃ e, fault = .write p e) ∧
    ((fs.save p content).1 = .ok () ↔ Savable fs p) ∧
    (fs.stat p = .ok .directory ∨ Orphan fs p →
      ∃ e, fs.save p content = (.error (.write p e), fs)) := by
  have done : (fs.save p content).1 = .ok () ↔ (fs.replace p content).1 = .ok () := by
    rw [save]
    cases (fs.replace p content).1 <;> simp [Except.mapError]
  have failed {e : SystemError} (h : (fs.replace p content).1 = .error e) :
      fs.save p content = (.error (.write p e), fs) := by
    rw [save, eq_of_replace_error free h, h]
    rfl
  refine ⟨fun h => saved_of_replace free (done.mp h), fun fault h => ?_,
    done.trans (replace_eq_ok_iff free), fun h => ?_⟩
  · cases hr : (fs.replace p content).1 with
    | ok u =>
        rw [done.mpr hr] at h
        cases h
    | error e =>
        rw [failed hr] at h ⊢
        cases h
        exact ⟨rfl, e, rfl⟩
  · cases hr : (fs.replace p content).1 with
    | ok u =>
        have savable := (replace_eq_ok_iff free).mp hr
        exact absurd savable (h.elim not_savable_of_directory Orphan.not_savable)
    | error e => exact ⟨e, failed hr⟩

/-- A file in a directory, and the directory itself. -/
theorem save_all_or_nothing_in_directory :
    let fs : FileSystem := { entries := [(["d"], .directory), (["d", "m"], .text "old")] }
    fs.Absent (staging ⟨"d/m"⟩) ∧ Saved fs ⟨"d/m"⟩ "new" (fs.save ⟨"d/m"⟩ "new").2 ∧
      fs.Absent (staging ⟨"d"⟩) ∧ ∃ e, fs.save ⟨"d"⟩ "new" = (.error (.write ⟨"d"⟩ e), fs) := by
  intro fs
  have free : fs.Absent (staging ⟨"d/m"⟩) := by
    have lost : fs.stat (staging ⟨"d/m"⟩) = .error .notFound := by decide
    intro e he
    cases lost.symm.trans he
  have free' : fs.Absent (staging ⟨"d"⟩) := by
    have lost : fs.stat (staging ⟨"d"⟩) = .error .notFound := by decide
    intro e he
    cases lost.symm.trans he
  exact ⟨free, (save_all_or_nothing free).1 (by decide), free',
    (save_all_or_nothing free').2.2.2 (.inl (by decide))⟩

end FileSystem

/-! ## Devices are saved -/

theorem FileStore.commit_eq_save (s : FileStore) (p : Path) (d : Device) :
    s.commit p d = match d.description? with
      | none => ((.error (.notCommitted p "out-of-range value for u64 type"), []), s)
      | some content =>
        let writing : Log.Event :=
          ⟨.trace, .description, s!"Writing description of '{p.text}':\n{content}"⟩
        match s.files.save p content with
        | (.error fault, files) =>
          ((.error (.notCommitted p fault.message), [writing]), { s with files })
        | (.ok (), files) =>
          ((.ok (), [writing, Log.debug .description s!"Committed changes to '{p.text}'"]),
            { s with files }) := by
  rw [FileStore.commit]
  cases d.description? with
  | none => rfl
  | some content =>
      dsimp only [FileSystem.save]
      cases (s.files.replace p content).1 <;> rfl

end MouseConfig
