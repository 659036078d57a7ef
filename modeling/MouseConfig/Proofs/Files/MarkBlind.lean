import MouseConfig.Proofs.Files.Commits
import MouseConfig.Proofs.Service.MarkBlind

/-! # Files and marks

Files keep the same devices but for their marks if they hold the same, or descriptions of devices
that are the same but for their marks.  Directories are the same then, and these settle which commits
come to their end.
-/

namespace MouseConfig

/-- What is at a place of two file systems that keep the same devices but for their marks. -/
inductive Entry.SameButMarks : Option Entry → Option Entry → Prop
  | same (e : Option Entry) : SameButMarks e e
  | device {text text' : String} {d d' : Device} (hd : Device.ofDescription text = .ok d)
      (hd' : Device.ofDescription text' = .ok d') (h : d.unmarked = d'.unmarked) :
      SameButMarks (some (.text text)) (some (.text text'))

namespace Entry.SameButMarks

variable {e e' : Option Entry}

theorem symm (h : SameButMarks e e') : SameButMarks e' e := by
  cases h with
  | same e => exact .same e
  | device hd hd' h => exact .device hd' hd h.symm

theorem directory_iff (h : SameButMarks e e') : e' = some .directory ↔ e = some .directory := by
  cases h with
  | same e => rfl
  | device hd hd' h => simp

end Entry.SameButMarks

namespace FileStore

/-- The stores have one setup, and hold the same but for the marks of devices. -/
structure SameButMarks (s s' : FileStore) : Prop where
  grounded : s.files.Grounded
  setup : s'.setup = s.setup
  entries (l : Location) : Entry.SameButMarks (s.files.get? l) (s'.files.get? l)

variable {s s' : FileStore} {p : Path} {l : Location} {d d' d₀ d₀' : Device}

/-- What is loaded from a place. -/
def reading (p : Path) : Option Entry → Except DeviceError Device
  | some (.text content) => parse p content
  | some (.binary _) => .error (.unreadable p (FileError.read p .notText).message)
  | some .directory | none => .error (.notSupported p)

theorem load_eq_reading (hl : s.files.locate p = .ok l) :
    (s.load p).1 = reading p (s.files.get? l) := by
  rw [load, FileSystem.stat, hl]
  rcases hg : s.files.get? l with _ | _ | _ | _ <;>
    simp [bind, Except.bind, hg, pure, Except.pure, throw, throwThe, MonadExceptOf.throw, reading]

theorem load_of_lost {e : SystemError} (hl : s.files.locate p = .error e) :
    (s.load p).1 = .error (.notSupported p) := by
  rw [load, FileSystem.stat, hl]
  rfl

theorem reading_congr {e e' : Option Entry} (h : Entry.SameButMarks e e') (p : Path) :
    (reading p e).map Device.unmarked = (reading p e').map Device.unmarked := by
  cases h with
  | same e => rfl
  | device hd hd' h =>
      rw [reading, reading, parse_eq_ok_iff.mpr hd, parse_eq_ok_iff.mpr hd']
      exact congrArg Except.ok h

namespace SameButMarks

theorem sameDirectories (h : s.SameButMarks s') : s.files.SameDirectories s'.files where
  working := congrArg (·.2.2) h.setup
  there l := (h.entries l).directory_iff

theorem symm (h : s.SameButMarks s') : s'.SameButMarks s where
  grounded := by
    intro l hl e he
    rw [h.sameDirectories.working] at hl
    have old := h.grounded l hl
    have entry := h.entries l
    rw [Option.mem_def.mp he] at entry
    generalize s.files.get? l = there at old entry
    cases entry with
    | same => exact old e rfl
    | device => cases old _ rfl
  setup := h.setup.symm
  entries l := (h.entries l).symm

theorem load (h : s.SameButMarks s') (p : Path) :
    (s.load p).1.map Device.unmarked = (s'.load p).1.map Device.unmarked := by
  cases hl : s.files.locate p with
  | ok l =>
      rw [load_eq_reading hl, load_eq_reading (h.sameDirectories.locate_iff.mpr hl)]
      exact reading_congr (h.entries l) p
  | error e =>
      cases hl' : s'.files.locate p with
      | ok l => cases hl.symm.trans (h.sameDirectories.locate_iff.mp hl')
      | error e' => rw [load_of_lost hl, load_of_lost hl']

theorem result_commit (h : s.SameButMarks s') (hl : (s.load p).1 = .ok d₀)
    (hl' : (s'.load p).1 = .ok d₀') (hd : d.unmarked = d'.unmarked) :
    (s.commit p d).1.1 = (s'.commit p d').1.1 := by
  obtain ⟨l, place⟩ := exists_locate_of_load hl
  have buttons : d.buttonCount = d'.buttonCount := (congrArg Device.buttonCount hd : _)
  rw [FileStore.result_commit h.grounded hl, FileStore.result_commit h.symm.grounded hl', buttons,
    FileSystem.beside_congr h.sameDirectories place]

theorem commit (h : s.SameButMarks s') (hl : (s.load p).1 = .ok d₀)
    (hl' : (s'.load p).1 = .ok d₀') (hd : d.unmarked = d'.unmarked) :
    (s.commit p d).2.SameButMarks (s'.commit p d').2 := by
  have result := h.result_commit hl hl' hd
  cases hc : (s.commit p d).1.1 with
  | error e =>
      rw [commit_of_error h.grounded hl hc, commit_of_error h.symm.grounded hl' (result ▸ hc)]
      exact h
  | ok u =>
      obtain ⟨text, k, l, writes, get⟩ := exists_writes_of_commit hc
      obtain ⟨text', k', l', writes', get'⟩ := exists_writes_of_commit (result ▸ hc)
      have places := writes'.of_sameDirectories h.sameDirectories
      cases writes.place.symm.trans places.place
      cases writes.beside.symm.trans places.beside
      refine ⟨(loaded_of_commit h.grounded hl).1, ?_, fun m => ?_⟩
      · rw [setup_commit, setup_commit, h.setup]
      · rw [get, get']
        by_cases hm : m = l
        · rw [if_pos hm, if_pos hm]
          exact .device (Device.ofDescription_of_description? writes.described)
            (Device.ofDescription_of_description? writes'.described) hd
        · rw [if_neg hm, if_neg hm]
          split
          · exact .same none
          · exact h.entries m

end SameButMarks

/-- What a commit over a device changes no marks of, is found with its marks as they were. -/
theorem keepsMarks (hg : s.files.Grounded) (hl : (s.load p).1 = .ok d₀) (hm : d.marks = d₀.marks) :
    KeepsMarks s (s.commit p d).2 := by
  intro q e he
  have he : ((s.commit p d).2.load q).1 = .ok e := he
  rcases load_commit_cases (d := d) hg hl q with same | ⟨before, after⟩ | ⟨k, -, -, lost⟩
  · exact ⟨e, same.symm.trans he, rfl⟩
  · cases after.symm.trans he
    exact ⟨d₀, before, hm⟩
  · cases lost.symm.trans he

theorem not_inactive_of_load {e : DeviceError} (h : (s.load p).1 = .error e) : ¬ e.Inactive := by
  cases hl : s.files.locate p with
  | error fault =>
      cases (load_of_lost hl).symm.trans h
      exact not_false
  | ok l =>
      rw [load_eq_reading hl] at h
      cases hg : s.files.get? l with
      | none =>
          rw [hg] at h
          cases h
          exact not_false
      | some x =>
          rw [hg] at h
          cases x with
          | directory | binary =>
              cases h
              exact not_false
          | text content =>
              rw [reading, parse] at h
              cases hd : Device.ofDescription content with
              | ok d =>
                  rw [hd] at h
                  cases h
              | error fault =>
                  rw [hd] at h
                  cases h
                  exact not_false

theorem not_inactive_of_commit {e : DeviceError} (h : (s.commit p d).1.1 = .error e) :
    ¬ e.Inactive := by
  rw [commit] at h
  cases hd : d.description? with
  | none =>
      rw [hd] at h
      cases h
      exact not_false
  | some content =>
      rw [hd] at h
      dsimp only at h
      rcases hr : s.files.replace p content with ⟨fault | _, files⟩
      · rw [hr] at h
        cases h
        exact not_false
      · rw [hr] at h
        cases h

def markBlind : MarkBlind FileStore where
  Same := SameButMarks
  symm := SameButMarks.symm
  load p h := h.load p
  commit h hl hl' hd := ⟨h.result_commit hl hl' hd, h.commit hl hl' hd⟩
  keepsMarks h hl hm := keepsMarks h.grounded hl hm
  load_inactive := not_inactive_of_load
  commit_inactive := not_inactive_of_commit

end FileStore

end MouseConfig
