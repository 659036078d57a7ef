import MouseConfig.Files.Store
import MouseConfig.Proofs.Device.RoundTrip
import MouseConfig.Proofs.Files.Directories

/-! # Laws of devices in files

A device that has been committed over a device is the one that is loaded from then on.
-/

namespace MouseConfig.FileStore

variable {s s' : FileStore} {p : Path} {d d₀ : Device}

theorem parse_eq_ok_iff {text : String} :
    parse p text = .ok d ↔ Device.ofDescription text = .ok d := by
  rw [parse]
  cases Device.ofDescription text <;> simp

theorem load_eq_ok_iff :
    (s.load p).1 = .ok d ↔
      ∃ text, s.files.stat p = .ok (.text text) ∧ Device.ofDescription text = .ok d := by
  rw [load]
  rcases s.files.stat p with _ | _ | _ | _ <;> simp [parse_eq_ok_iff]

/-- Whoever finds the same at a path loads the same from it. -/
theorem load_congr (h : ∀ e, s'.files.stat p = .ok e ↔ s.files.stat p = .ok e) :
    (s'.load p).1 = (s.load p).1 := by
  rw [load, load]
  cases hs : s.files.stat p with
  | ok e => rw [(h e).mpr hs]
  | error fault =>
      cases hs' : s'.files.stat p with
      | ok e => exact absurd (hs.symm.trans ((h e).mp hs')) nofun
      | error fault' => rfl

/-- What is loaded from a path is a matter of the place that it leads to. -/
theorem load_congr_of_get? (hd : s.files.SameDirectories s'.files)
    (h : ∀ l, s.files.locate p = .ok l → s'.files.get? l = s.files.get? l) :
    (s'.load p).1 = (s.load p).1 := by
  refine load_congr fun e => ?_
  rw [FileSystem.stat_eq_ok_iff, FileSystem.stat_eq_ok_iff]
  refine exists_congr fun l => ?_
  rw [hd.locate_iff]
  exact and_congr_right fun hl => by rw [h l hl]

theorem load_of_get?_eq_none {l : Location} (hl : s.files.locate p = .ok l)
    (h : s.files.get? l = none) : (s.load p).1 = .error (.notSupported p) := by
  have lost : s.files.stat p = .error .notFound := by
    rw [FileSystem.stat, hl]
    simp [bind, Except.bind, h, throw, throwThe, MonadExceptOf.throw]
  rw [load, lost]

/-- A commit that succeeds has replaced the file. -/
theorem exists_text_of_commit (h : (s.commit p d).1.1 = .ok ()) :
    ∃ text, d.description? = some text ∧
      s.files.replace p text = (.ok (), (s.commit p d).2.files) := by
  rw [commit] at h ⊢
  cases hd : d.description? with
  | none =>
      rw [hd] at h
      cases h
  | some text =>
      rw [hd] at h
      refine ⟨text, rfl, ?_⟩
      dsimp only at h ⊢
      rcases hr : s.files.replace p text with ⟨_ | _, files⟩
      · rw [hr] at h
        cases h
      · rfl

/-- What has been committed over a device is loaded. -/
theorem load_commit (hg : s.files.Grounded) (hl : (s.load p).1 = .ok d₀)
    (hc : (s.commit p d).1.1 = .ok ()) : ((s.commit p d).2.load p).1 = .ok d := by
  obtain ⟨old, hs, -⟩ := load_eq_ok_iff.mp hl
  obtain ⟨text, hd, hr⟩ := exists_text_of_commit hc
  obtain ⟨stat, -⟩ := hg.of_replace hs nofun hr
  exact load_eq_ok_iff.mpr ⟨text, stat, Device.ofDescription_of_description? hd⟩

/-- A commit over a device changes no other file, except the one beside it. -/
theorem get?_commit (hg : s.files.Grounded) (hl : (s.load p).1 = .ok d₀)
    (hc : (s.commit p d).1.1 = .ok ()) {l : Location} (hp : s.files.locate p ≠ .ok l)
    (hs : s.files.locate (FileSystem.staging p) ≠ .ok l) :
    (s.commit p d).2.files.get? l = s.files.get? l := by
  obtain ⟨old, hold, -⟩ := load_eq_ok_iff.mp hl
  obtain ⟨text, -, hr⟩ := exists_text_of_commit hc
  exact (hg.of_replace hold nofun hr).2 l hp hs

/-- A commit changes nothing but files, and these only by a replacement. -/
theorem commit_cases (s : FileStore) (p : Path) (d : Device) :
    (s.commit p d).2 = s ∨ ∃ text, d.description? = some text ∧
      (s.commit p d).2 = { s with files := (s.files.replace p text).2 } := by
  rw [commit]
  cases hd : d.description? with
  | none => exact .inl rfl
  | some text =>
      refine .inr ⟨text, rfl, ?_⟩
      dsimp only
      rcases s.files.replace p text with ⟨_ | _, files⟩
      · rfl
      · rfl

/-- Commits make and remove no directories. -/
theorem sameDirectories_commit (s : FileStore) (p : Path) (d : Device) :
    s.files.SameDirectories (s.commit p d).2.files := by
  rcases s.commit_cases p d with same | ⟨text, -, written⟩
  · rw [same]
    exact .refl s.files
  · rw [written]
    exact (s.files.replacement p text).sameDirectories

/-- After a commit over a device, done or failed, another path gives what it gave before, unless it
leads to the same file, or to the one beside it. -/
theorem load_commit_cases (hg : s.files.Grounded) (hl : (s.load p).1 = .ok d₀) (q : Path) :
    ((s.commit p d).2.load q).1 = (s.load q).1 ∨
      (s.load q).1 = .ok d₀ ∧ ((s.commit p d).2.load q).1 = .ok d ∨
      ∃ k, s.files.locate (FileSystem.staging p) = .ok k ∧ s.files.locate q = .ok k ∧
        ((s.commit p d).2.load q).1 = .error (.notSupported q) := by
  obtain ⟨old, hold, hread⟩ := load_eq_ok_iff.mp hl
  rcases s.commit_cases p d with same | ⟨text, hd, written⟩
  · rw [same]
    exact .inl rfl
  · rw [written]
    have replacement := s.files.replacement p text
    have dirs := replacement.sameDirectories
    cases hr : (s.files.replace p text).1 with
    | error fault =>
        rw [hg.replace_error hold nofun hr]
        exact .inl rfl
    | ok u =>
        rw [hr] at replacement
        obtain ⟨k, l, hk, hp, hne, get⟩ := replacement.exists_place
        by_cases toFile : s.files.locate q = .ok l
        · refine .inr (.inl ⟨load_eq_ok_iff.mpr ⟨old, ?_, hread⟩, load_eq_ok_iff.mpr ⟨text, ?_, ?_⟩⟩)
          · obtain ⟨l', hp', there⟩ := FileSystem.stat_eq_ok_iff.mp hold
            cases hp.symm.trans hp'
            exact FileSystem.stat_eq_ok_iff.mpr ⟨l, toFile, there⟩
          · exact FileSystem.stat_eq_ok_iff.mpr
              ⟨l, dirs.locate_iff.mpr toFile, by rw [get, if_pos rfl]⟩
          · exact Device.ofDescription_of_description? hd
        · by_cases toStaging : s.files.locate q = .ok k
          · refine .inr (.inr ⟨k, hk, toStaging, ?_⟩)
            exact load_of_get?_eq_none (s := { s with files := (s.files.replace p text).2 })
              (dirs.locate_iff.mpr toStaging) (by rw [get, if_neg hne, if_pos rfl])
          · refine .inl (load_congr_of_get? dirs fun m hm => ?_)
            have other : m ≠ l ∧ m ≠ k := ⟨fun h => toFile (h ▸ hm), fun h => toStaging (h ▸ hm)⟩
            exact (get m).trans (by rw [if_neg other.1, if_neg other.2])

/-- After a commit over a device, done or failed, what is loaded is the device that was committed, or
was loaded before. -/
theorem loaded_of_commit (hg : s.files.Grounded) (hl : (s.load p).1 = .ok d₀) :
    (s.commit p d).2.files.Grounded ∧
      ∀ q x, ((s.commit p d).2.load q).1 = .ok x → x = d ∨ (s.load q).1 = .ok x := by
  refine ⟨?_, fun q x hx => ?_⟩
  · rcases s.commit_cases p d with same | ⟨text, hd, written⟩
    · rw [same]
      exact hg
    · obtain ⟨old, hold, -⟩ := load_eq_ok_iff.mp hl
      rw [written]
      exact hg.replaced hold nofun text
  · rcases load_commit_cases (d := d) hg hl q with same | ⟨-, stored⟩ | ⟨k, -, -, lost⟩
    · exact .inr (same.symm.trans hx)
    · exact .inl (Except.ok.inj (hx.symm.trans stored))
    · cases lost.symm.trans hx

end MouseConfig.FileStore
