import MouseConfig.Proofs.Files.Commits

/-! # Commits that are taken back

A device is committed as something else, and then as what it was.  Then it opens as it did before,
and so does every other device that the commits do not touch.
-/

namespace MouseConfig

variable {σ : Type} [DeviceService σ]

/-- What a service becomes when one of its devices is committed and then committed as it was, or when
nothing is committed at all. -/
inductive Restored (s : σ) (p : Path) : σ → Prop
  | same : Restored s p s
  | back {d d' : Device} (hd : loader s p = .ok d)
      (hc : (DeviceService.commit s p d').1.1 = .ok ())
      (hc' : (DeviceService.commit (DeviceService.commit s p d').2 p d).1.1 = .ok ()) :
      Restored s p (DeviceService.commit (DeviceService.commit s p d').2 p d).2

namespace Storage

variable (S : Storage σ) {s t : σ} {p q : Path}

/-- No commit over a device changes where paths lead. -/
structure KeepsPaths (S : Storage σ) : Prop where
  same_commit {s : σ} {p : Path} {d₀ : Device} (d : Device) (q r : Path) :
    S.Sound s → loader s p = .ok d₀ → (S.Same (DeviceService.commit s p d).2 q r ↔ S.Same s q r)
  spares_commit {s : σ} {p : Path} {d₀ : Device} (d : Device) (q r : Path) :
    S.Sound s → loader s p = .ok d₀ →
      (S.Spares (DeviceService.commit s p d).2 q r ↔ S.Spares s q r)

theorem load_of_restored (keeps : S.KeepsPaths) (hs : S.Sound s) (spares : S.Spares s p q)
    (h : Restored s p t) : loader t q = loader s q := by
  cases h with
  | same => rfl
  | @back d d' hd hc hc' =>
      have changed := S.load_commit hs (S.same_self hd) hd hc
      have sound := S.sound_commit d' hs hd
      have leads := keeps.same_commit d' p q hs hd
      by_cases same : S.Same s p q
      · exact (S.load_commit sound (leads.mpr same) changed hc').trans
          (S.load_of_same same hd).symm
      · have spared := (keeps.spares_commit d' p q hs hd).mpr spares
        exact (S.load_commit_of_not_same d sound (mt leads.mp same) spared changed).trans
          (S.load_commit_of_not_same d' hs same spares hd)

end Storage

/-! ## Shelves -/

namespace Shelf

variable {s t : Shelf} {p : Path}

theorem storage_keepsPaths : storage.KeepsPaths where
  same_commit _ _ _ _ _ := Iff.rfl
  spares_commit _ _ _ _ _ := Iff.rfl

/-- A shelf is not only left with the same devices, but the same. -/
theorem eq_of_restored (h : Restored s p t) : t = s := by
  cases h with
  | same => rfl
  | @back d d' hd hc hc' =>
      have works : s.commitFailure = none := commitFailure_eq_none hc
      have found : s.get? p = some (.device d) := load_eq_ok_iff.mp hd
      have twice : ((s.commit p d').2.commit p d).2 = s := by
        rw [commit_commit_of_none works, put_put (Path.same_refl p) _ _ (isSome_of_load hd),
          put_of_eq found]
      exact twice

end Shelf

/-! ## Files -/

namespace FileStore

variable {s t : FileStore} {p q : Path} {d d₀ : Device}

theorem storage_keepsPaths : storage.KeepsPaths where
  same_commit {s p _} d q r _ _ := by
    have dirs := s.sameDirectories_commit p d
    exact exists_congr fun l => and_congr dirs.locate_iff dirs.locate_iff
  spares_commit {s p _} d q r _ _ := by
    have dirs := s.sameDirectories_commit p d
    exact forall_congr' fun k => imp_congr dirs.locate_iff (not_congr dirs.locate_iff)

/-- There is nothing that the second path leads to and that a commit to the first one may take away.
The one place where there could be is that of the file beside. -/
def Harmless (s : FileStore) (p q : Path) : Prop :=
  ∀ k, s.files.locate (FileSystem.staging p) = .ok k → s.files.locate q = .ok k →
    s.files.get? k = none

/-- What a commit may take away it has taken away. -/
theorem harmless_commit (hc : (s.commit p d).1.1 = .ok ()) (q : Path) :
    (s.commit p d).2.Harmless p q := by
  obtain ⟨text, k, l, writes, get⟩ := exists_writes_of_commit hc
  have dirs := s.sameDirectories_commit p d
  intro m hm _
  cases (dirs.locate_iff.mp hm).symm.trans writes.beside
  have other : k ≠ l := FileSystem.locate_ne_of_staging writes.beside writes.place
  rw [get, if_neg other, if_pos rfl]

theorem load_commit_of_harmless (hc : (s.commit p d).1.1 = .ok ()) (h : ¬ s.Joined p q)
    (harmless : s.Harmless p q) : ((s.commit p d).2.load q).1 = (s.load q).1 := by
  obtain ⟨text, k, l, writes, get⟩ := exists_writes_of_commit hc
  refine load_congr_of_get? (s.sameDirectories_commit p d) fun m hm => ?_
  have file : m ≠ l := fun same => h ⟨l, writes.place, same ▸ hm⟩
  rw [get, if_neg file]
  split
  · next same =>
      subst same
      exact (harmless m writes.beside hm).symm
  · rfl

theorem load_of_restored (hg : s.files.Grounded) (harmless : s.Harmless p q)
    (h : Restored s p t) : loader t q = loader s q := by
  cases h with
  | same => rfl
  | @back d d' hd hc hc' =>
      have leads := storage_keepsPaths.same_commit d' p q hg hd
      by_cases same : s.Joined p q
      · exact storage.load_of_restored storage_keepsPaths hg same.spares (.back hd hc hc')
      · exact (load_commit_of_harmless hc' (mt leads.mp same) (harmless_commit hc q)).trans
          (load_commit_of_harmless hc same harmless)

end FileStore

end MouseConfig
