import MouseConfig.Proofs.Files.Directories
import MouseConfig.Proofs.Text.Bytes

/-! # The entries of a directory

A scan comes to the entries of a directory once each and in the order of their names.  The path that
it makes of a name leads to the entry again, unless it is longer than a path may be.
-/

namespace MouseConfig

/-! ## Paths into a directory -/

/-- A separator at the end is followed by nothing. -/
theorem Path.splitOn_slash (xs : List Char) :
    (xs ++ ['/']).splitOn '/' = xs.splitOn '/' ++ [[]] := by
  induction xs with
  | nil => rfl
  | cons c xs ih =>
      rw [List.cons_append, List.splitOn_cons_eq_if_modifyHead, List.splitOn_cons_eq_if_modifyHead,
        ih]
      split
      · rfl
      · cases hs : xs.splitOn '/' with
        | nil => exact absurd hs (List.splitOn_ne_nil _ _)
        | cons piece rest => rfl

theorem Path.pieces_slash (text : String) :
    (⟨text ++ "/"⟩ : Path).pieces = (⟨text⟩ : Path).pieces ++ [""] := by
  simp [Path.pieces, Path.splitOn_slash]

/-- A name behind a separator is the last piece. -/
theorem Path.pieces_slash_append (text : String) {name : String} (h : '/' ∉ name.toList) :
    (⟨text ++ "/" ++ name⟩ : Path).pieces = (⟨text⟩ : Path).pieces ++ [name] := by
  obtain ⟨lead, last, hx, hy⟩ := Path.exists_splitOn_append (text.toList ++ ['/']) h
  rw [Path.splitOn_slash] at hx
  obtain ⟨rfl, same⟩ := List.append_inj' hx rfl
  cases List.singleton_inj.mp same
  have chars : (text ++ "/" ++ name).toList = text.toList ++ ['/'] ++ name.toList := by simp
  rw [Path.pieces, Path.pieces, chars, hy, List.map_append]
  simp

namespace FileSystem

variable {fs : FileSystem} {directory : Path} {l m : Location} {name : String}

/-- A name that an entry can go by. -/
structure Acceptable (name : String) : Prop where
  proper : Proper name
  slash : '/' ∉ name.toList
  nul : '\x00' ∉ name.toList
  short : name.utf8ByteSize ≤ nameLimit

instance (name : String) : Decidable (Acceptable name) :=
  decidable_of_iff ((name ≠ "" ∧ name ≠ "." ∧ name ≠ "..") ∧ '/' ∉ name.toList ∧
    '\x00' ∉ name.toList ∧ name.utf8ByteSize ≤ nameLimit)
    ⟨fun ⟨proper, slash, nul, short⟩ => ⟨proper, slash, nul, short⟩,
      fun ⟨proper, slash, nul, short⟩ => ⟨proper, slash, nul, short⟩⟩

/-- All places are named as they can be. -/
def Named (fs : FileSystem) : Prop := ∀ e ∈ fs.entries, ∀ name ∈ e.1, Acceptable name

instance (fs : FileSystem) : Decidable fs.Named :=
  inferInstanceAs (Decidable (∀ e ∈ fs.entries, ∀ name ∈ e.1, Acceptable name))

/-- The text of a path into a directory: the separator is not doubled. -/
theorem exists_text_join (h : directory.text ≠ "") (name : String) :
    ∃ text, (directory = ⟨text⟩ ∨ directory = ⟨text ++ "/"⟩) ∧
      directory.join name = ⟨text ++ "/" ++ name⟩ := by
  rw [Path.join, if_neg h]
  split
  · next ends =>
      obtain ⟨lead, hl⟩ := List.getLast?_eq_some_iff.mp ends
      have whole : directory.text = String.ofList lead ++ "/" :=
        String.toList_injective (by simp [hl])
      exact ⟨String.ofList lead, .inr (congrArg Path.mk whole), by rw [← whole]⟩
  · exact ⟨directory.text, .inl rfl, rfl⟩

/-- The slash at the end of a path leads nowhere else. -/
theorem walk_of_slash {text : String} (h : fs.walk l (⟨text ++ "/"⟩ : Path).pieces = .ok m) :
    fs.walk l (⟨text⟩ : Path).pieces = .ok m := by
  rw [Path.pieces_slash] at h
  obtain ⟨d, hd, -, -, same⟩ := walk_concat_eq_ok_iff.mp h
  have stays : d = m := by simpa [next] using same
  exact stays ▸ hd

/-- The path of an entry leads on from the directory. -/
theorem locate_join (hl : fs.locate directory = .ok l) (hd : fs.get? l = some .directory)
    (hn : Acceptable name) (short : (directory.join name).text.utf8ByteSize ≤ pathLimit) :
    fs.locate (directory.join name) = .ok (l ++ [name]) := by
  obtain ⟨accepted, way⟩ := locate_eq_ok_iff.mp hl
  obtain ⟨nul, named, -⟩ := accept_eq_ok_iff.mp accepted
  obtain ⟨text, hdir, hjoin⟩ := exists_text_join named name
  rw [hjoin] at short ⊢
  have clean : '\x00' ∉ (text ++ "/" ++ name).toList := by
    rcases hdir with rfl | rfl <;> simpa [hn.nul] using nul
  have start : fs.start ⟨text ++ "/" ++ name⟩ = fs.start directory := by
    rcases hdir with rfl | rfl
    · exact start_eq_of_append named (String.append_assoc ..)
    · exact start_eq_of_append named rfl
  have lead : fs.walk (fs.start directory) (⟨text⟩ : Path).pieces = .ok l := by
    rcases hdir with rfl | rfl
    · exact way
    · exact walk_of_slash way
  refine locate_eq_ok_iff.mpr ⟨accept_eq_ok_iff.mpr ⟨clean, by simp, short⟩, ?_⟩
  rw [start, Path.pieces_slash_append text hn.slash]
  exact walk_concat_eq_ok_iff.mpr ⟨l, lead, hd, hn.short, hn.proper.next l⟩

theorem size_le_size_join (h : directory.text ≠ "") (name : String) :
    directory.text.utf8ByteSize + name.utf8ByteSize ≤
      (directory.join name).text.utf8ByteSize := by
  obtain ⟨text, hdir, hjoin⟩ := exists_text_join h name
  rcases hdir with rfl | rfl <;> simp only [hjoin, String.utf8ByteSize_append] <;> omega

/-- One more slash makes no difference but to the length of the path. -/
theorem locate_slash {text : String} (hl : fs.locate ⟨text⟩ = .ok l)
    (hd : fs.get? l = some .directory) (short : (text ++ "/").utf8ByteSize ≤ pathLimit) :
    fs.locate ⟨text ++ "/"⟩ = .ok l := by
  obtain ⟨accepted, way⟩ := locate_eq_ok_iff.mp hl
  obtain ⟨nul, named, -⟩ := accept_eq_ok_iff.mp accepted
  have start : fs.start ⟨text ++ "/"⟩ = fs.start ⟨text⟩ :=
    start_eq_of_append (p := ⟨text⟩) named rfl
  refine locate_eq_ok_iff.mpr ⟨accept_eq_ok_iff.mpr ⟨by simpa using nul, by simp, short⟩, ?_⟩
  rw [start, Path.pieces_slash]
  exact walk_concat_eq_ok_iff.mpr ⟨l, way, hd, by decide, rfl⟩

/-! ## Names in a directory -/

theorem lookup_isSome_iff {m : Location} {entries : List (Location × Entry)} :
    (∃ e, entries.lookup m = some e) ↔ ∃ x ∈ entries, x.1 = m := by
  rw [← Option.ne_none_iff_exists', Ne, List.lookup_eq_none_iff]
  simp [@eq_comm _ m]

theorem mem_names_iff : name ∈ fs.names l ↔ ∃ e, fs.get? (l ++ [name]) = some e := by
  have below : l ++ [name] ≠ [] := by simp
  simp only [get?, if_neg below, lookup_isSome_iff, names, List.mem_eraseDups, List.mem_filterMap]
  refine exists_congr fun x => and_congr_right fun _ => ?_
  rw [Option.ite_none_right_eq_some, List.getLast?_eq_some_iff]
  constructor
  · rintro ⟨rfl, lead, hx⟩
    simp [hx]
  · intro hx
    simp [hx]

theorem Named.acceptable (h : fs.Named) (hn : name ∈ fs.names l) : Acceptable name := by
  obtain ⟨e, he⟩ := mem_names_iff.mp hn
  rw [get?, if_neg (by simp)] at he
  obtain ⟨x, hx, place⟩ := lookup_isSome_iff.mp ⟨e, he⟩
  exact h x hx name (by simp [place])

theorem nodup_eraseDups {α : Type} [DecidableEq α] : (xs : List α) → xs.eraseDups.Nodup
  | [] => by simp
  | x :: xs => by
      rw [List.eraseDups_cons, List.nodup_cons]
      refine ⟨fun again => ?_, nodup_eraseDups (xs.filter fun y => !y == x)⟩
      simpa using List.mem_eraseDups.mp again
termination_by xs => xs.length
decreasing_by exact Nat.lt_succ_of_le (List.length_filter_le _ _)

/-- The names in a directory that start in some way, in their order. -/
theorem exists_names_of_scan (hl : fs.locate directory = .ok l) (hd : fs.get? l = some .directory)
    (lead : String) :
    ∃ names : List String, fs.scan directory lead = names.map directory.join ∧
      names.Pairwise (· < ·) ∧
      ∀ name, name ∈ names ↔ lead.toList <+: name.toList ∧ ∃ e, fs.get? (l ++ [name]) = some e := by
  let chosen := (fs.names l).filter fun n => lead.toList.isPrefixOf n.toList
  refine ⟨chosen.mergeSort fun a b => decide (a ≤ b), ?_, ?_, fun name => ?_⟩
  · rw [scan, hl]
    exact if_pos hd
  · have sorted : (chosen.mergeSort fun a b => decide (a ≤ b)).Pairwise fun a b =>
        decide (a ≤ b) = true :=
      List.pairwise_mergeSort (by simpa using fun a b c => String.le_trans)
        (by simpa using String.le_total) chosen
    have distinct : (chosen.mergeSort fun a b => decide (a ≤ b)).Nodup :=
      (List.mergeSort_perm chosen _).nodup_iff.mpr ((nodup_eraseDups _).filter _)
    refine (sorted.and distinct).imp fun ⟨le, ne⟩ => ?_
    exact Decidable.byContradiction fun h =>
      ne (String.le_antisymm (of_decide_eq_true le) (String.not_lt.mp h))
  · rw [List.mem_mergeSort, List.mem_filter, mem_names_iff, List.isPrefixOf_iff_prefix]
    exact And.comm

/-- Elsewhere a scan comes to nothing. -/
theorem scan_eq_nil (h : ∀ l, fs.locate directory = .ok l → fs.get? l ≠ some .directory)
    (lead : String) : fs.scan directory lead = [] := by
  rw [scan]
  cases hl : fs.locate directory with
  | error e => rfl
  | ok l => exact if_neg (h l hl)

end FileSystem

end MouseConfig
