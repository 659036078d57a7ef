import Mathlib.Data.List.Infix
import MouseConfig.Files.Basic

/-! # Replacing a file as a whole

New content is written beside a file and then moved over it.  Where no file stands on the way to the
working directory, the writing is all that can fail for a file that is there, and then nothing has
been changed.
-/

namespace MouseConfig

/-! ## The file beside a file -/

/-- What has no separator only makes the last part longer. -/
theorem Path.exists_splitOn_append (xs : List Char) {ys : List Char} (h : '/' ∉ ys) :
    ∃ lead last, xs.splitOn '/' = lead ++ [last] ∧ (xs ++ ys).splitOn '/' = lead ++ [last ++ ys] := by
  induction xs with
  | nil => exact ⟨[], [], by simp, by simp [List.splitOn_eq_singleton h]⟩
  | cons c xs ih =>
      obtain ⟨lead, last, hx, hy⟩ := ih
      rw [List.cons_append, List.splitOn_cons_eq_if_modifyHead, List.splitOn_cons_eq_if_modifyHead,
        hx, hy]
      by_cases hc : c == '/'
      · exact ⟨[] :: lead, last, by simp [hc], by simp [hc]⟩
      · cases lead with
        | nil => exact ⟨[], c :: last, by simp [hc], by simp [hc]⟩
        | cons p lead => exact ⟨(c :: p) :: lead, last, by simp [hc], by simp [hc]⟩

namespace FileSystem

variable {fs : FileSystem} {p : Path}

/-- The file beside a file differs in the last piece of its path. -/
theorem exists_pieces_staging (p : Path) :
    ∃ lead last, p.pieces = lead ++ [last] ∧ (staging p).pieces = lead ++ [last ++ ".tmp"] := by
  obtain ⟨lead, last, hp, hs⟩ :=
    Path.exists_splitOn_append p.text.toList (show '/' ∉ ".tmp".toList by decide)
  refine ⟨lead.map String.ofList, String.ofList last, by simp [Path.pieces, hp], ?_⟩
  simp only [Path.pieces, staging, String.toList_append, hs]
  simp [String.ofList_append]

/-- Where a path starts is told by its beginning. -/
theorem start_eq_of_append {q : Path} (h : p.text ≠ "") {rest : String}
    (hq : q.text = p.text ++ rest) : fs.start q = fs.start p := by
  have hp : p.text.toList ≠ [] := by simpa using h
  obtain ⟨c, cs, hc⟩ := List.exists_cons_of_ne_nil hp
  simp [start, Path.isAbsolute, hq, hc]

theorem start_staging (h : p.text ≠ "") : fs.start (staging p) = fs.start p :=
  start_eq_of_append h rfl

/-! ## Ways -/

theorem expectDirectory_eq_ok_iff {l : Location} :
    fs.expectDirectory l = .ok () ↔ fs.get? l = some .directory := by
  rw [expectDirectory]
  rcases fs.get? l with _ | _ | _ | _ <;> simp

theorem walk_cons_eq_ok_iff {l l' : Location} {piece : String} {rest : List String} :
    fs.walk l (piece :: rest) = .ok l' ↔
      fs.get? l = some .directory ∧ piece.utf8ByteSize ≤ nameLimit ∧
        fs.walk (next l piece) rest = .ok l' := by
  rw [walk, ← expectDirectory_eq_ok_iff]
  cases fs.expectDirectory l with
  | error e => simp [bind, Except.bind]
  | ok u =>
      by_cases h : nameLimit < piece.utf8ByteSize
      · simp [bind, Except.bind, h, throw, throwThe, MonadExceptOf.throw, Nat.not_le.mpr h]
      · simp [bind, Except.bind, h, Nat.not_lt.mp h]

/-- The last piece of a way leads on from a directory. -/
theorem walk_concat_eq_ok_iff {l l' : Location} {lead : List String} {last : String} :
    fs.walk l (lead ++ [last]) = .ok l' ↔
      ∃ d, fs.walk l lead = .ok d ∧ fs.get? d = some .directory ∧
        last.utf8ByteSize ≤ nameLimit ∧ next d last = l' := by
  induction lead generalizing l with
  | nil =>
      rw [List.nil_append, walk_cons_eq_ok_iff]
      simp [walk]
  | cons piece lead ih =>
      rw [List.cons_append, walk_cons_eq_ok_iff, ih]
      constructor
      · rintro ⟨hl, hs, d, hd, h⟩
        exact ⟨d, walk_cons_eq_ok_iff.mpr ⟨hl, hs, hd⟩, h⟩
      · rintro ⟨d, hd, h⟩
        obtain ⟨hl, hs, hd⟩ := walk_cons_eq_ok_iff.mp hd
        exact ⟨hl, hs, d, hd, h⟩

/-- A way leads on as long as the directories on it are there. -/
theorem walk_of_directories {fs' : FileSystem} {l l' : Location} {pieces : List String}
    (hd : ∀ k, fs.get? k = some .directory → fs'.get? k = some .directory)
    (h : fs.walk l pieces = .ok l') : fs'.walk l pieces = .ok l' := by
  induction pieces generalizing l with
  | nil => exact h
  | cons piece rest ih =>
      obtain ⟨hl, hs, h⟩ := walk_cons_eq_ok_iff.mp h
      exact walk_cons_eq_ok_iff.mpr ⟨hd l hl, hs, ih h⟩

/-- A new file is in nobody's way. -/
theorem walk_put {l k l' : Location} {e : Entry} {pieces : List String}
    (hk : fs.get? k ≠ some .directory) (h : fs.walk l pieces = .ok l') :
    (fs.put k e).walk l pieces = .ok l' := by
  refine walk_of_directories (fun m hm => ?_) h
  have hne : m ≠ k := fun h => hk (h ▸ hm)
  rw [get?_put_of_ne fs e hne, hm]

/-! ## Ways upwards -/

/-- No file stands above a place. -/
def Clear (fs : FileSystem) (l : Location) : Prop :=
  ∀ k e, k <+: l → k ≠ l → fs.get? k = some e → e = .directory

/-- No file stands on the way to the working directory. -/
def Grounded (fs : FileSystem) : Prop :=
  ∀ l ∈ fs.workingDirectory.inits, ∀ e ∈ fs.get? l, e = .directory

instance (fs : FileSystem) : Decidable fs.Grounded :=
  inferInstanceAs (Decidable (∀ l ∈ fs.workingDirectory.inits, ∀ e ∈ fs.get? l, e = .directory))

theorem Clear.dropLast {l : Location} (h : fs.Clear l) : fs.Clear l.dropLast := by
  intro k e hk hne he
  refine h k e (hk.trans l.dropLast_prefix) ?_ he
  rintro rfl
  exact hne (hk.eq_of_length_le (by simp))

theorem Clear.concat {l : Location} (h : fs.Clear l) (hl : fs.get? l = some .directory)
    (name : String) : fs.Clear (l ++ [name]) := by
  intro k e hk hne he
  rcases List.prefix_concat_iff.mp hk with hk | hk
  · exact absurd hk hne
  · by_cases hkl : k = l
    · rw [hkl, hl] at he
      exact (Option.some.inj he).symm
    · exact h k e hk hkl he

theorem Clear.next {l : Location} (h : fs.Clear l) (hl : fs.get? l = some .directory)
    (piece : String) : fs.Clear (next l piece) := by
  rw [FileSystem.next]
  split
  · exact h
  · split
    · exact h.dropLast
    · exact h.concat hl piece

theorem Clear.walk {l l' : Location} {pieces : List String} (hl : fs.Clear l)
    (h : fs.walk l pieces = .ok l') : fs.Clear l' := by
  induction pieces generalizing l with
  | nil =>
      cases h
      exact hl
  | cons piece rest ih =>
      obtain ⟨hd, -, h⟩ := walk_cons_eq_ok_iff.mp h
      exact ih (hl.next hd piece) h

theorem Grounded.clear_start (h : fs.Grounded) (p : Path) : fs.Clear (fs.start p) := by
  rw [start]
  split
  · intro k e hk hne
    exact absurd (List.prefix_nil.mp hk) hne
  · intro k e hk _ he
    exact h k ((List.mem_inits k _).mpr hk) e he

/-! ## Places of files -/

theorem locate_eq_ok_iff {l : Location} :
    fs.locate p = .ok l ↔ accept p = .ok () ∧ fs.walk (fs.start p) p.pieces = .ok l := by
  rw [locate]
  cases accept p with
  | error e => simp [bind, Except.bind]
  | ok u => simp [bind, Except.bind]

theorem stat_eq_ok_iff {e : Entry} :
    fs.stat p = .ok e ↔ ∃ l, fs.locate p = .ok l ∧ fs.get? l = some e := by
  rw [stat]
  cases fs.locate p with
  | error e => simp [bind, Except.bind]
  | ok l =>
      cases h : fs.get? l with
      | none => simp [bind, Except.bind, h, throw, throwThe, MonadExceptOf.throw]
      | some e => simp [bind, Except.bind, h, pure, Except.pure]

theorem write_eq_ok_iff {content : String} {fs' : FileSystem} :
    fs.write p content = .ok fs' ↔
      ∃ l, fs.locate p = .ok l ∧ fs.get? l ≠ some .directory ∧
        fs.put l (.text content) = fs' := by
  rw [write]
  cases fs.locate p with
  | error e => simp [bind, Except.bind]
  | ok l =>
      by_cases h : fs.get? l = some .directory
      · simp [bind, Except.bind, h, throw, throwThe, MonadExceptOf.throw]
      · simp [bind, Except.bind, h, pure, Except.pure]

theorem accept_eq_ok_iff :
    accept p = .ok () ↔ '\x00' ∉ p.text.toList ∧ p.text ≠ "" ∧ p.text.utf8ByteSize ≤ pathLimit := by
  rw [accept]
  by_cases nul : '\x00' ∈ p.text.toList
  · simp [nul]
  · by_cases empty : p.text = ""
    · simp [empty]
    · by_cases long : pathLimit < p.text.utf8ByteSize
      · simp [nul, empty, long, Nat.not_le.mpr long]
      · simp [nul, empty, long, Nat.not_lt.mp long]

theorem text_ne_of_accept (h : accept p = .ok ()) : p.text ≠ "" := (accept_eq_ok_iff.mp h).2.1

/-- A name that an entry of a directory can have. -/
def Proper (name : String) : Prop := name ≠ "" ∧ name ≠ "." ∧ name ≠ ".."

theorem Proper.next {name : String} (h : Proper name) (d : Location) : next d name = d ++ [name] := by
  simp [FileSystem.next, h.1, h.2.1, h.2.2]

theorem proper_append_tmp (name : String) : Proper (name ++ ".tmp") := by
  have short (t : String) (h : t.toList.length < 4) : name ++ ".tmp" ≠ t := by
    rintro rfl
    simp only [String.toList_append, List.length_append] at h
    exact Nat.not_lt.mpr (Nat.le_add_left _ _) h
  exact ⟨short _ (by decide), short _ (by decide), short _ (by decide)⟩

/-- The last piece of the path to a file is the name of the file. -/
theorem Grounded.proper_of_next {d : Location} {last : String} {e : Entry} (h : fs.Clear d)
    (hd : fs.get? d = some .directory) (he : fs.get? (FileSystem.next d last) = some e)
    (hf : e ≠ .directory) : Proper last := by
  have inside : FileSystem.next d last ≠ d := by
    intro hn
    rw [hn, hd] at he
    exact hf (Option.some.inj he).symm
  refine ⟨?_, ?_, ?_⟩
  · rintro rfl
    exact inside (by simp [FileSystem.next])
  · rintro rfl
    exact inside (by simp [FileSystem.next])
  · rintro rfl
    have up : FileSystem.next d ".." = d.dropLast := by simp [FileSystem.next]
    rw [up] at inside he
    exact hf (h d.dropLast e d.dropLast_prefix inside he)

/-- Where a file is, and where the file beside it goes. -/
theorem Grounded.exists_place {e : Entry} (hg : fs.Grounded) (hs : fs.stat p = .ok e)
    (hf : e ≠ .directory) :
    ∃ lead last d, p.pieces = lead ++ [last] ∧ (staging p).pieces = lead ++ [last ++ ".tmp"] ∧
      Proper last ∧ fs.walk (fs.start p) p.pieces = .ok (d ++ [last]) ∧
      fs.get? (d ++ [last]) = some e ∧
      ∀ l, fs.locate (staging p) = .ok l → l = d ++ [last ++ ".tmp"] := by
  obtain ⟨l, hl, he⟩ := stat_eq_ok_iff.mp hs
  obtain ⟨ha, hw⟩ := locate_eq_ok_iff.mp hl
  obtain ⟨lead, last, hp, ht⟩ := exists_pieces_staging p
  obtain ⟨d, hlead, hd, -, hn⟩ := walk_concat_eq_ok_iff.mp (hp ▸ hw)
  have hproper : Proper last :=
    Grounded.proper_of_next ((hg.clear_start p).walk hlead) hd (hn ▸ he) hf
  rw [hproper.next] at hn
  subst hn
  refine ⟨lead, last, d, hp, ht, hproper, hw, he, fun l hl => ?_⟩
  obtain ⟨-, hl⟩ := locate_eq_ok_iff.mp hl
  rw [ht, start_staging (text_ne_of_accept ha)] at hl
  obtain ⟨d', hlead', -, -, hn⟩ := walk_concat_eq_ok_iff.mp hl
  cases hlead.symm.trans hlead'
  rw [← hn, (proper_append_tmp last).next]

/-! ## Replacement -/

/-- A path to a proper name can be moved to. -/
theorem destination_eq {lead : List String} {last : String} {l : Location}
    (ha : accept p = .ok ()) (hp : p.pieces = lead ++ [last]) (hl : Proper last)
    (hw : fs.walk (fs.start p) p.pieces = .ok l) : fs.destination p = .ok l := by
  have trimmed : (p.pieces.reverse.dropWhile (· = "")).reverse = p.pieces := by
    simp [hp, hl.1]
  have hw' : fs.walk (fs.start p) (lead ++ [last]) = .ok l := hp ▸ hw
  simp only [destination, ha, trimmed]
  simp [hp, hw', hl.2.1, hl.2.2, bind, Except.bind, pure, Except.pure]

/-- Once its new content has been written beside it, a file that is there is replaced. -/
theorem Grounded.replace_eq {e : Entry} {content : String} {staged : FileSystem}
    (hg : fs.Grounded) (hs : fs.stat p = .ok e) (hf : e ≠ .directory)
    (hw : fs.write (staging p) content = .ok staged) :
    ∃ l k, fs.locate p = .ok l ∧ fs.locate (staging p) = .ok k ∧ k ≠ l ∧
      fs.replace p content =
        (.ok (), ((fs.put k (.text content)).erase k).put l (.text content)) := by
  obtain ⟨k, hk, hfree, hput⟩ := write_eq_ok_iff.mp hw
  obtain ⟨lead, last, d, hp, ht, hproper, hwalk, he, htmp⟩ := hg.exists_place hs hf
  obtain ⟨l, hl, -⟩ := stat_eq_ok_iff.mp hs
  obtain ⟨ha, hl'⟩ := locate_eq_ok_iff.mp hl
  cases hwalk.symm.trans hl'
  cases htmp k hk
  have hne : d ++ [last ++ ".tmp"] ≠ d ++ [last] := by
    intro h
    have hlen := congrArg String.length (List.singleton_inj.mp (List.append_cancel_left h))
    simp at hlen
  refine ⟨d ++ [last], d ++ [last ++ ".tmp"], hl, hk, hne, ?_⟩
  have source : staged.locate (staging p) = .ok (d ++ [last ++ ".tmp"]) := by
    obtain ⟨ha', hk'⟩ := locate_eq_ok_iff.mp hk
    exact locate_eq_ok_iff.mpr ⟨ha', hput ▸ walk_put hfree hk'⟩
  have stat : staged.stat (staging p) = .ok (.text content) :=
    stat_eq_ok_iff.mpr ⟨_, source, by rw [← hput, get?_put _ _ (by simp)]⟩
  have target : staged.destination p = .ok (d ++ [last]) :=
    destination_eq ha hp hproper (hput ▸ walk_put hfree hwalk)
  have there : staged.get? (d ++ [last]) ≠ some .directory := by
    rw [← hput, get?_put_of_ne _ _ hne.symm, he]
    simpa using hf
  have moved : staged.move (staging p) p =
      .ok ((staged.erase (d ++ [last ++ ".tmp"])).put (d ++ [last]) (.text content)) := by
    simp [move, source, stat, target, there, bind, Except.bind, pure, Except.pure]
  subst hput
  simp only [replace, hw, moved]

/-- The root is a directory. -/
theorem ne_nil_of_get? {l : Location} (h : fs.get? l ≠ some .directory) : l ≠ [] := by
  rintro rfl
  exact h (get?_root fs)

/-- What is where when the file beside a file has been moved over it. -/
theorem get?_exchange {l k : Location} (hk : k ≠ []) (hl : l ≠ []) (e e' : Entry) (m : Location) :
    (((fs.put k e).erase k).put l e').get? m =
      if m = l then some e' else if m = k then none else fs.get? m := by
  by_cases hml : m = l
  · rw [if_pos hml, hml, get?_put _ _ hl]
  · rw [if_neg hml, get?_put_of_ne _ _ hml]
    by_cases hmk : m = k
    · rw [if_pos hmk, hmk, get?_erase _ hk]
    · rw [if_neg hmk, get?_erase_of_ne _ hmk, get?_put_of_ne _ _ hmk]

/-- A replacement that has begun comes to an exchange of two files. -/
theorem Grounded.exists_exchange {e : Entry} {content : String} {staged : FileSystem}
    (hg : fs.Grounded) (hs : fs.stat p = .ok e) (hf : e ≠ .directory)
    (hw : fs.write (staging p) content = .ok staged) :
    ∃ l k, fs.locate p = .ok l ∧ fs.locate (staging p) = .ok k ∧ fs.get? l = some e ∧
      fs.get? k ≠ some .directory ∧
      (fs.replace p content).2 = ((fs.put k (.text content)).erase k).put l (.text content) ∧
      ∀ m, (fs.replace p content).2.get? m =
        if m = l then some (.text content) else if m = k then none else fs.get? m := by
  obtain ⟨l, k, hl, hk, -, h⟩ := hg.replace_eq hs hf hw
  obtain ⟨k', hk', free, -⟩ := write_eq_ok_iff.mp hw
  cases hk.symm.trans hk'
  obtain ⟨l', hl', he⟩ := stat_eq_ok_iff.mp hs
  cases hl.symm.trans hl'
  have file : fs.get? l ≠ some .directory := by
    rw [he]
    exact fun h => hf (Option.some.inj h)
  refine ⟨l, k, hl, hk, he, free, ?_⟩
  rw [h]
  exact ⟨rfl, get?_exchange (ne_nil_of_get? free) (ne_nil_of_get? file) _ _⟩

/-- A replaced file has the new content, and nothing has changed but it and the file beside it. -/
theorem Grounded.of_replace {e : Entry} {content : String} {fs' : FileSystem}
    (hg : fs.Grounded) (hs : fs.stat p = .ok e) (hf : e ≠ .directory)
    (hr : fs.replace p content = (.ok (), fs')) :
    fs'.stat p = .ok (.text content) ∧
      ∀ l, fs.locate p ≠ .ok l → fs.locate (staging p) ≠ .ok l → fs'.get? l = fs.get? l := by
  cases hw : fs.write (staging p) content with
  | error fault =>
      rw [replace, hw] at hr
      cases hr
  | ok staged =>
      obtain ⟨l, k, hl, hk, he, free, heq, hget⟩ := hg.exists_exchange hs hf hw
      rw [hr] at heq hget
      have same : ∀ m, m ≠ l → m ≠ k → fs'.get? m = fs.get? m := fun m hml hmk => by
        rw [hget, if_neg hml, if_neg hmk]
      refine ⟨?_, fun m hml hmk => same m (fun h => hml (h ▸ hl)) fun h => hmk (h ▸ hk)⟩
      obtain ⟨ha, way⟩ := locate_eq_ok_iff.mp hl
      have start : fs'.start p = fs.start p := by
        rw [show fs' = _ from heq]
        rfl
      refine stat_eq_ok_iff.mpr ⟨l, locate_eq_ok_iff.mpr ⟨ha, ?_⟩, by rw [hget, if_pos rfl]⟩
      rw [start]
      refine walk_of_directories (fun m hm => ?_) way
      rw [same m ?_ fun h => free (h ▸ hm), hm]
      rintro rfl
      exact hf (Option.some.inj (he.symm.trans hm))

/-- After a replacement of a file, done or failed, still no file stands on the way to the working
directory. -/
theorem Grounded.replaced {e : Entry} (hg : fs.Grounded) (hs : fs.stat p = .ok e)
    (hf : e ≠ .directory) (content : String) : (fs.replace p content).2.Grounded := by
  cases hw : fs.write (staging p) content with
  | error fault =>
      have same : (fs.replace p content).2 = fs := by rw [replace, hw]
      rw [same]
      exact hg
  | ok staged =>
      obtain ⟨l, k, -, -, he, -, heq, hget⟩ := hg.exists_exchange hs hf hw
      have directory : (fs.replace p content).2.workingDirectory = fs.workingDirectory := by
        rw [heq]
        rfl
      intro m hm x hx
      rw [directory] at hm
      rw [hget] at hx
      by_cases hml : m = l
      · subst hml
        exact absurd (hg m hm e he) hf
      · rw [if_neg hml] at hx
        by_cases hmk : m = k
        · rw [if_pos hmk] at hx
          cases hx
        · rw [if_neg hmk] at hx
          exact hg m hm x hx

/-- A file that is there is replaced, or nothing is changed. -/
theorem Grounded.replace_error {e : Entry} {content : String} {fault : SystemError}
    (hg : fs.Grounded) (hs : fs.stat p = .ok e) (hf : e ≠ .directory)
    (h : (fs.replace p content).1 = .error fault) : (fs.replace p content).2 = fs := by
  cases hw : fs.write (staging p) content with
  | error fault' => rw [replace, hw]
  | ok staged =>
      obtain ⟨l, k, -, -, -, hr⟩ := hg.replace_eq hs hf hw
      rw [hr] at h
      cases h

end FileSystem

end MouseConfig
