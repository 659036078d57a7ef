import MouseConfig.Proofs.Command.Opening
import MouseConfig.Proofs.Command.Success
import MouseConfig.Proofs.Program.Failure

/-! # What a run leaves alone

A run of the program changes no file but the one that its last word names.  It makes no file and no
directory, and removes none but the file that stands where the new content is written first.
-/

namespace MouseConfig

/-- What a run whose last word is given may make of the files: nothing else than they were, or new
content of the file that the word names, and nothing where it has been written first. -/
inductive FileSystem.Edited (fs : FileSystem) (last? : Option String) : FileSystem → Prop
  | untouched : Edited fs last? fs
  | replaced {fs' : FileSystem} {last old new : String} {l k : Location} (hlast : last? = some last)
      (hl : fs.locate ⟨last⟩ = .ok l) (hk : fs.locate (staging ⟨last⟩) = .ok k)
      (file : fs.get? l = some (.text old)) (free : fs.get? k ≠ some .directory)
      (written : fs'.get? l = some (.text new)) (gone : fs'.get? k = none)
      (same : ∀ m, m ≠ l → m ≠ k → fs'.get? m = fs.get? m) : Edited fs last? fs'

theorem FileSystem.Edited.mono {fs fs' : FileSystem} {last? last?' : Option String}
    (h : fs.Edited last? fs') (hl : ∀ last, last? = some last → last?' = some last) :
    fs.Edited last?' fs' := by
  cases h with
  | untouched => exact .untouched
  | replaced hlast hp hk file free written gone same =>
      exact .replaced (hl _ hlast) hp hk file free written gone same

/-- A replacement of a text that comes to its end. -/
theorem FileSystem.Replacement.edited {fs fs' : FileSystem} {last old new : String}
    (hs : fs.stat ⟨last⟩ = .ok (.text old)) (h : fs.Replacement ⟨last⟩ new (.ok ()) fs') :
    fs.Edited (some last) fs' := by
  obtain ⟨k, l, hk, hl, hne, get⟩ := h.exists_place
  obtain ⟨l', hl', file⟩ := stat_eq_ok_iff.mp hs
  cases hl.symm.trans hl'
  have gone : fs'.get? k = none := by rw [get, if_neg hne, if_pos rfl]
  have free : fs.get? k ≠ some .directory := by
    intro hd
    exact absurd (gone.symm.trans ((h.sameDirectories.there k).mpr hd)) nofun
  refine .replaced rfl hl hk file free (by rw [get, if_pos rfl]) gone fun m hm hm' => ?_
  rw [get, if_neg hm, if_neg hm']

/-! ## The words of the arguments -/

namespace Options

variable {o o' : Options}

theorem words_setVerbosity {v : Verbosity} (h : o.setVerbosity v = .ok o') : o'.words = o.words := by
  rw [setVerbosity] at h
  split at h
  · cases h
    rfl
  · cases h

theorem words_setHelp (h : o.setHelp = .ok o') : o'.words = o.words := by
  rw [setHelp] at h
  split at h
  · cases h
  · cases h
    rfl

theorem words_setDetail {value : List Char} (h : o.setDetail value = .ok o') :
    o'.words = o.words := by
  rw [setDetail] at h
  cases hv : o.setVerbosity .verbose with
  | error f => simp [hv, bind, Except.bind] at h
  | ok o'' =>
      rw [← words_setVerbosity hv]
      simp only [hv, bind, Except.bind] at h
      split at h
      · cases h
        rfl
      · split at h
        · cases h
          rfl
        · cases h

theorem words_setShort {shorts : List Short} (h : o.setShort shorts = .ok o') :
    o'.words = o.words := by
  induction shorts generalizing o with
  | nil =>
      cases h
      rfl
  | cons short rest ih =>
      cases short with
      | version => cases h
      | help =>
          rw [setShort] at h
          cases hh : o.setHelp with
          | error f => simp [hh, bind, Except.bind] at h
          | ok o'' =>
              simp only [hh, bind, Except.bind] at h
              rw [ih h, words_setHelp hh]

/-- Options set no words. -/
theorem words_take? {word : List Char} (h : o.take? word = some (.ok o')) : o'.words = o.words := by
  unfold take? at h
  split at h
  · split at h
    · exact words_setVerbosity (Option.some.inj h)
    · split at h
      · exact words_setHelp (Option.some.inj h)
      · split at h
        · cases h
        · split at h
          · exact words_setDetail (Option.some.inj h)
          · split at h <;> cases h
  · obtain ⟨shorts, -, h⟩ := Option.map_eq_some_iff.mp h
    exact words_setShort h
  · cases h

theorem words_suffix_of_readFrom {args : List String} (h : o.readFrom args = .ok o')
    (ho : o.words = []) : o'.words <:+ args := by
  induction args generalizing o with
  | nil =>
      cases h
      rw [ho]
  | cons word rest ih =>
      unfold readFrom at h
      split at h
      · next none => cases none
      · next same =>
          cases same
          cases h
          exact List.suffix_cons _ _
      · next same =>
          cases same
          split at h
          · cases h
            exact List.suffix_refl _
          · cases h
          · next o'' taken =>
              exact (ih h ((words_take? taken).trans ho)).trans (List.suffix_cons word rest)

/-- The words of the command are what is left of the arguments. -/
theorem words_suffix {args : List String} (h : read args = .ok o) : o.words <:+ args :=
  words_suffix_of_readFrom h rfl

end Options

/-! ## Runs -/

namespace Program

/-- A line that succeeds commits to the file of its last word, if at all. -/
theorem edited_of_success {store : FileStore} {v : Verbosity} {words : List String}
    (h : (Commands.tree.run store v words).failure = none) :
    store.files.Edited words.getLast? (Commands.tree.run store v words).released.service.files := by
  rcases Commands.released_of_success h with ⟨-, same, -⟩ | ⟨path, d, result, ha, hs⟩
  · rw [same]
    exact .untouched
  · cases result with
    | none =>
        rw [hs.1]
        exact .untouched
    | some d' =>
        obtain ⟨w, rest, last, c, hw, rfl, hd, -, -⟩ := ha
        obtain ⟨ok, hservice, -⟩ := hs
        obtain ⟨old, hold, -⟩ := FileStore.load_eq_ok_iff.mp hd
        obtain ⟨new, -, hr⟩ := FileStore.exists_text_of_commit ok
        have replacement := store.files.replacement ⟨last⟩ new
        rw [hr] at replacement
        have last_eq : words.getLast? = some last := by simp [hw]
        rw [hservice, last_eq]
        exact replacement.edited hold

theorem edited_run {c : Config} {o : Options} {fs : FileSystem} (hg : fs.Grounded) :
    fs.Edited o.words.getLast? (run c o fs).files := by
  rw [run]
  split
  · exact .untouched
  · cases hf : (Commands.tree.run (store c fs) o.verbosity o.words).failure with
    | none => exact edited_of_success hf
    | some e =>
        have steady : Steady (store c fs) := FileStore.steady hg
        have same := (service_eq_of_failure steady hf).2
        dsimp only
        rw [same]
        exact .untouched

theorem edited_execute {e : Environment} {filter : Option String} {args : List String}
    {fs : FileSystem} (hg : fs.Grounded) :
    fs.Edited args.getLast? (execute e filter args fs).files := by
  rw [execute]
  cases ho : Options.read args with
  | error f =>
      dsimp only
      split <;> exact .untouched
  | ok o =>
      dsimp only
      rw [runWith]
      dsimp only
      split
      · exact .untouched
      · split
        · exact .untouched
        · refine (edited_run hg).mono fun last hl => ?_
          exact getLast?_of_suffix (Options.words_suffix ho) hl

/-- Whatever the configuration, the arguments and the files are, a run changes no other file than the
one of its last word, and makes none; only where it commits, a file that stands in the place of the
new content is lost. -/
theorem changes_only_last :
    (∀ (c : Config) (o : Options) (fs : FileSystem), fs.Grounded →
      fs.Edited o.words.getLast? (run c o fs).files) ∧
    ∀ (e : Environment) (filter : Option String) (args : List String) (fs : FileSystem),
      fs.Grounded → fs.Edited args.getLast? (execute e filter args fs).files :=
  ⟨fun _ _ _ => edited_run, fun _ _ _ _ => edited_execute⟩

/-- A file that happens to stand where the new content of `m` is written first is lost. -/
theorem loses_file_beside :
    let text := "name = 'M'\ncapabilities = ['switchable-resolution']\n[[profile]]\nactive = true\n" ++
      "[[profile.resolution]]\ndpi = 800\nactive = true\n"
    let fs : FileSystem := { entries := [(["m"], .text text), (["m.tmp"], .text "old")] }
    fs.locate ⟨"m"⟩ = .ok ["m"] ∧ fs.get? ["m.tmp"] = some (.text "old") ∧
      (execute {} none ["dpi", "set", "900", "m"] fs).files.get? ["m.tmp"] = none := by
  decide +kernel

/-- A dpi setting, and a line that is refused, where there are other files. -/
theorem changes_only_last_among_others :
    let text := "name = 'M'\ncapabilities = ['switchable-resolution']\n[[profile]]\nactive = true\n" ++
      "[[profile.resolution]]\ndpi = 800\nactive = true\n"
    let fs : FileSystem := {
      entries := [(["m"], .text text), (["n"], .text text), (["d"], .directory)] }
    fs.Edited (some "m") (run {} { words := ["dpi", "set", "900", "m"] } fs).files ∧
      fs.Edited (some "d") (execute {} none ["--verbose", "dpi", "set", "900", "d"] fs).files := by
  intro text fs
  have grounded : fs.Grounded := by decide
  exact ⟨changes_only_last.1 {} { words := ["dpi", "set", "900", "m"] } fs grounded,
    changes_only_last.2 {} none ["--verbose", "dpi", "set", "900", "d"] fs grounded⟩

end Program

end MouseConfig
