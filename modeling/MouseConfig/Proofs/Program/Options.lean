import MouseConfig.Program

/-! # Where the options end

Options are read from the front until a word is none.  All that stands behind them is dispatched,
whatever its words look like, unless help is asked for: then nothing is.
-/

namespace MouseConfig

namespace Options

variable {o o' : Options} {word : String} {front words : List String}

/-- The words that ask for help. -/
def helpWords : List String := ["-h", "--help"]

/-- The verbosity that a word asks for. -/
def detail? : String → Option Verbosity
  | "--verbose" | "--verbose=debug" => some .verbose
  | "--verbose=raw" => some .raw
  | _ => none

/-- Options in any order, each of them at most once. -/
structure Front (front : List String) : Prop where
  known : ∀ word ∈ front, word ∈ helpWords ∨ (detail? word).isSome
  help_once : (front.filter (· ∈ helpWords)).length ≤ 1
  detail_once : (front.filterMap detail?).length ≤ 1

/-- No dash comes first.  The words after the first one may start as they like. -/
def Undashed (words : List String) : Prop := words.head?.bind (·.toList.head?) ≠ some '-'

instance : Decidable (Undashed words) := inferInstanceAs (Decidable (_ ≠ _))

/-! ## One word -/

theorem take?_of_help (h : word ∈ helpWords) : o.take? word.toList = some o.setHelp := by
  obtain rfl | rfl : word = "-h" ∨ word = "--help" := by simpa [helpWords] using h
  · have set : o.setShort [.help] = o.setHelp := by
      rw [setShort]
      cases o.setHelp <;> rfl
    exact congrArg some set
  · rfl

theorem take?_of_detail {v : Verbosity} (h : detail? word = some v) :
    o.take? word.toList = some (o.setVerbosity v) := by
  unfold detail? at h
  split at h
  · cases h
    rfl
  · cases h
    have set : o.setDetail "debug".toList = o.setVerbosity .verbose := by
      rw [setDetail]
      cases o.setVerbosity .verbose <;> rfl
    exact congrArg some set
  · cases h
    have set : o.setDetail "raw".toList = o.setVerbosity .raw := by
      rw [setDetail, setVerbosity, setVerbosity]
      split <;> rfl
    exact congrArg some set
  · cases h

theorem detail?_of_help (h : word ∈ helpWords) : detail? word = none := by
  obtain rfl | rfl : word = "-h" ∨ word = "--help" := by simpa [helpWords] using h
  all_goals rfl

theorem take?_of_undashed (h : word.toList.head? ≠ some '-') : o.take? word.toList = none := by
  unfold take?
  split
  · next same => exact absurd (congrArg List.head? same) h
  · next same => exact absurd (congrArg List.head? same) h
  · rfl

theorem readFrom_cons (h : o.take? word.toList = some (.ok o')) :
    o.readFrom (word :: words) = o'.readFrom words := by
  rw [readFrom.eq_def]
  split
  · next none => cases none
  · next same =>
      cases same
      cases h
  · next same =>
      cases same
      rw [h]

theorem readFrom_of_undashed (h : Undashed words) (ho : o.words = []) :
    o.readFrom words = .ok { o with words } := by
  cases words with
  | nil => rw [readFrom, ← ho]
  | cons word rest =>
      have undashed : word.toList.head? ≠ some '-' := h
      rw [readFrom.eq_def]
      split
      · next none => cases none
      · next same =>
          cases same
          exact absurd rfl undashed
      · next same =>
          cases same
          rw [take?_of_undashed undashed]

/-! ## All words -/

/-- Each option that has been read leaves no room for another one of its kind, so that the bounds on
the words in front go down from one to zero. -/
theorem readFrom_append (hw : Undashed words) (ho : o.words = [])
    (known : ∀ word ∈ front, word ∈ helpWords ∨ (detail? word).isSome)
    (help : (front.filter (· ∈ helpWords)).length ≤ if o.help then 0 else 1)
    (detail : (front.filterMap detail?).length ≤ if o.verbosity = .normal then 1 else 0) :
    o.readFrom (front ++ words) = .ok
      { verbosity := (front.findSome? detail?).getD o.verbosity
        help := o.help || front.any (· ∈ helpWords)
        words } := by
  induction front generalizing o with
  | nil => simpa using readFrom_of_undashed hw ho
  | cons word front ih =>
      rw [List.cons_append]
      have rest (w) (hm : w ∈ front) := known w (List.mem_cons_of_mem word hm)
      rcases known word List.mem_cons_self with asks | asks
      · have silent := detail?_of_help asks
        have unset : o.help = false := by
          cases hh : o.help with
          | false => rfl
          | true => simp [asks, hh] at help
        have taken : o.take? word.toList = some (.ok { o with help := true }) := by
          rw [take?_of_help asks, setHelp, unset]
          rfl
        rw [readFrom_cons taken, ih (o := { o with help := true }) ho rest
          (by simpa [asks, unset] using help) (by simpa [silent] using detail)]
        simp [asks, silent]
      · obtain ⟨v, hv⟩ := Option.isSome_iff_exists.mp asks
        have other : word ∉ helpWords := by
          intro h
          rw [detail?_of_help h] at hv
          cases hv
        have unset : o.verbosity = .normal :=
          Decidable.byContradiction fun set => by simp [hv, set] at detail
        have taken : o.take? word.toList = some (.ok { o with verbosity := v }) := by
          rw [take?_of_detail hv, setVerbosity, if_pos unset]
        have last : front.filterMap detail? = [] := by simpa [hv, unset] using detail
        rw [readFrom_cons taken, ih (o := { o with verbosity := v }) ho rest
          (by simpa [other] using help) (by simp [last]), ← List.head?_filterMap, last]
        simp [other, hv]

theorem read_append (h : Front front) (hw : Undashed words) :
    read (front ++ words) = .ok
      { verbosity := (front.findSome? detail?).getD .normal
        help := front.any (· ∈ helpWords)
        words } :=
  readFrom_append hw rfl h.known h.help_once h.detail_once

end Options

/-! ## Runs -/

namespace Program

/-- The line that a run dispatches, if it does. -/
def dispatched? (c : Config) (o : Options) (fs : FileSystem) : Option (Line FileStore) :=
  if o.help then none else some (Commands.tree.run (store c fs) o.verbosity o.words)

variable {c : Config} {o : Options} {fs : FileSystem}

theorem dispatched?_of_help (h : o.help = true) : dispatched? c o fs = none := if_pos h

theorem dispatched?_of_no_help (h : o.help = false) :
    dispatched? c o fs = some (Commands.tree.run (store c fs) o.verbosity o.words) :=
  if_neg (Bool.eq_false_iff.mp h)

/-- What a run comes to that dispatches a line. -/
def Outcome.ofLine (line : Line FileStore) : Outcome where
  exitCode := (line.failure.map CommandError.exitCode).getD 0
  output := line.released.output
  log := line.released.log
  report := (line.failure.map errorReport).getD ""
  files := line.released.service.files

theorem run_eq (c : Config) (o : Options) (fs : FileSystem) :
    run c o fs = (dispatched? c o fs).elim
      { exitCode := 0, output := Usage.text Commands.tree, files := fs } Outcome.ofLine := by
  rw [run, dispatched?]
  split <;> rfl

/-- All calls to the store of devices. -/
def calls (c : Config) (o : Options) (fs : FileSystem) : List Call :=
  (dispatched? c o fs).elim [] (·.released.calls)

/-- The options end where the command starts.  What follows is dispatched word by word, also where it
looks like options; with help, nothing is dispatched and the store is not called. -/
theorem options_end_at_command {front words : List String} (h : Options.Front front)
    (hw : Options.Undashed words) :
    ∃ o : Options, Options.read (front ++ words) = .ok o ∧ o.words = words ∧
      (o.help = true ↔ ∃ word ∈ front, word ∈ Options.helpWords) ∧
      o.verbosity = (front.findSome? Options.detail?).getD .normal ∧
      ∀ (c : Config) (fs : FileSystem),
        (o.help = false →
          dispatched? c o fs = some (Commands.tree.run (store c fs) o.verbosity words) ∧
          run c o fs = .ofLine (Commands.tree.run (store c fs) o.verbosity words)) ∧
        (o.help = true →
          run c o fs = { exitCode := 0, output := Usage.text Commands.tree, files := fs } ∧
          calls c o fs = []) := by
  refine ⟨_, Options.read_append h hw, rfl, by simp, rfl, fun c fs => ⟨fun off => ?_, fun on => ?_⟩⟩
  · rw [run_eq, dispatched?_of_no_help off]
    exact ⟨rfl, rfl⟩
  · rw [run_eq, calls, dispatched?_of_help on]
    exact ⟨rfl, rfl⟩

/-- Words behind a command that repeat an option, end the options or ask for help. -/
theorem options_end_at_command_before_dashes :
    let words := ["change-button", "--verbose=raw", "--", "-h", "--help", "m"]
    Options.Front ["--help", "--verbose=raw"] ∧ Options.Undashed words ∧
      ∃ o : Options, Options.read (["--help", "--verbose=raw"] ++ words) = .ok o ∧
        o.words = words ∧ o.verbosity = .raw ∧ run {} o {} =
          { exitCode := 0, output := Usage.text Commands.tree, files := {} } := by
  intro words
  have front : Options.Front ["--help", "--verbose=raw"] := ⟨by decide, by decide, by decide⟩
  have undashed : Options.Undashed words := by decide
  obtain ⟨o, read, same, help, verbosity, runs⟩ := options_end_at_command front undashed
  exact ⟨front, undashed, o, read, same, verbosity, ((runs {} {}).2 (help.mpr (by decide))).1⟩

end Program

end MouseConfig
