import MouseConfig.Program
import MouseConfig.Proofs.Command.Lines
import MouseConfig.Proofs.Files.Scan
import MouseConfig.Proofs.Files.Store

/-! # The listing of devices

A listing shows the devices that can be opened in the configured directory.  What the directory holds
apart from them makes no difference.
-/

namespace MouseConfig

/-! ## Listings on any service -/

section

variable {σ : Type} [DeviceService σ] {service : σ} {paths : List Path}

theorem Commands.run_list (hd : DeviceService.discover service = .ok paths) (v : Verbosity) :
    (tree.run service v ["list"]).failure = none ∧
    (tree.run service v ["list"]).released.output =
      Task.listingText (paths.filterMap (Task.listing? (loader service))) ∧
    (tree.run service v ["list"]).released.service = service := by
  have arrival : tree.root.arrival? (Session.start service v ["list"]) =
      some ⟨.list, "list", {}, []⟩ := arrival?_eq_some_iff.mpr (.inl ⟨[], rfl, rfl⟩)
  have run := tree.root.run_dispatch_start service v ["list"]
  rw [arrival] at run
  obtain ⟨s, ⟨rfl, silent, -⟩, -, args, run⟩ := run
  obtain ⟨log, listed⟩ := @Task.run_list_of_discovered σ _ s "list" paths args hd
  have after := Session.after_of_ok (run.trans listed)
  obtain ⟨log', released⟩ := tree.exists_released s.service v ["list"]
  rw [released]
  simp only [Tree.run, after, Session.grown, silent, String.empty_append, and_self]

end

namespace Program

variable {c : Config} {fs : FileSystem} {l : Location} {name : String} {d : Device} {v : Verbosity}

/-- A run of the listing. -/
def list (c : Config) (v : Verbosity) (fs : FileSystem) : Outcome :=
  run c { verbosity := v, words := ["list"] } fs

/-- The listing, in terms of what is found where devices are looked for. -/
theorem list_eq (c : Config) (v : Verbosity) (fs : FileSystem) :
    (list c v fs).exitCode = 0 ∧ (list c v fs).files = fs ∧ (list c v fs).output =
      Task.listingText ((fs.scan c.effectiveInputDir c.effectivePrefix).filterMap
        (Task.listing? (loader (store c fs)))) := by
  have discovered : DeviceService.discover (store c fs) =
      .ok (fs.scan c.effectiveInputDir c.effectivePrefix) := rfl
  obtain ⟨done, output, same⟩ := Commands.run_list discovered v
  refine ⟨?_, congrArg FileStore.files same, output⟩
  simp [list, run, done]

/-! ## What is shown -/

/-- A name and a device that a listing shows: the device is described by a file of that name in the
directory, and the path of the file is not too long for it to be opened. -/
structure Shown (c : Config) (fs : FileSystem) (name : String) (d : Device) : Prop where
  named : c.effectivePrefix.toList <+: name.toList
  described : ∃ l content, fs.locate c.effectiveInputDir = .ok l ∧
    fs.get? l = some .directory ∧ fs.get? (l ++ [name]) = some (.text content) ∧
    Device.ofDescription content = .ok d
  short : (c.effectiveInputDir.join name).text.utf8ByteSize ≤ FileSystem.pathLimit

/-- A path into the directory opens to the device of the entry, if it is not too long. -/
theorem load_join_eq_ok_iff (hl : fs.locate c.effectiveInputDir = .ok l)
    (hd : fs.get? l = some .directory) (hn : FileSystem.Acceptable name) :
    loader (store c fs) (c.effectiveInputDir.join name) = .ok d ↔
      (c.effectiveInputDir.join name).text.utf8ByteSize ≤ FileSystem.pathLimit ∧
      ∃ content, fs.get? (l ++ [name]) = some (.text content) ∧
        Device.ofDescription content = .ok d := by
  have loads : loader (store c fs) (c.effectiveInputDir.join name) = .ok d ↔
      ∃ content, fs.stat (c.effectiveInputDir.join name) = .ok (.text content) ∧
        Device.ofDescription content = .ok d := FileStore.load_eq_ok_iff
  rw [loads]
  constructor
  · rintro ⟨content, there, described⟩
    obtain ⟨m, hm, there⟩ := FileSystem.stat_eq_ok_iff.mp there
    have short := FileSystem.size_le_of_accept (FileSystem.locate_eq_ok_iff.mp hm).1
    cases hm.symm.trans (FileSystem.locate_join hl hd hn short)
    exact ⟨short, content, there, described⟩
  · rintro ⟨short, content, there, described⟩
    have way := FileSystem.locate_join hl hd hn short
    exact ⟨content, FileSystem.stat_eq_ok_iff.mpr ⟨_, way, there⟩, described⟩

/-- In a directory, the names of entries are acceptable, so that the paths made of them lead back to
the entries: what is shown is what opens. -/
theorem shown_iff (h : fs.Named) (hl : fs.locate c.effectiveInputDir = .ok l)
    (hd : fs.get? l = some .directory) :
    Shown c fs name d ↔
      (c.effectivePrefix.toList <+: name.toList ∧ ∃ e, fs.get? (l ++ [name]) = some e) ∧
        loader (store c fs) (c.effectiveInputDir.join name) = .ok d := by
  have acceptable {e : Entry} (there : fs.get? (l ++ [name]) = some e) :=
    h.acceptable (FileSystem.mem_names_iff.mpr ⟨e, there⟩)
  constructor
  · rintro ⟨named, ⟨m, content, hm, -, there, described⟩, short⟩
    cases hl.symm.trans hm
    have loaded := (load_join_eq_ok_iff hl hd (acceptable there)).mpr
      ⟨short, content, there, described⟩
    exact ⟨⟨named, _, there⟩, loaded⟩
  · rintro ⟨⟨named, e, there⟩, loaded⟩
    obtain ⟨short, content, there, described⟩ :=
      (load_join_eq_ok_iff hl hd (acceptable there)).mp loaded
    exact ⟨named, ⟨l, content, hl, hd, there, described⟩, short⟩

/-- A name in the directory with the device that its path opens to. -/
def opened? (c : Config) (fs : FileSystem) (name : String) : Option (String × Device) :=
  (loader (store c fs) (c.effectiveInputDir.join name)).toOption.map fun d => (name, d)

theorem opened?_eq_some_iff {n : String} : opened? c fs n = some (name, d) ↔
    n = name ∧ loader (store c fs) (c.effectiveInputDir.join n) = .ok d := by
  rw [opened?]
  cases loader (store c fs) (c.effectiveInputDir.join n) <;> simp [Except.toOption]

/-- What is shown, in the order of the names. -/
theorem exists_found (h : fs.Named) (c : Config) :
    ∃ found : List (String × Device),
      (∀ name d, (name, d) ∈ found ↔ Shown c fs name d) ∧
      found.Pairwise (fun e f => e.1 < f.1) ∧
      (fs.scan c.effectiveInputDir c.effectivePrefix).filterMap
        (Task.listing? (loader (store c fs))) =
          found.map fun e => (c.effectiveInputDir.join e.1, e.2.name) := by
  by_cases directory : ∃ l, fs.locate c.effectiveInputDir = .ok l ∧ fs.get? l = some .directory
  · obtain ⟨l, hl, hd⟩ := directory
    obtain ⟨names, scanned, sorted, mem⟩ :=
      FileSystem.exists_names_of_scan hl hd c.effectivePrefix
    refine ⟨names.filterMap (opened? c fs), fun name d => ?_, ?_, ?_⟩
    · rw [shown_iff h hl hd, ← mem]
      simp [List.mem_filterMap, opened?_eq_some_iff]
    · refine List.pairwise_filterMap.mpr (sorted.imp fun lower e he f hf => ?_)
      obtain ⟨rfl, -⟩ := opened?_eq_some_iff.mp he
      obtain ⟨rfl, -⟩ := opened?_eq_some_iff.mp hf
      exact lower
    · rw [scanned, List.filterMap_map, List.map_filterMap]
      refine congrArg (names.filterMap ·) (funext fun name => ?_)
      simp [Task.listing?, opened?, Function.comp_def]
  · have elsewhere (l) (hl : fs.locate c.effectiveInputDir = .ok l) :
        fs.get? l ≠ some .directory := fun hd => directory ⟨l, hl, hd⟩
    refine ⟨[], fun name d => ?_, .nil, by rw [FileSystem.scan_eq_nil elsewhere]; rfl⟩
    constructor
    · intro none
      cases none
    · intro shown
      obtain ⟨l, -, hl, hd, -⟩ := shown.described
      exact absurd ⟨l, hl, hd⟩ directory

/-! ## What is printed -/

def noDevices : String := "No supported devices found\n"

/-- A line for each device, in their order. -/
def listing (c : Config) (found : List (String × Device)) : String :=
  if found.isEmpty then noDevices
  else Text.unlines (found.map fun e => s!"{(c.effectiveInputDir.join e.1).text}:\t{e.2.name}")

theorem listingText_map (c : Config) (found : List (String × Device)) :
    Task.listingText (found.map fun e => (c.effectiveInputDir.join e.1, e.2.name)) =
      listing c found := by
  rw [Task.listingText, listing, List.isEmpty_map, List.map_map]
  rfl

theorem listing_eq_noDevices_iff {found : List (String × Device)} :
    listing c found = noDevices ↔ found = [] := by
  constructor
  · intro same
    cases found with
    | nil => rfl
    | cons e rest =>
        have tab : '\t' ∈ (listing c (e :: rest)).toList := by
          simp only [listing, List.isEmpty_cons, Bool.false_eq_true, if_false, List.map_cons,
            Text.unlines_cons, String.toList_append, List.mem_append]
          exact .inl (.inl (.inl (.inr (by decide))))
        rw [same] at tab
        exact absurd tab (by decide)
  · rintro rfl
    rfl

/-- Lists in the strict order of the names are the same if they have the same members. -/
theorem eq_of_mem_iff {found found' : List (String × Device)}
    (sorted : found.Pairwise fun e f => e.1 < f.1) (sorted' : found'.Pairwise fun e f => e.1 < f.1)
    (same : ∀ e, e ∈ found ↔ e ∈ found') : found = found' := by
  have distinct {es : List (String × Device)} (h : es.Pairwise fun e f => e.1 < f.1) : es.Nodup :=
    h.imp fun {e f} lower => by
      rintro rfl
      exact String.lt_irrefl _ lower
  have perm := (List.perm_ext_iff_of_nodup (distinct sorted) (distinct sorted')).mpr same
  refine perm.eq_of_pairwise (fun e f _ _ lower higher => ?_) sorted sorted'
  exact absurd higher (String.lt_asymm lower)

theorem output_list {found : List (String × Device)}
    (texts : (fs.scan c.effectiveInputDir c.effectivePrefix).filterMap
      (Task.listing? (loader (store c fs))) =
        found.map fun e => (c.effectiveInputDir.join e.1, e.2.name)) (v : Verbosity) :
    (list c v fs).output = listing c found := by
  rw [(list_eq c v fs).2.2, texts, listingText_map]

theorem output_list_eq_noDevices_iff (h : fs.Named) :
    (list c v fs).output = noDevices ↔ ∀ name d, ¬ Shown c fs name d := by
  obtain ⟨found, mem, -, texts⟩ := exists_found h c
  rw [output_list texts, listing_eq_noDevices_iff, List.eq_nil_iff_forall_not_mem, Prod.forall]
  exact forall₂_congr fun name d => not_congr (mem name d)

/-- A listing shows exactly the devices that are described by files in the directory, each one once
and in the order of the bytes of their names.  Nothing else makes a difference to it. -/
theorem list_shows_devices (h : fs.Named) (c : Config) (v : Verbosity) :
    (list c v fs).exitCode = 0 ∧ (list c v fs).files = fs ∧
    (∃ found : List (String × Device),
      (∀ name d, (name, d) ∈ found ↔ Shown c fs name d) ∧
      found.Pairwise (fun e f => Text.bytes e.1 < Text.bytes f.1) ∧
      (list c v fs).output = listing c found) ∧
    ((list c v fs).output = noDevices ↔ ∀ name d, ¬ Shown c fs name d) ∧
    ((∀ l, fs.locate c.effectiveInputDir = .ok l → fs.get? l ≠ some .directory) →
      (list c v fs).output = noDevices) ∧
    ∀ fs' : FileSystem, fs'.Named → (∀ name d, Shown c fs' name d ↔ Shown c fs name d) →
      (list c v fs').output = (list c v fs).output ∧
      (list c v fs').exitCode = (list c v fs).exitCode := by
  obtain ⟨code, files, -⟩ := list_eq c v fs
  obtain ⟨found, mem, sorted, texts⟩ := exists_found h c
  have nothing := output_list_eq_noDevices_iff (c := c) (v := v) h
  refine ⟨code, files, ⟨found, mem, sorted.imp Text.bytes_lt, output_list texts v⟩, nothing,
    fun elsewhere => ?_, fun fs' h' same => ?_⟩
  · refine nothing.mpr fun name d shown => ?_
    obtain ⟨l, -, hl, hd, -⟩ := shown.described
    exact elsewhere l hl hd
  · obtain ⟨found', mem', sorted', texts'⟩ := exists_found h' c
    have equal : found' = found := eq_of_mem_iff sorted' sorted fun ⟨name, d⟩ => by
      rw [mem', mem, same]
    rw [output_list texts', output_list texts, equal, code, (list_eq c v fs').1]
    exact ⟨rfl, rfl⟩

/-- Entries of all kinds, of which one is shown. -/
theorem list_shows_devices_among_others :
    let fs : FileSystem := {
      entries := [(["d"], .directory), (["d", "event0"], .text "name = 'M'\n"),
        (["d", "event1"], .directory), (["d", "event2"], .binary [255]),
        (["d", "event3"], .text "name"), (["d", "mouse0"], .text "name = 'N'\n")] }
    let c : Config := { inputDir := some ⟨"d"⟩ }
    fs.Named ∧ Shown c fs "event0" { name := "M" } ∧ (list c .normal fs).exitCode = 0 ∧
      (list c .normal fs).output ≠ noDevices := by
  intro fs c
  have named : fs.Named := by decide
  have described : Device.ofDescription "name = 'M'\n" = .ok { name := "M" } := by decide +kernel
  have shown : Shown c fs "event0" { name := "M" } :=
    ⟨by decide, ⟨["d"], _, by decide, by decide, by decide, described⟩, by decide⟩
  obtain ⟨code, -, -, nothing, -⟩ := list_shows_devices named c .normal
  exact ⟨named, shown, code, fun none => nothing.mp none _ _ shown⟩

/-! ## Paths that are too long -/

/-- A text with slashes behind it. -/
def slashed (text : String) : Nat → String
  | 0 => text
  | n + 1 => slashed text n ++ "/"

theorem size_slashed (text : String) (n : Nat) :
    (slashed text n).utf8ByteSize = text.utf8ByteSize + n := by
  induction n with
  | zero => rfl
  | succ n ih =>
      have slash : "/".utf8ByteSize = 1 := by decide
      rw [slashed, String.utf8ByteSize_append, ih, slash, Nat.add_assoc]

theorem locate_slashed {text : String} {n : Nat} (hl : fs.locate ⟨text⟩ = .ok l)
    (hd : fs.get? l = some .directory)
    (short : text.utf8ByteSize + n ≤ FileSystem.pathLimit) :
    fs.locate ⟨slashed text n⟩ = .ok l := by
  induction n with
  | zero => exact hl
  | succ n ih =>
      have within : (slashed text n ++ "/").utf8ByteSize ≤ FileSystem.pathLimit := by
        rw [← slashed, size_slashed]
        exact short
      exact FileSystem.locate_slash (ih (by omega)) hd within

/-- The directory can be listed, but the path of the device in it is too long for it to be opened. -/
theorem list_skips_long_path :
    let fs : FileSystem := {
      entries := [(["d"], .directory), (["d", "event0"], .text "name = \"M\"\n")] }
    let c : Config := { inputDir := some ⟨slashed "d" 4090⟩, nodePrefix := some "event" }
    fs.Named ∧ fs.locate c.effectiveInputDir = .ok ["d"] ∧ fs.get? ["d"] = some .directory ∧
      c.effectivePrefix.toList <+: "event0".toList ∧
      fs.get? (["d"] ++ ["event0"]) = some (.text "name = \"M\"\n") ∧
      Device.ofDescription "name = \"M\"\n" = .ok { name := "M" } ∧
      (list c .normal fs).output = noDevices := by
  intro fs c
  have named : fs.Named := by decide
  refine ⟨named, locate_slashed (by decide) (by decide) (by decide), by decide, by decide, by decide,
    by decide +kernel, (output_list_eq_noDevices_iff named).mpr fun name d shown => ?_⟩
  have size : c.effectiveInputDir.text.utf8ByteSize = "d".utf8ByteSize + 4090 := size_slashed "d" 4090
  have lettered : c.effectiveInputDir.text ≠ "" := by
    intro empty
    rw [empty] at size
    exact absurd size (by decide)
  -- The letters that the name starts with are enough to exceed the limit.
  obtain ⟨rest, hrest⟩ := shown.named
  have word : name = "event" ++ String.ofList rest :=
    String.toList_injective (by simpa [c, Config.effectivePrefix] using hrest.symm)
  have long := FileSystem.size_le_size_join lettered name
  rw [size, word, String.utf8ByteSize_append] at long
  have letters : "d".utf8ByteSize = 1 ∧ "event".utf8ByteSize = 5 := by decide
  have limit : FileSystem.pathLimit = 4095 := rfl
  have short := shown.short
  rw [word] at short
  omega

end Program

end MouseConfig
