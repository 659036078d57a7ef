import Mathlib.Tactic.Tauto
import MouseConfig.Proofs.Command.Arrival
import MouseConfig.Proofs.Command.Outcome
import MouseConfig.Proofs.Command.Sound

/-! # The lines of the program

A line reaches a task if it is a listing, or a wording with the words of its task and the path of a
device after it.  It then selects what the wording says and leaves the task just its words.
-/

namespace MouseConfig

open Search

variable {load : Loader} {q : Stand} {t : Target} {args : List String} {calls : List Call}

/-- The stand with a device open and nothing else selected. -/
def Stand.opened (path : String) (d : Device) (args : List String) (calls : List Call) : Stand where
  context := { device := some ⟨⟨path⟩, d⟩ }
  args := args
  calls := calls ++ [.load ⟨path⟩ true]

/-- Where nothing is selected, the first thing to be done is to open the device. -/
theorem Search.run_resolve_start {r : Requirement} (hr : r ≠ .nothing) :
    (resolve load r).run { args := args, calls := calls } = .ok () q ↔
      ∃ rest path d, args = rest ++ [path] ∧ load ⟨path⟩ = .ok d ∧
        (resolve load r).run (.opened path d rest calls) = .ok () q := by
  obtain ⟨k, hk⟩ : ∃ k, resolve load r = resolveDevice load >>= k := by
    cases r with
    | nothing => exact absurd rfl hr
    | device => exact ⟨pure, (bind_pure _).symm⟩
    | profile => exact ⟨_, rfl⟩
    | resolution => exact ⟨_, rfl⟩
  rw [hk, run_bind_eq_ok_iff]
  constructor
  · rintro ⟨⟨⟩, p, hd, h⟩
    obtain ⟨rest, path, d, hargs, hload, rfl⟩ := (run_resolveDevice_eq_ok_iff rfl).mp hd
    exact ⟨rest, path, d, hargs, hload,
      run_bind_eq_ok_iff.mpr ⟨(), _, run_resolveDevice_of_isSome rfl, h⟩⟩
  · rintro ⟨rest, path, d, hargs, hload, h⟩
    rw [EStateM.run_bind, run_resolveDevice_of_isSome rfl] at h
    exact ⟨(), _, (run_resolveDevice_eq_ok_iff rfl).mpr ⟨rest, path, d, hargs, hload, rfl⟩, h⟩

theorem Node.run_seekFrom_start {n : Node} (hn : n.requirement ≠ .nothing) :
    (n.seekFrom load).run { args := args, calls := calls } = .ok t q ↔
      ∃ rest path d, args = rest ++ [path] ∧ load ⟨path⟩ = .ok d ∧
        (n.seekFrom load).run (.opened path d rest calls) = .ok t q := by
  rw [run_seekFrom_eq_ok_iff]
  constructor
  · rintro ⟨p, hp, h⟩
    obtain ⟨rest, path, d, hargs, hload, hp⟩ := (run_resolve_start hn).mp hp
    exact ⟨rest, path, d, hargs, hload, run_seekFrom_eq_ok_iff.mpr ⟨p, hp, h⟩⟩
  · rintro ⟨rest, path, d, hargs, hload, h⟩
    obtain ⟨p, hp, h⟩ := run_seekFrom_eq_ok_iff.mp h
    exact ⟨p, (run_resolve_start hn).mpr ⟨rest, path, d, hargs, hload, hp⟩, h⟩

namespace Commands

/-- The commands that work on a device. -/
def onDevice : List Node :=
  [info, changeButton, switchVolumeKeys, button, resolution, profile, dpi]

theorem reads_of_mem_onDevice {n : Node} (h : n ∈ onDevice) :
    Reads n ∧ n.requirement ≠ .nothing := by
  simp only [onDevice, List.mem_cons, List.not_mem_nil, or_false] at h
  rcases h with rfl | rfl | rfl | rfl | rfl | rfl | rfl
  · exact ⟨info_reads, by decide⟩
  · exact ⟨changeButton_reads, by decide⟩
  · exact ⟨switchVolumeKeys_reads, by decide⟩
  · exact ⟨button_reads, by decide⟩
  · exact ⟨resolution_reads, by decide⟩
  · exact ⟨profile_reads, by decide⟩
  · exact ⟨dpi_reads, by decide⟩

theorem exists_node_of_wording (w : Wording) :
    ∃ n ∈ onDevice, ∃ tail, w.words = n.name :: tail := by
  rcases w with _ | _ | _ | a | (⟨x, f⟩ | ⟨x, a⟩) | ⟨x, a⟩ | ⟨x, f⟩
  · exact ⟨info, by simp [onDevice], _, rfl⟩
  · exact ⟨changeButton, by simp [onDevice], _, rfl⟩
  · exact ⟨switchVolumeKeys, by simp [onDevice], _, rfl⟩
  · exact ⟨dpi, by simp [onDevice], _, rfl⟩
  · exact ⟨resolution, by simp [onDevice], _, rfl⟩
  · exact ⟨button, by simp [onDevice], _, rfl⟩
  · exact ⟨profile, by simp [onDevice], _, rfl⟩
  · exact ⟨profile, by simp [onDevice], _, rfl⟩

theorem find?_root {n : Node} (h : n = list ∨ n ∈ onDevice) :
    (root.children.find? fun c => c.name == n.name) = some n := by
  simp only [onDevice, List.mem_cons, List.not_mem_nil, or_false] at h
  rcases h with rfl | rfl | rfl | rfl | rfl | rfl | rfl | rfl <;> rfl

theorem eq_list_or_mem_onDevice {n : Node} (h : n ∈ root.children) : n = list ∨ n ∈ onDevice := by
  simp only [root, onDevice, List.mem_cons, List.not_mem_nil, or_false] at h ⊢
  tauto

/-- A line that arrives is a listing, or a wording with arguments and the path of a device. -/
theorem run_seek_root :
    (root.seek load).run { args := args } = .ok t q ↔
      (∃ rest, args = "list" :: rest ∧ t = ⟨"list", .list⟩ ∧ q = { args := rest }) ∨
      ∃ w rest path d c, args = Wording.words w ++ rest ++ [path] ∧ load ⟨path⟩ = .ok d ∧
        w.select? d = some c ∧ t = ⟨w.command, w.task⟩ ∧
        q = { context := { c with device := some ⟨⟨path⟩, d⟩ }, args := rest,
              calls := [.load ⟨path⟩ true] } := by
  have listed (rest : List String) :
      (list.seekFrom load).run { args := rest } = .ok t q ↔ _ := Node.run_seekFrom_leaf rfl trivial
  simp only [Node.run_seek_eq_ok_iff, run_seekChild_eq_ok_iff]
  constructor
  · rintro ⟨word, rest, hargs, n, hn, h⟩
    have hword : n.name = word := by simpa using List.find?_some hn
    rcases eq_list_or_mem_onDevice (List.mem_of_find?_eq_some hn) with rfl | hmem
    · obtain ⟨rfl, rfl⟩ := (listed rest).mp h
      exact .inl ⟨rest, by rw [hargs, ← hword]; rfl, rfl, rfl⟩
    · obtain ⟨reads, needs⟩ := reads_of_mem_onDevice hmem
      obtain ⟨rest', path, d, rfl, hload, h⟩ := (Node.run_seekFrom_start needs).mp h
      obtain ⟨w, rest'', c, hw, hs, rfl, rfl⟩ := (reads load _ q t _ rfl).mp h
      refine .inr ⟨w, rest'', path, d, c, ?_, hload, hs, rfl, rfl⟩
      rw [← hw, hword]
      exact hargs
  · rintro (⟨rest, hargs, rfl, rfl⟩ | ⟨w, rest, path, d, c, hargs, hload, hs, rfl, rfl⟩)
    · exact ⟨"list", rest, hargs, list, find?_root (.inl rfl), (listed rest).mpr ⟨rfl, rfl⟩⟩
    · obtain ⟨n, hmem, tail, hw⟩ := exists_node_of_wording w
      obtain ⟨reads, needs⟩ := reads_of_mem_onDevice hmem
      refine ⟨n.name, tail ++ rest ++ [path], by rw [hargs, hw]; rfl, n, find?_root (.inr hmem),
        (Node.run_seekFrom_start needs).mpr ⟨tail ++ rest, path, d, rfl, hload, ?_⟩⟩
      exact (reads load _ _ _ _ rfl).mpr ⟨w, rest, c, by rw [hw]; rfl, hs, rfl, rfl⟩

end Commands

/-! ## Dispatch -/

variable {σ : Type} [DeviceService σ]

/-- A task that is about to run: how it was called, what is selected and the words left to it. -/
structure Arrival where
  task : Task
  command : String
  context : Context
  args : List String
deriving DecidableEq, Repr

/-- The task at the end of a walk. -/
def Node.arrival? (n : Node) (s : Session σ) : Option Arrival :=
  match (n.walk : Step σ Target).run s with
  | .ok t s' => some ⟨t.task, t.command, s'.context, s'.args⟩
  | .error _ _ => none

/-- The session has done nothing yet but look for a command. -/
structure Session.Untouched (s : Session σ) (service : σ) : Prop where
  service : s.service = service
  output : s.output = ""
  commits : s.commits = []

variable {service : σ} {v : Verbosity} {words : List String}

/-- From its start, a session does what the search does. -/
theorem Node.walk_start (n : Node) (service : σ) (v : Verbosity) (words : List String) :
    ∃ log, (n.walk : Step σ Target).run (Session.start service v words) =
      (Session.start service v words).arrive log ((n.seek (loader service)).run { args := words }) :=
  n.walk_follows (Session.start service v words)

theorem Node.arrival?_start_eq_some_iff {n : Node} {a : Arrival} :
    n.arrival? (Session.start service v words) = some a ↔
      ∃ calls, (n.seek (loader service)).run { args := words } =
        .ok ⟨a.command, a.task⟩ ⟨a.context, a.args, calls⟩ := by
  obtain ⟨log, h⟩ := n.walk_start service v words
  rw [arrival?, h]
  cases (n.seek (loader service)).run { args := words } with
  | error e p => simp
  | ok t p =>
      obtain ⟨task, command, c, args⟩ := a
      constructor
      · intro h
        cases h
        exact ⟨p.calls, rfl⟩
      · rintro ⟨calls, h⟩
        cases h
        rfl

/-- A line runs the one task that it arrives at, and fails if there is none. -/
theorem Node.run_dispatch_start (n : Node) (service : σ) (v : Verbosity) (words : List String) :
    match n.arrival? (Session.start service v words) with
    | some a => ∃ s : Session σ, s.Untouched service ∧ s.context = a.context ∧ s.args = a.args ∧
        n.dispatch.run (Session.start service v words) = (a.task.run a.command).run s
    | none => ∃ (e : CommandError) (s : Session σ), s.Untouched service ∧
        n.dispatch.run (Session.start service v words) = .error e s := by
  obtain ⟨log, h⟩ := n.walk_start service v words
  have sound := n.seek_sound (loader service) { args := words } (Stand.Sound.start _ words)
  simp only [arrival?, dispatch, EStateM.run_bind, h]
  cases hr : (n.seek (loader service)).run { args := words } with
  | error e p =>
      rw [hr] at sound
      exact ⟨e, _, ⟨rfl, rfl, Session.commits_moved sound log⟩, rfl⟩
  | ok t p =>
      rw [hr] at sound
      exact ⟨_, ⟨rfl, rfl, Session.commits_moved sound log⟩, rfl, rfl, rfl⟩

/-- The tasks that the lines of the program arrive at. -/
theorem Commands.arrival?_eq_some_iff {a : Arrival} :
    tree.root.arrival? (Session.start service v words) = some a ↔
      (∃ rest, words = "list" :: rest ∧ a = ⟨.list, "list", {}, rest⟩) ∨
      ∃ w rest path d c, words = Wording.words w ++ rest ++ [path] ∧
        loader service ⟨path⟩ = .ok d ∧ w.select? d = some c ∧
        a = ⟨w.task, w.command, { c with device := some ⟨⟨path⟩, d⟩ }, rest⟩ := by
  rw [Node.arrival?_start_eq_some_iff, show tree.root = root from rfl]
  simp only [run_seek_root]
  obtain ⟨task, command, context, args⟩ := a
  constructor
  · rintro ⟨calls, ⟨rest, hw, ht, hq⟩ | ⟨w, rest, path, d, c, hw, hd, hc, ht, hq⟩⟩
    · cases ht
      cases hq
      exact .inl ⟨args, hw, rfl⟩
    · cases ht
      cases hq
      exact .inr ⟨w, args, path, d, c, hw, hd, hc, rfl⟩
  · rintro (⟨rest, hw, h⟩ | ⟨w, rest, path, d, c, hw, hd, hc, h⟩)
    · cases h
      exact ⟨[], .inl ⟨args, hw, rfl, rfl⟩⟩
    · cases h
      exact ⟨_, .inr ⟨w, args, path, d, c, hw, hd, hc, rfl, rfl⟩⟩

/-- A line runs a task just if it is in the grammar.  It runs no more than that task, on what the
line selects and with the words that the line leaves it, and nothing has been touched before. -/
theorem Commands.dispatch_follows_grammar (service : σ) (v : Verbosity) (words : List String) :
    (∀ a : Arrival, tree.root.arrival? (Session.start service v words) = some a ↔
      (∃ rest, words = "list" :: rest ∧ a = ⟨.list, "list", {}, rest⟩) ∨
      ∃ w rest path d c, words = Wording.words w ++ rest ++ [path] ∧
        loader service ⟨path⟩ = .ok d ∧ w.select? d = some c ∧
        a = ⟨w.task, w.command, { c with device := some ⟨⟨path⟩, d⟩ }, rest⟩) ∧
    match tree.root.arrival? (Session.start service v words) with
    | some a => ∃ s : Session σ, s.Untouched service ∧ s.context = a.context ∧ s.args = a.args ∧
        tree.root.dispatch.run (Session.start service v words) = (a.task.run a.command).run s
    | none => ∃ (e : CommandError) (s : Session σ), s.Untouched service ∧
        tree.root.dispatch.run (Session.start service v words) = .error e s :=
  ⟨fun _ => arrival?_eq_some_iff, Node.run_dispatch_start tree.root service v words⟩

/-! ## Outcomes -/

/-- What a line of the program leaves of a session: its search fails, or it is a listing, or a
wording whose task works on what the wording selects. -/
inductive Commands.Outcome (service : σ) (v : Verbosity) (words : List String) :
    Option CommandError → Session σ → Prop
  | lost {e : CommandError} {p : Stand} {log : List Log.Event}
      (h : (root.seek (loader service)).run { args := words } = .error e p) :
      Outcome service v words (some e) ((Session.start service v words).moved p log)
  | listing {rest : List String} {log : List Log.Event} {failure : Option CommandError}
      {s' : Session σ} (hw : words = "list" :: rest)
      (ht : Task.list.Outcome "list" ((Session.start service v words).moved { args := rest } log)
        failure s') :
      Outcome service v words failure s'
  | worded {w : Wording} {rest : List String} {last : String} {d : Device} {c : Context}
      {log : List Log.Event} {failure : Option CommandError} {s' : Session σ}
      (hw : words = w.words ++ rest ++ [last]) (hd : loader service ⟨last⟩ = .ok d)
      (hc : w.select? d = some c)
      (ht : w.task.Outcome w.command ((Session.start service v words).moved
        ⟨{ c with device := some ⟨⟨last⟩, d⟩ }, rest, [.load ⟨last⟩ true]⟩ log) failure s') :
      Outcome service v words failure s'

theorem Commands.outcome (service : σ) (v : Verbosity) (words : List String) :
    Outcome service v words (tree.run service v words).failure
      (tree.run service v words).dispatched := by
  have h := tree.outcome service v words
  generalize (tree.run service v words).failure = failure at h ⊢
  generalize (tree.run service v words).dispatched = s' at h ⊢
  cases h with
  | lost hr => exact .lost hr
  | @arrived t p log _ _ hr ht =>
      have hr : (root.seek (loader service)).run { args := words } = .ok t p := hr
      rcases run_seek_root.mp hr with
        ⟨rest, hw, rfl, rfl⟩ | ⟨w, rest, last, d, c, hw, hd, hc, rfl, rfl⟩
      · exact .listing hw ht
      · exact .worded hw hd hc ht

/-- All tasks of wordings are planned. -/
theorem Wording.exists_plan (w : Wording) (command : String) (c : Context) (args : List String) :
    ∃ x, w.task.plan? command c args = some x := by
  rcases w with _ | _ | _ | ⟨_ | _⟩ | (⟨x, ⟨_ | _⟩ | ⟨_ | _⟩⟩ | ⟨x, _ | _⟩) | ⟨x, _ | _⟩ |
    ⟨x, ⟨y, ⟨_ | _⟩ | ⟨_ | _⟩⟩ | ⟨y, _ | _⟩⟩ <;> exact ⟨_, rfl⟩

end MouseConfig
