import MouseConfig.Proofs.Command.Chain
import MouseConfig.Proofs.Service.Shelf

/-! # Trees that record

In a tree whose handlers only note that they were reached, a line shows what a search does with its
words.  If the words name a command, that is the one that is noted.  If they name none, none is, and
the line fails at the first step that fails.
-/

namespace MouseConfig

open Search

variable {load : Loader} {words rest args args' : List String} {c c' : Context}
  {level : Requirement} {calls : List Call} {n k m : Node} {chain : List Node}

namespace Node

/-! ## One step down -/

/-- A child whose needs can be met is gone on from with what they gather. -/
theorem run_seekFrom_of_gathers (calls : List Call) (hl : level ≤ k.requirement)
    (hg : Gathers load rest level c args) (hg' : Gathers load rest k.requirement c' args') :
    ∃ calls', (k.seekFrom load).run ⟨c, args, calls⟩ = (k.seekOn load).run ⟨c', args', calls'⟩ := by
  have meets : Meets load rest level (Search.resolve load k.requirement) k.requirement :=
    Meets.resolve _
  have join : level.join k.requirement = k.requirement := if_pos hl
  have h := meets ⟨c, args, calls⟩ hg
  rw [seekFrom_eq, EStateM.run_bind]
  cases hr : (Search.resolve load k.requirement).run ⟨c, args, calls⟩ with
  | ok u p =>
      rw [hr, join] at h
      obtain ⟨rfl, rfl⟩ := hg'.unique h
      exact ⟨p.calls, rfl⟩
  | error e p =>
      rw [hr] at h
      obtain ⟨e', -, he⟩ := h
      exact absurd he hg'.not_misses

/-- A child whose needs cannot be met fails for what is missing first. -/
theorem run_seekFrom_of_misses {e : DeviceError} (hl : level ≤ k.requirement)
    (hg : Gathers load rest level c args) (hm : Misses load rest k.requirement e) :
    ∃ p, (k.seekFrom load).run ⟨c, args, calls⟩ = .error (.device e) p := by
  have meets : Meets load rest level (Search.resolve load k.requirement) k.requirement :=
    Meets.resolve _
  have join : level.join k.requirement = k.requirement := if_pos hl
  have h := meets ⟨c, args, calls⟩ hg
  rw [seekFrom_eq, EStateM.run_bind]
  cases hr : (Search.resolve load k.requirement).run ⟨c, args, calls⟩ with
  | ok u p =>
      rw [hr, join] at h
      exact absurd hm h.not_misses
  | error e' p =>
      rw [hr] at h
      obtain ⟨e'', rfl, he⟩ := h
      rw [hm.unique he]
      exact ⟨p, rfl⟩

theorem run_seek_of_unknown {word : String} (hw : ∀ k ∈ n.children, k.name ≠ word) :
    (n.seek load).run ⟨c, word :: args, calls⟩ =
      .error (.usage (.unknownCommand word)) ⟨c, args, calls⟩ := by
  have next : (n.seek load).run ⟨c, word :: args, calls⟩ =
      (seekChild load word n.children).run ⟨c, args, calls⟩ := rfl
  have missing : (n.children.find? fun k => k.name == word) = none :=
    List.find?_eq_none.mpr fun k hk => by simpa using hw k hk
  rw [next, seekChild_eq, missing]
  rfl

/-! ## The whole way down -/

/-- The search follows a chain to its end, by induction on the chain.  What the level has gathered
is known from what the node at the end gathers, which needs no less. -/
theorem run_seek_of_chain {task : Task} (hn : n.Lawful)
    (hl : ∀ k ∈ n.children, level ≤ k.requirement) (h : n.Chain chain m)
    (hm : m.handler = some (.perform task))
    (hg : Gathers load (chain.map (·.name) ++ rest) level c args)
    (hg' : Gathers load rest m.requirement c' args') :
    ∃ calls', (n.seek load).run ⟨c, args, calls⟩ = .ok ⟨m.name, task⟩ ⟨c', args', calls'⟩ := by
  induction h generalizing level c args calls with
  | @last n k hk =>
      obtain ⟨c₀, args₀, hg₀⟩ := hg'.lower (hl k hk)
      obtain ⟨rfl, rfl⟩ := hg.unique (hg₀.cons k.name)
      obtain ⟨calls', hr⟩ := run_seekFrom_of_gathers calls (hl k hk) hg₀ hg'
      refine ⟨calls', ?_⟩
      rw [run_seek_cons (hn.find?_name hk), hr, seekOn, hm]
      rfl
  | @next n k m chain hk hh hc ih =>
      have grows : ∀ m ∈ k.children, k.requirement ≤ m.requirement := fun m hm => hn.grows hk hm
      obtain ⟨c₁, args₁, hg₁⟩ := hg'.lower (hc.le_requirement (hn.child hk) grows)
      have hg₁ := hg₁.append (chain.map (·.name))
      obtain ⟨c₀, args₀, hg₀⟩ := hg₁.lower (hl k hk)
      obtain ⟨rfl, rfl⟩ := hg.unique (hg₀.cons k.name)
      obtain ⟨calls₁, hr⟩ := run_seekFrom_of_gathers calls (hl k hk) hg₀ hg₁
      rw [run_seek_cons (hn.find?_name hk), hr, seekOn, hh]
      exact ih (hn.child hk) grows hm hg₁ hg'

theorem run_seek_of_called {task : Task} (calls : List Call) (hn : n.Lawful)
    (hl : ∀ k ∈ n.children, level ≤ k.requirement) (hg : Gathers load words level c args)
    (h : n.Called load words chain m c' args') (hm : m.handler = some (.perform task)) :
    ∃ calls', (n.seek load).run ⟨c, args, calls⟩ = .ok ⟨m.name, task⟩ ⟨c', args', calls'⟩ := by
  obtain ⟨down, rest, rfl, hg'⟩ := h
  exact run_seek_of_chain hn hl down hm hg hg'

/-- Some of the words gather what a level needs, wherever the way down stops. -/
theorem Stops.exists_gathers {e : CommandError} (h : n.Stops load level words e) :
    ∃ c args, Gathers load words level c args := by
  cases h with
  | missing hg => exact ⟨_, _, hg⟩
  | unknown hg | unmet hg | further hg => exact ⟨_, _, hg.cons _⟩

/-- The search stops at the first step that fails. -/
theorem run_seek_of_stops {e : CommandError} (calls : List Call) (hn : n.Lawful)
    (hl : ∀ k ∈ n.children, level ≤ k.requirement) (hg : Gathers load words level c args)
    (h : n.Stops load level words e) :
    ∃ p, (n.seek load).run ⟨c, args, calls⟩ = .error e p := by
  induction h generalizing c args calls with
  | missing hg' =>
      obtain ⟨rfl, rfl⟩ := hg.unique hg'
      exact ⟨_, rfl⟩
  | unknown hg' hw =>
      obtain ⟨rfl, rfl⟩ := hg.unique (hg'.cons _)
      exact ⟨_, run_seek_of_unknown hw⟩
  | unmet hg' hk hm =>
      obtain ⟨rfl, rfl⟩ := hg.unique (hg'.cons _)
      rw [run_seek_cons (hn.find?_name hk)]
      exact run_seekFrom_of_misses (hl _ hk) hg' hm
  | further hg' hk hh h ih =>
      obtain ⟨rfl, rfl⟩ := hg.unique (hg'.cons _)
      obtain ⟨c₁, args₁, hg₁⟩ := h.exists_gathers
      obtain ⟨calls₁, hr⟩ := run_seekFrom_of_gathers calls (hl _ hk) hg' hg₁
      rw [run_seek_cons (hn.find?_name hk), hr, seekOn, hh]
      exact ih calls₁ (hn.child hk) (fun m hm => hn.grows hk hm) hg₁

end Node

/-! ## Recording -/

mutual

/-- The handlers of a node and of all below it do nothing but note that they were reached. -/
def Node.records : Node → Bool
  | ⟨_, _, _, _, handler, children⟩ =>
    (handler == none || handler == some (.perform .record)) && allRecord children

def allRecord : List Node → Bool
  | [] => true
  | c :: rest => c.records && allRecord rest

end

theorem allRecord_iff {nodes : List Node} :
    allRecord nodes = true ↔ ∀ k ∈ nodes, k.records = true := by
  induction nodes with
  | nil => simp [allRecord]
  | cons c rest ih => simp [allRecord, ih]

theorem Node.records_iff :
    n.records = true ↔
      (n.handler = none ∨ n.handler = some (.perform .record)) ∧ allRecord n.children = true := by
  obtain ⟨name, hint, help, requirement, handler, children⟩ := n
  simp [records]

/-- The end of a chain records. -/
theorem Node.Chain.handler_eq (h : n.Chain chain m) (hr : allRecord n.children = true) :
    m.handler = some (.perform .record) := by
  induction h with
  | last hk hh =>
      obtain ⟨none | recorder, -⟩ := Node.records_iff.mp (allRecord_iff.mp hr _ hk)
      · exact absurd none hh
      · exact recorder
  | next hk _ _ ih => exact ih (Node.records_iff.mp (allRecord_iff.mp hr _ hk)).2

/-! ## Lines -/

theorem Requirement.nothing_le (r : Requirement) : .nothing ≤ r := Nat.zero_le r.rank

variable {σ : Type} [DeviceService σ]

namespace Tree

variable {t : Tree} {service : σ} {v : Verbosity} {e : CommandError}

theorem reached_released :
    (t.run service v words).released.reached = (t.run service v words).dispatched.reached := by
  obtain ⟨log, h⟩ := t.exists_released service v words
  rw [h]
  rfl

theorem recorded_of_called (hr : allRecord t.root.children = true)
    (h : t.root.Called (loader service) words chain m c args) :
    (t.run service v words).failure = none ∧
      (t.run service v words).released.reached = [⟨m.name, c, args⟩] := by
  have outcome := t.outcome service v words
  obtain ⟨calls, found⟩ :=
    Node.run_seek_of_called [] t.lawful (fun k _ => k.requirement.nothing_le) .nothing h
      (h.down.handler_eq hr)
  rw [reached_released]
  generalize (t.run service v words).failure = failure at outcome ⊢
  generalize (t.run service v words).dispatched = s at outcome ⊢
  cases outcome with
  | lost hl => cases hl.symm.trans found
  | @arrived target p _ _ _ ha ht =>
      have ha : (t.root.seek (loader service)).run { args := words } = .ok target p := ha
      cases ha.symm.trans found
      cases ht with
      | recorded => exact ⟨rfl, rfl⟩
      | surplus ht | undiscovered ht | listed ht => cases ht
      | refused hp | shown hp | closed hp | uncommitted hp | committed hp => cases hp

theorem recorded_of_stops (h : t.root.Stops (loader service) .nothing words e) :
    (t.run service v words).failure = some e ∧
      (t.run service v words).released.reached = [] := by
  have outcome := t.outcome service v words
  obtain ⟨q, failed⟩ :=
    Node.run_seek_of_stops [] t.lawful (fun k _ => k.requirement.nothing_le) .nothing h
  rw [reached_released]
  generalize (t.run service v words).failure = failure at outcome ⊢
  generalize (t.run service v words).dispatched = s at outcome ⊢
  cases outcome with
  | @lost e' p _ hl =>
      have hl : (t.root.seek (loader service)).run { args := words } = .error e' p := hl
      cases hl.symm.trans failed
      exact ⟨rfl, rfl⟩
  | arrived ha => cases ha.symm.trans failed

/-- In a tree whose handlers only note that they were reached, a line notes at most one command.  It
notes a command with words and a selection just if a chain of children leads to a node of that name,
the first with a handler, the line consists of the names down the chain, those words, and the path
of a device if the node needs one, and the selection is what the node needs and no more.  There is
at most one such chain.  The line fails just if it notes nothing, at the first step that fails. -/
theorem recording (hr : allRecord t.root.children = true) (service : σ) (v : Verbosity)
    (words : List String) :
    (t.run service v words).released.reached.length ≤ 1 ∧
    (∀ r : Reached, r ∈ (t.run service v words).released.reached ↔
      ∃ chain m, t.root.Called (loader service) words chain m r.context r.args ∧
        r.command = m.name) ∧
    (∀ chain chain' m m' c c' args args',
      t.root.Called (loader service) words chain m c args →
      t.root.Called (loader service) words chain' m' c' args' → chain = chain' ∧ m = m') ∧
    ((t.run service v words).failure = none ↔ (t.run service v words).released.reached ≠ []) ∧
    ∀ e, (t.run service v words).failure = some e ↔
      t.root.Stops (loader service) .nothing words e := by
  have unique (chain chain' : List Node) (m m' : Node) (c c' : Context) (args args' : List String)
      (h : t.root.Called (loader service) words chain m c args)
      (h' : t.root.Called (loader service) words chain' m' c' args') : chain = chain' ∧ m = m' := by
    obtain ⟨hchain, hm, -⟩ := h.unique t.lawful h'
    exact ⟨hchain, hm⟩
  have gathered : Gathers (loader service) words .nothing {} words := .nothing
  rcases Node.called_or_stops t.lawful (fun k _ => k.requirement.nothing_le) gathered with
    ⟨chain, m, c, args, h⟩ | ⟨e, h⟩
  · obtain ⟨succeeded, one⟩ := recorded_of_called (v := v) hr h
    rw [succeeded, one]
    refine ⟨Nat.le_refl 1, fun r => ?_, unique, by simp, fun e => ⟨nofun, fun he => ?_⟩⟩
    · constructor
      · intro hmem
        rw [List.mem_singleton.mp hmem]
        exact ⟨chain, m, h, rfl⟩
      · rintro ⟨chain', m', h', hname⟩
        obtain ⟨-, rfl, hc, hargs⟩ := h.unique t.lawful h'
        rw [List.mem_singleton, hc, hargs, ← hname]
    · obtain ⟨failed, -⟩ := recorded_of_stops (v := v) he
      cases succeeded.symm.trans failed
  · obtain ⟨failed, none⟩ := recorded_of_stops (v := v) h
    rw [failed, none]
    refine ⟨Nat.zero_le 1, fun r => ⟨nofun, ?_⟩, unique, by simp, fun e' =>
      ⟨fun he => ?_, fun he => ?_⟩⟩
    · rintro ⟨chain, m, h', -⟩
      obtain ⟨-, one⟩ := recorded_of_called (v := v) hr h'
      cases none.symm.trans one
    · rw [← Option.some.inj he]
      exact h
    · obtain ⟨failed', -⟩ := recorded_of_stops (v := v) he
      exact failed.symm.trans failed'

/-- A command that needs a resolution, below one that needs nothing and has no handler.  The path is
the last word, and the word before it is left. -/
theorem recording_of_nested :
    let leaf : Node := {
      name := "c", requirement := .resolution, handler := some (.perform .record) }
    let inner : Node := { name := "b", children := [leaf] }
    let root : Node := { name := "a", children := [inner] }
    let t : Tree := ⟨root, rfl⟩
    let p : Profile := { active := true, resolutions := [{ dpi := 800, active := true }] }
    let d : Device := { name := "M", profiles := [p] }
    let shelf : Shelf := { entries := [(⟨"m"⟩, .device d)] }
    allRecord root.children = true ∧
      (t.run shelf .normal ["b", "c", "x", "m"]).released.reached =
        [⟨"c", { device := some ⟨⟨"m"⟩, d⟩, profile := some 0, resolution := some 0 }, ["x"]⟩] ∧
      (t.run shelf .normal ["b"]).failure = some (.usage (.missingCommand "b")) := by
  intro leaf inner root t p d shelf
  have records : allRecord root.children = true := by decide
  have opens : Opens (loader shelf) ["x", "m"] ["x"] ⟨⟨"m"⟩, d⟩ :=
    ⟨rfl, Shelf.load_eq_ok_iff.mpr (by decide)⟩
  have called : root.Called (loader shelf) ["b", "c", "x", "m"] [inner, leaf] leaf
      { device := some ⟨⟨"m"⟩, d⟩, profile := some 0, resolution := some 0 } ["x"] :=
    { down := .next (by simp [root]) rfl (.last (by simp [inner]) (by decide))
      named := ⟨["x", "m"], rfl, .resolution opens rfl rfl rfl⟩ }
  have stops : root.Stops (loader shelf) .nothing ["b"] (.usage (.missingCommand inner.name)) :=
    .further (k := inner) .nothing (List.mem_singleton.mpr rfl) rfl (.missing .nothing)
  obtain ⟨most, notes, -⟩ := recording (t := t) records shelf .normal ["b", "c", "x", "m"]
  obtain ⟨-, -, -, -, fails⟩ := recording (t := t) records shelf .normal ["b"]
  have noted := (notes ⟨"c", _, _⟩).mpr ⟨_, _, called, rfl⟩
  refine ⟨records, ?_, (fails _).mpr stops⟩
  rcases hr : (t.run shelf .normal ["b", "c", "x", "m"]).released.reached with _ | ⟨r, _ | _⟩
  · rw [hr] at noted
    cases noted
  · rw [hr] at noted
    rw [List.mem_singleton.mp noted]
  · rw [hr] at most
    simp at most

end Tree

end MouseConfig
