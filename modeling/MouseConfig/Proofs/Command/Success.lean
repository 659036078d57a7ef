import MouseConfig.Proofs.Command.Effect
import MouseConfig.Proofs.Command.Failure
import MouseConfig.Proofs.Command.Lines
import MouseConfig.Proofs.Files.Store
import MouseConfig.Proofs.Service.Shelf

/-! # Lines that succeed

A line that succeeds stores the effect of its task on the device it has opened, with one commit, or
commits nothing.
-/

namespace MouseConfig

variable {σ : Type} [DeviceService σ]

/-- What a session that began with a service has stored at a path. -/
def Session.Stored (s : Session σ) (service : σ) (path : Path) : Option Device → Prop
  | none => s.service = service ∧ s.commits = []
  | some d => (DeviceService.commit service path d).1.1 = .ok () ∧
      s.service = (DeviceService.commit service path d).2 ∧ s.commits = [(path, true)]

variable {service : σ} {v : Verbosity} {words : List String} {s s' : Session σ}

/-- A task that has succeeded has stored what it was granted. -/
theorem Task.exists_grant_of_outcome {t : Task} {command : String} {o : OpenDevice}
    {x : Except CommandError Plan} (hs : s.Untouched service) (ho : s.context.device = some o)
    (hx : t.plan? command s.context s.args = some x) (h : t.Outcome command s none s') :
    ∃ u : Option Update, Grant s.context o.model t s.args u ∧
      s'.Stored service o.path (u.map (·.apply o.model)) := by
  have hd : s.context.openModel = .ok o.model := Context.openModel_eq_ok_iff.mpr ⟨o.path, ho⟩
  cases h with
  | listed ht =>
      subst ht
      cases hx
  | recorded ht =>
      subst ht
      cases hx
  | @shown p log hp hu =>
      have granted := Plan.grant_of_ok hd hp
      rw [hu] at granted
      exact ⟨none, granted, hs.service, hs.commits⟩
  | @committed p u o' log hp hu ho' hc =>
      cases ho.symm.trans ho'
      have granted := Plan.grant_of_ok hd hp
      rw [hu] at granted
      refine ⟨some u, granted, hs.service ▸ hc, hs.service ▸ rfl, ?_⟩
      have commits := ((s.noted log).updated u).commits_written ⟨o.path, u.apply o.model⟩
      rw [show ((s.noted log).updated u).service = s.service from rfl, hc,
        show ((s.noted log).updated u).commits = [] from hs.commits] at commits
      exact commits

/-- To list devices takes no words and stores nothing. -/
theorem Task.stored_of_list {command : String} (hs : s.Untouched service)
    (h : Task.list.Outcome command s none s') :
    s.args = [] ∧ s'.service = service ∧ s'.commits = [] := by
  cases h with
  | @listed paths text log _ ha =>
      exact ⟨ha, hs.service,
        (s.commits_grown (fun _ => Call.commit?_of_mem_tour) log).trans hs.commits⟩
  | recorded ht => cases ht
  | shown hp => cases hp
  | committed hp => cases hp

namespace Commands

/-- The words open the device `d` at a path; `result` is the effect on it, with the selections that
the words make, of the task that they name. -/
def Addresses (service : σ) (words : List String) (path : Path) (d : Device)
    (result : Option Device) : Prop :=
  ∃ w rest last c, words = Wording.words w ++ rest ++ [last] ∧ path = ⟨last⟩ ∧
    loader service path = .ok d ∧ w.select? d = some c ∧
    Effect { c with device := some ⟨path, d⟩ } d w.task rest result

theorem Addresses.opened {path : Path} {d : Device} {result : Option Device}
    (h : Addresses service words path d result) : loader service path = .ok d := by
  obtain ⟨w, rest, last, c, -, -, hd, -, -⟩ := h
  exact hd

/-- To give up the selections changes nothing that has been stored. -/
theorem released_same (t : Tree) (service : σ) (v : Verbosity) (words : List String) :
    (t.run service v words).released.service = (t.run service v words).dispatched.service ∧
      (t.run service v words).released.commits = (t.run service v words).dispatched.commits := by
  obtain ⟨calls, log, h, hc⟩ := Tree.released_eq t service v words
  rw [h]
  exact ⟨rfl, Session.commits_grown _ hc log⟩

theorem stored_released {path : Path} {result : Option Device}
    (h : (tree.run service v words).dispatched.Stored service path result) :
    (tree.run service v words).released.Stored service path result := by
  obtain ⟨hservice, hcommits⟩ := released_same tree service v words
  cases result with
  | none => exact ⟨hservice.trans h.1, hcommits.trans h.2⟩
  | some d =>
      obtain ⟨hok, hs, hn⟩ := h
      exact ⟨hok, hservice.trans hs, hcommits.trans hn⟩

/-- A line that succeeds is a listing, or stores what its task was granted on the device it opens. -/
theorem granted_of_success (h : (tree.run service v words).failure = none) :
    (words = ["list"] ∧ (tree.run service v words).released.service = service ∧
      (tree.run service v words).released.commits = []) ∨
    ∃ w rest last d c, ∃ u : Option Update, words = Wording.words w ++ rest ++ [last] ∧
      loader service ⟨last⟩ = .ok d ∧ w.select? d = some c ∧
      Grant { c with device := some ⟨⟨last⟩, d⟩ } d w.task rest u ∧
      (tree.run service v words).released.Stored service ⟨last⟩ (u.map (·.apply d)) := by
  have outcome := Commands.outcome service v words
  rw [h] at outcome
  cases outcome with
  | @listing rest log _ _ hw ht =>
      obtain ⟨hservice, hcommits⟩ := released_same tree service v words
      obtain ⟨ha, hs, hn⟩ := Task.stored_of_list ⟨rfl, rfl, rfl⟩ ht
      have none : rest = [] := ha
      exact .inl ⟨none ▸ hw, hservice.trans hs, hcommits.trans hn⟩
  | @worded w rest last d c log _ _ hw hd hc ht =>
      have untouched : ((Session.start service v words).moved
          ⟨{ c with device := some ⟨⟨last⟩, d⟩ }, rest, [.load ⟨last⟩ true]⟩ log).Untouched service :=
        ⟨rfl, rfl, rfl⟩
      obtain ⟨x, hx⟩ := w.exists_plan w.command { c with device := some ⟨⟨last⟩, d⟩ } rest
      obtain ⟨u, granted, hstored⟩ := Task.exists_grant_of_outcome untouched rfl hx ht
      exact .inr ⟨w, rest, last, d, c, u, hw, hd, hc, granted, stored_released hstored⟩

/-- When the session is over, a line that has succeeded has stored its effect. -/
theorem released_of_success (h : (tree.run service v words).failure = none) :
    ((∃ rest, words = "list" :: rest) ∧ (tree.run service v words).released.service = service ∧
      (tree.run service v words).released.commits = []) ∨
    ∃ path d result, Addresses service words path d result ∧
      (tree.run service v words).released.Stored service path result := by
  rcases granted_of_success h with ⟨hl, hs⟩ | ⟨w, rest, last, d, c, u, hw, hd, hc, granted, hstored⟩
  · exact .inl ⟨⟨[], hl⟩, hs⟩
  · exact .inr ⟨⟨last⟩, d, _, ⟨w, rest, last, c, hw, rfl, hd, hc, granted.effect⟩, hstored⟩

/-- After a line that succeeds, the device that it has opened is stored with the effect of the task
on what was selected, committed once, or nothing has changed at all.  Nothing else has changed, but
for the file in which the new content was written first. -/
theorem success_changes_addressed :
    (∀ (shelf : Shelf) (v : Verbosity) (words : List String),
      (tree.run shelf v words).failure = none →
      let s := (tree.run shelf v words).released
      ((∃ rest, words = "list" :: rest) ∧ s.service = shelf ∧ s.commits = []) ∨
      ∃ path d result, Addresses shelf words path d result ∧
        match result with
        | none => s.service = shelf ∧ s.commits = []
        | some d' => s.commits = [(path, true)] ∧ loader s.service path = .ok d' ∧
            ∀ q, q.same path = false → s.service.get? q = shelf.get? q) ∧
    (∀ (store : FileStore) (v : Verbosity) (words : List String), store.files.Grounded →
      (tree.run store v words).failure = none →
      let s := (tree.run store v words).released
      ((∃ rest, words = "list" :: rest) ∧ s.service = store ∧ s.commits = []) ∨
      ∃ path d result, Addresses store words path d result ∧
        match result with
        | none => s.service = store ∧ s.commits = []
        | some d' => s.commits = [(path, true)] ∧ loader s.service path = .ok d' ∧
            ∀ l, store.files.locate path ≠ .ok l →
              store.files.locate (FileSystem.staging path) ≠ .ok l →
              s.service.files.get? l = store.files.get? l) := by
  refine ⟨fun shelf v words h => ?_, fun store v words hg h => ?_⟩
  · rcases released_of_success h with hl | ⟨path, d, result, ha, hs⟩
    · exact .inl hl
    · refine .inr ⟨path, d, result, ha, ?_⟩
      cases result with
      | none => exact hs
      | some d' =>
          obtain ⟨hok, hs, hn⟩ := hs
          rw [hs]
          exact ⟨hn, Shelf.load_eq_ok_iff.mpr (Shelf.get?_commit hok),
            fun q hq => Shelf.get?_commit_of_not_same hq⟩
  · rcases released_of_success h with hl | ⟨path, d, result, ha, hs⟩
    · exact .inl hl
    · refine .inr ⟨path, d, result, ha, ?_⟩
      cases result with
      | none => exact hs
      | some d' =>
          obtain ⟨hok, hs, hn⟩ := hs
          rw [hs]
          exact ⟨hn, FileStore.load_commit hg ha.opened hok,
            fun l hp hl => FileStore.get?_commit hg ha.opened hok hp hl⟩

/-- The second resolution of the active profile becomes the active one, on a shelf, and the only
profile becomes active, in a file.  What is kept beside it stays. -/
theorem success_changes_addressed_resolution :
    let d : Device := {
      name := "M", capabilities := [.switchableResolution]
      profiles := [{ active := true, resolutions := [{ dpi := 400, active := true }, { dpi := 800 }] }] }
    let d' : Device := { d with
      profiles := [{ active := true, resolutions := [{ dpi := 400 }, { dpi := 800, active := true }] }] }
    let shelf : Shelf := { entries := [(⟨"m"⟩, .device d), (⟨"n"⟩, .malformed "no name")] }
    let words := ["resolution", "active", "set", "1", "m"]
    let onShelf := (tree.run shelf .normal words).released
    let e : Device := { name := "M", capabilities := [.switchableProfile], profiles := [{}] }
    let e' : Device := { e with profiles := [{ active := true }] }
    let text := "name = 'M'\ncapabilities = ['switchable-profile']\n[[profile]]"
    let store : FileStore := {
      files := { entries := [(["m"], .text text), (["n"], .text "no name")] }
      inputDir := ⟨""⟩, nodePrefix := "" }
    let words' := ["profile", "0", "active", "set", "0", "m"]
    let inFile := (tree.run store .normal words').released
    (Addresses shelf words ⟨"m"⟩ d (some d') ∧ onShelf.commits = [(⟨"m"⟩, true)] ∧
      loader onShelf.service ⟨"m"⟩ = .ok d' ∧
      onShelf.service.get? ⟨"n"⟩ = some (.malformed "no name")) ∧
    Addresses store words' ⟨"m"⟩ e (some e') ∧ inFile.commits = [(⟨"m"⟩, true)] ∧
      loader inFile.service ⟨"m"⟩ = .ok e' ∧
      inFile.service.files.get? ["n"] = some (.text "no name") := by
  intro d d' shelf words onShelf e e' text store words' inFile
  constructor
  · obtain ⟨succeeded, opened, committed, loaded⟩ : (tree.run shelf .normal words).failure = none ∧
        loader shelf ⟨"m"⟩ = .ok d ∧ onShelf.commits = [(⟨"m"⟩, true)] ∧
        loader onShelf.service ⟨"m"⟩ = .ok d' := by decide
    rcases success_changes_addressed.1 shelf .normal words succeeded with
      ⟨-, -, none⟩ | ⟨path, d₀, _ | d₁, ha, hs⟩
    · cases none.symm.trans committed
    · cases hs.2.symm.trans committed
    · obtain ⟨hn, stored, rest⟩ := hs
      cases hn.symm.trans committed
      cases ha.opened.symm.trans opened
      cases stored.symm.trans loaded
      exact ⟨ha, hn, stored, (rest ⟨"n"⟩ (by decide)).trans (by decide)⟩
  · obtain ⟨succeeded, opened, committed, loaded⟩ :
        (tree.run store .normal words').failure = none ∧ loader store ⟨"m"⟩ = .ok e ∧
        inFile.commits = [(⟨"m"⟩, true)] ∧ loader inFile.service ⟨"m"⟩ = .ok e' := by
      decide +kernel
    have grounded : store.files.Grounded := by decide
    rcases success_changes_addressed.2 store .normal words' grounded succeeded with
      ⟨-, -, none⟩ | ⟨path, e₀, _ | e₁, ha, hs⟩
    · cases none.symm.trans committed
    · cases hs.2.symm.trans committed
    · obtain ⟨hn, stored, rest⟩ := hs
      cases hn.symm.trans committed
      cases ha.opened.symm.trans opened
      cases stored.symm.trans loaded
      exact ⟨ha, hn, stored, rest ["n"] (by decide) (by decide)⟩

end Commands

end MouseConfig
