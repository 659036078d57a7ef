import MouseConfig.Proofs.Command.Account

/-! # Choices before a command

The words before a command choose the profile or the resolution that it is about, by an index or as
the active one.  Where there is such an entry the line reaches its task, and what the task plans
settles what becomes of the line.
-/

namespace MouseConfig

/-! ## Profiles -/

/-- The words before a command that choose the profile it is about. -/
inductive ProfileChoice where
  /-- No words at all. -/
  | active
  | profile (p : Option IndexWord)

namespace ProfileChoice

def words : ProfileChoice → List String
  | active => []
  | profile p => "profile" :: IndexWord.words p

/-- The position of the profile, if the device has it. -/
def select? (d : Device) : ProfileChoice → Option Nat
  | active => d.activeProfile?
  | profile p => IndexWord.select? d.profiles.length d.activeProfile? p

/-- The line about what is in the profile. -/
def wording (phrase : Phrase) : ProfileChoice → Wording
  | active => .inActiveProfile phrase
  | profile p => .inProfile p phrase

variable {d : Device} {i : Nat} (choice : ProfileChoice) (phrase : Phrase)

theorem words_wording : (choice.wording phrase).words = choice.words ++ phrase.words := by
  cases choice <;> rfl

theorem command_wording : (choice.wording phrase).command = phrase.command := by
  cases choice <;> rfl

theorem task_wording : (choice.wording phrase).task = phrase.task := by
  cases choice <;> rfl

theorem select?_wording :
    (choice.wording phrase).select? d = (choice.select? d).bind (phrase.select? d) := by
  cases choice <;> rfl

variable {choice}

theorem exists_profile (h : choice.select? d = some i) : ∃ q, d.profiles[i]? = some q := by
  have inRange : i < d.profiles.length := by
    cases choice with
    | active => exact Device.lt_of_activeProfile? h
    | profile p =>
        exact ((IndexWord.select?_eq_some_iff fun _ => Device.lt_of_activeProfile?).mp h).2
  exact ⟨_, List.getElem?_eq_getElem inRange⟩

end ProfileChoice

/-! ## Resolutions -/

/-- The positions of a profile and of a resolution in it, if the device has them. -/
def Device.positions? (d : Device) (profile : Option Nat) (resolution : Profile → Option Nat) :
    Option (Nat × Nat) := do
  let i ← profile
  let q ← d.profiles[i]?
  return (i, ← resolution q)

theorem Device.positions?_eq_some_iff {d : Device} {profile : Option Nat}
    {resolution : Profile → Option Nat} {i j : Nat} :
    d.positions? profile resolution = some (i, j) ↔
      profile = some i ∧ ∃ q, d.profiles[i]? = some q ∧ resolution q = some j := by
  constructor
  · intro h
    obtain ⟨i', hi, h⟩ := Option.bind_eq_some_iff.mp h
    obtain ⟨q, hq, h⟩ := Option.bind_eq_some_iff.mp h
    obtain ⟨j', hj, h⟩ := Option.bind_eq_some_iff.mp h
    cases h
    exact ⟨hi, q, hq, hj⟩
  · rintro ⟨hi, q, hq, hj⟩
    simp [positions?, hi, hq, hj]

/-- The words before `dpi` that choose the resolution it is about. -/
inductive ResolutionChoice where
  /-- No words at all. -/
  | active
  | resolution (p : ProfileChoice) (r : Option IndexWord)

namespace ResolutionChoice

def words : ResolutionChoice → List String
  | active => []
  | resolution p r => p.words ++ "resolution" :: IndexWord.words r

/-- The positions of the profile and of the resolution in it, if the device has them. -/
def select? (d : Device) : ResolutionChoice → Option (Nat × Nat)
  | active => d.positions? d.activeProfile? Profile.activeResolution?
  | resolution p r => d.positions? (p.select? d) fun q =>
    IndexWord.select? q.resolutions.length q.activeResolution? r

theorem exists_resolution {d : Device} {choice : ResolutionChoice} {i j : Nat}
    (h : choice.select? d = some (i, j)) :
    ∃ q r, d.profiles[i]? = some q ∧ q.resolutions[j]? = some r := by
  cases choice with
  | active =>
      obtain ⟨-, q, hq, hj⟩ := Device.positions?_eq_some_iff.mp h
      exact ⟨q, _, hq, List.getElem?_eq_getElem (Profile.lt_of_activeResolution? hj)⟩
  | resolution p r =>
      obtain ⟨-, q, hq, hj⟩ := Device.positions?_eq_some_iff.mp h
      have inRange : j < q.resolutions.length :=
        ((IndexWord.select?_eq_some_iff fun _ => Profile.lt_of_activeResolution?).mp hj).2
      exact ⟨q, _, hq, List.getElem?_eq_getElem inRange⟩

end ResolutionChoice

/-! ## Lines that reach their task -/

variable {σ : Type} [DeviceService σ] {service : σ} {d : Device} {path : String}

namespace Account

variable {e : DeviceError} {u : Update} {output : String}

theorem failure_of_committed
    (h : (DeviceService.commit service ⟨path⟩ (u.apply d)).1.1 = .ok ()) :
    (opened service ⟨path⟩ d (.ok { update := some u, output })).failure = none := by
  rw [opened_of_committed h]

theorem failure_of_uncommitted
    (h : (DeviceService.commit service ⟨path⟩ (u.apply d)).1.1 = .error e) :
    (opened service ⟨path⟩ d (.ok { update := some u, output })).failure = some (.device e) := by
  rw [opened_of_uncommitted h]

end Account

namespace Commands

open Search

/-- Where a wording selects something, its task settles what becomes of the line. -/
theorem account_of_wording {w : Wording} {c : Context} {args : List String}
    {x : Except CommandError Plan} (v : Verbosity) (hd : loader service ⟨path⟩ = .ok d)
    (hc : w.select? d = some c)
    (hp : w.task.plan? w.command { c with device := some ⟨⟨path⟩, d⟩ } args = some x) :
    (tree.run service v (w.words ++ args ++ [path])).account = .opened service ⟨path⟩ d x := by
  have arrives := run_seek_root.mpr (.inr ⟨w, args, path, d, c, rfl, hd, hc, rfl, rfl⟩)
  refine Tree.account_of_concludes v ?_
  change Concludes _ _ ((root.seek (loader service)).run _) _
  rw [arrives]
  exact .arrived rfl rfl hp

/-- A choice of a profile with a phrase after it makes a wording. -/
theorem account_of_choice {choice : ProfileChoice} (phrase : Phrase) {c : Context} {i : Nat}
    {args : List String} {x : Except CommandError Plan} (v : Verbosity)
    (hd : loader service ⟨path⟩ = .ok d) (hi : choice.select? d = some i)
    (hc : phrase.select? d i = some c)
    (hp : phrase.task.plan? phrase.command { c with device := some ⟨⟨path⟩, d⟩ } args = some x) :
    (tree.run service v (choice.words ++ phrase.words ++ args ++ [path])).account =
      .opened service ⟨path⟩ d x := by
  rw [← choice.words_wording phrase]
  refine account_of_wording (c := c) v hd ?_ ?_
  · rw [choice.select?_wording, hi]
    exact hc
  · rw [choice.task_wording, choice.command_wording]
    exact hp

/-- A choice of a resolution with `dpi set` after it makes a wording. -/
theorem account_of_dpiSet {choice : ResolutionChoice} {i j : Nat} (v : Verbosity)
    (args : List String) (hd : loader service ⟨path⟩ = .ok d)
    (h : choice.select? d = some (i, j)) :
    (tree.run service v (choice.words ++ ["dpi", "set"] ++ args ++ [path])).account =
      .opened service ⟨path⟩ d (Plan.dpiSet "set"
        { device := some ⟨⟨path⟩, d⟩, profile := some i, resolution := some j } args) := by
  cases choice with
  | active =>
      obtain ⟨hi, q, hq, hj⟩ := Device.positions?_eq_some_iff.mp h
      have selected : Wording.select? d (.dpi .set) =
          some { profile := some i, resolution := some j } := by
        simp [Wording.select?, hi, hq, hj]
      exact account_of_wording v hd selected rfl
  | resolution p r =>
      obtain ⟨hi, q, hq, hj⟩ := Device.positions?_eq_some_iff.mp h
      have selected : Phrase.select? d i (.resolution r (.dpi .set)) =
          some { profile := some i, resolution := some j } := by
        simp [Phrase.select?, hq, hj]
      have words : (ResolutionChoice.resolution p r).words ++ ["dpi", "set"] =
          p.words ++ (Phrase.resolution r (.dpi .set)).words := by
        simp [ResolutionChoice.words, Phrase.words, ResolutionPhrase.words, Access.word]
      rw [words]
      exact account_of_choice _ v hd hi selected rfl

/-- If every fault is how a line fails, and one is there unless the line is done, then these are
all the ways in which it ends. -/
theorem failure_iff {failure : Option CommandError} {Done : Prop} {Fault : CommandError → Prop}
    (succeeds : Done → failure = none) (fails : ∀ e, Fault e → failure = some e)
    (settled : Done ∨ ∃ e, Fault e) :
    (failure = none ↔ Done) ∧ ∀ e, failure = some e ↔ Fault e := by
  rcases settled with done | ⟨e, fault⟩
  · have succeeded := succeeds done
    refine ⟨iff_of_true succeeded done, fun e => ⟨fun he => ?_, fails e⟩⟩
    cases succeeded.symm.trans he
  · have failed := fails e fault
    refine ⟨⟨fun hn => ?_, succeeds⟩, fun e' => ⟨fun he => ?_, fails e'⟩⟩
    · cases failed.symm.trans hn
    · cases failed.symm.trans he
      exact fault

end Commands

end MouseConfig
