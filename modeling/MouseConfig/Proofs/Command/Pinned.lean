import MouseConfig.Proofs.Command.Account
import MouseConfig.Proofs.Command.Explicit
import MouseConfig.Proofs.Command.Indifferent
import MouseConfig.Proofs.Files.MarkBlind

/-! # Lines with all indices given

A line on the dpi of a resolution or on a button that names all it selects by an index comes to the
same whatever is marked as active, and leaves the marks as they were.
-/

namespace MouseConfig

/-- A dpi or a button in a profile, with its index. -/
inductive Pin where
  | dpi (resolution : IndexWord)
  | button (index : IndexWord)

namespace Pin

def words : Pin → List String
  | dpi r => ["resolution", r.word, "dpi"]
  | button b => ["button", b.word]

/-- The node below which the access is looked for. -/
def node : Pin → Node
  | dpi _ => Commands.dpi
  | button _ => Commands.button

def task : Access → Pin → Task
  | .get, dpi _ => .dpiGet
  | .set, dpi _ => .dpiSet
  | .get, button _ => .buttonGet
  | .set, button _ => .buttonSet

/-- What is selected besides the profile.  A button need not be there. -/
def select (c : Context) (p : Profile) : Pin → Except CommandError Context
  | dpi r => r.selectResolution c p
  | button b => .ok { c with button := some b.index }

def plan (c : Context) (args : List String) : Access → Pin → Except CommandError Plan
  | .get, dpi _ => Plan.dpiGet "get" c args
  | .set, dpi _ => Plan.dpiSet "set" c args
  | .get, button _ => Plan.buttonGet "get" c args
  | .set, button _ => Plan.buttonSet "set" c args

theorem plan?_task (pin : Pin) (a : Access) (c : Context) (args : List String) :
    (pin.task a).plan? a.word c args = some (pin.plan c args a) := by
  cases pin <;> cases a <;> rfl

/-- What comes of the words behind the pin.  The last of them is the path of the device, also where
nothing else is left to choose the access. -/
def proceed (a : Access) (c : Context) (rest : List String) (pin : Pin) : Except CommandError Plan :=
  if rest = [] then .error (.usage (.missingCommand pin.node.name)) else pin.plan c rest.dropLast a

end Pin

/-- A line on a pin of a profile, with any words behind the access. -/
structure PinnedLine where
  profile : IndexWord
  pin : Pin
  access : Access
  rest : List String

namespace PinnedLine

variable (l : PinnedLine)

def words : List String :=
  "profile" :: l.profile.word :: (l.pin.words ++ l.access.word :: l.rest)

example (p x : IndexWord) (rest : List String) :
    words ⟨p, .dpi x, .get, rest⟩ =
        "profile" :: p.word :: "resolution" :: x.word :: "dpi" :: "get" :: rest ∧
      words ⟨p, .button x, .set, rest⟩ =
        "profile" :: p.word :: "button" :: x.word :: "set" :: rest :=
  ⟨rfl, rfl⟩

/-- The last word. -/
def path : String := (l.access.word :: l.rest).getLast (List.cons_ne_nil _ _)

/-- The words between the name of the command and the path. -/
def front : List String := l.profile.word :: (l.pin.words ++ (l.access.word :: l.rest).dropLast)

theorem words_eq : l.words = "profile" :: (l.front ++ [l.path]) := by
  have split := List.dropLast_concat_getLast (List.cons_ne_nil l.access.word l.rest)
  rw [words, front, path, List.cons_append, List.append_assoc, split]

/-- What the line is about to do to a device. -/
def verdict (d : Device) : Except CommandError Plan :=
  match d.profiles[l.profile.index]? with
  | none => .error (.unsupported (.noProfile l.profile.index))
  | some p => do
    let c ← l.pin.select { device := some ⟨⟨l.path⟩, d⟩, profile := some l.profile.index } p
    l.pin.proceed l.access c l.rest

end PinnedLine

/-! ## The search -/

namespace Commands

open Search

variable {load : Loader} {path : Path} {d : Device} {p : Profile} {c : Context} {i : Nat}

theorem concludes_proceed (load : Loader) (pin : Pin) (a : Access) (rest : List String)
    (hc : pin.select { device := some ⟨path, d⟩, profile := some i } p = .ok c) :
    Concludes path d ((pin.node.seek load).run ⟨c, (a.word :: rest).dropLast, [.load path true]⟩)
      (pin.proceed a c rest) := by
  rcases rest.eq_nil_or_concat with rfl | ⟨args, last, rfl⟩
  · cases pin with
    | dpi r =>
        obtain ⟨-, rfl⟩ := IndexWord.selectResolution_eq_ok_iff.mp hc
        exact .lost rfl rfl
    | button b =>
        cases hc
        exact .lost rfl rfl
  · have front : (a.word :: (args ++ [last])).dropLast = a.word :: args := by
      rw [← List.cons_append, List.dropLast_concat]
    have arguments : pin.proceed a c (args ++ [last]) = pin.plan c args a := by
      rw [Pin.proceed, if_neg (by simp), List.dropLast_concat]
    rw [List.concat_eq_append, front, arguments]
    cases pin with
    | dpi r =>
        obtain ⟨-, rfl⟩ := IndexWord.selectResolution_eq_ok_iff.mp hc
        cases a <;> exact .arrived rfl rfl rfl
    | button b =>
        cases hc
        cases a <;> exact .arrived rfl rfl rfl

/-- Once the profile is selected, the search selects what the pin says and goes on below it. -/
theorem concludes_pin (pin : Pin) (a : Access) (rest : List String)
    (hp : d.profiles[i]? = some p) :
    Concludes path d
      ((profile.seek load).run ⟨{ device := some ⟨path, d⟩, profile := some i },
        pin.words ++ (a.word :: rest).dropLast, [.load path true]⟩)
      (pin.select { device := some ⟨path, d⟩, profile := some i } p >>= fun c =>
        pin.proceed a c rest) := by
  cases pin with
  | button b =>
      simp only [Pin.words, List.cons_append, List.nil_append]
      rw [run_seek_button_at]
      have selected : (Pin.button b).select { device := some ⟨path, d⟩, profile := some i } p =
        .ok { device := some ⟨path, d⟩, profile := some i, button := some b.index } := rfl
      exact concludes_proceed load _ a rest selected
  | dpi r =>
      simp only [Pin.words, List.cons_append, List.nil_append]
      rw [run_seek_resolution_at r hp, Pin.select]
      cases hc : r.selectResolution { device := some ⟨path, d⟩, profile := some i } p with
      | error e => exact .lost rfl rfl
      | ok c =>
          have below := concludes_proceed load (.dpi r) a rest hc
          obtain ⟨-, rfl⟩ := IndexWord.selectResolution_eq_ok_iff.mp hc
          dsimp only
          rw [run_seek_below_resolution]
          exact below

theorem concludes_verdict (l : PinnedLine) (d : Device) :
    Concludes ⟨l.path⟩ d ((profile.seekFrom load).run
      ⟨{ device := some ⟨⟨l.path⟩, d⟩ }, l.front, [.load ⟨l.path⟩ true]⟩) (l.verdict d) := by
  rw [PinnedLine.front, run_seekFrom_profile_at, EStateM.run_bind, PinnedLine.verdict]
  cases hp : d.profiles[l.profile.index]? with
  | none =>
      rw [run_selectProfile_of_le rfl (List.getElem?_eq_none_iff.mp hp)]
      exact .lost rfl rfl
  | some p =>
      rw [run_selectProfile_of_lt rfl (List.getElem?_eq_some_iff.mp hp).1]
      exact concludes_pin l.pin l.access l.rest hp

end Commands

/-! ## Verdicts -/

variable {c : Context} {d d' : Device} {p : Plan} {u : Update}

namespace Pin

theorem select_unmarked (pin : Pin) (c : Context) (q : Profile) :
    pin.select c.unmarked q.unmarked = (pin.select c q).map Context.unmarked := by
  cases pin with
  | button b => rfl
  | dpi r =>
      have count : q.unmarked.resolutions.length = q.resolutions.length := List.length_map _
      rw [select, select, IndexWord.selectResolution, IndexWord.selectResolution, count]
      split <;> rfl

theorem plan_unmarked (pin : Pin) (a : Access) (args : List String) :
    pin.plan c.unmarked args a = pin.plan c args a := by
  cases pin with
  | dpi r =>
      cases a with
      | get => exact Plan.dpiGet_unmarked
      | set => exact Plan.dpiSet_unmarked
  | button b =>
      cases a with
      | get => exact Plan.buttonGet_unmarked
      | set => exact Plan.buttonSet_unmarked

theorem plan_indifferent (pin : Pin) (a : Access) (args : List String) :
    Plan.Indifferent (pin.plan c args a) := by
  cases pin with
  | dpi r =>
      cases a with
      | get => exact .dpiGet
      | set => exact .dpiSet
  | button b =>
      cases a with
      | get => exact .buttonGet
      | set => exact .buttonSet

/-- No marks are set. -/
theorem unmarked_of_plan {pin : Pin} {a : Access} {args : List String} (hd : c.openModel = .ok d)
    (h : pin.plan c args a = .ok p) (hu : p.update = some u) : u.Unmarked := by
  have planned := pin.plan?_task a c args
  rw [h] at planned
  have grant := Plan.grant_of_ok hd planned
  rw [hu] at grant
  cases pin <;> cases a <;> cases grant
  · exact .setDpi _ _ _
  · exact .setAction _ _ _

end Pin

namespace PinnedLine

/-- What the line is about to do does not depend on the marks. -/
theorem verdict_unmarked (l : PinnedLine) (d : Device) : l.verdict d.unmarked = l.verdict d := by
  have entry : d.unmarked.profiles[l.profile.index]? =
      d.profiles[l.profile.index]?.map Profile.unmarked := List.getElem?_map
  rw [verdict, verdict, entry]
  cases d.profiles[l.profile.index]? with
  | none => rfl
  | some q =>
      have selected := l.pin.select_unmarked
        { device := some ⟨⟨l.path⟩, d⟩, profile := some l.profile.index } q
      have proceed (c : Context) :
          l.pin.proceed l.access c.unmarked l.rest = l.pin.proceed l.access c l.rest := by
        rw [Pin.proceed, Pin.proceed, Pin.plan_unmarked]
      dsimp only [Option.map_some]
      refine (congrArg (· >>= fun c => l.pin.proceed l.access c l.rest) selected).trans ?_
      cases l.pin.select { device := some ⟨⟨l.path⟩, d⟩, profile := some l.profile.index } q with
      | error e => rfl
      | ok c => exact proceed c

theorem verdict_congr (l : PinnedLine) (h : d.unmarked = d'.unmarked) :
    l.verdict d = l.verdict d' := by
  rw [← l.verdict_unmarked d, h, l.verdict_unmarked]

theorem verdict_indifferent (l : PinnedLine) (d : Device) : Plan.Indifferent (l.verdict d) := by
  rw [verdict]
  cases d.profiles[l.profile.index]? with
  | none => exact .refuse _
  | some q =>
      refine .bind ?_ fun c => ?_
      · cases l.pin with
        | button b => exact .ok _
        | dpi r =>
            rw [Pin.select, IndexWord.selectResolution]
            split
            · exact .ok _
            · exact .refuse _
      · rw [Pin.proceed]
        split
        · exact .misuse _
        · exact l.pin.plan_indifferent l.access _

theorem unmarked_of_verdict {l : PinnedLine} (h : l.verdict d = .ok p) (hu : p.update = some u) :
    u.Unmarked := by
  rw [verdict] at h
  cases hq : d.profiles[l.profile.index]? with
  | none =>
      rw [hq] at h
      cases h
  | some q =>
      rw [hq] at h
      obtain ⟨c, hc, h⟩ := Plan.bind_eq_ok_iff.mp h
      have opened : c.openModel = .ok d := by
        cases hp : l.pin with
        | button b =>
            rw [hp] at hc
            cases hc
            rfl
        | dpi r =>
            rw [hp] at hc
            obtain ⟨-, rfl⟩ := IndexWord.selectResolution_eq_ok_iff.mp hc
            rfl
      rw [Pin.proceed] at h
      split at h
      · cases h
      · exact Pin.unmarked_of_plan opened h hu

end PinnedLine

/-! ## Two services -/

variable {σ : Type} [DeviceService σ] {s s' : σ} {path : Path}

/-- Two lines come to the same and leave the services the same but for their marks, which are as
they were.  They do not fail for want of something active. -/
structure Account.SameButMarks (Same : σ → σ → Prop) (s s' : σ) (a a' : Account σ) : Prop where
  failure : a.failure = a'.failure
  output : a.output = a'.output
  calls : a.calls = a'.calls
  services : Same a.service a'.service
  marks : KeepsMarks s a.service
  marks' : KeepsMarks s' a'.service
  active {e : DeviceError} : a.failure = some (.device e) → ¬ e.Inactive

namespace MarkBlind

variable (B : MarkBlind σ)

theorem account_unopened {e : DeviceError} (h : B.Same s s') (hd : loader s path = .error e) :
    Account.SameButMarks B.Same s s' (.unopened s path e) (.unopened s' path e) where
  failure := rfl
  output := rfl
  calls := rfl
  services := h
  marks := .refl s
  marks' := .refl s'
  active he := by
    cases he
    exact B.load_inactive hd

theorem account_opened (h : B.Same s s') (hd : loader s path = .ok d)
    (hd' : loader s' path = .ok d') (same : d.unmarked = d'.unmarked)
    {x : Except CommandError Plan} (indifferent : Plan.Indifferent x)
    (unmarked : ∀ p u, x = .ok p → p.update = some u → u.Unmarked) :
    Account.SameButMarks B.Same s s' (.opened s path d x) (.opened s' path d' x) := by
  rcases x with e | ⟨_ | u, output⟩
  · refine ⟨rfl, rfl, rfl, h, .refl s, .refl s', fun {e'} he => indifferent e' ?_⟩
    exact congrArg Except.error (Option.some.inj he)
  · refine ⟨rfl, rfl, rfl, h, .refl s, .refl s', fun he => ?_⟩
    cases he
  · have blind := unmarked _ u rfl rfl
    obtain ⟨result, services⟩ := B.commit h hd hd' (blind.apply_congr same)
    have marks := B.keepsMarks h hd (blind.marks d)
    have marks' := B.keepsMarks (B.symm h) hd' (blind.marks d')
    cases hc : (DeviceService.commit s path (u.apply d)).1.1 with
    | error e =>
        simp only [Account.opened, hc, result.symm.trans hc]
        refine ⟨rfl, rfl, rfl, services, marks, marks', fun he => ?_⟩
        cases he
        exact B.commit_inactive hc
    | ok =>
        simp only [Account.opened, hc, result.symm.trans hc]
        refine ⟨rfl, rfl, rfl, services, marks, marks', fun he => ?_⟩
        cases he

end MarkBlind

namespace Commands

theorem account_pinned (B : MarkBlind σ) (h : B.Same s s') (l : PinnedLine) (v v' : Verbosity) :
    Account.SameButMarks B.Same s s' (tree.run s v l.words).account
      (tree.run s' v' l.words).account := by
  rw [l.words_eq]
  cases hd : loader s ⟨l.path⟩ with
  | error e =>
      have account := account_of_refused profile_mem_onDevice v l.front hd
      have account' := account_of_refused profile_mem_onDevice v' l.front (B.refused h hd)
      exact account.symm ▸ account'.symm ▸ B.account_unopened h hd
  | ok d =>
      obtain ⟨d', hd', same⟩ := B.opened h hd
      have account := account_of_opened profile_mem_onDevice v hd (concludes_verdict l d)
      have account' := account_of_opened profile_mem_onDevice v' hd' (concludes_verdict l d')
      rw [← l.verdict_congr same] at account'
      exact account.symm ▸ account'.symm ▸ B.account_opened h hd hd' same (l.verdict_indifferent d)
        fun p u => PinnedLine.unmarked_of_verdict

/-- Where all indices are given, it does not matter what is active: on services that keep the same
devices but for their marks, a line comes to the same, and leaves the marks as they were.  Shelves
are such services, and so are files. -/
theorem pinned_ignores_marks (l : PinnedLine) (v v' : Verbosity) :
    (∀ (σ : Type) [DeviceService σ] (B : MarkBlind σ) (s s' : σ), B.Same s s' →
      Account.SameButMarks B.Same s s' (tree.run s v l.words).account
        (tree.run s' v' l.words).account) ∧
    (∀ s s' : Shelf, s.unmarked = s'.unmarked →
      Account.SameButMarks (fun s s' => s.unmarked = s'.unmarked) s s'
        (tree.run s v l.words).account (tree.run s' v' l.words).account) ∧
    ∀ s s' : FileStore, s.SameButMarks s' →
      Account.SameButMarks FileStore.SameButMarks s s'
        (tree.run s v l.words).account (tree.run s' v' l.words).account :=
  ⟨fun _ _ B _ _ h => account_pinned B h l v v',
    fun _ _ h => account_pinned Shelf.markBlind h l v v',
    fun _ _ h => account_pinned FileStore.markBlind h l v v'⟩

/-- The dpi of a resolution where nothing is active and where all is, on shelves and in files. -/
theorem pinned_ignores_marks_of_mouse :
    let d (active : Bool) : Device := {
      name := "M", capabilities := [.switchableResolution]
      profiles := [{ active := active, resolutions := [{ dpi := 400, active := active }] }] }
    let shelf (active : Bool) : Shelf := { entries := [(⟨"m"⟩, .device (d active))] }
    let text := "name = 'M'\ncapabilities = ['switchable-resolution']\n" ++
      "[[profile]]\n[[profile.resolution]]\ndpi = 400\n"
    let text' := "name = 'M'\ncapabilities = ['switchable-resolution']\n" ++
      "[[profile]]\nactive = true\n[[profile.resolution]]\nactive = true\ndpi = 400\n"
    let store (text : String) : FileStore := {
      files := { entries := [(["m"], .text text)] }, inputDir := ⟨""⟩, nodePrefix := "" }
    let first : IndexWord := ⟨"00", 0, by decide⟩
    let line : PinnedLine := ⟨first, .dpi first, .set, ["800", "m"]⟩
    (tree.run (shelf false) .normal line.words).account.failure = none ∧
      Account.SameButMarks (fun s s' : Shelf => s.unmarked = s'.unmarked) (shelf false) (shelf true)
        (tree.run (shelf false) .normal line.words).account
        (tree.run (shelf true) .raw line.words).account ∧
      Account.SameButMarks FileStore.SameButMarks (store text) (store text')
        (tree.run (store text) .normal line.words).account
        (tree.run (store text') .raw line.words).account := by
  intro d shelf text text' store first line
  have read : Device.ofDescription text = .ok (d false) := by decide +kernel
  have read' : Device.ofDescription text' = .ok (d true) := by decide +kernel
  have files : (store text).SameButMarks (store text') := by
    have setup (text : String) : (store text).setup = (⟨""⟩, "", []) := rfl
    refine ⟨by decide, (setup text').trans (setup text).symm, fun l => ?_⟩
    by_cases hroot : l = []
    · simp only [FileSystem.get?, if_pos hroot]
      exact .same _
    · by_cases hm : l = ["m"]
      · subst hm
        exact .device read read' rfl
      · simp only [store, FileSystem.get?, if_neg hroot, List.lookup_cons, beq_false_of_ne hm]
        exact .same _
  obtain ⟨-, onShelf, inFiles⟩ := pinned_ignores_marks line .normal .raw
  exact ⟨by decide, onShelf _ _ rfl, inFiles _ _ files⟩

end Commands

end MouseConfig
