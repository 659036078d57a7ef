import MouseConfig.Command.Standard
import MouseConfig.Proofs.Command.Invariant
import MouseConfig.Proofs.Command.Needs
import MouseConfig.Proofs.Session.Fits

/-! # Levels of a tree

On its way down a tree a search holds what the nodes and the routers that it has passed provide.
`Node.suffices` compares that with what the routers and the tasks below look at.  In a tree that
passes, no search ever looks for a selection that is not there.
-/

namespace MouseConfig

/-- What is held when a further need has been met. -/
def Requirement.join (level r : Requirement) : Requirement := if level ≤ r then r else level

/-- What a task looks at. -/
def Task.needs : Task → Requirement
  | list | record => .nothing
  | info | activeProfileGet | activeProfileSet => .device
  | changeButton | switchVolumeKeys | buttonGet | buttonSet => .profile
  | activeResolutionGet | activeResolutionSet => .profile
  | dpiGet | dpiSet => .resolution

/-- What is held after the selection of a router; `none` if it would miss something, or select a
profile where a resolution is selected. -/
def Router.provide? (level : Requirement) : Router → Option Requirement
  | profile => if .device ≤ level ∧ level ≤ .profile then some .profile else none
  | resolution => if .profile ≤ level then some .resolution else none
  | button => some level

mutual

/-- Nothing is missed in a node or below it, if what a level asks for is held before. -/
def Node.suffices (level : Requirement) : Node → Bool
  | ⟨_, _, _, requirement, handler, children⟩ =>
    match handler with
    | some (.perform task) => task.needs ≤ level.join requirement
    | some (.route router) =>
      match router.provide? (level.join requirement) with
      | some level' => allSuffice level' children
      | none => false
    | none => allSuffice (level.join requirement) children

def allSuffice (level : Requirement) : List Node → Bool
  | [] => true
  | c :: rest => c.suffices level && allSuffice level rest

end

namespace Search

variable {α β : Type} {load : Loader} {level level' : Requirement} {p : Stand}

/-- Where a search may fail: what is selected fits, and no selection is missed unless the loader
says so. -/
def Stops (load : Loader) (e : CommandError) (p : Stand) : Prop :=
  p.context.Fits ∧ ∀ what, e = .device (.notSelected what) → ∃ path, load path = .error (.notSelected what)

/-- The search goes from one level to another. -/
def Climbs (load : Loader) (level : Requirement) (m : Search α) (level' : Requirement) : Prop :=
  Leads (fun p => p.context.Holds level) m (fun _ p => p.context.Holds level') (Stops load)

theorem Stops.of_ne {e : CommandError} (hp : p.context.Fits)
    (he : ∀ what, e ≠ .device (.notSelected what)) : Stops load e p :=
  ⟨hp, fun what h => absurd h (he what)⟩

namespace Climbs

theorem pure (a : α) : Climbs load level (Pure.pure a) level := Leads.pure fun _ hp => hp

theorem bind {m : Search α} {k : α → Search β} {level'' : Requirement}
    (hm : Climbs load level m level') (hk : ∀ a, Climbs load level' (k a) level'') :
    Climbs load level (m >>= k) level'' :=
  Leads.bind hm hk

/-! ## Looking at what is held -/

/-- Where a device is open, it is found. -/
theorem model (hl : .device ≤ level) :
    Leads (fun p => p.context.Holds level) Search.model
      (fun d p => p.context.Holds level ∧ p.context.openModel = .ok d) (Stops load) := by
  intro p hp
  obtain ⟨d, hd⟩ := hp.exists_model hl
  rw [run_model_eq_ok_iff.mpr ⟨hd, rfl⟩]
  exact ⟨hp, hd⟩

theorem profile (hl : .profile ≤ level) :
    Leads (fun p => p.context.Holds level) Search.profile
      (fun r p => p.context.Holds level ∧ p.context.selectedProfile = .ok r) (Stops load) := by
  intro p hp
  obtain ⟨r, hr⟩ := hp.exists_profile hl
  rw [run_profile_eq_ok_iff.mpr ⟨hr, rfl⟩]
  exact ⟨hp, hr⟩

theorem activeProfile (hl : .device ≤ level) :
    Leads (fun p => p.context.Holds level) Search.activeProfile
      (fun i p => p.context.Holds level ∧
        ∃ d r, p.context.openModel = .ok d ∧ d.profiles[i]? = some r) (Stops load) := by
  refine Leads.bind (model hl) fun d => ?_
  cases hi : d.activeProfile? with
  | none => exact Leads.throw fun p hp => .of_ne hp.1.fits nofun
  | some i =>
      obtain ⟨r, hr⟩ := Device.exists_profile_of_activeProfile? hi
      exact Leads.pure fun p hp => ⟨hp.1, d, r, hp.2, hr⟩

theorem activeResolution (hl : .profile ≤ level) :
    Leads (fun p => p.context.Holds level) Search.activeResolution
      (fun j p => p.context.Holds level ∧
        ∃ r x, p.context.selectedProfile = .ok r ∧ r.resolutions[j]? = some x) (Stops load) := by
  refine Leads.bind (profile hl) fun r => ?_
  cases hj : r.activeResolution? with
  | none => exact Leads.throw fun p hp => .of_ne hp.1.fits nofun
  | some j =>
      have hx := List.getElem?_eq_getElem (Profile.lt_of_activeResolution? hj)
      exact Leads.pure fun p hp => ⟨hp.1, r, _, hp.2, hx⟩

/-! ## Resolving -/

theorem resolveDevice : Climbs load level (Search.resolveDevice load) (level.join .device) := by
  intro p hp
  cases ho : p.context.device with
  | some o =>
      have above : level.join .device = level := by
        cases hp with
        | nothing ho' => cases ho.symm.trans ho'
        | device | profile | resolution => rfl
      rw [run_resolveDevice_of_isSome (by rw [ho]; rfl), above]
      exact hp
  | none =>
      obtain ⟨hi, hj, rfl⟩ : p.context.profile = none ∧ p.context.resolution = none ∧
          level = .nothing := by
        cases hp with
        | nothing _ hi hj => exact ⟨hi, hj, rfl⟩
        | device ho' => cases ho.symm.trans ho'
        | profile ho' => cases ho.symm.trans ho'
        | resolution ho' => cases ho.symm.trans ho'
      rw [run_resolveDevice_of_none ho]
      cases hw : p.args.getLast? with
      | none =>
          rw [run_openLast_of_missing hw]
          exact .of_ne hp.fits nofun
      | some word =>
          cases hd : load ⟨word⟩ with
          | error e =>
              rw [run_openLast_of_error hw hd]
              refine ⟨hp.fits, fun what h => ⟨⟨word⟩, ?_⟩⟩
              cases h
              exact hd
          | ok d =>
              rw [run_openLast_of_ok hw hd]
              exact .device rfl hi hj

theorem resolveProfile (hl : .device ≤ level) :
    Climbs load level Search.resolveProfile (level.join .profile) := by
  intro p hp
  cases hi : p.context.profile with
  | some i =>
      have above : level.join .profile = level := by
        cases hp with
        | nothing => exact absurd hl (by decide)
        | device _ hi' => cases hi.symm.trans hi'
        | profile | resolution => rfl
      rw [run_resolveProfile_of_isSome (by rw [hi]; rfl), above]
      exact hp
  | none =>
      obtain rfl : level = .device := by
        cases hp with
        | nothing => exact absurd hl (by decide)
        | device => rfl
        | profile _ hi' => cases hi.symm.trans hi'
        | resolution _ hi' => cases hi.symm.trans hi'
      have active : Search.resolveProfile.run p =
          (Search.activeProfile >>= fun i => select fun c => { c with profile := some i }).run p := by
        simp [Search.resolveProfile, hi]
      rw [active]
      refine Leads.bind (activeProfile hl) (fun i => Leads.move fun q hq => ?_) p hp
      obtain ⟨hq, d, r, hd, hr⟩ := hq
      exact hq.selectProfile (by decide) hd hr

theorem resolveResolution (hl : .profile ≤ level) :
    Climbs load level Search.resolveResolution (level.join .resolution) := by
  intro p hp
  cases hj : p.context.resolution with
  | some j =>
      have above : level.join .resolution = level := by
        cases hp with
        | nothing => exact absurd hl (by decide)
        | device => exact absurd hl (by decide)
        | profile _ _ _ hj' => cases hj.symm.trans hj'
        | resolution => rfl
      rw [run_resolveResolution_of_isSome (by rw [hj]; rfl), above]
      exact hp
  | none =>
      have top : level.join .resolution = .resolution := by cases level <;> rfl
      have active : Search.resolveResolution.run p =
          (Search.activeResolution >>= fun j => select fun c => { c with resolution := some j }).run
            p := by
        simp [Search.resolveResolution, hj]
      rw [active, top]
      refine Leads.bind (activeResolution hl) (fun j => Leads.move fun q hq => ?_) p hp
      obtain ⟨-, r, x, hr, hx⟩ := hq
      exact Context.Holds.selectResolution hr hx

theorem resolve (r : Requirement) : Climbs load level (Search.resolve load r) (level.join r) := by
  have device : .device ≤ level.join .device := by cases level <;> decide
  have profile : (level.join .device).join .profile = level.join .profile := by cases level <;> rfl
  cases r with
  | nothing =>
      have same : level.join .nothing = level := by cases level <;> rfl
      rw [same]
      exact pure ()
  | device => exact resolveDevice
  | profile =>
      rw [← profile]
      exact bind resolveDevice fun _ => resolveProfile device
  | resolution =>
      have above : .profile ≤ level.join .profile := by cases level <;> decide
      have resolution : (level.join .profile).join .resolution = level.join .resolution := by
        cases level <;> rfl
      rw [← resolution, ← profile]
      exact bind resolveDevice fun _ => bind (resolveProfile device) fun _ =>
        resolveResolution (profile ▸ above)

/-! ## Words and routers -/

theorem nextWord (node : String) : Climbs load level (Search.nextWord node) level := by
  rintro ⟨c, _ | ⟨word, rest⟩, calls⟩ hp
  · exact .of_ne hp.fits nofun
  · exact hp

theorem expectMore (node : String) : Climbs load level (Search.expectMore node) level := by
  rintro ⟨c, _ | ⟨word, rest⟩, calls⟩ hp
  · exact .of_ne hp.fits nofun
  · exact hp

theorem nextIndex? : Climbs load level Search.nextIndex? level := by
  intro p hp
  cases hw : Words.takeIndex? p.args with
  | none =>
      rw [run_nextIndex?_of_none hw]
      exact hp
  | some found =>
      obtain ⟨index, rest⟩ := found
      rw [run_nextIndex?_of_some hw]
      exact hp

theorem nextIndexOr {active : Search Nat} (ha : Climbs load level active level) :
    Climbs load level (Search.nextIndexOr active) level := by
  refine bind nextIndex? fun index => ?_
  cases index with
  | none => exact ha
  | some i => exact pure i

theorem selectProfile (index : Nat) (hl : .device ≤ level ∧ level ≤ .profile) :
    Climbs load level (Search.selectProfile index) .profile := by
  refine Leads.bind (model hl.1) fun d => ?_
  cases hp : d.profiles[index]? with
  | none => exact Leads.throw fun p hp => .of_ne hp.1.fits nofun
  | some r => exact Leads.move fun p hd => hd.1.selectProfile hl.2 hd.2 hp

theorem selectResolution (index : Nat) (hl : .profile ≤ level) :
    Climbs load level (Search.selectResolution index) .resolution := by
  refine Leads.bind (profile hl) fun r => ?_
  cases hr : r.resolutions[index]? with
  | none => exact Leads.throw fun p hp => .of_ne hp.1.fits nofun
  | some x => exact Leads.move fun p hp => Context.Holds.selectResolution hp.2 hr

/-- A router that misses nothing provides what it says. -/
theorem router {r : Router} (node : String) (h : r.provide? level = some level') :
    Climbs load level (r.seek node) level' := by
  cases r with
  | profile =>
      obtain ⟨hl, rfl⟩ : (.device ≤ level ∧ level ≤ .profile) ∧ .profile = level' := by
        simpa [Router.provide?] using h
      have active : Climbs load level Search.activeProfile level :=
        Leads.imp (activeProfile hl.1) (fun _ hp => hp) (fun _ _ hp => hp.1) fun _ _ he => he
      exact bind (expectMore node) fun _ => bind (nextIndexOr active) fun i => selectProfile i hl
  | resolution =>
      obtain ⟨hl, rfl⟩ : .profile ≤ level ∧ .resolution = level' := by
        simpa [Router.provide?] using h
      have active : Climbs load level Search.activeResolution level :=
        Leads.imp (activeResolution hl) (fun _ hp => hp) (fun _ _ hp => hp.1) fun _ _ he => he
      exact bind (expectMore node) fun _ => bind (nextIndexOr active) fun j => selectResolution j hl
  | button =>
      cases h
      refine bind nextIndex? fun index => ?_
      cases index with
      | none => exact pure ()
      | some i => exact Leads.move fun p hp => hp.selectButton

end Climbs

/-- A search ends with what the task it has found looks at, or stops. -/
def Arrives (load : Loader) (level : Requirement) (m : Search Target) : Prop :=
  Leads (fun p => p.context.Holds level) m
    (fun t p => ∃ level', t.task.needs ≤ level' ∧ p.context.Holds level') (Stops load)

end Search

/-! ## Whole searches -/

open Search

variable {level : Requirement}

mutual

/-- By recursion on the tree, together with lists of siblings. -/
theorem Node.seekFrom_arrives (load : Loader) : {level : Requirement} → (n : Node) →
    n.suffices level = true → Arrives load level (n.seekFrom load)
  | level, ⟨name, hint, help, requirement, handler, children⟩, h => by
    simp only [Node.suffices] at h
    simp only [Node.seekFrom]
    have below {level' : Requirement} (h : allSuffice level' children = true) :
        Arrives load level' (Search.nextWord name >>= fun word => seekChild load word children) :=
      Leads.bind (Climbs.nextWord name) fun word => seekChild_arrives load word children h
    refine Leads.bind (Climbs.resolve requirement) fun _ => ?_
    rcases handler with _ | router | task
    · exact below h
    · cases hr : router.provide? (level.join requirement) with
      | none => simp [hr] at h
      | some level' =>
          simp only [hr] at h
          exact Leads.bind (Climbs.router name hr) fun _ => below h
    · exact Leads.pure fun p hp => ⟨_, of_decide_eq_true h, hp⟩

theorem seekChild_arrives (load : Loader) (word : String) : {level : Requirement} →
    (nodes : List Node) → allSuffice level nodes = true → Arrives load level (seekChild load word nodes)
  | level, [], _ => Leads.throw fun p hp => .of_ne hp.fits nofun
  | level, c :: rest, h => by
    simp only [allSuffice, Bool.and_eq_true] at h
    have first : Arrives load level (c.seekFrom load) := c.seekFrom_arrives load h.1
    have others : Arrives load level (seekChild load word rest) :=
      seekChild_arrives load word rest h.2
    simp only [seekChild]
    cases c.name == word with
    | true => exact first
    | false => exact others

end

theorem Node.seek_arrives (load : Loader) {n : Node} (h : allSuffice level n.children = true) :
    Arrives load level (n.seek load) :=
  Leads.bind (Climbs.nextWord n.name) fun word => seekChild_arrives load word n.children h

/-- Nothing is missed in the tree of the program. -/
theorem Commands.root_suffices : allSuffice .nothing root.children = true := by decide

end MouseConfig
