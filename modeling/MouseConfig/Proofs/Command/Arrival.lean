import MouseConfig.Command.Standard
import MouseConfig.Proofs.Command.Follows
import MouseConfig.Proofs.Command.Needs

/-! # Where lines arrive

The lines that reach a task of the program are those of the grammar, and a line selects what its
wording says.  From the leaves of the tree up, one statement a node.
-/

namespace MouseConfig

open Search

variable {load : Loader} {p q : Stand} {t : Target}

/-! ## Leaves -/

theorem Node.run_seekFrom_leaf {n : Node} {k : Task} (hn : n.handler = some (.perform k))
    (hm : p.context.Meets n.requirement) :
    (n.seekFrom load).run p = .ok t q ↔ t = ⟨n.name, k⟩ ∧ q = p := by
  rw [run_seekFrom_of_meets hm, seekOn, hn]
  exact run_pure_eq_ok_iff.trans (and_congr eq_comm eq_comm)

/-- A node with a leaf to get something and one to set it. -/
structure Node.IsAccess (n : Node) (r : Requirement) (task : Access → Task) : Prop where
  children : ∃ g s : Node, n.children = [g, s] ∧
    (g.name = "get" ∧ g.requirement = r ∧ g.handler = some (.perform (task .get))) ∧
    (s.name = "set" ∧ s.requirement = r ∧ s.handler = some (.perform (task .set)))

theorem Node.IsAccess.run_seek {n : Node} {r : Requirement} {task : Access → Task}
    (hn : n.IsAccess r task) (hm : p.context.Meets r) :
    (n.seek load).run p = .ok t q ↔
      ∃ a rest, p.args = Access.word a :: rest ∧ t = ⟨a.word, task a⟩ ∧
        q = { p with args := rest } := by
  obtain ⟨g, s, hc, ⟨hg, hgr, hgt⟩, ⟨hs, hsr, hst⟩⟩ := hn.children
  have leaf {c : Node} {k : Task} {rest : List String} (hr : c.requirement = r)
      (hk : c.handler = some (.perform k)) :
      (c.seekFrom load).run { p with args := rest } = .ok t q ↔
        t = ⟨c.name, k⟩ ∧ q = { p with args := rest } :=
    run_seekFrom_leaf hk (hr ▸ hm)
  rw [run_seek_eq_ok_iff, hc]
  constructor
  · rintro ⟨word, rest, hargs, h⟩
    rw [run_seekChild_cons_eq_ok_iff, run_seekChild_cons_eq_ok_iff, leaf hgr hgt, leaf hsr hst,
      run_seekChild_nil_eq_ok_iff] at h
    rcases h with ⟨rfl, rfl, rfl⟩ | ⟨-, ⟨rfl, rfl, rfl⟩ | ⟨-, ⟨⟩⟩⟩
    · exact ⟨.get, rest, by rw [hargs, hg]; rfl, by rw [hg]; rfl, rfl⟩
    · exact ⟨.set, rest, by rw [hargs, hs]; rfl, by rw [hs]; rfl, rfl⟩
  · rintro ⟨a, rest, hargs, rfl, rfl⟩
    refine ⟨a.word, rest, hargs, ?_⟩
    rw [run_seekChild_cons_eq_ok_iff, run_seekChild_cons_eq_ok_iff, leaf hgr hgt, leaf hsr hst, hg,
      hs]
    cases a with
    | get => exact .inl ⟨rfl, rfl, rfl⟩
    | set => exact .inr ⟨by decide, .inl ⟨rfl, rfl, rfl⟩⟩

/-- A node with such leaves and nothing else of its own. -/
theorem Node.IsAccess.run_seekFrom {n : Node} {r : Requirement} {task : Access → Task}
    (hn : n.IsAccess r task) (hh : n.handler = none) (hr : n.requirement = r)
    (hm : p.context.Meets r) :
    (n.seekFrom load).run p = .ok t q ↔
      ∃ a rest, p.args = Access.word a :: rest ∧ t = ⟨a.word, task a⟩ ∧
        q = { p with args := rest } := by
  rw [run_seekFrom_of_meets (hr ▸ hm), seekOn, hh]
  exact hn.run_seek hm

theorem Search.noIndex_cons {word : String} (h : Numeral.index? word = none) (rest : List String) :
    NoIndex (word :: rest) := by
  simp [NoIndex, Words.takeIndex?, h]

/-! ## Below a profile -/

theorem Context.meets_profile {c : Context} {r : Profile} (h : c.selectedProfile = .ok r) :
    c.Meets .profile := by
  obtain ⟨d, i, hd, hi, -⟩ := selectedProfile_eq_ok_iff.mp h
  obtain ⟨path, hc⟩ := openModel_eq_ok_iff.mp hd
  exact ⟨by simp [hc], by simp [hi]⟩

namespace Commands

theorem dpi_isAccess : dpi.IsAccess .resolution fun a => (ResolutionPhrase.dpi a).task :=
  ⟨_, _, rfl, ⟨rfl, rfl, rfl⟩, ⟨rfl, rfl, rfl⟩⟩

theorem button_isAccess : button.IsAccess .profile fun a => (Phrase.button none a).task :=
  ⟨_, _, rfl, ⟨rfl, rfl, rfl⟩, ⟨rfl, rfl, rfl⟩⟩

/-- Below a resolution, its node for what is active comes first and its dpi second. -/
theorem exists_resolution_children :
    ∃ a : Node, resolution.children = [a, dpi] ∧ a.name = "active" ∧ a.requirement = .profile ∧
      a.handler = none ∧ a.IsAccess .profile fun x => (ResolutionPhrase.active x).task :=
  ⟨_, rfl, rfl, rfl, rfl, ⟨_, _, rfl, ⟨rfl, rfl, rfl⟩, ⟨rfl, rfl, rfl⟩⟩⟩

theorem run_seek_resolution (hm : p.context.Meets .resolution) :
    (resolution.seek load).run p = .ok t q ↔
      ∃ f rest, p.args = ResolutionPhrase.words f ++ rest ∧ t = ⟨f.command, f.task⟩ ∧
        q = { p with args := rest } := by
  obtain ⟨a, hc, hname, hr, hh, ha⟩ := exists_resolution_children
  have hm' : p.context.Meets .profile := ⟨hm.1, hm.2.1⟩
  have active (rest : List String) :
      (a.seekFrom load).run { p with args := rest } = .ok t q ↔ _ := ha.run_seekFrom hh hr hm'
  have dpi (rest : List String) :
      (dpi.seekFrom load).run { p with args := rest } = .ok t q ↔ _ :=
    dpi_isAccess.run_seekFrom rfl rfl hm
  rw [Node.run_seek_eq_ok_iff, hc]
  constructor
  · rintro ⟨word, rest, hargs, h⟩
    rw [run_seekChild_cons_eq_ok_iff, run_seekChild_cons_eq_ok_iff, run_seekChild_nil_eq_ok_iff,
      active, dpi] at h
    rcases h with ⟨rfl, x, rest', rfl, rfl, rfl⟩ | ⟨-, ⟨rfl, x, rest', rfl, rfl, rfl⟩ | ⟨-, ⟨⟩⟩⟩
    · exact ⟨.active x, rest', by rw [hargs, hname]; rfl, rfl, rfl⟩
    · exact ⟨.dpi x, rest', hargs, rfl, rfl⟩
  · rintro ⟨f, rest, hargs, rfl, rfl⟩
    cases f with
    | active x =>
        refine ⟨"active", x.word :: rest, hargs, ?_⟩
        rw [run_seekChild_cons_eq_ok_iff, active]
        exact .inl ⟨hname, x, rest, rfl, rfl, rfl⟩
    | dpi x =>
        refine ⟨"dpi", x.word :: rest, hargs, ?_⟩
        rw [run_seekChild_cons_eq_ok_iff, run_seekChild_cons_eq_ok_iff, dpi, hname]
        exact .inr ⟨by decide, .inl ⟨rfl, x, rest, rfl, rfl, rfl⟩⟩

/-- The resolution of the selected profile is chosen by an index, or is the active one. -/
theorem run_seekOn_resolution {r : Profile} (hr : p.context.selectedProfile = .ok r) :
    (resolution.seekOn load).run p = .ok t q ↔
      ∃ w f rest j, p.args = IndexWord.words w ++ (ResolutionPhrase.words f ++ rest) ∧
        IndexWord.select? r.resolutions.length r.activeResolution? w = some j ∧
        t = ⟨f.command, f.task⟩ ∧
        q = { p with args := rest, context := { p.context with resolution := some j } } := by
  have met (j : Nat) :
      ({ p.context with resolution := some j } : Context).Meets .resolution :=
    ⟨(Context.meets_profile hr).1, (Context.meets_profile hr).2, rfl⟩
  have split : resolution.seekOn load =
      (Router.resolution.seek "resolution" >>= fun _ => resolution.seek load) := rfl
  rw [split, run_bind_eq_ok_iff]
  constructor
  · rintro ⟨⟨⟩, p', hs, h⟩
    obtain ⟨-, w, rest, j, hargs, -, hj, rfl⟩ := (run_resolutionRouter_eq_ok_iff hr).mp hs
    obtain ⟨f, rest', rfl, rfl, rfl⟩ := (run_seek_resolution (met j)).mp h
    exact ⟨w, f, rest', j, hargs, hj, rfl, rfl⟩
  · rintro ⟨w, f, rest, j, hargs, hj, rfl, rfl⟩
    have more : p.args ≠ [] := by
      rw [hargs]
      cases f <;> simp [ResolutionPhrase.words]
    have noIndex : NoIndex (f.words ++ rest) := by
      cases f with
      | active x => exact noIndex_cons (by decide) _
      | dpi x => exact noIndex_cons (by decide) _
    exact ⟨(), _, (run_resolutionRouter_eq_ok_iff hr).mpr
        ⟨more, w, _, j, hargs, fun _ => noIndex, hj, rfl⟩,
      (run_seek_resolution (met j)).mpr ⟨f, rest, rfl, rfl, rfl⟩⟩

/-- A button is chosen by an index, or none is. -/
theorem run_seekOn_button {r : Profile} (hr : p.context.selectedProfile = .ok r)
    (hb : p.context.button = none) :
    (button.seekOn load).run p = .ok t q ↔
      ∃ w a rest, p.args = IndexWord.words w ++ (Access.word a :: rest) ∧
        t = ⟨a.word, (Phrase.button w a).task⟩ ∧
        q = { p with
          args := rest, context := { p.context with button := w.map (·.index) } } := by
  have access (b : Option Nat) (rest : List String) :
      (button.seek load).run
          { p with args := rest, context := { p.context with button := b } } = .ok t q ↔ _ :=
    button_isAccess.run_seek (Context.meets_profile hr)
  have split : button.seekOn load =
      (Router.button.seek "button" >>= fun _ => button.seek load) := rfl
  rw [split, run_bind_eq_ok_iff]
  constructor
  · rintro ⟨⟨⟩, p', hs, h⟩
    obtain ⟨w, rest, hargs, -, rfl⟩ := (run_buttonRouter_eq_ok_iff hb).mp hs
    obtain ⟨a, rest', rfl, rfl, rfl⟩ := (access _ rest).mp h
    exact ⟨w, a, rest', hargs, by cases a <;> rfl, rfl⟩
  · rintro ⟨w, a, rest, hargs, rfl, rfl⟩
    have noIndex : NoIndex (a.word :: rest) := by
      cases a with
      | get => exact noIndex_cons (by decide) _
      | set => exact noIndex_cons (by decide) _
    exact ⟨(), _, (run_buttonRouter_eq_ok_iff hb).mpr ⟨w, _, hargs, fun _ => noIndex, rfl⟩,
      (access _ _).mpr ⟨a, rest, rfl, by cases a <;> rfl, rfl⟩⟩

/-- In a profile, the node `resolution` goes on with its phrases. -/
theorem run_seekOn_resolution_phrase {o : OpenDevice} {i : Nat} {r : Profile}
    (hc : p.context = { device := some o, profile := some i })
    (hi : o.model.profiles[i]? = some r) :
    (resolution.seekOn load).run p = .ok t q ↔
      ∃ f rest c, "resolution" :: p.args = Phrase.words f ++ rest ∧
        f.select? o.model i = some c ∧ t = ⟨f.command, f.task⟩ ∧
        q = { p with args := rest, context := { c with device := some o } } := by
  have hr : p.context.selectedProfile = .ok r :=
    Context.selectedProfile_eq_ok_iff.mpr ⟨o.model, i,
      Context.openModel_eq_ok_iff.mpr ⟨o.path, by rw [hc]⟩, by rw [hc], hi⟩
  rw [run_seekOn_resolution hr]
  constructor
  · rintro ⟨w, f, rest, j, hargs, hj, rfl, rfl⟩
    refine ⟨.resolution w f, rest, { profile := some i, resolution := some j }, ?_, ?_, rfl, ?_⟩
    · rw [hargs, ← List.append_assoc]
      rfl
    · simp [Phrase.select?, hi, hj]
    · rw [hc]
  · rintro ⟨f, rest, c, hargs, hs, rfl, rfl⟩
    cases f with
    | button b a => simp [Phrase.words] at hargs
    | resolution w f =>
        cases hj : IndexWord.select? r.resolutions.length r.activeResolution? w with
        | none => simp [Phrase.select?, hi, hj] at hs
        | some j =>
            simp only [Phrase.select?, hi, hj, Option.bind_eq_bind, Option.bind_some,
              Option.pure_def, Option.some.injEq] at hs
            refine ⟨w, f, rest, j, ?_, hj, rfl, ?_⟩
            · simpa [Phrase.words] using hargs
            · rw [hc, ← hs]

/-- In a profile, the node `button` goes on with its phrases. -/
theorem run_seekOn_button_phrase {o : OpenDevice} {i : Nat} {r : Profile}
    (hc : p.context = { device := some o, profile := some i })
    (hi : o.model.profiles[i]? = some r) :
    (button.seekOn load).run p = .ok t q ↔
      ∃ f rest c, "button" :: p.args = Phrase.words f ++ rest ∧
        f.select? o.model i = some c ∧ t = ⟨f.command, f.task⟩ ∧
        q = { p with args := rest, context := { c with device := some o } } := by
  have hr : p.context.selectedProfile = .ok r :=
    Context.selectedProfile_eq_ok_iff.mpr ⟨o.model, i,
      Context.openModel_eq_ok_iff.mpr ⟨o.path, by rw [hc]⟩, by rw [hc], hi⟩
  rw [run_seekOn_button hr (by rw [hc])]
  constructor
  · rintro ⟨w, a, rest, hargs, rfl, rfl⟩
    refine ⟨.button w a, rest, { profile := some i, button := w.map (·.index) }, ?_, rfl, rfl, ?_⟩
    · rw [hargs]
      simp [Phrase.words]
    · rw [hc]
  · rintro ⟨f, rest, c, hargs, hs, rfl, rfl⟩
    cases f with
    | resolution w f => simp [Phrase.words] at hargs
    | button w a =>
        cases hs
        refine ⟨w, a, rest, ?_, rfl, ?_⟩
        · simpa [Phrase.words] using hargs
        · rw [hc]

/-! ## At the top -/

/-- With a device open and nothing else selected, a node takes just the wordings that start with its
name. -/
def Reads (n : Node) : Prop :=
  ∀ (load : Loader) (p q : Stand) (t : Target) (o : OpenDevice),
    p.context = { device := some o } →
    ((n.seekFrom load).run p = .ok t q ↔
      ∃ w rest c, n.name :: p.args = Wording.words w ++ rest ∧ w.select? o.model = some c ∧
        t = ⟨w.command, w.task⟩ ∧
        q = { p with args := rest, context := { c with device := some o } })

theorem info_reads : Reads info := by
  intro load p q t o hc
  have hm : p.context.Meets .device := by
    rw [hc]
    rfl
  rw [Node.run_seekFrom_leaf rfl hm]
  constructor
  · rintro ⟨rfl, rfl⟩
    exact ⟨.info, q.args, {}, rfl, rfl, rfl, by rw [← hc]⟩
  · rintro ⟨w, rest, c, hargs, hs, rfl, rfl⟩
    rcases w with _ | _ | _ | a | (⟨x, f⟩ | ⟨x, a⟩) | ⟨x, a⟩ | ⟨x, f⟩ <;>
      simp [info, Wording.words, Phrase.words] at hargs
    cases hs
    exact ⟨rfl, by rw [← hc, ← hargs]⟩

/-- A leaf that works on the active profile. -/
theorem run_seekFrom_profileLeaf {n : Node} {k : Task} {o : OpenDevice}
    (hn : n.handler = some (.perform k)) (hr : n.requirement = .profile)
    (hc : p.context = { device := some o }) :
    (n.seekFrom load).run p = .ok t q ↔
      ∃ i, o.model.activeProfile? = some i ∧ t = ⟨n.name, k⟩ ∧
        q = { p with context := { device := some o, profile := some i } } := by
  rw [Node.run_seekFrom_eq_ok_iff, hr, Node.seekOn, hn]
  constructor
  · rintro ⟨p', hp, h⟩
    obtain ⟨i, hi, rfl⟩ := (run_resolve_profile_eq_ok_iff hc).mp hp
    obtain ⟨rfl, rfl⟩ := run_pure_eq_ok_iff.mp h
    exact ⟨i, hi, rfl, rfl⟩
  · rintro ⟨i, hi, rfl, rfl⟩
    exact ⟨_, (run_resolve_profile_eq_ok_iff hc).mpr ⟨i, hi, rfl⟩, rfl⟩

/-- One wording leads to such a leaf. -/
theorem profileLeaf_reads {n : Node} {w : Wording} (hn : n.handler = some (.perform w.task))
    (hr : n.requirement = .profile) (hw : w.words = [n.name]) (hcommand : w.command = n.name)
    (hs : ∀ d, w.select? d = d.activeProfile?.map fun i => { profile := some i })
    (only : ∀ w' rest args, n.name :: args = Wording.words w' ++ rest → w' = w) : Reads n := by
  intro load p q t o hc
  rw [run_seekFrom_profileLeaf hn hr hc]
  constructor
  · rintro ⟨i, hi, rfl, rfl⟩
    exact ⟨w, p.args, { profile := some i }, by rw [hw]; rfl, by simp [hs, hi], by rw [hcommand],
      rfl⟩
  · rintro ⟨w', rest, c, hargs, hs', rfl, rfl⟩
    cases only w' rest p.args hargs
    rw [hs, Option.map_eq_some_iff] at hs'
    obtain ⟨i, hi, rfl⟩ := hs'
    rw [hw] at hargs
    exact ⟨i, hi, by rw [hcommand], by rw [(List.cons.inj hargs).2]; rfl⟩

theorem changeButton_reads : Reads changeButton := by
  refine profileLeaf_reads (w := .changeButton) rfl rfl rfl rfl (fun d => ?_)
    fun w rest args h => ?_
  · cases h : d.activeProfile? <;> simp [Wording.select?, h]
  · rcases w with _ | _ | _ | a | (⟨x, f⟩ | ⟨x, a⟩) | ⟨x, a⟩ | ⟨x, f⟩ <;>
      simp [changeButton, Wording.words, Phrase.words] at h
    rfl

theorem switchVolumeKeys_reads : Reads switchVolumeKeys := by
  refine profileLeaf_reads (w := .switchVolumeKeys) rfl rfl rfl rfl (fun d => ?_)
    fun w rest args h => ?_
  · cases h : d.activeProfile? <;> simp [Wording.select?, h]
  · rcases w with _ | _ | _ | a | (⟨x, f⟩ | ⟨x, a⟩) | ⟨x, a⟩ | ⟨x, f⟩ <;>
      simp [switchVolumeKeys, Wording.words, Phrase.words] at h
    rfl

theorem dpi_reads : Reads dpi := by
  intro load p q t o hc
  have access (i j : Nat) : (dpi.seek load).run { p with
        context := { device := some o, profile := some i, resolution := some j } } = .ok t q ↔ _ :=
    dpi_isAccess.run_seek ⟨rfl, rfl, rfl⟩
  rw [Node.run_seekFrom_eq_ok_iff, show dpi.seekOn load = dpi.seek load from rfl]
  constructor
  · rintro ⟨p', hp, h⟩
    obtain ⟨i, r, j, hi, hr, hj, rfl⟩ := (run_resolve_resolution_eq_ok_iff hc).mp hp
    obtain ⟨a, rest, hargs, rfl, rfl⟩ := (access i j).mp h
    refine ⟨.dpi a, rest, { profile := some i, resolution := some j }, ?_, ?_, ?_, rfl⟩
    · rw [show p.args = _ from hargs]
      rfl
    · simp [Wording.select?, hi, hr, hj]
    · cases a <;> rfl
  · rintro ⟨w, rest, c, hargs, hs, rfl, rfl⟩
    rcases w with _ | _ | _ | a | (⟨x, f⟩ | ⟨x, a⟩) | ⟨x, a⟩ | ⟨x, f⟩ <;>
      simp [dpi, Wording.words, Phrase.words] at hargs
    cases hi : o.model.activeProfile? with
    | none => simp [Wording.select?, hi] at hs
    | some i =>
        obtain ⟨r, hr⟩ := Device.exists_profile_of_activeProfile? hi
        cases hj : r.activeResolution? with
        | none => simp [Wording.select?, hi, hr, hj] at hs
        | some j =>
            simp [Wording.select?, hi, hr, hj] at hs
            refine ⟨_, (run_resolve_resolution_eq_ok_iff hc).mpr ⟨i, _, j, hi, hr, hj, rfl⟩, ?_⟩
            exact (access i j).mpr ⟨a, rest, hargs, by cases a <;> rfl, by rw [← hs]⟩

/-- A node that goes on with phrases does so in the active profile. -/
theorem phrase_reads {n : Node} (hr : n.requirement = .profile)
    (on : ∀ {load p q t o i r}, Stand.context p = { device := some o, profile := some i } →
      o.model.profiles[i]? = some r →
      ((n.seekOn load).run p = .ok t q ↔
        ∃ f rest c, n.name :: p.args = Phrase.words f ++ rest ∧ f.select? o.model i = some c ∧
          t = ⟨f.command, f.task⟩ ∧
          q = { p with args := rest, context := { c with device := some o } }))
    (only : ∀ w rest args, n.name :: args = Wording.words w ++ rest →
      ∃ f, w = .inActiveProfile f) : Reads n := by
  intro load p q t o hc
  rw [Node.run_seekFrom_eq_ok_iff, hr]
  constructor
  · rintro ⟨p', hp, h⟩
    obtain ⟨i, hi, rfl⟩ := (run_resolve_profile_eq_ok_iff hc).mp hp
    obtain ⟨r, hr⟩ := Device.exists_profile_of_activeProfile? hi
    obtain ⟨f, rest, c, hargs, hs, rfl, rfl⟩ := (on rfl hr).mp h
    exact ⟨.inActiveProfile f, rest, c, hargs, by simp [Wording.select?, hi, hs], rfl, rfl⟩
  · rintro ⟨w, rest, c, hargs, hs, rfl, rfl⟩
    obtain ⟨f, rfl⟩ := only w rest p.args hargs
    obtain ⟨i, hi, hs⟩ := Option.bind_eq_some_iff.mp hs
    obtain ⟨r, hr⟩ := Device.exists_profile_of_activeProfile? hi
    exact ⟨_, (run_resolve_profile_eq_ok_iff hc).mpr ⟨i, hi, rfl⟩,
      (on rfl hr).mpr ⟨f, rest, c, hargs, hs, rfl, rfl⟩⟩

theorem resolution_reads : Reads resolution := by
  refine phrase_reads rfl run_seekOn_resolution_phrase fun w rest args h => ?_
  rcases w with _ | _ | _ | a | f | ⟨x, a⟩ | ⟨x, f⟩
  case inActiveProfile => exact ⟨f, rfl⟩
  all_goals simp [resolution, Wording.words] at h

theorem button_reads : Reads button := by
  refine phrase_reads rfl run_seekOn_button_phrase fun w rest args h => ?_
  rcases w with _ | _ | _ | a | f | ⟨x, a⟩ | ⟨x, f⟩
  case inActiveProfile => exact ⟨f, rfl⟩
  all_goals simp [button, Wording.words] at h

/-- Below a profile, its node for what is active comes first. -/
theorem exists_profile_children :
    ∃ a : Node, profile.children = [a, resolution, button] ∧ a.name = "active" ∧
      a.requirement = .device ∧ a.handler = none ∧
      a.IsAccess .device fun x => (Wording.activeProfile none x).task :=
  ⟨_, rfl, rfl, rfl, rfl, ⟨_, _, rfl, ⟨rfl, rfl, rfl⟩, ⟨rfl, rfl, rfl⟩⟩⟩

/-- Once a profile is chosen, its node for what is active or a phrase follows. -/
theorem run_seek_profile {o : OpenDevice} {i : Nat} {r : Profile}
    (hc : p.context = { device := some o, profile := some i })
    (hi : o.model.profiles[i]? = some r) :
    (profile.seek load).run p = .ok t q ↔
      (∃ a rest, p.args = "active" :: Access.word a :: rest ∧
        t = ⟨a.word, (Wording.activeProfile none a).task⟩ ∧ q = { p with args := rest }) ∨
      ∃ f rest c, p.args = Phrase.words f ++ rest ∧ f.select? o.model i = some c ∧
        t = ⟨f.command, f.task⟩ ∧
        q = { p with args := rest, context := { c with device := some o } } := by
  obtain ⟨n, hchildren, hname, hr, hh, hn⟩ := exists_profile_children
  have active (rest : List String) :
      (n.seekFrom load).run { p with args := rest } = .ok t q ↔ _ :=
    hn.run_seekFrom hh hr (by simp [hc, Context.Meets])
  have met (rest : List String) :
      ({ p with args := rest } : Stand).context.Meets .profile := by
    simp [hc, Context.Meets]
  have viaResolution (rest : List String) :
      (resolution.seekFrom load).run { p with args := rest } = .ok t q ↔ _ :=
    (Node.run_seekFrom_iff_of_meets (met rest)).trans
      (run_seekOn_resolution_phrase hc hi)
  have viaButton (rest : List String) :
      (button.seekFrom load).run { p with args := rest } = .ok t q ↔ _ :=
    (Node.run_seekFrom_iff_of_meets (met rest)).trans (run_seekOn_button_phrase hc hi)
  rw [Node.run_seek_eq_ok_iff, hchildren]
  constructor
  · rintro ⟨word, rest, hargs, h⟩
    rw [run_seekChild_cons_eq_ok_iff, run_seekChild_cons_eq_ok_iff, run_seekChild_cons_eq_ok_iff,
      run_seekChild_nil_eq_ok_iff, active, viaResolution, viaButton] at h
    rcases h with ⟨rfl, a, rest', rfl, rfl, rfl⟩ |
      ⟨-, ⟨rfl, f, rest', c, hf, h⟩ | ⟨-, ⟨rfl, f, rest', c, hf, h⟩ | ⟨-, ⟨⟩⟩⟩⟩
    · exact .inl ⟨a, rest', by rw [hargs, hname], rfl, rfl⟩
    · exact .inr ⟨f, rest', c, hargs.trans hf, h⟩
    · exact .inr ⟨f, rest', c, hargs.trans hf, h⟩
  · rintro (⟨a, rest, hargs, rfl, rfl⟩ | ⟨f, rest, c, hargs, h⟩)
    · refine ⟨"active", a.word :: rest, hargs, ?_⟩
      rw [run_seekChild_cons_eq_ok_iff, active]
      exact .inl ⟨hname, a, rest, rfl, rfl, rfl⟩
    · cases f with
      | resolution w f =>
          refine ⟨"resolution", IndexWord.words w ++ f.words ++ rest, hargs, ?_⟩
          rw [run_seekChild_cons_eq_ok_iff, run_seekChild_cons_eq_ok_iff, viaResolution, hname]
          exact .inr ⟨by decide, .inl ⟨rfl, .resolution w f, rest, c, rfl, h⟩⟩
      | button w a =>
          refine ⟨"button", IndexWord.words w ++ [a.word] ++ rest, hargs, ?_⟩
          rw [run_seekChild_cons_eq_ok_iff, run_seekChild_cons_eq_ok_iff,
            run_seekChild_cons_eq_ok_iff, viaButton, hname]
          exact .inr ⟨by decide, .inr ⟨by decide, .inl ⟨rfl, .button w a, rest, c, rfl, h⟩⟩⟩

theorem noIndex_phrase (f : Phrase) (rest : List String) : NoIndex (f.words ++ rest) := by
  cases f with
  | resolution w f => exact noIndex_cons (by decide) _
  | button w a => exact noIndex_cons (by decide) _

theorem profile_reads : Reads profile := by
  intro load p q t o hc
  have hd : p.context.openModel = .ok o.model := openModel_of_eq (by rw [hc])
  have split : profile.seekOn load =
      (Router.profile.seek "profile" >>= fun _ => profile.seek load) := rfl
  have below {i : Nat} {r : Profile} {rest : List String} (hi : o.model.profiles[i]? = some r) :
      (profile.seek load).run { p with
        args := rest, context := { p.context with profile := some i } } = .ok t q ↔ _ :=
    run_seek_profile (by rw [hc]) hi
  have inRange {w : Option IndexWord} {i : Nat}
      (h : IndexWord.select? o.model.profiles.length o.model.activeProfile? w = some i) :
      ∃ r, o.model.profiles[i]? = some r := by
    obtain ⟨-, hlt⟩ := (IndexWord.select?_eq_some_iff fun _ => Device.lt_of_activeProfile?).mp h
    exact ⟨_, List.getElem?_eq_getElem hlt⟩
  rw [Node.run_seekFrom_of_meets (by simp [hc, Context.Meets, profile]), split, run_bind_eq_ok_iff]
  constructor
  · rintro ⟨⟨⟩, p', hs, h⟩
    obtain ⟨-, w, rest, i, hargs, -, hw, rfl⟩ := (run_profileRouter_eq_ok_iff hd).mp hs
    obtain ⟨r, hi⟩ := inRange hw
    rcases (below hi).mp h with ⟨a, rest', rfl, rfl, rfl⟩ | ⟨f, rest', c, rfl, hf, rfl, rfl⟩
    · refine ⟨.activeProfile w a, rest', { profile := some i }, ?_, ?_, ?_, ?_⟩
      · rw [hargs]
        simp [Wording.words, profile]
      · simp [Wording.select?, hw]
      · cases a <;> rfl
      · rw [hc]
    · refine ⟨.inProfile w f, rest', c, ?_, ?_, rfl, rfl⟩
      · rw [hargs]
        simp [Wording.words, profile]
      · simp [Wording.select?, hw, hf]
  · rintro ⟨w, rest, c, hargs, hs, rfl, rfl⟩
    rcases w with _ | _ | _ | a | (⟨x, f⟩ | ⟨x, a⟩) | ⟨w, a⟩ | ⟨w, f⟩
    case activeProfile =>
      obtain ⟨i, hw, hs⟩ := Option.bind_eq_some_iff.mp hs
      cases hs
      obtain ⟨r, hi⟩ := inRange hw
      have hargs' : p.args = IndexWord.words w ++ ("active" :: a.word :: rest) := by
        simpa [Wording.words, profile] using hargs
      refine ⟨(), _, (run_profileRouter_eq_ok_iff hd).mpr ⟨by simp [hargs'], w, _, i, hargs',
        fun _ => noIndex_cons (by decide) _, hw, rfl⟩, (below hi).mpr (.inl ?_)⟩
      exact ⟨a, rest, rfl, by cases a <;> rfl, by rw [hc]⟩
    case inProfile =>
      obtain ⟨i, hw, hf⟩ := Option.bind_eq_some_iff.mp hs
      obtain ⟨r, hi⟩ := inRange hw
      have hargs' : p.args = IndexWord.words w ++ (f.words ++ rest) := by
        simpa [Wording.words, profile] using hargs
      have more : p.args ≠ [] := by
        rw [hargs']
        cases f <;> simp [Phrase.words]
      exact ⟨(), _, (run_profileRouter_eq_ok_iff hd).mpr ⟨more, w, _, i, hargs',
        fun _ => noIndex_phrase f rest, hw, rfl⟩, (below hi).mpr (.inr ⟨f, rest, c, rfl, hf, rfl, rfl⟩)⟩
    all_goals simp [profile, Wording.words, Phrase.words] at hargs

end Commands

end MouseConfig
