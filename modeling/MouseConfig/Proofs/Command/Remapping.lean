import MouseConfig.Proofs.Command.Account

/-! # Two ways to remap a button

`change-button` reads the button among its arguments, and `button` selects it on the way to `set`.
Where the word is an index, both come to the same.  Where it is not, the one refuses an argument and
the other a command.
-/

namespace MouseConfig.Commands

open Search

variable {σ : Type} [DeviceService σ] {service : σ} {d : Device} {i : Nat}
  {word path : String}

/-! ## The button among the arguments -/

theorem changeButton_mem_onDevice : changeButton ∈ onDevice := by simp [onDevice]

theorem account_changeButton (v : Verbosity) (args : List String)
    (hd : loader service ⟨path⟩ = .ok d) :
    (tree.run service v ("change-button" :: (args ++ [path]))).account =
      .opened service ⟨path⟩ d (Plan.activeProfile d >>= fun i =>
        Plan.changeButton "change-button" { device := some ⟨⟨path⟩, d⟩, profile := some i } args) :=
  account_in_active changeButton_mem_onDevice rfl v hd fun _ _ => .arrived rfl rfl rfl

/-! ## The button on the way -/

theorem button_mem_onDevice : button ∈ onDevice := by simp [onDevice]

theorem run_buttonRouter_of_noIndex {word : String} (hx : Numeral.index? word = none)
    (node : String) (c : Context) (rest : List String) (calls : List Call) :
    (Router.button.seek node).run ⟨c, word :: rest, calls⟩ = .ok () ⟨c, word :: rest, calls⟩ := by
  simp [Router.seek, nextIndex?, Words.takeIndex?, hx]

theorem run_seek_button_of_unknown {load : Loader} {word : String} (hget : word ≠ "get")
    (hset : word ≠ "set") (c : Context) (rest : List String) (calls : List Call) :
    (button.seek load).run ⟨c, word :: rest, calls⟩ =
      .error (.usage (.unknownCommand word)) ⟨c, rest, calls⟩ := by
  have next : (button.seek load).run ⟨c, word :: rest, calls⟩ =
      (seekChild load word button.children).run ⟨c, rest, calls⟩ := rfl
  have unknown : (button.children.find? fun k => k.name == word) = none := by
    simp [button, hget.symm, hset.symm]
  rw [next, seekChild_eq, unknown]
  rfl

theorem account_buttonSet (v : Verbosity) {n : Nat} (hx : Numeral.index? word = some n)
    (args : List String) (hd : loader service ⟨path⟩ = .ok d) :
    (tree.run service v ("button" :: (word :: "set" :: args ++ [path]))).account =
      .opened service ⟨path⟩ d (Plan.activeProfile d >>= fun i =>
        Plan.buttonSet "set" { device := some ⟨⟨path⟩, d⟩, profile := some i, button := some n }
          args) := by
  refine account_in_active button_mem_onDevice rfl v hd fun i _ => ?_
  rw [run_seekOn_buttonNode, EStateM.run_bind, run_buttonRouter_of_index _ hx]
  exact .arrived rfl rfl rfl

/-- A word that is neither an index nor a command below `button` is taken for a command. -/
theorem account_button_of_unknown (v : Verbosity) (hx : Numeral.index? word = none)
    (hget : word ≠ "get") (hset : word ≠ "set") (args : List String)
    (hd : loader service ⟨path⟩ = .ok d) :
    (tree.run service v ("button" :: (word :: args ++ [path]))).account =
      .opened service ⟨path⟩ d (Plan.activeProfile d >>= fun _ =>
        .error (.usage (.unknownCommand word))) := by
  refine account_in_active button_mem_onDevice rfl v hd fun i _ => ?_
  rw [run_seekOn_buttonNode, EStateM.run_bind, run_buttonRouter_of_noIndex hx]
  change Concludes _ _ ((button.seek (loader service)).run
    ⟨{ device := some ⟨⟨path⟩, d⟩, profile := some i }, word :: args, _⟩) _
  rw [run_seek_button_of_unknown hget hset]
  exact .lost rfl rfl

/-! ## Both ways -/

/-- What is planned does not depend on whether the button has been selected or read. -/
theorem changeButton_eq_buttonSet {n : Nat} (hx : Numeral.index? word = some n)
    (o : OpenDevice) (i : Nat) (kind arg : String) :
    Plan.changeButton "change-button" { device := some o, profile := some i } [word, kind, arg] =
      Plan.buttonSet "set" { device := some o, profile := some i, button := some n }
        [kind, arg] := by
  rw [Plan.changeButton, hx]
  rfl

/-- With an index, both ways come to the same; with a word that is neither an index nor a command,
both refuse their usage and commit nothing. -/
theorem remapping_agrees (service : σ) (v v' : Verbosity) (word kind arg path : String) :
    (∀ n, Numeral.index? word = some n →
      (tree.run service v ["change-button", word, kind, arg, path]).account =
        (tree.run service v' ["button", word, "set", kind, arg, path]).account) ∧
    (Numeral.index? word = none → word ≠ "get" → word ≠ "set" →
      ∀ d i, loader service ⟨path⟩ = .ok d → d.activeProfile? = some i →
        let opening := [Call.load ⟨path⟩ true, .release ⟨path⟩]
        (tree.run service v ["change-button", word, kind, arg, path]).account =
            ⟨some (.usage (.button word)), "", opening, service⟩ ∧
          (tree.run service v' ["button", word, "set", kind, arg, path]).account =
            ⟨some (.usage (.unknownCommand word)), "", opening, service⟩) := by
  constructor
  · intro n hx
    cases hd : loader service ⟨path⟩ with
    | error e =>
        exact (account_of_refused changeButton_mem_onDevice v [word, kind, arg] hd).trans
          (account_of_refused button_mem_onDevice v' [word, "set", kind, arg] hd).symm
    | ok d =>
        have read := account_changeButton v [word, kind, arg] hd
        have selected := account_buttonSet v' hx [kind, arg] hd
        simp only [changeButton_eq_buttonSet hx] at read
        exact read.trans selected.symm
  · intro hx hget hset d i hd ha
    have active := Plan.activeProfile_eq_ok_iff.mpr ha
    have read := account_changeButton v [word, kind, arg] hd
    have unknown := account_button_of_unknown v' hx hget hset ["set", kind, arg] hd
    have misused (c : Context) : Plan.changeButton "change-button" c [word, kind, arg] =
        .error (.usage (.button word)) := by
      simp only [Plan.changeButton, hx]
      rfl
    rw [active] at read unknown
    exact ⟨read.trans (congrArg _ (misused _)), unknown⟩

/-- A button that is remapped either way, and a word that neither way reads. -/
theorem remapping_agrees_of_mouse :
    let d : Device := {
      name := "M", capabilities := [.buttonKey]
      profiles := [{ active := true, buttons := [{}, {}] }] }
    let shelf : Shelf := { entries := [(⟨"m"⟩, .device d)] }
    let opening := [Call.load ⟨"m"⟩ true, .release ⟨"m"⟩]
    (tree.run shelf .normal ["change-button", "01", "button", "2", "m"]).account =
        (tree.run shelf .raw ["button", "01", "set", "button", "2", "m"]).account ∧
      (tree.run shelf .normal ["change-button", "x", "button", "2", "m"]).account =
        ⟨some (.usage (.button "x")), "", opening, shelf⟩ ∧
      (tree.run shelf .normal ["button", "x", "set", "button", "2", "m"]).account =
        ⟨some (.usage (.unknownCommand "x")), "", opening, shelf⟩ := by
  intro d shelf opening
  have found : shelf.get? ⟨"m"⟩ = some (.device d) := by decide
  have loaded : loader shelf ⟨"m"⟩ = .ok d := Shelf.load_eq_ok_iff.mpr found
  exact ⟨(remapping_agrees shelf .normal .raw "01" "button" "2" "m").1 1 (by decide),
    (remapping_agrees shelf .normal .normal "x" "button" "2" "m").2 (by decide) (by decide)
      (by decide) d 0 loaded rfl⟩

end MouseConfig.Commands
