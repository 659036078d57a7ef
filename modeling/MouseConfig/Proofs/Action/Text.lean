import MouseConfig.Device.Report
import MouseConfig.Proofs.Action.Grammar

/-! # What a mapping is shown as

The text of a mapping tells which action it is, for all actions that the command line can name.  A
name may hold anything but a colon, so the first colon ends it; keys hold no blanks, so blanks
divide what comes after.
-/

namespace MouseConfig

/-! ## Words with blanks between them -/

namespace Text

/-- A blank in front of each word is a blank between all of them and an empty one. -/
theorem append_flatMap_blank (word : List Char) (words : List (List Char)) :
    word ++ words.flatMap (' ' :: ·) = [' '].intercalate (word :: words) := by
  induction words generalizing word with
  | nil => simp
  | cons next rest ih =>
      rw [List.intercalate_cons_cons, ← ih next, List.flatMap_cons]
      simp

theorem flatMap_blank_inj {words words' : List (List Char)} (h : ∀ w ∈ words, ' ' ∉ w)
    (h' : ∀ w ∈ words', ' ' ∉ w) (same : words.flatMap (' ' :: ·) = words'.flatMap (' ' :: ·)) :
    words = words' := by
  have divided {ws : List (List Char)} (free : ∀ w ∈ ws, ' ' ∉ w) :
      (ws.flatMap (' ' :: ·)).splitOn ' ' = [] :: ws := by
    rw [← List.nil_append (ws.flatMap _), append_flatMap_blank]
    exact List.splitOn_intercalate ' ' (List.forall_mem_cons.mpr ⟨List.not_mem_nil, free⟩) nofun
  have split := (divided h).symm.trans (same ▸ divided h')
  exact (List.cons.inj split).2

end Text

/-! ## Steps of a sequence -/

namespace KeyEvent

theorem text_inj {e e' : KeyEvent} (h : e.text = e'.text) : e = e' := by
  obtain ⟨edge, key⟩ := e
  obtain ⟨edge', key'⟩ := e'
  have chars := congrArg String.toList h
  cases edge <;> cases edge' <;>
    simp [text, Edge.sign, String.toList_append, String.toList_inj] at chars ⊢ <;> exact chars

theorem blank_not_mem_text {e : KeyEvent} (h : ' ' ∉ e.key.toList) : ' ' ∉ e.text.toList := by
  cases he : e.edge <;> simp [text, Edge.sign, he, h]

end KeyEvent

namespace Action

/-! ## Texts of actions -/

/-- The name and the keys of a sequence can be told apart in its text. -/
def Plain : Action → Prop
  | sequence name events => ':' ∉ name.toList ∧ ∀ e ∈ events, ' ' ∉ e.key.toList
  | disabled | button _ | key _ | special _ => True

/-- The word for its kind that a text begins with. -/
def lead : Action → String
  | disabled => "none"
  | button _ => "button "
  | key _ => "key "
  | special _ => "special "
  | sequence _ _ => "macro "

/-- What a text says besides the kind. -/
def detail : Action → String
  | disabled => ""
  | button number => number.toNat.repr
  | key name => name
  | special function => function.name
  | sequence name events =>
    name ++ ":" ++ events.foldr (fun e rest => " " ++ e.text ++ rest) ""

theorem text_eq (a : Action) : a.text = a.lead ++ a.detail := by cases a <;> rfl

/-- The words for two kinds differ from the first letter on. -/
def initial : Action → Char
  | disabled => 'n'
  | button _ => 'b'
  | key _ => 'k'
  | special _ => 's'
  | sequence _ _ => 'm'

theorem head?_text (a : Action) : a.text.toList.head? = some a.initial := by
  rw [text_eq, String.toList_append]
  cases a <;> simp [lead, initial]

theorem toList_detail_sequence (name : String) (events : List KeyEvent) :
    (sequence name events).detail.toList =
      name.toList ++ ':' :: (events.map (·.text.toList)).flatMap (' ' :: ·) := by
  have steps : (events.foldr (fun e rest => " " ++ e.text ++ rest) "").toList =
      (events.map (·.text.toList)).flatMap (' ' :: ·) := by
    induction events with
    | nil => rfl
    | cons e rest ih => simp [ih]
  simp [detail, steps]

theorem sequence_detail_inj {name name' : String} {events events' : List KeyEvent}
    (h : (sequence name events).Plain) (h' : (sequence name' events').Plain)
    (same : (sequence name events).detail = (sequence name' events').detail) :
    name = name' ∧ events = events' := by
  have cut {name : String} {events : List KeyEvent} (h : (sequence name events).Plain) :
      Text.cut ':' (sequence name events).detail.toList =
        some (name.toList, (events.map (·.text.toList)).flatMap (' ' :: ·)) :=
    Text.cut_eq_some_iff.mpr ⟨toList_detail_sequence name events, h.1⟩
  have free {events : List KeyEvent} (h : ∀ e ∈ events, ' ' ∉ e.key.toList) :
      ∀ w ∈ events.map (·.text.toList), ' ' ∉ w := by
    simpa using fun e he => KeyEvent.blank_not_mem_text (h e he)
  obtain ⟨names, steps⟩ := Prod.mk.inj (Option.some.inj ((cut h).symm.trans (same ▸ cut h')))
  have texts := Text.flatMap_blank_inj (free h.2) (free h'.2) steps
  refine ⟨String.toList_inj.mp names, ?_⟩
  exact (List.map_inj_right fun e e' he => KeyEvent.text_inj (String.toList_inj.mp he)).mp texts

/-- Actions whose parts can be told apart have different texts. -/
theorem text_inj {x y : Action} (hx : x.Plain) (hy : y.Plain) (h : x.text = y.text) : x = y := by
  have initials : x.initial = y.initial := by
    have heads := congrArg (·.toList.head?) h
    simpa only [head?_text, Option.some.injEq] using heads
  -- The kinds are the same by the first letter, and so is what is said besides.
  rw [text_eq, text_eq] at h
  cases x with
  | disabled =>
      cases y with
      | disabled => rfl
      | button | key | special | sequence => cases initials
  | button n =>
      cases y with
      | button m =>
          have numerals : n.toNat.repr = m.toNat.repr := (String.append_right_inj _).mp h
          have digits := congrArg (fun t => Nat.ofDigitChars 10 t.toList 0) numerals
          simp only [Nat.toList_repr, Nat.ofDigitChars_ten_toDigits] at digits
          rw [UInt32.toNat_inj.mp digits]
      | disabled | key | special | sequence => cases initials
  | key k =>
      cases y with
      | key k' =>
          have names : k = k' := (String.append_right_inj _).mp h
          rw [names]
      | disabled | button | special | sequence => cases initials
  | special s =>
      cases y with
      | special s' =>
          have names : s.name = s'.name := (String.append_right_inj _).mp h
          have found := Special.ofName?_eq_some_iff.mpr names
          cases found.symm.trans (Special.ofName?_eq_some_iff.mpr rfl)
          rfl
      | disabled | button | key | sequence => cases initials
  | sequence name events =>
      cases y with
      | sequence name' events' =>
          obtain ⟨rfl, rfl⟩ := sequence_detail_inj hx hy ((String.append_right_inj _).mp h)
          rfl
      | disabled | button | key | special => cases initials

/-! ## Actions from the command line -/

/-- The action is none, or some words on the command line name it. -/
def Given (a : Action) : Prop := a = disabled ∨ ∃ kind word, ofWords? kind word = .ok a

theorem Given.plain {a : Action} (h : a.Given) : a.Plain := by
  rcases h with rfl | ⟨kind, word, h⟩
  · trivial
  · cases ofWords?_eq_ok_iff.mp h with
    | button | key | special => trivial
    | sequence named free nonempty known =>
        refine ⟨free, fun e he hb => ?_⟩
        obtain ⟨k, hk, he⟩ := List.mem_flatMap.mp he
        have same : e.key = k := by
          rcases List.mem_cons.mp he with rfl | he
          · rfl
          · rw [List.mem_singleton.mp he]
        rw [same] at hb
        exact absurd ((Key.plain_of_isKnown (known k hk)).2 _ hb) (by decide)

/-- Of two actions that the command line can name, or none, each is shown as the other is not. -/
theorem text_identifies {x y : Action} (hx : x.Given) (hy : y.Given) :
    (x.text = y.text → x = y) ∧
      ∀ index role, Button.line index ⟨role, x⟩ = Button.line index ⟨role, y⟩ → x = y := by
  have identified : x.text = y.text → x = y := text_inj hx.plain hy.plain
  refine ⟨identified, fun index role h => identified ?_⟩
  exact (String.append_right_inj _).mp ((String.append_left_inj "'").mp h)

/-- The keys in a name are not those of the sequence. -/
theorem text_identifies_of_names :
    let x : Action := .sequence "a +KEY_A -KEY_A" (KeyEvent.stroke "KEY_B")
    let y : Action := .sequence "a" (KeyEvent.stroke "KEY_A" ++ KeyEvent.stroke "KEY_B")
    x.Given ∧ y.Given ∧ x.text ≠ y.text ∧ Button.line 3 ⟨.thumb, x⟩ ≠ Button.line 3 ⟨.thumb, y⟩ := by
  intro x y
  have hx : x.Given := .inr ⟨"macro", "a +KEY_A -KEY_A:KEY_B", ofWords?_eq_ok_iff.mpr
    (@Spelled.sequence "a +KEY_A -KEY_A" ["KEY_B"] (by decide) (by decide) nofun (by decide))⟩
  have hy : y.Given := .inr ⟨"macro", "a:KEY_A,KEY_B", ofWords?_eq_ok_iff.mpr
    (@Spelled.sequence "a" ["KEY_A", "KEY_B"] (by decide) (by decide) nofun (by decide))⟩
  have different : x ≠ y := by decide
  exact ⟨hx, hy, fun h => different ((text_identifies hx hy).1 h),
    fun h => different ((text_identifies hx hy).2 3 .thumb h)⟩

end Action

end MouseConfig
