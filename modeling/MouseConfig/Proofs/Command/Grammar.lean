import MouseConfig.Command.Tree
import MouseConfig.Session
import MouseConfig.Text.Numeral

/-! # The grammar of lines

Every command on a device is a wording: the words that lead to its task, with the indices that some
of them may carry.  A wording selects what it names, or else what is active.
-/

namespace MouseConfig

/-- A word that reads as an index. -/
structure IndexWord where
  word : String
  index : Nat
  reads : Numeral.index? word = some index

/-- The words of an index that may be left out. -/
def IndexWord.words : Option IndexWord → List String
  | some w => [w.word]
  | none => []

/-- The position that an index points to among some entries, or else the active one. -/
def IndexWord.select? (count : Nat) (active : Option Nat) : Option IndexWord → Option Nat
  | some w => if w.index < count then some w.index else none
  | none => active

inductive Access where
  | get | set
deriving DecidableEq, Repr

def Access.word : Access → String
  | get => "get"
  | set => "set"

/-! ## Inside a profile -/

/-- What may follow the choice of a resolution. -/
inductive ResolutionPhrase where
  | active (a : Access)
  | dpi (a : Access)
deriving DecidableEq, Repr

namespace ResolutionPhrase

def words : ResolutionPhrase → List String
  | active a => ["active", a.word]
  | dpi a => ["dpi", a.word]

def command : ResolutionPhrase → String
  | active a => a.word
  | dpi a => a.word

def task : ResolutionPhrase → Task
  | active .get => .activeResolutionGet
  | active .set => .activeResolutionSet
  | dpi .get => .dpiGet
  | dpi .set => .dpiSet

end ResolutionPhrase

/-- What may follow the choice of a profile. -/
inductive Phrase where
  | resolution (r : Option IndexWord) (phrase : ResolutionPhrase)
  | button (b : Option IndexWord) (a : Access)

namespace Phrase

def words : Phrase → List String
  | resolution r phrase => "resolution" :: (IndexWord.words r ++ phrase.words)
  | button b a => "button" :: (IndexWord.words b ++ [a.word])

def command : Phrase → String
  | resolution _ phrase => phrase.command
  | button _ a => a.word

def task : Phrase → Task
  | resolution _ phrase => phrase.task
  | button _ .get => .buttonGet
  | button _ .set => .buttonSet

/-- What is selected in the profile at a position.  A button need not be there. -/
def select? (d : Device) (i : Nat) : Phrase → Option Context
  | resolution r _ => do
    let p ← d.profiles[i]?
    let j ← IndexWord.select? p.resolutions.length p.activeResolution? r
    return { profile := some i, resolution := some j }
  | button b _ => some { profile := some i, button := b.map (·.index) }

end Phrase

/-! ## Whole lines -/

/-- The words of a command on a device. -/
inductive Wording where
  | info
  | changeButton
  | switchVolumeKeys
  | dpi (a : Access)
  | inActiveProfile (phrase : Phrase)
  | activeProfile (p : Option IndexWord) (a : Access)
  | inProfile (p : Option IndexWord) (phrase : Phrase)

namespace Wording

def words : Wording → List String
  | info => ["info"]
  | changeButton => ["change-button"]
  | switchVolumeKeys => ["switch-etekcity"]
  | dpi a => ["dpi", a.word]
  | inActiveProfile phrase => phrase.words
  | activeProfile p a => "profile" :: (IndexWord.words p ++ ["active", a.word])
  | inProfile p phrase => "profile" :: (IndexWord.words p ++ phrase.words)

/-- The name that the task goes by. -/
def command : Wording → String
  | info => "info"
  | changeButton => "change-button"
  | switchVolumeKeys => "switch-etekcity"
  | dpi a => a.word
  | inActiveProfile phrase => phrase.command
  | activeProfile _ a => a.word
  | inProfile _ phrase => phrase.command

def task : Wording → Task
  | info => .info
  | changeButton => .changeButton
  | switchVolumeKeys => .switchVolumeKeys
  | dpi .get => .dpiGet
  | dpi .set => .dpiSet
  | inActiveProfile phrase => phrase.task
  | activeProfile _ .get => .activeProfileGet
  | activeProfile _ .set => .activeProfileSet
  | inProfile _ phrase => phrase.task

/-- What is selected in a device; `none` if something that is needed is not there. -/
def select? (d : Device) : Wording → Option Context
  | info => some {}
  | changeButton | switchVolumeKeys => do return { profile := ← d.activeProfile? }
  | dpi _ => do
    let i ← d.activeProfile?
    let p ← d.profiles[i]?
    return { profile := i, resolution := ← p.activeResolution? }
  | inActiveProfile phrase => do phrase.select? d (← d.activeProfile?)
  | activeProfile p _ => do
    return { profile := ← IndexWord.select? d.profiles.length d.activeProfile? p }
  | inProfile p phrase => do
    phrase.select? d (← IndexWord.select? d.profiles.length d.activeProfile? p)

end Wording

end MouseConfig
