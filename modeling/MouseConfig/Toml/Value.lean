/-! # Values of a TOML text

Floats and moments keep their spelling: no setting is made of them, so only their form matters.
Tables written inline are kept apart from those written over several lines.
-/

namespace MouseConfig.Toml

/-- Integers are below this bound, two to the power of 63, and not below its negative. -/
def integerBound : Nat := 9223372036854775808

inductive Value where
  | text (s : String)
  | integer (n : Int)
  | boolean (b : Bool)
  | float (spelling : String)
  | moment (spelling : String)
  | array (elements : List Value)
  | table (entries : List (String × Value))
  | inlineTable (entries : List (String × Value))
deriving Repr

namespace Value

instance : Inhabited Value := ⟨.boolean false⟩

/-- The entries of a value that can stand for a record; a moment is a record of no known field. -/
def entries? : Value → Option (List (String × Value))
  | table es | inlineTable es => some es
  | moment _ => some []
  | _ => none

end Value

/-! ## Entries by key, in order -/

namespace Entries

variable {α : Type}

/-- Replace the value of a key, or append it. -/
def put (key : String) (value : α) : List (String × α) → List (String × α)
  | [] => [(key, value)]
  | (k, v) :: rest => if k = key then (k, value) :: rest else (k, v) :: put key value rest

def erase (key : String) (es : List (String × α)) : List (String × α) :=
  es.filter fun e => e.1 != key

@[simp] theorem lookup_put (key : String) (value : α) (es : List (String × α)) :
    (put key value es).lookup key = some value := by
  induction es with
  | nil => simp [put]
  | cons e rest ih =>
    obtain ⟨k, v⟩ := e
    by_cases h : k = key
    · subst h; simp [put]
    · have : (key == k) = false := by simpa using Ne.symm h
      simp [put, h, List.lookup_cons, this, ih]

end Entries

end MouseConfig.Toml
