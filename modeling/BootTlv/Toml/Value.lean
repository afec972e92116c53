import BootTlv.Number.Binary64

/-!
# TOML values

What a TOML document says. Tables keep their keys in the order of the document, each key once.
Dates and times are checked when they are read and are not told apart after that, because nothing
here has a use for them.
-/

namespace BootTlv.Toml

/-- A TOML value. -/
inductive Value where
  | text (value : String)
  | integer (value : Int)
  | float (value : Number.Binary64)
  | flag (value : Bool)
  | moment
  | list (items : List Value)
  | table (fields : List (String × Value))
deriving Inhabited

/-- The fields of a table. -/
abbrev Fields := List (String × Value)

namespace Value

/-- The value as a text. -/
def text? : Value → Option String
  | text value => some value
  | _ => none

/-- The value as a flag. -/
def flag? : Value → Option Bool
  | flag value => some value
  | _ => none

/-- The value as a natural number up to a limit. -/
def natural? (limit : Nat) : Value → Option Nat
  | integer value => if 0 ≤ value ∧ value ≤ limit then some value.toNat else none
  | _ => none

/-- Whether the value is a list or a table without anything in it. -/
def isEmpty : Value → Bool
  | list items => items.isEmpty
  | table fields => fields.isEmpty
  | _ => false

/-- The word that the value stands for: a text, or the key of a table with one key and an empty
value. -/
def word? : Value → Option String
  | text value => some value
  | table [(key, value)] => if value.isEmpty then some key else none
  | _ => none

end Value

end BootTlv.Toml
