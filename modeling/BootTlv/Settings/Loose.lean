import BootTlv.Settings
import BootTlv.Text.LowerCase
import BootTlv.Toml.Value

/-!
# Loose settings

Settings as a person writes them. A size may be a float, which is rounded, or a word for yes or no;
a flag may be a number or such a word; a word may be in any case, or be the only key of a table. Keys
may be in any case.
-/

namespace BootTlv.Settings

/-- A value that may be given for a setting. -/
inductive Loose where
  | flag (value : Bool)
  | integer (value : Int)
  | float (value : Number.Binary64)
  | text (value : String)
  | table (fields : List (String × Loose))
  /-- A value that no setting takes: a list, a date, or nothing. -/
  | other
deriving Inhabited

namespace Loose

/-- Fields with their keys in lower case. Of keys that are the same then, the greatest one as written
counts. -/
def inLowerCase (fields : List (String × Loose)) : List (String × Loose) :=
  let named := fields.map fun field => (Text.lower field.1, field)
  let kept := named.filter fun n => !named.any fun m => m.1 = n.1 && n.2.1 < m.2.1
  kept.map fun n => (n.1, n.2.2)

mutual

/-- A value of a TOML document. -/
def ofToml : Toml.Value → Loose
  | .text value => text value
  | .integer value => integer value
  | .float value => float value
  | .flag value => flag value
  | .moment | .list _ => other
  | .table fields => table (inLowerCase (ofFields fields))

/-- The fields of a table of a TOML document, with their keys as written. -/
def ofFields : Toml.Fields → List (String × Loose)
  | [] => []
  | (key, value) :: fields => (key, ofToml value) :: ofFields fields

end

/-! ## Readings -/

/-- Whether a word says yes or no. -/
def agreement? : String → Option Bool
  | "true" | "on" | "yes" => some true
  | "false" | "off" | "no" => some false
  | _ => none

/-- The value as a size. -/
def size? : Loose → Option UInt64
  | flag value => some (if value then 1 else 0)
  | integer value =>
    if 0 ≤ value ∧ value ≤ Number.maxUnsigned then some (UInt64.ofNat value.toNat) else none
  | float value => some (UInt64.ofNat value.toUnsigned)
  | text value =>
    match agreement? value.toLower with
    | some yes => some (if yes then 1 else 0)
    | none => (Number.unsigned? value.toList).map UInt64.ofNat
  | table _ | other => none

/-- The value as a flag. -/
def flag? : Loose → Option Bool
  | flag value => some value
  | integer value => some (value ≠ 0)
  | float value => some !value.isZero
  | text value =>
    match value.toLower with
    | "1" => some true
    | "0" => some false
    | word => agreement? word
  | table _ | other => none

/-- The value as a word in lower case. -/
def word? : Loose → Option String
  | text value => some value.toLower
  | table [(key, _)] => some key.toLower
  | _ => none

end Loose

/-- The settings of loose fields. -/
def ofLoose? (fields : List (String × Loose)) : Option Settings :=
  ofFields? (fields.lookup ·) Loose.size? Loose.flag? Loose.word?

end BootTlv.Settings
