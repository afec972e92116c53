/-!
# JSON values

The part of JSON that verdicts are written in: flags, natural numbers, lists and objects. An object
keeps its fields in the order in which they are written. Keys are plain words, so no key needs an
escape.

`pretty` lays a value out with one item per line and two more spaces for each level.
-/

namespace BootTlv

/-- A JSON value. -/
inductive Json where
  | flag (value : Bool)
  | number (value : Nat)
  | list (items : List Json)
  | object (fields : List (String × Json))
deriving Inhabited

namespace Json

/-! ## Layout -/

/-- The start of a line. -/
def newline (indent : Nat) : List Char := '\n' :: List.replicate indent ' '

/-- A key and the colon after it. -/
def key (name : String) : List Char := '"' :: name.toList ++ ['"', ':', ' ']

mutual

/-- The layout of a value that begins on a line of some indentation. -/
def layout (indent : Nat) : Json → List Char
  | .flag true => ['t', 'r', 'u', 'e']
  | .flag false => ['f', 'a', 'l', 's', 'e']
  | .number n => Nat.toDigits 10 n
  | .list [] => ['[', ']']
  | .list (item :: items) =>
    '[' :: newline (indent + 2) ++ layout (indent + 2) item ++ layoutItems (indent + 2) items ++
      newline indent ++ [']']
  | .object [] => ['\x7b', '\x7d']
  | .object ((name, value) :: fields) =>
    '\x7b' :: newline (indent + 2) ++ key name ++ layout (indent + 2) value ++
      layoutFields (indent + 2) fields ++ newline indent ++ ['\x7d']

/-- The items of a list after the first. -/
def layoutItems (indent : Nat) : List Json → List Char
  | [] => []
  | item :: items => ',' :: newline indent ++ layout indent item ++ layoutItems indent items

/-- The fields of an object after the first. -/
def layoutFields (indent : Nat) : List (String × Json) → List Char
  | [] => []
  | (name, value) :: fields =>
    ',' :: newline indent ++ key name ++ layout indent value ++ layoutFields indent fields

end

/-- The text of a value, without a line end. -/
def pretty (value : Json) : String := String.ofList (layout 0 value)

/-! ## Reading values -/

/-- The value as a flag. -/
def flag? : Json → Option Bool
  | .flag value => some value
  | _ => none

/-- The value as a number. -/
def number? : Json → Option Nat
  | .number value => some value
  | _ => none

/-- The value as an octet. -/
def octet? : Json → Option UInt8
  | .number value => if value < 256 then some (UInt8.ofNat value) else none
  | _ => none

/-- The value as a word. -/
def word? : Json → Option UInt16
  | .number value => if value < 65536 then some (UInt16.ofNat value) else none
  | _ => none

/-- The items of a list. -/
def items? : Json → Option (List Json)
  | .list items => some items
  | _ => none

/-- The value of a field. -/
def field? (name : String) : Json → Option Json
  | .object fields => (fields.find? (·.1 = name)).map (·.2)
  | _ => none

end Json

end BootTlv
