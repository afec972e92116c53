import BootTlv.Toml.Moment
import BootTlv.Toml.Value

/-!
# Moments given as tables

A date or time may be given as a table whose first key is `$__toml_private_datetime` and holds the
date or time as a text, written as in a document; whatever comes after that key is left unread. A
table that begins with this key and holds anything else under it is at fault.
-/

namespace BootTlv.Toml

/-- The key of a table that gives a moment. -/
def momentKey : String := "$__toml_private_datetime"

/-- Whether a text is a date, a time or both, as a document writes them. -/
def isMoment (text : String) : Bool := (Scanner.moment.readAll? text.toList).isSome

namespace Value

mutual

/-- The value with moments in the place of the tables that give them. -/
def withMoments? : Value → Option Value
  | list items => (itemsWithMoments? items).map list
  | table [] => some (table [])
  | table ((key, value) :: fields) =>
    if key = momentKey then
      match value with
      | text t => if isMoment t then some moment else none
      | _ => none
    else do
      let value ← withMoments? value
      return table ((key, value) :: (← fieldsWithMoments? fields))
  | value => some value

/-- The values of a list, each with its moments. -/
def itemsWithMoments? : List Value → Option (List Value)
  | [] => some []
  | value :: items => do
    let value ← withMoments? value
    return value :: (← itemsWithMoments? items)

/-- The fields of a table, each with its moments. -/
def fieldsWithMoments? : List (String × Value) → Option Fields
  | [] => some []
  | (key, value) :: fields => do
    let value ← withMoments? value
    return (key, value) :: (← fieldsWithMoments? fields)

end

end Value

end BootTlv.Toml
