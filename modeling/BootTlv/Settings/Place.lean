import BootTlv.Named
import BootTlv.Number.Integer
import BootTlv.Settings.Loose

/-!
# Places of settings

A key names a place: a name, and after it names below it, each after a point, and positions in
brackets. A key that is not of this form is a name as a whole. Keys are given in lower case.

Giving a value to a place makes the tables on the way. A table that is given to a place is added to
what is there, name by name; any other value takes the place of what is there.
-/

namespace BootTlv.Settings

/-! ## Keys -/

/-- A step down from a name. -/
inductive Below where
  /-- A name in a table. -/
  | name (key : String)
  /-- A position in a list. -/
  | position
deriving DecidableEq

/-- A name and the steps down from it. -/
structure Place where
  name : String
  below : List Below := []
deriving DecidableEq

namespace Place

/-- A character of a name in a key with points and brackets. -/
def isNameChar (c : Char) : Bool := c.isAlphanum || c == ' ' || c == '_' || c == '-'

/-- Whether a text is a position: an integer with blanks around it. -/
def isPosition (text : List Char) : Bool :=
  let isSpace (c : Char) : Bool := c == ' ' || c == '\t'
  let core := ((text.dropWhile isSpace).reverse.dropWhile isSpace).reverse
  match core with
  | '+' :: _ => false
  | core => (Number.signed? core).isSome

/-- The steps of the rest of a key. -/
def steps? (rest : List Char) : Option (List Below) :=
  match rest with
  | [] => some []
  | '.' :: rest =>
    let name := rest.takeWhile isNameChar
    if name.isEmpty then none
    else
      have : (rest.dropWhile isNameChar).length ≤ rest.length :=
        (List.dropWhile_suffix isNameChar).length_le
      (steps? (rest.dropWhile isNameChar)).map (.name (String.ofList name) :: ·)
  | '[' :: rest =>
    let position := rest.takeWhile (· != ']')
    match h : rest.dropWhile (· != ']') with
    | ']' :: rest' =>
      have : rest'.length < rest.length := by
        have := (List.dropWhile_suffix (l := rest) (· != ']')).length_le
        rw [h] at this
        exact this
      if isPosition position then (steps? rest').map (.position :: ·) else none
    | _ => none
  | _ => none
termination_by rest.length
decreasing_by all_goals simp_wf; omega

/-- The place of a key. -/
def ofKey (key : String) : Place :=
  let text := key.toList
  let name := text.takeWhile isNameChar
  match name, steps? (text.dropWhile isNameChar) with
  | _ :: _, some below => ⟨String.ofList name, below⟩
  | _, _ => ⟨key, []⟩

/-- A key that is a plain name is the place of that name. -/
theorem ofKey_of_plain {key : String} (h : ∀ c ∈ key.toList, isNameChar c = true) :
    ofKey key = ⟨key, []⟩ := by
  have take : (key.toList ++ []).takeWhile isNameChar = key.toList ++ [].takeWhile isNameChar :=
    List.takeWhile_append_of_pos h
  have drop : (key.toList ++ []).dropWhile isNameChar = [].dropWhile isNameChar :=
    List.dropWhile_append_of_pos h
  simp only [List.append_nil, List.takeWhile_nil, List.dropWhile_nil] at take drop
  simp only [ofKey, take, drop, steps?]
  split
  next first tail below same found =>
    cases found
    rw [String.ofList_toList]
  next => rfl

end Place

/-! ## Values at places -/

namespace Loose

/-- The fields of a table, and none of any other value. -/
def fields : Loose → List (String × Loose)
  | table fields => fields
  | _ => []

mutual

/-- Fields with a value added at a name. -/
def add (name : String) (value : Loose) (into : List (String × Loose)) : List (String × Loose) :=
  match value with
  | table fields => Named.set name (merge fields ((into.lookup name).getD (table []))) into
  | value => Named.set name value into

/-- A value with named values added to it, one after another. A value that is no table becomes one
when the first is added. -/
def merge (values : List (String × Loose)) (into : Loose) : Loose :=
  match values with
  | [] => into
  | (name, value) :: rest => merge rest (table (add name value into.fields))

end

/-- A value with a change made some steps down. What a list holds is not kept. -/
def change (f : Loose → Loose) : List Below → Loose → Loose
  | [], value => f value
  | .position :: _, _ => other
  | .name name :: below, value =>
    table (Named.set name (change f below ((value.fields.lookup name).getD other)) value.fields)

/-- Fields with a value given to a place. -/
def put (place : Place) (value : Loose) (into : List (String × Loose)) : List (String × Loose) :=
  match place.below with
  | [] => add place.name value into
  | below =>
    let replace (old : Loose) : Loose :=
      match value with
      | table fields => merge fields (table old.fields)
      | value => value
    Named.set place.name (change replace below ((into.lookup place.name).getD other)) into

end Loose

end BootTlv.Settings
