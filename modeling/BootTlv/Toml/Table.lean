import BootTlv.Named
import BootTlv.Toml.Value

/-!
# Building tables

A document and an inline table name places in a table by paths of keys. A table on such a path is
made when it is first needed, and how it was made decides what may still be added to it:

* a table with a header of its own, or written in braces, is closed to dotted keys from outside;
* a table that a header only passes through may get a header of its own later, once;
* a table made by a dotted key takes further dotted keys, but no header.

A key is given a value once.
-/

namespace BootTlv.Toml

/-- How a table came to be. -/
inductive Origin where
  /-- A header or braces of its own. -/
  | stated
  /-- A header of a table inside it. -/
  | passed
  /-- A dotted key. -/
  | dotted
deriving DecidableEq

/-- What a key of an unfinished table stands for. -/
inductive Node where
  | leaf (value : Value)
  | table (origin : Origin) (fields : List (String × Node))
  /-- The tables of a list, the last one apart. -/
  | tables (earlier : List (List (String × Node))) (last : List (String × Node))

namespace Node

/-! ## Places -/

/-- An edit of a table, which depends on how the table came to be and may be refused. -/
abbrev Edit := Origin → List (String × Node) → Option (List (String × Node))

/-- Edits the table at the end of a path. Tables that are missing on the way are made, and of a
list of tables the last one is meant. -/
def within (made : Origin) (edit : Edit) : List String → Edit
  | [], origin, fields => edit origin fields
  | key :: path, _, fields =>
    match fields.lookup key with
    | none => do
      let inner ← within made edit path made []
      return Named.set key (.table made inner) fields
    | some (.leaf _) => none
    | some (.table origin inner) => do
      if made = .dotted ∧ origin = .stated then none
      let inner ← within made edit path origin inner
      return Named.set key (.table origin inner) fields
    | some (.tables earlier last) => do
      let last ← within made edit path .stated last
      return Named.set key (.tables earlier last) fields

/-- Gives a value to a new key at the end of a dotted path. -/
def assign (path : List String) (key : String) (value : Value) : Edit :=
  within .dotted
    (fun origin fields =>
      if (origin = .dotted ↔ path ≠ []) ∧ (fields.lookup key).isNone then
        some (Named.set key (.leaf value) fields)
      else none)
    path

/-- Opens the table of a header. A table that was only passed through until then moves to the end,
where its header is. -/
def openTable (path : List String) (key : String) : Edit :=
  within .passed
    (fun _ fields =>
      match fields.lookup key with
      | none => some (Named.set key (.table .stated []) fields)
      | some (.table .passed inner) =>
        some (fields.filter (·.1 ≠ key) ++ [(key, .table .stated inner)])
      | some _ => none)
    path

/-- Opens one more table of a list of tables. -/
def openItem (path : List String) (key : String) : Edit :=
  within .passed
    (fun _ fields =>
      match fields.lookup key with
      | none => some (Named.set key (.tables [] []) fields)
      | some (.tables earlier last) => some (Named.set key (.tables (earlier ++ [last]) []) fields)
      | some _ => none)
    path

/-! ## Finished tables -/

mutual

/-- The value of a finished node. -/
def value : Node → Value
  | leaf value => value
  | table _ fields => .table (values fields)
  | tables earlier last => .list (items earlier ++ [.table (values last)])

/-- The values of finished fields. -/
def values : List (String × Node) → Fields
  | [] => []
  | (key, node) :: fields => (key, value node) :: values fields

/-- The values of finished tables. -/
def items : List (List (String × Node)) → List Value
  | [] => []
  | fields :: rest => .table (values fields) :: items rest

end

end Node

end BootTlv.Toml
