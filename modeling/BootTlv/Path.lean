import BootTlv.Text.Split

/-!
# Paths

A path is names between slashes. A name that is empty or a point stays where it is, two points lead
up, and any other name leads down. A path that begins with a slash begins at the root.
-/

namespace BootTlv.Path

/-- The names of a path, in order. -/
def names (path : String) : List String := (Text.splitAll '/' path.toList).map String.ofList

/-- The path of names. -/
def ofNames (names : List String) : String :=
  String.ofList (List.intercalate ['/'] (names.map String.toList))

/-- Whether a name stays where it is. -/
def isStill (name : String) : Bool := name = "" || name = "."

/-- The name that leads up. -/
def up : String := ".."

/-- Whether a path begins at the root. -/
def isAbsolute (path : String) : Bool := path.toList.head? = some '/'

/-- The path with an ending added to the last name that leads somewhere, if that name leads down.
What follows the name is dropped. -/
def withEnding? (ending path : String) : Option String :=
  match (names path).reverse.dropWhile isStill with
  | [] => none
  | last :: before =>
    if last = up then none else some (ofNames (before.reverse ++ [last ++ ending]))

end BootTlv.Path
