import BootTlv.Path
import BootTlv.Text.Utf8

/-!
# Files

What can be read at a path: the octets of a file, or why there are none. In a folder that holds only
some files a path is followed name by name from the left, and the first name that cannot be followed
decides what is at fault.
-/

namespace BootTlv

/-- Why nothing can be read at a path. -/
inductive Files.Fault where
  | notFound
  | denied
  | notDirectory
  | isDirectory
  | nameTooLong
  /-- A file that is read as text holds octets that are no text. -/
  | notText
deriving DecidableEq

/-- What can be read at each path. -/
abbrev Files := String → Except Files.Fault (List UInt8)

namespace Files

/-- The fault in words. -/
def Fault.message : Fault → String
  | .notFound => "No such file or directory (os error 2)"
  | .denied => "Permission denied (os error 13)"
  | .notDirectory => "Not a directory (os error 20)"
  | .isDirectory => "Is a directory (os error 21)"
  | .nameTooLong => "File name too long (os error 36)"
  | .notText => "stream did not contain valid UTF-8"

/-! ## A folder -/

/-- The longest name of a file, in octets. -/
def maxName : Nat := 255

/-- The longest path, in octets. -/
def maxPath : Nat := 4095

/-- The names that lead down to a file. -/
def route (path : String) : List String := (Path.names path).filter fun name => !Path.isStill name

/-- Where a path has led: down some names of the folder, or out of the folder. -/
abbrev Position := Option (List String)

/-- What can be read at a position. Outside the folder there are only the folders around it. -/
def atPosition (files : List (String × List UInt8)) : Position → Except Fault (List UInt8)
  | none => .error .isDirectory
  | some place =>
    match files.find? fun file => route file.1 = place with
    | some (_, content) => .ok content
    | none =>
      if place.isEmpty || files.any fun file => place.isPrefixOf (route file.1) then
        .error .isDirectory
      else .error .notFound

/-- The position above. -/
def above : Position → Position
  | some (name :: names) => some (name :: names).dropLast
  | some [] | none => none

/-- Where a name leads from a position. -/
def follow (files : List (String × List UInt8)) (position : Position) (name : String) :
    Except Fault Position :=
  match atPosition files position with
  | .ok _ => .error .notDirectory
  | .error .isDirectory =>
    if Path.isStill name then .ok position
    else if name = Path.up then .ok (above position)
    else if maxName < name.utf8ByteSize then .error .nameTooLong
    else
      match position with
      | some place => .ok (some (place ++ [name]))
      | none => .error .notFound
  | .error fault => .error fault

/-- A folder that holds only the given files. -/
def ofList (files : List (String × List UInt8)) : Files := fun path =>
  if path = "" then .error .notFound
  else if maxPath < path.utf8ByteSize then .error .nameTooLong
  else do
    let start : Position := if Path.isAbsolute path then none else some []
    atPosition files (← (Path.names path).foldlM (follow files) start)

/-! ## Texts -/

/-- The text of a file. -/
def readText (files : Files) (path : String) : Except Fault String :=
  match files path with
  | .ok content =>
    match Utf8.decode? content with
    | some text => .ok (String.ofList text)
    | none => .error .notText
  | .error fault => .error fault

end Files

end BootTlv
