import BootTlv.Program

/-!
# The executable

Reads the environment and the files that a run may ask for, and prints what the run leaves behind.
-/

namespace BootTlv.Executable

/-- Why the system cannot read a file. -/
def fault : IO.Error → Files.Fault
  | .permissionDenied .. => .denied
  | .inappropriateType _ code _ => if code = 21 then .isDirectory else .notDirectory
  | .invalidArgument .. => .nameTooLong
  | _ => .notFound

/-- What can be read at a path now. -/
def readFile (path : String) : IO (Except Files.Fault (List UInt8)) := do
  try
    return .ok (← IO.FS.readBinFile path).toList
  catch error =>
    return .error (fault error)

/-- What can be read at some paths now. -/
def readFiles (paths : List String) : IO Files := do
  let contents ← paths.mapM fun path => do return (path, ← readFile path)
  return fun path => (contents.lookup path).getD (.error .notFound)

/-- The name and the value of a variable, which are separated by an equals sign. -/
def assignment? (text : List Char) : Option (String × String) :=
  (Text.splitFirst '=' text).map fun (name, value) => (String.ofList name, String.ofList value)

/-- The environment of the process. -/
def readVariables : IO (List (String × String)) := do
  let content ← readFile "/proc/self/environ"
  let text := Utf8.lossy (content.toOption.getD [])
  return (text.splitOn '\x00').filterMap assignment?

end BootTlv.Executable

open BootTlv in
/-- Runs the program on the command line of the process. -/
def main (args : List String) : IO UInt32 := do
  let files ← Executable.readFiles (Program.paths args)
  let outcome := Program.run args files (← Executable.readVariables)
  (← IO.getStdout).putStr outcome.stdout
  (← IO.getStderr).putStr outcome.stderr
  return UInt32.ofNat outcome.exit
