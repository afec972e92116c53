import BootTlv.CommandLine
import BootTlv.Inspector
import BootTlv.Settings.Layers

/-!
# The program

From a command line, files and an environment to an exit code and what is printed. The code is 2 for
a usage fault, 1 for a failure or a rejected buffer, and 0 otherwise. A rejected buffer is reported
all the same.
-/

namespace BootTlv.Program

/-- What a run leaves behind. -/
structure Outcome where
  exit : Nat
  stdout : String := ""
  stderr : String := ""
deriving DecidableEq

/-- The outcome of a failure. -/
def failed (message : String) : Outcome :=
  { exit := 1, stderr := String.join ["Error: ", message, "\n"] }

/-- The message of settings that cannot be loaded. -/
def badSettings : String := "failed to load ocr-inspect configuration"

/-- The outcome of an inspection. -/
def inspected (settings : Settings) (inspection : Inspector.Inspection) : Outcome :=
  { exit := if settings.rejectInvalid && !inspection.verdict.valid then 1 else 0
    stdout := inspection.report }

/-- The outcome of a command under settings. -/
def execute (settings : Settings) (files : Files) : Command → Outcome
  | .decode path =>
    match Inspector.inspectFile settings files path with
    | .ok inspection => inspected settings inspection
    | .error failure => failed failure.message
  | .encode path =>
    match Inspector.encodeFile settings files path with
    | .ok digits => { exit := 0, stdout := digits ++ "\n" }
    | .error failure => failed failure.message

/-- The outcome of a run. -/
def run (args : List String) (files : Files) (environment : List (String × String)) : Outcome :=
  match CommandLine.parse args with
  | .error fault => { exit := 2, stderr := fault.message ++ "\n" }
  | .ok invocation =>
    match Settings.load? invocation.settingsPath files environment with
    | none => failed badSettings
    | some settings => execute settings files invocation.command

/-! ## What a run reads -/

/-- The paths that a run may read. -/
def paths (args : List String) : List String :=
  match CommandLine.parse args with
  | .error _ => []
  | .ok invocation => Settings.paths invocation.settingsPath ++ [invocation.command.path]

theorem execute_congr (settings : Settings) {files others : Files} {command : Command}
    (h : files command.path = others command.path) :
    execute settings files command = execute settings others command := by
  cases command <;>
    simp only [execute, Inspector.inspectFile, Inspector.readBuffer, Inspector.encodeFile,
      Files.readText, Command.path] at h ⊢ <;> rw [h]

/-- A run depends on files only through the paths that it may read. -/
theorem run_congr {args : List String} {files others : Files} (environment : List (String × String))
    (h : ∀ path ∈ paths args, files path = others path) :
    run args files environment = run args others environment := by
  unfold run
  unfold paths at h
  split
  · rfl
  · next invocation parsed =>
    simp only [parsed, List.mem_append, List.mem_singleton] at h
    rw [Settings.load?_congr environment fun path m => h path (.inl m)]
    split
    · rfl
    · exact execute_congr _ (h _ (.inr rfl))

end BootTlv.Program
