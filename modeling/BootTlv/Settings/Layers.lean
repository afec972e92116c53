import BootTlv.Files
import BootTlv.Settings.Place
import BootTlv.Toml.Document
import BootTlv.Toml.MomentTable

/-!
# Layers of settings

Settings come from a file and from the environment, which is laid over the file. The file is named
or is the default one; a named file has to be there and has to be text, while a default file that is
missing or is no text says nothing. Values are read loosely, and only those that are left after all
layers are read at all.
-/

namespace BootTlv.Settings

/-- Keys and values, to be laid over what there is one after another. -/
abbrev Layer := List (String × Loose)

/-- Fields with a layer over them. -/
def lay (layer : Layer) (fields : List (String × Loose)) : List (String × Loose) :=
  layer.foldl (fun fields item => Loose.put (Place.ofKey item.1) item.2 fields) fields

/-! ## The environment -/

/-- What the name of a variable begins with if it is a setting, in lower case. -/
def variableMark : String := "ocr_inspect_"

/-- The key of a variable, if the variable is a setting. -/
def variableKey? (name : String) : Option String :=
  let name := (Text.lower name).toList
  let mark := variableMark.toList
  if mark.isPrefixOf name then some (String.ofList (name.drop mark.length)) else none

/-- The value of a variable: a flag, an integer, a float or a text. -/
def ofVariable (value : String) : Loose :=
  match value.toLower with
  | "true" => .flag true
  | "false" => .flag false
  | _ =>
    match Number.signed? value.toList with
    | some n => .integer n
    | none =>
      match Number.Binary64.ofText? value.toList with
      | some x => .float x
      | none => .text value

/-- The settings in an environment. -/
def ofVariables (environment : List (String × String)) : Layer :=
  environment.filterMap fun v => (variableKey? v.1).map fun key => (key, ofVariable v.2)

/-! ## Files -/

/-- The file that is read where none is named. -/
def defaultPath : String := "ocr-inspect.toml"

/-- What is added to a name under which there is no file. -/
def ending : String := ".toml"

/-- The text of the file of a name, or else of the name with the ending added. A file that is there
but cannot be read as text is not looked for again. -/
def text? (files : Files) (name : String) : Option String :=
  match files.readText name with
  | .ok text => some text
  | .error .notText | .error .denied => none
  | .error _ => (Path.withEnding? ending name).bind fun other => (files.readText other).toOption

/-- The settings in the text of a file. -/
def layer? (text : String) : Option Layer :=
  let document := (Toml.Document.fields? text).map Toml.Value.table
  match document.bind fun value => value.withMoments?.map Loose.ofToml with
  | some (.table fields) => some fields
  | _ => none

/-- The settings of the file layer. -/
def fileLayer? (path : Option String) (files : Files) : Option Layer :=
  match path with
  | some path => text? files path >>= layer?
  | none =>
    match text? files defaultPath with
    | some text => layer? text
    | none => some []

/-! ## Loading -/

/-- The settings of a file and an environment. -/
def load? (path : Option String) (files : Files) (environment : List (String × String)) :
    Option Settings := do
  let file ← fileLayer? path files
  ofLoose? (lay (ofVariables environment) (lay file []))

/-- The paths that are read for a settings path. -/
def paths (path : Option String) : List String :=
  let name := path.getD defaultPath
  name :: (Path.withEnding? ending name).toList

/-- Loading depends on files only through the paths that are read. -/
theorem load?_congr {path : Option String} {files others : Files}
    (environment : List (String × String)) (h : ∀ p ∈ paths path, files p = others p) :
    load? path files environment = load? path others environment := by
  have reading {p : String} (m : p ∈ paths path) : files.readText p = others.readText p := by
    unfold Files.readText
    rw [h p m]
  have same : text? files (path.getD defaultPath) = text? others (path.getD defaultPath) := by
    unfold text?
    rw [reading List.mem_cons_self]
    cases other : Path.withEnding? ending (path.getD defaultPath) with
    | none => rfl
    | some other' => rw [Option.bind_some, Option.bind_some, reading (by simp [paths, other])]
  have layer : fileLayer? path files = fileLayer? path others := by
    cases path <;> simp only [fileLayer?, Option.getD_none, Option.getD_some] at same ⊢ <;> rw [same]
  rw [load?, load?, layer]

end BootTlv.Settings
