/-!
# The command line

A command line is pairs of a keyword and a path: the settings file, or a command with its input. Of
each sort the last pair counts. Anything else is a usage fault. A keyword without its path at the
end is reported before every other fault, and of the others the first one is.
-/

namespace BootTlv

/-- What to do. -/
inductive Command where
  /-- Report on the buffer of a file. -/
  | decode (path : String)
  /-- Write the buffer of the request in a file. -/
  | encode (path : String)
deriving DecidableEq

/-- The path of the input of a command. -/
def Command.path : Command → String
  | decode path | encode path => path

/-- What a command line asks for. -/
structure Invocation where
  settingsPath : Option String
  command : Command
deriving DecidableEq

namespace CommandLine

/-! ## Faults -/

/-- The usage line. -/
def usage : String :=
  String.join
    ["Usage: ocr-inspect [-c/--config <path>] ",
      "<decode <buffer-file> | encode <request.toml>>, -h/--help"]

/-- What is wrong with a command line. -/
inductive Fault where
  | missingSettingsPath
  | missingInputPath
  /-- Help was asked for. -/
  | help
  | unexpected (word : String)
  | noCommand
deriving DecidableEq

/-- The pieces of the message, in order. -/
def Fault.pieces : Fault → List String
  | .missingSettingsPath => ["Missing <path> after -c/--config"]
  | .missingInputPath => ["Missing input path\n", usage]
  | .help | .noCommand => [usage]
  | .unexpected word => ["Error: unexpected argument '", word, "'\n", usage]

/-- The fault in words. -/
def Fault.message (fault : Fault) : String := String.join fault.pieces

/-! ## Words -/

/-- A word that a path follows. -/
inductive Keyword where
  | settings
  | decode
  | encode
deriving DecidableEq

/-- The keyword of a word. -/
def Keyword.ofWord? : String → Option Keyword
  | "-c" | "--config" => some settings
  | "decode" => some decode
  | "encode" => some encode
  | _ => none

/-- The fault of a keyword without a path. -/
def Keyword.unfollowed : Keyword → Fault
  | settings => .missingSettingsPath
  | decode | encode => .missingInputPath

/-- The fault of a word in the place of a keyword. -/
def stray (word : String) : Fault :=
  if word = "-h" ∨ word = "--help" then .help else .unexpected word

/-- A pair of the command line, or a word that is none. -/
inductive Item where
  | settings (path : String)
  | command (command : Command)
  | stray (fault : Fault)

/-- The item of a keyword and its path. -/
def Keyword.item (path : String) : Keyword → Item
  | settings => .settings path
  | decode => .command (.decode path)
  | encode => .command (.encode path)

/-- The items of a command line. -/
def items : List String → Except Fault (List Item)
  | [] => .ok []
  | [word] =>
    match Keyword.ofWord? word with
    | some keyword => .error keyword.unfollowed
    | none => .ok [.stray (stray word)]
  | word :: path :: rest =>
    match Keyword.ofWord? word with
    | some keyword => (items rest).map (keyword.item path :: ·)
    | none => (items (path :: rest)).map (.stray (stray word) :: ·)

/-! ## Invocations -/

/-- The fault of an item that is no pair. -/
def Item.fault? : Item → Option Fault
  | stray fault => some fault
  | _ => none

/-- The path of a settings pair. -/
def Item.settings? : Item → Option String
  | settings path => some path
  | _ => none

/-- The command of a command pair. -/
def Item.command? : Item → Option Command
  | command c => some c
  | _ => none

/-- What a command line asks for. -/
def parse (args : List String) : Except Fault Invocation :=
  match items args with
  | .error fault => .error fault
  | .ok items =>
    match items.findSome? Item.fault? with
    | some fault => .error fault
    | none =>
      match (items.filterMap Item.command?).getLast? with
      | some command => .ok ⟨(items.filterMap Item.settings?).getLast?, command⟩
      | none => .error .noCommand

end CommandLine

end BootTlv
