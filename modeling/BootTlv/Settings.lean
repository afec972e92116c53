import BootTlv.Framing
import BootTlv.Report

/-!
# Settings

What an inspection depends on besides its input, and the words by which settings are chosen.
-/

namespace BootTlv

/-- How an input file holds a buffer. -/
inductive InputFormat where
  /-- Hexadecimal digits, with white space anywhere. -/
  | hex
  /-- The octets themselves. -/
  | binary
deriving DecidableEq

/-- The settings of the inspector. -/
structure Settings where
  /-- The largest buffer that is read. -/
  maxLength : UInt64 := 4096
  inputFormat : InputFormat := .hex
  output : Report.Format := .text
  framing : Framing := .compact
  /-- An invalid buffer is a failure of the program. -/
  rejectInvalid : Bool := true
deriving DecidableEq

/-! ## Words -/

/-- The input format of a word. -/
def InputFormat.ofWord? : String → Option InputFormat
  | "hex" => some hex
  | "binary" => some binary
  | _ => none

/-- The report format of a word. -/
def Report.Format.ofWord? : String → Option Report.Format
  | "text" => some text
  | "json" => some json
  | _ => none

/-- The framing of a word. -/
def Framing.ofWord? : String → Option Framing
  | "compact" => some compact
  | "vendor" => some vendor
  | _ => none

namespace Settings

/-- The settings of a reading of each field that is given. A field that is not given keeps its
default, and a field that cannot be read fails. -/
def ofFields? {Source : Type} (find : String → Option Source)
    (size : Source → Option UInt64) (flag : Source → Option Bool) (word : Source → Option String) :
    Option Settings := do
  let base : Settings := {}
  let field {α : Type} (name : String) (read : Source → Option α) (default : α) : Option α :=
    match find name with
    | some source => read source
    | none => some default
  return {
    maxLength := ← field "max_buffer_len" size base.maxLength
    inputFormat := ← field "input_format" (fun s => word s >>= InputFormat.ofWord?) base.inputFormat
    output := ← field "output" (fun s => word s >>= Report.Format.ofWord?) base.output
    framing := ← field "framing" (fun s => word s >>= Framing.ofWord?) base.framing
    rejectInvalid := ← field "reject_invalid" flag base.rejectInvalid }

end Settings

end BootTlv
