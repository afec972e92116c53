import BootTlv.Json.Verdict
import BootTlv.Text.Quoted

/-!
# Reports

A verdict for a reader, as text or as JSON. The text has one line for the flag, one for the number
of entries, one for each entry, one for the number of faults and one for each fault. A value is
shown as its kind reads it, and in hexadecimal where its kind cannot read it or has no reading.
-/

namespace BootTlv.Report

/-- How a report is written. -/
inductive Format where
  | text
  | json
deriving DecidableEq

/-! ## Values -/

/-- A flag as a word. -/
def flag (value : Bool) : String := if value then "true" else "false"

/-- The value of an entry as its built-in kind reads it. -/
def value? (entry : Entry) : Option String :=
  match (Catalog.builtin.lookup entry.tag.code).map Row.kind with
  | some .boolean => entry.flag.toOption.map flag
  | some .word => entry.word.toOption.map fun w => Text.decimal w.toNat
  | some .verifyMethod => entry.verifyMethod.toOption.map VerifyMethod.label
  | some .uri | some .text => some (String.ofList (Text.quoted '"' entry.text.toList))
  | some .unsupported | none => none

/-- The value of an entry in a report. -/
def value (entry : Entry) : String := (value? entry).getD (Text.hexOctets entry.value)

/-! ## Lines -/

/-- The line of an entry at a position. -/
def entryLine (position : Nat) (entry : Entry) : String :=
  String.join
    ["  [", Text.decimal position, "] ", entry.tag.label, " (", Text.hexOctet entry.tag.code,
      ") len=", Text.decimal entry.length.toNat, " ", value entry]

/-- The line of a fault. -/
def faultLine (fault : Fault) : String := String.join ["  - ", fault.message]

/-- The lines of a verdict. -/
def lines (verdict : Verdict) : List String :=
  [String.join ["valid: ", flag verdict.valid],
    String.join ["parameters: ", Text.decimal verdict.entries.length]] ++
  verdict.entries.mapIdx entryLine ++
  [String.join ["errors: ", Text.decimal verdict.faults.length]] ++
  verdict.faults.map faultLine

/-- The text of a verdict: its lines, each with a line end. -/
def text (verdict : Verdict) : String := String.join ((lines verdict).map (· ++ "\n"))

/-- A verdict in a format. -/
def render (format : Format) (verdict : Verdict) : String :=
  match format with
  | .text => text verdict
  | .json => verdict.toJson.pretty

end BootTlv.Report
