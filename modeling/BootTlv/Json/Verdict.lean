import BootTlv.Json
import BootTlv.Verdict

/-!
# Verdicts in JSON

A tag is its code, a value is the list of its octets, and a fault is an object whose one key says
which fault it is. What is written is read back, with each tag in its named spelling.
-/

namespace BootTlv

/-! ## Writing -/

/-- A tag as its code. -/
def Tag.toJson (tag : Tag) : Json := .number tag.code.toNat

/-- An entry as an object. -/
def Entry.toJson (entry : Entry) : Json :=
  .object
    [("parameter_type", entry.tag.toJson), ("length", .number entry.length.toNat),
      ("value", .list (entry.value.map fun b => .number b.toNat))]

/-- The name of a kind of fault. -/
def Fault.Kind.name : Fault.Kind → String
  | .unknownTag => "UnknownParameterType"
  | .tooLarge => "ParameterTooLarge"
  | .badFlag => "InvalidBooleanValue"
  | .badVerifyMethod => "InvalidVerifyMethod"
  | .wrongSize => "WrongFieldSize"
  | .badUri => "InvalidUri"
  | .unsupported => "NotImplemented"
  | .headerCut => "IncompleteFraming"
  | .valueCut => "InsufficientValueBytes"
  | .missingMandatory => "MissingMandatoryParameter"
  | .missingDependency => "MissingDependentParameter"
  | .lengthMismatch => "LengthMismatch"
  | .valueTooLong => "ValueTooLong"
  | .foreignVendor => "UnexpectedVendorId"
  | .tagOutOfRange => "TypeOutOfRange"

/-- What a fault is about. -/
def Fault.content : Fault → Json
  | .unknownTag code => .number code.toNat
  | .tooLarge tag length limit =>
    .object
      [("parameter_type", tag.toJson), ("length", .number length), ("max_size", .number limit)]
  | .badFlag tag | .badVerifyMethod tag | .badUri tag | .unsupported tag | .missingMandatory tag =>
    tag.toJson
  | .wrongSize tag expected actual =>
    .object
      [("parameter_type", tag.toJson), ("expected", .number expected), ("actual", .number actual)]
  | .headerCut offset => .object [("offset", .number offset)]
  | .valueCut offset declared available =>
    .object
      [("offset", .number offset), ("declared", .number declared),
        ("available", .number available)]
  | .missingDependency tag needs =>
    .object [("parameter_type", tag.toJson), ("depends_on", needs.toJson)]
  | .lengthMismatch tag declared actual =>
    .object
      [("parameter_type", tag.toJson), ("declared", .number declared), ("actual", .number actual)]
  | .valueTooLong tag length =>
    .object [("parameter_type", tag.toJson), ("length", .number length)]
  | .foreignVendor id => .number id.toNat
  | .tagOutOfRange field => .number field.toNat

/-- A fault as an object with one key. -/
def Fault.toJson (fault : Fault) : Json := .object [(fault.kind.name, fault.content)]

/-- A verdict as an object. -/
def Verdict.toJson (verdict : Verdict) : Json :=
  .object
    [("valid", .flag verdict.valid), ("parameters", .list (verdict.entries.map Entry.toJson)),
      ("errors", .list (verdict.faults.map Fault.toJson))]

/-! ## Reading -/

/-- The kind of fault with a name. -/
def Fault.Kind.ofName? (name : String) : Option Fault.Kind :=
  [.unknownTag, .tooLarge, .badFlag, .badVerifyMethod, .wrongSize, .badUri, .unsupported,
    .headerCut, .valueCut, .missingMandatory, .missingDependency, .lengthMismatch, .valueTooLong,
    .foreignVendor, .tagOutOfRange].find? fun kind : Fault.Kind => kind.name = name

/-- A tag from its code. -/
def Tag.ofJson? (json : Json) : Option Tag := json.octet?.map Tag.ofCode

/-- An entry from an object. -/
def Entry.ofJson? (json : Json) : Option Entry := do
  let tag ← Tag.ofJson? (← json.field? "parameter_type")
  let length ← (← json.field? "length").octet?
  let items ← (← json.field? "value").items?
  return ⟨tag, length, ← items.mapM Json.octet?⟩

/-- A fault of a kind from what it is about. -/
def Fault.ofContent? (json : Json) : Fault.Kind → Option Fault
  | .unknownTag => json.octet?.map .unknownTag
  | .tooLarge => do
    return .tooLarge (← tag "parameter_type") (← number "length") (← number "max_size")
  | .badFlag => (Tag.ofJson? json).map .badFlag
  | .badVerifyMethod => (Tag.ofJson? json).map .badVerifyMethod
  | .wrongSize => do
    return .wrongSize (← tag "parameter_type") (← number "expected") (← number "actual")
  | .badUri => (Tag.ofJson? json).map .badUri
  | .unsupported => (Tag.ofJson? json).map .unsupported
  | .headerCut => (number "offset").map .headerCut
  | .valueCut => do
    return .valueCut (← number "offset") (← number "declared") (← number "available")
  | .missingMandatory => (Tag.ofJson? json).map .missingMandatory
  | .missingDependency => do
    return .missingDependency (← tag "parameter_type") (← tag "depends_on")
  | .lengthMismatch => do
    return .lengthMismatch (← tag "parameter_type") (← number "declared") (← number "actual")
  | .valueTooLong => do return .valueTooLong (← tag "parameter_type") (← number "length")
  | .foreignVendor => json.word?.map .foreignVendor
  | .tagOutOfRange => json.word?.map .tagOutOfRange
where
  tag (name : String) : Option Tag := (json.field? name).bind Tag.ofJson?
  number (name : String) : Option Nat := (json.field? name).bind Json.number?

/-- A fault from an object with one key. -/
def Fault.ofJson? : Json → Option Fault
  | .object [(name, content)] => (Fault.Kind.ofName? name).bind (Fault.ofContent? content)
  | _ => none

/-- A verdict from an object. -/
def Verdict.ofJson? (json : Json) : Option Verdict := do
  let valid ← (← json.field? "valid").flag?
  let entries ← (← json.field? "parameters").items?
  let faults ← (← json.field? "errors").items?
  return ⟨valid, ← entries.mapM Entry.ofJson?, ← faults.mapM Fault.ofJson?⟩

end BootTlv
