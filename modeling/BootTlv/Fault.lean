import BootTlv.Catalog
import BootTlv.Text.Numeral

/-!
# Faults of boot parameters

What can be wrong with an entry, a buffer or a set of parameters. A fault names the tags and the
sizes it is about, and `message` words it in one line. Parameters are called by their built-in
names whatever catalog is in use; a code without a built-in name is shown in hexadecimal.
-/

namespace BootTlv

/-- The built-in name of a tag, or its code where there is none. -/
def Tag.label (tag : Tag) : String :=
  match Catalog.builtin.lookup tag.code with
  | some row => row.name
  | none => "parameter type " ++ Text.hexOctet tag.code

/-- The label does not show how a tag is spelled. -/
@[simp] theorem Tag.label_canonical (t : Tag) : t.canonical.label = t.label := by
  rw [Tag.label, Tag.label, Tag.code_canonical]

/-- What is wrong with an entry, a buffer or a set of parameters. -/
inductive Fault where
  /-- The catalog has no row for the code. -/
  | unknownTag (code : UInt8)
  /-- The length octet is above the row's limit. -/
  | tooLarge (tag : Tag) (length limit : Nat)
  /-- A flag that is neither 0 nor 1. -/
  | badFlag (tag : Tag)
  /-- A value that stands for no verify method. -/
  | badVerifyMethod (tag : Tag)
  /-- A value of fixed size that has another size. -/
  | wrongSize (tag : Tag) (expected actual : Nat)
  /-- A value that is no URI with a host. -/
  | badUri (tag : Tag)
  /-- A parameter that is known and refused. -/
  | unsupported (tag : Tag)
  /-- The buffer ends inside a header. -/
  | headerCut (offset : Nat)
  /-- The buffer ends inside a value. -/
  | valueCut (offset declared available : Nat)
  /-- A parameter that every set must have is absent. -/
  | missingMandatory (tag : Tag)
  /-- A parameter that another one needs is absent. -/
  | missingDependency (tag needs : Tag)
  /-- The length octet disagrees with the value. -/
  | lengthMismatch (tag : Tag) (declared actual : Nat)
  /-- The value has more octets than a length octet can count. -/
  | valueTooLong (tag : Tag) (length : Nat)
  /-- An entry of another vendor. -/
  | foreignVendor (id : UInt16)
  /-- A tag field above the range of codes. -/
  | tagOutOfRange (field : UInt16)

namespace Fault

/-! ## Wording -/

/-- The pieces of the message, in order. -/
def pieces : Fault → List String
  | unknownTag code => ["Unknown parameter type ", Text.hexOctet code]
  | tooLarge tag length limit =>
    [tag.label, " is ", Text.decimal length, " bytes, limit is ", Text.decimal limit]
  | badFlag tag => [tag.label, " must be a single 0x00 or 0x01 byte"]
  | badVerifyMethod tag => [tag.label, " does not hold a supported verify method"]
  | wrongSize tag expected actual =>
    [tag.label, " must be ", Text.decimal expected, " bytes, got ", Text.decimal actual]
  | badUri tag => [tag.label, " is not a valid URI"]
  | unsupported tag => [tag.label, " is not supported"]
  | headerCut offset => ["Incomplete TLV header at offset ", Text.decimal offset]
  | valueCut offset declared available =>
    ["Entry at offset ", Text.decimal offset, " declares ", Text.decimal declared,
      " value bytes, ", Text.decimal available, " remain"]
  | missingMandatory tag => ["Missing mandatory parameter ", tag.label]
  | missingDependency tag needs => [tag.label, " requires ", needs.label]
  | lengthMismatch tag declared actual =>
    [tag.label, " declares ", Text.decimal declared, " bytes but carries ", Text.decimal actual]
  | valueTooLong tag length =>
    [tag.label, " value of ", Text.decimal length, " bytes does not fit a TLV entry"]
  | foreignVendor id => ["Unexpected vendor ID ", Text.hexWord id]
  | tagOutOfRange field => ["Parameter type ", Text.hexWord field, " is out of range"]

/-- The fault in one line. -/
def message (fault : Fault) : String := String.join fault.pieces

/-- Several faults in one line. -/
def messages (faults : List Fault) : String := "; ".intercalate (faults.map message)

/-! ## Kinds -/

/-- A fault without what it is about. -/
inductive Kind where
  | unknownTag
  | tooLarge
  | badFlag
  | badVerifyMethod
  | wrongSize
  | badUri
  | unsupported
  | headerCut
  | valueCut
  | missingMandatory
  | missingDependency
  | lengthMismatch
  | valueTooLong
  | foreignVendor
  | tagOutOfRange
deriving DecidableEq

/-- The kind of a fault. -/
def kind : Fault → Kind
  | unknownTag .. => .unknownTag
  | tooLarge .. => .tooLarge
  | badFlag .. => .badFlag
  | badVerifyMethod .. => .badVerifyMethod
  | wrongSize .. => .wrongSize
  | badUri .. => .badUri
  | unsupported .. => .unsupported
  | headerCut .. => .headerCut
  | valueCut .. => .valueCut
  | missingMandatory .. => .missingMandatory
  | missingDependency .. => .missingDependency
  | lengthMismatch .. => .lengthMismatch
  | valueTooLong .. => .valueTooLong
  | foreignVendor .. => .foreignVendor
  | tagOutOfRange .. => .tagOutOfRange

/-- Whether the buffer itself is cut short, so that what follows cannot be told apart. -/
def isFraming (fault : Fault) : Bool :=
  match fault.kind with
  | .headerCut | .valueCut => true
  | _ => false

/-! ## Spelling of tags -/

/-- The fault with its tags in their named spelling. -/
def canonical : Fault → Fault
  | tooLarge tag length limit => tooLarge tag.canonical length limit
  | badFlag tag => badFlag tag.canonical
  | badVerifyMethod tag => badVerifyMethod tag.canonical
  | wrongSize tag expected actual => wrongSize tag.canonical expected actual
  | badUri tag => badUri tag.canonical
  | unsupported tag => unsupported tag.canonical
  | missingMandatory tag => missingMandatory tag.canonical
  | missingDependency tag needs => missingDependency tag.canonical needs.canonical
  | lengthMismatch tag declared actual => lengthMismatch tag.canonical declared actual
  | valueTooLong tag length => valueTooLong tag.canonical length
  | fault => fault

/-- A message does not show how its tags are spelled. -/
theorem message_canonical (fault : Fault) : fault.canonical.message = fault.message := by
  cases fault <;> simp [canonical, message, pieces]

end Fault

end BootTlv
