import BootTlv.Fault
import BootTlv.LittleEndian
import BootTlv.Text.Terminated
import BootTlv.Text.Utf8
import BootTlv.VerifyMethod

/-!
# Entries

An entry is a tag, a length octet and a value. The length octet is kept as it was read, so it may
disagree with the value; such an entry is reported when it is checked and refused when it is
written. The entries that are built here agree, and `Entry.Framed` is what they have in common.

`framingFault?_eq_none_iff` says that exactly the framed entries can be written.
-/

namespace BootTlv

/-- One boot parameter: its tag, the length octet and the value. -/
structure Entry where
  tag : Tag
  length : UInt8
  value : List UInt8

namespace Entry

/-! ## Framing -/

/-- The most octets that a length octet can count. -/
def maxLength : Nat := 255

/-- The number of octets of the entry in compact framing. -/
def encodedLength (entry : Entry) : Nat := 2 + entry.value.length

/-- The length octet counts the value. -/
def Framed (entry : Entry) : Prop := entry.length.toNat = entry.value.length

instance (entry : Entry) : Decidable entry.Framed := inferInstanceAs (Decidable (_ = _))

/-- Why the entry cannot be written, if it cannot. -/
def framingFault? (entry : Entry) : Option Fault :=
  if maxLength < entry.value.length then some (.valueTooLong entry.tag entry.value.length)
  else if entry.length.toNat ≠ entry.value.length then
    some (.lengthMismatch entry.tag entry.length.toNat entry.value.length)
  else none

theorem framingFault?_eq_none_iff {entry : Entry} : entry.framingFault? = none ↔ entry.Framed := by
  have := entry.length.toNat_lt
  unfold framingFault? Framed maxLength
  split
  · simp; omega
  · split <;> simp_all

/-! ## Building entries -/

/-- The entry of a value, whose length octet counts the value. -/
def make (tag : Tag) (value : List UInt8) : Except Fault Entry :=
  if maxLength < value.length then .error (.valueTooLong tag value.length)
  else .ok ⟨tag, UInt8.ofNat value.length, value⟩

/-- An entry that holds a word. -/
def ofWord (tag : Tag) (w : UInt16) : Entry := ⟨tag, 2, LittleEndian.wordBytes w⟩

/-- An entry that holds a flag. -/
def ofFlag (tag : Tag) (flag : Bool) : Entry := ⟨tag, 1, [if flag then 1 else 0]⟩

/-- An entry that holds a text without a terminator. -/
def ofText (tag : Tag) (text : String) : Except Fault Entry := make tag (Utf8.encode text.toList)

/-- The entry that holds a verify method. -/
def ofVerifyMethod (method : VerifyMethod) : Entry := ofWord .serverNameVerifyMethod method.code

theorem framed_of_make {tag : Tag} {value : List UInt8} {entry : Entry}
    (h : make tag value = .ok entry) : entry.Framed := by
  unfold make at h
  split at h
  · cases h
  · cases h
    simp only [maxLength] at *
    simp only [Framed, UInt8.toNat_ofNat']
    omega

theorem framed_ofWord (tag : Tag) (w : UInt16) : (ofWord tag w).Framed := rfl

theorem framed_ofFlag (tag : Tag) (flag : Bool) : (ofFlag tag flag).Framed := rfl

/-- A way of building an entry. -/
inductive Construction where
  | octets (tag : Tag) (value : List UInt8)
  | octetsOfCode (code : UInt8) (value : List UInt8)
  | word (tag : Tag) (w : UInt16)
  | flag (tag : Tag) (value : Bool)
  | text (tag : Tag) (value : String)
  | verifyMethod (method : VerifyMethod)

/-- The entry that is built. -/
def Construction.build : Construction → Except Fault Entry
  | octets tag value => make tag value
  | octetsOfCode code value => make (Tag.ofCode code) value
  | word tag w => .ok (ofWord tag w)
  | flag tag value => .ok (ofFlag tag value)
  | text tag value => ofText tag value
  | verifyMethod method => .ok (ofVerifyMethod method)

/-! ## Reading values -/

/-- The value as a little-endian word. -/
def word (entry : Entry) : Except Fault UInt16 :=
  match entry.value with
  | [low, high] => .ok (LittleEndian.word low high)
  | value => .error (.wrongSize entry.tag 2 value.length)

/-- The value as a flag. -/
def flag (entry : Entry) : Except Fault Bool :=
  match entry.value with
  | [b] => if b = 0 then .ok false else if b = 1 then .ok true else .error (.badFlag entry.tag)
  | value => .error (.wrongSize entry.tag 1 value.length)

/-- The value as a verify method. -/
def verifyMethod (entry : Entry) : Except Fault VerifyMethod :=
  match entry.word with
  | .ok w =>
    match VerifyMethod.ofCode? w with
    | some method => .ok method
    | none => .error (.badVerifyMethod entry.tag)
  | .error fault => .error fault

/-- The value as a text, with damage shown and one terminator dropped. -/
def text (entry : Entry) : String := String.ofList (Utf8.lossy (Text.unterminated entry.value))

end Entry

end BootTlv
