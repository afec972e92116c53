import BootTlv.Entry

/-!
# Vendor framing

Every entry carries the vendor's identifier, its code as a word and its length as a number of 32
bits, all little-endian, before the value. Reading is strict: the first fault ends it and nothing
is given of what was read before. Writing checks each entry as it comes to it.
-/

namespace BootTlv.Vendor

/-- The identifier that every entry carries. -/
def vendorId : UInt16 := 0x8086

/-- The number of octets before the value. -/
def headerSize : Nat := 8

/-! ## Writing -/

/-- The octets of one entry. -/
def octets (entry : Entry) : List UInt8 :=
  LittleEndian.wordBytes vendorId ++ LittleEndian.wordBytes entry.tag.code.toUInt16 ++
    LittleEndian.octetAsLong entry.length ++ entry.value

/-- The buffer of a list of entries. -/
def encode : List Entry → Except Fault (List UInt8)
  | [] => .ok []
  | entry :: rest =>
    match entry.framingFault? with
    | some fault => .error fault
    | none => (encode rest).map (octets entry ++ ·)

/-! ## Reading -/

/-- Reads the entry that begins a list of octets, which begin at an offset of the buffer. -/
def readEntry (offset : Nat) : List UInt8 → Except Fault (Entry × List UInt8)
  | v₀ :: v₁ :: t₀ :: t₁ :: l₀ :: l₁ :: l₂ :: l₃ :: rest =>
    let vendor := LittleEndian.word v₀ v₁
    let field := LittleEndian.word t₀ t₁
    let length := LittleEndian.long l₀ l₁ l₂ l₃
    if vendor ≠ vendorId then .error (.foreignVendor vendor)
    else if 255 < field.toNat then .error (.tagOutOfRange field)
    else
      let tag := Tag.ofCode field.toUInt8
      if Entry.maxLength < length then .error (.valueTooLong tag length)
      else
        let value := rest.take length
        if value.length < length then .error (.valueCut offset length value.length)
        else .ok (⟨tag, UInt8.ofNat length, value⟩, rest.drop length)
  | _ => .error (.headerCut offset)

/-- An entry that was read took at least the octets of a header. -/
theorem length_add_of_readEntry {offset : Nat} {bytes rest : List UInt8} {entry : Entry}
    (h : readEntry offset bytes = .ok (entry, rest)) :
    rest.length + headerSize + entry.value.length = bytes.length := by
  unfold readEntry at h
  split at h
  · simp only at h
    split at h
    · cases h
    split at h
    · cases h
    split at h
    · cases h
    split at h
    · cases h
    cases h
    simp only [List.length_drop, List.length_take, List.length_cons, headerSize]
    omega
  · cases h

/-- Reads entries from octets that begin at an offset of the buffer. -/
def decodeFrom (offset : Nat) (bytes : List UInt8) : Except Fault (List Entry) :=
  if bytes.isEmpty then .ok []
  else
    match h : readEntry offset bytes with
    | .error fault => .error fault
    | .ok (entry, rest) =>
      have : rest.length < bytes.length := by
        have := length_add_of_readEntry h
        simp only [headerSize] at this
        omega
      (decodeFrom (offset + headerSize + entry.value.length) rest).map (entry :: ·)
termination_by bytes.length

/-- The entries of a buffer in vendor framing. -/
def decode (buffer : List UInt8) : Except Fault (List Entry) := decodeFrom 0 buffer

end BootTlv.Vendor
