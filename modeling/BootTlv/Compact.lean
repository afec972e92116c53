import BootTlv.Validation
import BootTlv.Verdict

/-!
# Compact framing

An entry is its code, its length octet and its value, and a buffer is entries without anything
between them. Writing checks every entry before it writes the first.

Reading scans the buffer from the left. Each entry is checked as it is read; an entry with a fault
is kept. Where the buffer ends inside an entry the scan ends: the entries are given up, the faults
found so far are kept, and one more says where and how the buffer is cut. A buffer that is not cut
and not empty is checked for what it lacks.
-/

namespace BootTlv

/-! ## Writing -/

namespace Compact

/-- The number of octets before the value. -/
def headerSize : Nat := 2

/-- The octets of one entry. -/
def octets (entry : Entry) : List UInt8 := entry.tag.code :: entry.length :: entry.value

/-- A buffer with entries added at its end. -/
def append (buffer : List UInt8) (entries : List Entry) : Except Fault (List UInt8) :=
  match entries.findSome? Entry.framingFault? with
  | some fault => .error fault
  | none => .ok (buffer ++ entries.flatMap octets)

/-- The buffer of a list of entries. -/
def encode (entries : List Entry) : Except Fault (List UInt8) := append [] entries

/-! ## Reading one entry -/

/-- Reads the entry that begins a list of octets, which begin at an offset of the buffer. -/
def readEntry (offset : Nat) : List UInt8 → Except Fault (Entry × List UInt8)
  | code :: length :: rest =>
    let value := rest.take length.toNat
    if value.length < length.toNat then .error (.valueCut offset length.toNat value.length)
    else .ok (⟨Tag.ofCode code, length, value⟩, rest.drop length.toNat)
  | _ => .error (.headerCut offset)

/-- What is read and what is left make up the octets. -/
theorem eq_octets_append_of_readEntry {offset : Nat} {bytes rest : List UInt8} {entry : Entry}
    (h : readEntry offset bytes = .ok (entry, rest)) :
    bytes = octets entry ++ rest ∧ entry.Framed := by
  unfold readEntry at h
  split at h
  case h_1 code length tail =>
    simp only [List.length_take] at h
    split at h
    · cases h
    · cases h
      simp only [octets, Tag.code_ofCode, List.cons_append, List.take_append_drop, true_and,
        Entry.Framed, List.length_take]
      omega
  case h_2 => cases h

/-- An entry is read back whatever follows it. -/
theorem readEntry_octets_append (offset : Nat) (entry : Entry) (rest : List UInt8)
    (h : entry.Framed) :
    readEntry offset (octets entry ++ rest) =
      .ok (⟨Tag.ofCode entry.tag.code, entry.length, entry.value⟩, rest) := by
  unfold Entry.Framed at h
  simp [octets, readEntry, h]

end Compact

/-! ## Scanning a buffer -/

namespace Catalog

/-- What a scan has found. -/
structure Scan where
  /-- Nothing wrong was found. -/
  valid : Bool
  entries : List Entry
  faults : List Fault
  /-- The buffer ends inside an entry. -/
  cut : Bool

/-- Reads and checks the entries of octets that begin at an offset of the buffer. -/
def scan (catalog : Catalog) (offset : Nat) (bytes : List UInt8) : Scan :=
  if bytes.isEmpty then ⟨true, [], [], false⟩
  else
    match h : Compact.readEntry offset bytes with
    | .error fault => ⟨false, [], [fault], true⟩
    | .ok (entry, rest) =>
      have : rest.length < bytes.length := by
        simp [(Compact.eq_octets_append_of_readEntry h).1, Compact.octets]
        omega
      let later := catalog.scan (offset + entry.encodedLength) rest
      match catalog.fault? entry with
      | none => { later with entries := entry :: later.entries }
      | some fault => ⟨false, entry :: later.entries, fault :: later.faults, later.cut⟩
termination_by bytes.length

/-- The verdict on a buffer in compact framing. -/
def parse (catalog : Catalog) (buffer : List UInt8) : Verdict :=
  let scan := catalog.scan 0 buffer
  if scan.cut then ⟨false, [], scan.faults⟩
  else if scan.entries.isEmpty then ⟨scan.valid, scan.entries, scan.faults⟩
  else
    let absences := catalog.absences scan.entries
    ⟨scan.valid && absences.isEmpty, scan.entries, scan.faults ++ absences⟩

end Catalog

end BootTlv
