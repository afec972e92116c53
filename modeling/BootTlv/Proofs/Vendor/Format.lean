import BootTlv.Proofs.Vendor.RoundTrip

/-!
# The format of vendor buffers

The format by itself, without a reader or a writer: `Formed` buffers are headers, each followed by
as many octets as it declares. These are the buffers that can be written (`formed_iff_whole`) and
the ones that decode (`decode_exact`).

Any eight octets are a header of some identifier, some tag field and some length, all of them as
wide as they stand there (`exists_header`). So what is wrong with a buffer is told from the octets
behind its longest well-formed prefix, and no field is narrowed before it is reported.
-/

namespace BootTlv

/-! ## Numbers of 32 bits -/

namespace LittleEndian

/-- The four octets of a number of 32 bits. -/
def longBytes (n : UInt32) : List UInt8 :=
  [UInt8.ofNat (n.toNat % 256), UInt8.ofNat (n.toNat / 256 % 256),
    UInt8.ofNat (n.toNat / 65536 % 256), UInt8.ofNat (n.toNat / 16777216)]

theorem long_longBytes (n : UInt32) :
    long (UInt8.ofNat (n.toNat % 256)) (UInt8.ofNat (n.toNat / 256 % 256))
      (UInt8.ofNat (n.toNat / 65536 % 256)) (UInt8.ofNat (n.toNat / 16777216)) = n.toNat := by
  have hn := n.toNat_lt
  simp only [long, UInt8.toNat_ofNat']
  omega

theorem longBytes_long (a b c d : UInt8) :
    longBytes (UInt32.ofNat (long a b c d)) = [a, b, c, d] := by
  have ha := a.toNat_lt
  have hb := b.toNat_lt
  have hc := c.toNat_lt
  have hd := d.toNat_lt
  have hlong : (UInt32.ofNat (long a b c d)).toNat =
      a.toNat + 256 * b.toNat + 65536 * c.toNat + 16777216 * d.toNat := by
    rw [UInt32.toNat_ofNat', long]
    exact Nat.mod_eq_of_lt (by omega)
  simp only [longBytes, hlong, List.cons.injEq, and_true]
  refine ⟨?_, ?_, ?_, ?_⟩ <;> apply UInt8.toNat_inj.mp <;> rw [UInt8.toNat_ofNat'] <;> omega

theorem longBytes_toUInt32 (n : UInt8) : longBytes n.toUInt32 = octetAsLong n := by
  have hlt := n.toNat_lt
  have hlong : long n 0 0 0 = n.toNat := rfl
  have hn : n.toUInt32 = UInt32.ofNat (long n 0 0 0) := by
    apply UInt32.toNat_inj.mp
    rw [UInt8.toNat_toUInt32, UInt32.toNat_ofNat', hlong]
    exact (Nat.mod_eq_of_lt (by omega)).symm
  rw [hn, longBytes_long, octetAsLong]

end LittleEndian

namespace Vendor

open Framing (vendor)
open LittleEndian (wordBytes longBytes)

/-! ## Headers -/

/-- The octets before a value: an identifier, a tag field and a length. -/
def header (id field : UInt16) (length : UInt32) : List UInt8 :=
  wordBytes id ++ wordBytes field ++ longBytes length

theorem length_header (id field : UInt16) (length : UInt32) :
    (header id field length).length = 8 := rfl

/-- Any eight octets are a header. -/
theorem exists_header {bytes : List UInt8} (h : 8 ≤ bytes.length) :
    ∃ id field length rest, bytes = header id field length ++ rest := by
  match bytes with
  | v₀ :: v₁ :: t₀ :: t₁ :: l₀ :: l₁ :: l₂ :: l₃ :: rest =>
      refine ⟨LittleEndian.word v₀ v₁, LittleEndian.word t₀ t₁,
        UInt32.ofNat (LittleEndian.long l₀ l₁ l₂ l₃), rest, ?_⟩
      rw [header, LittleEndian.wordBytes_word, LittleEndian.wordBytes_word,
        LittleEndian.longBytes_long]
      rfl

theorem octets_eq_header (entry : Entry) :
    octets entry =
      header vendorId entry.tag.code.toUInt16 entry.length.toUInt32 ++ entry.value := by
  rw [octets, header, LittleEndian.longBytes_toUInt32]

/-- Reading goes by the fields of the header, in the order in which they stand there. -/
theorem readEntry_header_append (offset : Nat) (id field : UInt16) (length : UInt32)
    (rest : List UInt8) :
    readEntry offset (header id field length ++ rest) =
      if id ≠ vendorId then .error (.foreignVendor id)
      else if 255 < field.toNat then .error (.tagOutOfRange field)
      else if 255 < length.toNat then
        .error (.valueTooLong (Tag.ofCode field.toUInt8) length.toNat)
      else if rest.length < length.toNat then
        .error (.valueCut offset length.toNat rest.length)
      else
        .ok (⟨Tag.ofCode field.toUInt8, UInt8.ofNat length.toNat, rest.take length.toNat⟩,
          rest.drop length.toNat) := by
  simp only [header, wordBytes, longBytes, List.cons_append, List.nil_append, readEntry,
    LittleEndian.word_wordBytes, LittleEndian.long_longBytes, Entry.maxLength, List.length_take]
  by_cases hrest : rest.length < length.toNat
  · have hmin : min length.toNat rest.length = rest.length := by omega
    rw [hmin]
  · have hmin : ¬ min length.toNat rest.length < length.toNat := by omega
    rw [if_neg hrest, if_neg hmin]

theorem readEntry_of_length_lt (offset : Nat) {bytes : List UInt8} (h : bytes.length < 8) :
    readEntry offset bytes = .error (.headerCut offset) := by
  unfold readEntry
  split
  · simp only [List.length_cons] at h
    omega
  · rfl

/-! ## The format -/

/-- Entries one after the other: the vendor's identifier, a tag field and a length of at most 255
each, and as many octets as the length says. -/
inductive Formed : List UInt8 → Prop where
  | nil : Formed []
  | cons {field : UInt16} {length : UInt32} {value rest : List UInt8} (hfield : field.toNat ≤ 255)
      (hlength : length.toNat ≤ 255) (hvalue : value.length = length.toNat)
      (hrest : Formed rest) : Formed (header 0x8086 field length ++ (value ++ rest))

theorem Formed.split_eq_nil {bytes : List UInt8} (h : Formed bytes) :
    (vendor.split bytes).2 = [] := by
  induction h with
  | nil => rw [Framing.split_nil]
  | @cons field length value rest hfield hlength hvalue _ ih =>
      have hread := readEntry_header_append 0 0x8086 field length (value ++ rest)
      rw [if_neg (fun hne => hne rfl), if_neg (by omega), if_neg (by omega),
        if_neg (by rw [List.length_append]; omega), ← hvalue, List.drop_left] at hread
      obtain ⟨hbytes, hframed⟩ := eq_octets_append_of_readEntry hread
      rw [hbytes]
      exact (congrArg Prod.snd (Framing.split_octets_append hframed rest)).trans ih

theorem formed_of_split_eq_nil {bytes : List UInt8} :
    (vendor.split bytes).2 = [] → Formed bytes := by
  induction bytes using Framing.octets_induction vendor with
  | broken bytes h =>
      intro hnil
      rw [Framing.split_of_broken h] at hnil
      obtain rfl : bytes = [] := hnil
      exact .nil
  | entry e rest hframed ih =>
      intro hnil
      rw [Framing.split_octets_append hframed] at hnil
      have hlt := e.tag.code.toNat_lt
      have hlt' := e.length.toNat_lt
      have hoctets : vendor.octets e ++ rest =
          header 0x8086 e.tag.code.toUInt16 e.length.toUInt32 ++ (e.value ++ rest) := by
        rw [← List.append_assoc]
        exact congrArg (· ++ rest) (octets_eq_header e)
      rw [hoctets]
      refine .cons ?_ ?_ ?_ (ih hnil)
      · rw [UInt8.toNat_toUInt16]
        omega
      · rw [UInt8.toNat_toUInt32]
        omega
      · rw [UInt8.toNat_toUInt32]
        exact hframed.symm

/-- The format is what can be written. -/
theorem formed_iff_whole {bytes : List UInt8} : Formed bytes ↔ vendor.Whole bytes :=
  ⟨fun h => Framing.whole_iff_split_eq_nil.mpr h.split_eq_nil,
    fun h => formed_of_split_eq_nil (Framing.whole_iff_split_eq_nil.mp h)⟩

/-! ## Buffers that do not decode -/

/-- What is wrong with a buffer of which the first `o` octets are well-formed. The first check that
fails decides: the octets of a header, its identifier, its tag field, its length and the octets of
its value. -/
inductive StopsAt (buffer : List UInt8) (o : Nat) : Fault → Prop where
  | header (h : buffer.length - o < 8) : StopsAt buffer o (.headerCut o)
  | vendor {id field : UInt16} {length : UInt32} {rest : List UInt8}
      (hrest : buffer.drop o = header id field length ++ rest) (h : id ≠ 0x8086) :
      StopsAt buffer o (.foreignVendor id)
  | field {field : UInt16} {length : UInt32} {rest : List UInt8}
      (hrest : buffer.drop o = header 0x8086 field length ++ rest) (h : 255 < field.toNat) :
      StopsAt buffer o (.tagOutOfRange field)
  | length {field : UInt16} {length : UInt32} {rest : List UInt8}
      (hrest : buffer.drop o = header 0x8086 field length ++ rest) (hfield : field.toNat ≤ 255)
      (h : 255 < length.toNat) :
      StopsAt buffer o (.valueTooLong (Tag.ofCode field.toUInt8) length.toNat)
  | value {field : UInt16} {length : UInt32} {rest : List UInt8}
      (hrest : buffer.drop o = header 0x8086 field length ++ rest) (hfield : field.toNat ≤ 255)
      (hlength : length.toNat ≤ 255) (h : buffer.length - o - 8 < length.toNat) :
      StopsAt buffer o (.valueCut o length.toNat (buffer.length - o - 8))

theorem stopsAt_of_readEntry {buffer rest : List UInt8} {o : Nat} {fault : Fault}
    (hdrop : buffer.drop o = rest) (h : readEntry o rest = .error fault) :
    StopsAt buffer o fault := by
  have hlength : rest.length = buffer.length - o := by rw [← hdrop, List.length_drop]
  by_cases hshort : rest.length < 8
  · rw [readEntry_of_length_lt o hshort] at h
    cases h
    exact .header (by omega)
  · obtain ⟨id, field, length, value, rfl⟩ := exists_header (Nat.le_of_not_lt hshort)
    have havailable : value.length = buffer.length - o - 8 := by
      rw [List.length_append, length_header] at hlength
      omega
    rw [readEntry_header_append] at h
    split at h
    · next hid =>
        cases h
        exact .vendor hdrop hid
    next hid =>
    obtain rfl : id = 0x8086 := Decidable.not_not.mp hid
    split at h
    · next hfield =>
        cases h
        exact .field hdrop hfield
    next hfield =>
    split at h
    · next hlong =>
        cases h
        exact .length hdrop (Nat.le_of_not_lt hfield) hlong
    next hlong =>
    split at h
    · next hcut =>
        cases h
        rw [havailable] at hcut ⊢
        exact .value hdrop (Nat.le_of_not_lt hfield) (Nat.le_of_not_lt hlong) hcut
    · cases h

/-- **Decoding fails exactly where the format does.** A buffer decodes exactly when it is
well-formed. Otherwise there is one fault and no entry, and the fault says what is wrong behind the
longest well-formed prefix, with every number as it stands there. -/
theorem decode_exact (buffer : List UInt8) :
    ((∃ entries, decode buffer = .ok entries) ↔ Formed buffer) ∧
    (¬ Formed buffer →
      ∃ o, IsGreatest {n | n ≤ buffer.length ∧ Formed (buffer.take n)} o ∧
        ∃ fault, StopsAt buffer o fault ∧ decode buffer = .error fault) := by
  constructor
  · rw [formed_iff_whole, Framing.whole_iff_split_eq_nil]
    constructor
    · rintro ⟨entries, h⟩
      rw [decode_eq_ok_iff.mp h]
    · intro h
      exact ⟨_, decode_eq_ok_iff.mpr (Prod.ext rfl h)⟩
  · intro h
    have hcut : (vendor.split buffer).2 ≠ [] := fun hnil => h (formed_of_split_eq_nil hnil)
    have hdrop : buffer.drop (vendor.front buffer).length = (vendor.split buffer).2 :=
      calc buffer.drop (vendor.front buffer).length
          = (vendor.front buffer ++ (vendor.split buffer).2).drop (vendor.front buffer).length := by
            rw [vendor.front_append_split]
        _ = (vendor.split buffer).2 := List.drop_left
    have hgreatest := vendor.isGreatest_wholeLengths buffer
    simp only [Framing.wholeLengths, ← formed_iff_whole] at hgreatest
    obtain ⟨fault, hread⟩ :=
      Framing.readEntry_of_broken (vendor.broken_split buffer) (vendor.front buffer).length
    refine ⟨_, hgreatest, fault, stopsAt_of_readEntry hdrop hread, ?_⟩
    rw [decode, decodeFrom_eq, Nat.zero_add, (Framing.stop?_eq_some_iff hcut).mpr hread]

/-- Two entries, and the length of the second is 1 only in its lowest octet. -/
def wideLength : List UInt8 :=
  [0x86, 0x80, 20, 0, 1, 0, 0, 0, 1, 0x86, 0x80, 20, 0, 1, 0, 0, 1, 1]

theorem decode_exact_wideLength :
    ¬ Formed wideLength ∧
      ∃ o, IsGreatest {n | n ≤ wideLength.length ∧ Formed (wideLength.take n)} o ∧
        ∃ fault, StopsAt wideLength o fault ∧ decode wideLength = .error fault := by
  have hnot : ¬ Formed wideLength := by
    rw [formed_iff_whole, Framing.whole_iff_split_eq_nil]
    decide +kernel
  exact ⟨hnot, (decode_exact wideLength).2 hnot⟩

end Vendor

end BootTlv
