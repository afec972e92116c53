import BootTlv.Framing
import BootTlv.Proofs.Spelling

/-!
# One entry of a framing

Both framings put a header of fixed size before the value of an entry and read it without looking at
what follows. An entry is read back whatever stands behind it (`readEntry_octets_append`), and what
is read is what would be written (`eq_octets_append_of_readEntry`), so the headers are canonical.
Everything that is said of whole buffers rests on these two facts.
-/

namespace BootTlv

/-! ## Fields wider than what they hold -/

theorem LittleEndian.octetAsLong_long {a b c d : UInt8} (h : long a b c d < 256) :
    octetAsLong (UInt8.ofNat (long a b c d)) = [a, b, c, d] := by
  obtain ⟨hb, hc, hd⟩ : b.toNat = 0 ∧ c.toNat = 0 ∧ d.toNat = 0 := by
    simp only [long] at h
    omega
  obtain rfl : b = 0 := UInt8.toNat_inj.1 hb
  obtain rfl : c = 0 := UInt8.toNat_inj.1 hc
  obtain rfl : d = 0 := UInt8.toNat_inj.1 hd
  have hlong : long a 0 0 0 = a.toNat := rfl
  rw [hlong, UInt8.ofNat_toNat, octetAsLong]

theorem LittleEndian.wordBytes_toUInt8 {low high : UInt8} (h : (word low high).toNat < 256) :
    wordBytes (word low high).toUInt8.toUInt16 = [low, high] := by
  have hword : (word low high).toUInt8.toUInt16 = word low high := by
    apply UInt16.toNat_inj.1
    rw [UInt8.toNat_toUInt16, UInt16.toNat_toUInt8]
    exact Nat.mod_eq_of_lt h
  rw [hword, wordBytes_word]

namespace Vendor

theorem readEntry_octets_append (offset : Nat) {entry : Entry} (h : entry.Framed)
    (rest : List UInt8) :
    readEntry offset (octets entry ++ rest) = .ok (entry.canonical, rest) := by
  have hframed : entry.length.toNat = entry.value.length := h
  have hlt := entry.length.toNat_lt
  have hcode : entry.tag.code.toUInt16.toNat < 256 := entry.tag.code.toNat_lt
  have hlong : LittleEndian.long entry.length 0 0 0 = entry.length.toNat := rfl
  have htake : (entry.value ++ rest).take entry.length.toNat = entry.value := by
    rw [hframed]
    exact List.take_left
  have hdrop : (entry.value ++ rest).drop entry.length.toNat = rest := by
    rw [hframed]
    exact List.drop_left
  simp only [octets, LittleEndian.wordBytes, LittleEndian.octetAsLong, List.cons_append,
    List.nil_append, readEntry, LittleEndian.word_wordBytes, hlong, htake, hdrop]
  -- The checks are met in the order in which reading makes them: identifier, code, length, value.
  rw [if_neg (fun hne => hne rfl), if_neg (by omega),
    if_neg (by simp only [Entry.maxLength]; omega), if_neg (by omega),
    UInt8.toUInt8_toUInt16, UInt8.ofNat_toNat]
  rfl

theorem eq_octets_append_of_readEntry {offset : Nat} {bytes rest : List UInt8} {entry : Entry}
    (h : readEntry offset bytes = .ok (entry, rest)) :
    bytes = octets entry ++ rest ∧ entry.Framed := by
  unfold readEntry at h
  split at h
  case h_2 => cases h
  case h_1 v₀ v₁ t₀ t₁ l₀ l₁ l₂ l₃ tail =>
    simp only at h
    split at h
    · cases h
    split at h
    · cases h
    split at h
    · cases h
    split at h
    · cases h
    next hvendor hfield hlong hvalue =>
      cases h
      have hvendor : LittleEndian.word v₀ v₁ = vendorId := Decidable.not_not.mp hvendor
      have hlt : LittleEndian.long l₀ l₁ l₂ l₃ < 256 := by
        simp only [Entry.maxLength] at hlong
        omega
      constructor
      · -- The code and the length fit an octet, so the wide fields hold nothing else.
        rw [octets, ← hvendor, LittleEndian.wordBytes_word, Tag.code_ofCode,
          LittleEndian.wordBytes_toUInt8 (by omega), LittleEndian.octetAsLong_long hlt]
        simp only [List.cons_append, List.nil_append, List.take_append_drop]
      · simp only [Entry.Framed, List.length_take, UInt8.toNat_ofNat'] at hvalue ⊢
        omega

end Vendor

namespace Framing

/-! ## Either header -/

/-- The octets of one entry. -/
def octets : Framing → Entry → List UInt8
  | compact => Compact.octets
  | vendor => Vendor.octets

/-- The number of octets before the value. -/
def headerSize : Framing → Nat
  | compact => Compact.headerSize
  | vendor => Vendor.headerSize

/-- Reads the entry that begins a list of octets, which begin at an offset of the buffer. -/
def readEntry : Framing → Nat → List UInt8 → Except Fault (Entry × List UInt8)
  | compact => Compact.readEntry
  | vendor => Vendor.readEntry

theorem headerSize_pos (framing : Framing) : 0 < framing.headerSize := by
  cases framing <;> decide

theorem length_octets (framing : Framing) (entry : Entry) :
    (framing.octets entry).length = framing.headerSize + entry.value.length := by
  cases framing with
  | compact =>
      simp only [octets, Compact.octets, List.length_cons, headerSize, Compact.headerSize]
      omega
  | vendor =>
      simp only [octets, Vendor.octets, LittleEndian.wordBytes, LittleEndian.octetAsLong,
        List.length_append, List.length_cons, List.length_nil, headerSize, Vendor.headerSize]

theorem octets_canonical (framing : Framing) (entry : Entry) :
    framing.octets entry.canonical = framing.octets entry := by
  cases framing with
  | compact => simp [octets, Compact.octets]
  | vendor => simp [octets, Vendor.octets]

/-- An entry is read back whatever follows it. -/
theorem readEntry_octets_append (framing : Framing) (offset : Nat) {entry : Entry}
    (h : entry.Framed) (rest : List UInt8) :
    framing.readEntry offset (framing.octets entry ++ rest) = .ok (entry.canonical, rest) := by
  cases framing with
  | compact => exact Compact.readEntry_octets_append offset entry rest h
  | vendor => exact Vendor.readEntry_octets_append offset h rest

/-- What is read and what is left make up the octets. -/
theorem eq_octets_append_of_readEntry {framing : Framing} {offset : Nat}
    {bytes rest : List UInt8} {entry : Entry}
    (h : framing.readEntry offset bytes = .ok (entry, rest)) :
    bytes = framing.octets entry ++ rest ∧ entry.Framed := by
  cases framing with
  | compact => exact Compact.eq_octets_append_of_readEntry h
  | vendor => exact Vendor.eq_octets_append_of_readEntry h

theorem length_lt_of_readEntry {framing : Framing} {offset : Nat} {bytes rest : List UInt8}
    {entry : Entry} (h : framing.readEntry offset bytes = .ok (entry, rest)) :
    rest.length < bytes.length := by
  have hpos := framing.headerSize_pos
  rw [(eq_octets_append_of_readEntry h).1, List.length_append, length_octets]
  omega

end Framing

end BootTlv
