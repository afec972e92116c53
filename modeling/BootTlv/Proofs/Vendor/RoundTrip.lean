import BootTlv.Proofs.Framing.Whole

/-!
# Vendor framing, there and back

Decoding is strict. It gives the entries that the split finds where they are the whole buffer, and
otherwise the fault that reading ends with at what is left over (`decodeFrom_eq`). So what
is written is decoded, and what decodes is written as it was (`decode_encode`): the fields of a
header are wider than what they hold, and still there is one header only for each entry.
-/

namespace BootTlv.Vendor

open Framing (vendor)

/-! ## Decoding octets -/

theorem decodeFrom_nil (offset : Nat) : decodeFrom offset [] = .ok [] := by
  rw [decodeFrom]
  rfl

theorem decodeFrom_of_readEntry {offset : Nat} {bytes : List UInt8} {fault : Fault}
    (h : readEntry offset bytes = .error fault) (hne : bytes ≠ []) :
    decodeFrom offset bytes = .error fault := by
  rw [decodeFrom, if_neg (by simpa using hne)]
  split
  · next heq =>
      rw [h] at heq
      cases heq
      rfl
  · next heq =>
      rw [h] at heq
      cases heq

/-- An entry is decoded before what follows it. -/
theorem decodeFrom_octets_append (offset : Nat) {entry : Entry} (h : entry.Framed)
    (rest : List UInt8) :
    decodeFrom offset (vendor.octets entry ++ rest) =
      (decodeFrom (offset + headerSize + entry.value.length) rest).map (entry.canonical :: ·) := by
  have hread : readEntry offset (vendor.octets entry ++ rest) = .ok (entry.canonical, rest) :=
    readEntry_octets_append offset h rest
  rw [decodeFrom, if_neg (by simp [Framing.octets, octets, LittleEndian.wordBytes])]
  split
  · next heq =>
      rw [hread] at heq
      cases heq
  · next heq =>
      rw [hread] at heq
      cases heq
      rfl

/-- **Decoding is a split that may leave nothing over.** -/
theorem decodeFrom_eq (offset : Nat) (bytes : List UInt8) :
    decodeFrom offset bytes =
      match vendor.stop? (offset + (vendor.front bytes).length) (vendor.split bytes).2 with
      | some fault => .error fault
      | none => .ok (vendor.split bytes).1 := by
  induction bytes using Framing.octets_induction vendor generalizing offset with
  | broken bytes h =>
      rw [Framing.front, Framing.split_of_broken h]
      by_cases hne : bytes = []
      · rw [hne, decodeFrom_nil, Framing.stop?_nil]
      · obtain ⟨fault, hread⟩ := Framing.readEntry_of_broken h offset
        have hstop : vendor.stop? offset bytes = some fault :=
          (Framing.stop?_eq_some_iff hne).mpr hread
        rw [decodeFrom_of_readEntry hread hne]
        simp only [List.flatMap_nil, List.length_nil, Nat.add_zero, hstop]
  | entry e rest hframed ih =>
      -- The entry moves the offset on by as many octets as it adds to those that were read.
      have hlength : offset + (vendor.front (vendor.octets e ++ rest)).length =
          offset + headerSize + e.value.length + (vendor.front rest).length := by
        rw [Framing.front, Framing.split_octets_append hframed, List.flatMap_cons,
          Framing.octets_canonical, List.length_append, Framing.length_octets, Framing.front,
          Framing.headerSize]
        omega
      rw [decodeFrom_octets_append offset hframed, ih, hlength,
        Framing.split_octets_append hframed]
      cases vendor.stop? (offset + headerSize + e.value.length + (vendor.front rest).length)
        (vendor.split rest).2 <;> rfl

/-- A buffer decodes to entries exactly when the split finds them and leaves nothing over. -/
theorem decode_eq_ok_iff {buffer : List UInt8} {entries : List Entry} :
    decode buffer = .ok entries ↔ vendor.split buffer = (entries, []) := by
  have hbroken := vendor.broken_split buffer
  rw [decode, decodeFrom_eq, Prod.ext_iff]
  by_cases hnil : (vendor.split buffer).2 = []
  · rw [hnil, Framing.stop?_nil]
    simp
  · obtain ⟨fault, hread⟩ :=
      Framing.readEntry_of_broken hbroken (0 + (vendor.front buffer).length)
    rw [(Framing.stop?_eq_some_iff hnil).mpr hread]
    simp [hnil]

/-! ## There and back -/

/-- **Decoding undoes encoding, and encoding undoes decoding.** Entries that are written are decoded
in order with their length octets and values as they were, and a buffer that decodes is the one
that its entries are written as. -/
theorem decode_encode (entries : List Entry) (buffer : List UInt8) :
    (encode entries = .ok buffer →
      ∃ decoded, decode buffer = .ok decoded ∧ List.Forall₂ Entry.Same decoded entries) ∧
    (decode buffer = .ok entries → encode entries = .ok buffer) := by
  constructor
  · intro h
    have hsplit : vendor.split buffer = (entries.map Entry.canonical, []) :=
      Framing.split_of_encode h
    exact ⟨_, decode_eq_ok_iff.mpr hsplit, Entry.forall₂_same_map_canonical entries⟩
  · intro h
    have hsplit : vendor.split buffer = (entries, []) := decode_eq_ok_iff.mp h
    have hencode : encode (vendor.split buffer).1 = .ok (vendor.front buffer) :=
      vendor.encode_split buffer
    rwa [Framing.front_eq_self (congrArg Prod.snd hsplit), hsplit] at hencode

/-- Code 20 is written under a number and decoded under its name, and both are written alike. -/
theorem decode_encode_renamed :
    ∃ decoded,
      decode [0x86, 0x80, 20, 0, 1, 0, 0, 0, 9, 0x86, 0x80, 200, 0, 0, 0, 0, 0] = .ok decoded ∧
      List.Forall₂ Entry.Same decoded [⟨.other 20, 1, [9]⟩, ⟨.other 200, 0, []⟩] ∧
      encode decoded = .ok [0x86, 0x80, 20, 0, 1, 0, 0, 0, 9, 0x86, 0x80, 200, 0, 0, 0, 0, 0] := by
  have hencode : encode [⟨.other 20, 1, [9]⟩, ⟨.other 200, 0, []⟩] =
      .ok [0x86, 0x80, 20, 0, 1, 0, 0, 0, 9, 0x86, 0x80, 200, 0, 0, 0, 0, 0] := rfl
  obtain ⟨decoded, hdecode, hsame⟩ := (decode_encode _ _).1 hencode
  exact ⟨decoded, hdecode, hsame, (decode_encode decoded _).2 hdecode⟩

end BootTlv.Vendor
