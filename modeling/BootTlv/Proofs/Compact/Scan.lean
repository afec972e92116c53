import BootTlv.Proofs.Framing.Split
import BootTlv.Proofs.Validation.Kinds

/-!
# What a scan finds

A scan reads and checks in one pass. It finds what two passes find, first the split of the octets
into entries and then a check of each of them (`scan_eq`). The verdict on a buffer follows: where
the split leaves something over the buffer is cut and its entries are given up (`parse_of_cut`), and
otherwise the verdict is the review of the entries (`parse_of_split_eq_nil`).

An offset shows in the fault of a cut only, where it counts the octets read before the cut.
-/

namespace BootTlv

/-! ## Octets that no entry begins -/

namespace Compact

/-- Reading an entry fails where the octets end: inside the header or inside the value. -/
theorem readEntry_eq_error {offset : Nat} {bytes : List UInt8} {fault : Fault}
    (h : readEntry offset bytes = .error fault) :
    bytes.length < headerSize ∧ fault = .headerCut offset ∨
      ∃ code length value, bytes = code :: length :: value ∧ value.length < length.toNat ∧
        fault = .valueCut offset length.toNat value.length := by
  unfold readEntry at h
  split at h
  · next code length value =>
      simp only [List.length_take] at h
      split at h
      · next hlt =>
          -- The value is cut, so what was taken of it is all there is.
          have hmin : min length.toNat value.length = value.length := by omega
          rw [hmin] at h hlt
          cases h
          exact Or.inr ⟨code, length, value, rfl, hlt, rfl⟩
      · cases h
  · next hbytes =>
      cases h
      refine Or.inl ⟨?_, rfl⟩
      match bytes with
      | [] => exact Nat.zero_lt_two
      | [_] => exact Nat.one_lt_two
      | code :: length :: value => exact absurd rfl (hbytes code length value)

theorem isFraming_of_readEntry {offset : Nat} {bytes : List UInt8} {fault : Fault}
    (h : readEntry offset bytes = .error fault) : fault.isFraming = true := by
  rcases readEntry_eq_error h with ⟨-, rfl⟩ | ⟨code, length, value, -, -, rfl⟩ <;> rfl

end Compact

namespace Catalog

open Framing (compact)

/-! ## Scanning octets -/

theorem scan_nil (catalog : Catalog) (offset : Nat) :
    catalog.scan offset [] = ⟨true, [], [], false⟩ := by
  rw [scan]
  rfl

theorem scan_of_readEntry (catalog : Catalog) {offset : Nat} {bytes : List UInt8} {fault : Fault}
    (h : Compact.readEntry offset bytes = .error fault) (hne : bytes ≠ []) :
    catalog.scan offset bytes = ⟨false, [], [fault], true⟩ := by
  rw [scan, if_neg (by simpa using hne)]
  split
  · next heq =>
      rw [h] at heq
      cases heq
      rfl
  · next heq =>
      rw [h] at heq
      cases heq

/-- The scan of an entry and of what follows it. -/
theorem scan_octets_append (catalog : Catalog) (offset : Nat) {entry : Entry} (h : entry.Framed)
    (rest : List UInt8) :
    catalog.scan offset (compact.octets entry ++ rest) =
      let later := catalog.scan (offset + entry.encodedLength) rest
      ⟨(catalog.fault? entry.canonical).isNone && later.valid, entry.canonical :: later.entries,
        (catalog.fault? entry.canonical).toList ++ later.faults, later.cut⟩ := by
  have hread : Compact.readEntry offset (compact.octets entry ++ rest) =
      .ok (entry.canonical, rest) := compact.readEntry_octets_append offset h rest
  rw [scan, if_neg (by simp [Framing.octets, Compact.octets])]
  split
  · next heq =>
      rw [hread] at heq
      cases heq
  · next heq =>
      rw [hread] at heq
      cases heq
      cases catalog.fault? entry.canonical with
      | none => rfl
      | some fault => rfl

/-- **A scan is a split and a check of each entry.** -/
theorem scan_eq (catalog : Catalog) (offset : Nat) (bytes : List UInt8) :
    catalog.scan offset bytes =
      let (entries, rest) := compact.split bytes
      let faults := entries.filterMap catalog.fault?
      let stop := compact.stop? (offset + (compact.front bytes).length) rest
      ⟨faults.isEmpty && stop.isNone, entries, faults ++ stop.toList, stop.isSome⟩ := by
  induction bytes using Framing.octets_induction compact generalizing offset with
  | broken bytes h =>
      rw [Framing.front, Framing.split_of_broken h]
      by_cases hne : bytes = []
      · rw [hne, scan_nil]
        simp
      · obtain ⟨fault, hread⟩ := Framing.readEntry_of_broken h offset
        rw [catalog.scan_of_readEntry hread hne]
        have hstop := (Framing.stop?_eq_some_iff hne).mpr hread
        simp [hstop]
  | entry e rest hframed ih =>
      -- The entry moves the offset on by as many octets as it adds to those that were read.
      have hlength : offset + (compact.front (compact.octets e ++ rest)).length =
          offset + e.encodedLength + (compact.front rest).length := by
        rw [Framing.front, Framing.split_octets_append hframed, List.flatMap_cons,
          Framing.octets_canonical, List.length_append, Framing.length_octets, Framing.front,
          Framing.headerSize, Compact.headerSize, Entry.encodedLength]
        omega
      rw [scan_octets_append catalog offset hframed, ih, hlength,
        Framing.split_octets_append hframed]
      cases hfault : catalog.fault? e.canonical <;> simp [hfault]

/-! ## The verdict on a buffer -/

theorem parse_nil (catalog : Catalog) : catalog.parse [] = ⟨true, [], []⟩ := by
  rw [parse, scan_nil]
  rfl

/-- The verdict on a buffer that is not cut and not empty is the review of its entries. -/
theorem parse_of_split_eq_nil (catalog : Catalog) {buffer : List UInt8}
    (h : (compact.split buffer).2 = []) (hne : buffer ≠ []) :
    catalog.parse buffer =
      ⟨(catalog.review (compact.split buffer).1).1, (compact.split buffer).1,
        (catalog.review (compact.split buffer).1).2⟩ := by
  have hentries : (compact.split buffer).1.isEmpty = false := by
    simpa using Framing.fst_split_ne_nil h hne
  rw [parse, scan_eq]
  simp only [h, Framing.stop?_nil, Option.isSome_none, Option.isNone_none, Option.toList_none,
    hentries, review, List.append_nil, Bool.and_true, Bool.false_eq_true, if_false]
  cases (compact.split buffer).1.filterMap catalog.fault? <;> rfl

theorem valid_parse_of_split_eq_nil (catalog : Catalog) {buffer : List UInt8}
    (h : (compact.split buffer).2 = []) :
    (catalog.parse buffer).valid =
      ((compact.split buffer).1.isEmpty || (catalog.review (compact.split buffer).1).1) := by
  by_cases hempty : buffer = []
  · rw [hempty, parse_nil, Framing.split_nil]
    rfl
  · have hne := Framing.fst_split_ne_nil h hempty
    rw [parse_of_split_eq_nil catalog h hempty, List.isEmpty_eq_false_iff.mpr hne, Bool.false_or]

theorem entries_parse (catalog : Catalog) {buffer : List UInt8}
    (h : (compact.split buffer).2 = []) :
    (catalog.parse buffer).entries = (compact.split buffer).1 := by
  by_cases hne : buffer = []
  · rw [hne, parse_nil, Framing.split_nil]
  · rw [parse_of_split_eq_nil catalog h hne]

/-- The verdict on a buffer that is cut keeps the faults of the entries before the cut. -/
theorem parse_of_cut (catalog : Catalog) {buffer : List UInt8}
    (h : (compact.split buffer).2 ≠ []) :
    ∃ fault,
      Compact.readEntry (compact.front buffer).length (compact.split buffer).2 = .error fault ∧
      catalog.parse buffer =
        ⟨false, [], (compact.split buffer).1.filterMap catalog.fault? ++ [fault]⟩ := by
  obtain ⟨fault, hread⟩ :=
    Framing.readEntry_of_broken (compact.broken_split buffer) (compact.front buffer).length
  have hstop := (Framing.stop?_eq_some_iff h).mpr hread
  refine ⟨fault, hread, ?_⟩
  rw [parse, scan_eq]
  simp only [Nat.zero_add, hstop, Option.isSome_some, if_true, Option.toList_some]

/-! ## Framing -/

/-- A verdict is about a cut exactly when the split leaves something over. -/
theorem isFraming_parse_iff {catalog : Catalog} {buffer : List UInt8} :
    (catalog.parse buffer).isFraming = false ↔ (compact.split buffer).2 = [] := by
  constructor
  · intro h
    by_contra hcut
    obtain ⟨fault, hread, hparse⟩ := catalog.parse_of_cut hcut
    have hfault := Compact.isFraming_of_readEntry hread
    simp [hparse, Verdict.isFraming, hfault] at h
  · intro h
    by_cases hne : buffer = []
    · rw [hne, parse_nil]
      rfl
    · rw [parse_of_split_eq_nil catalog h hne, Verdict.isFraming, List.any_eq_false]
      intro fault hfault
      rw [isFraming_of_mem_review hfault]
      exact Bool.false_ne_true

end Catalog

end BootTlv
