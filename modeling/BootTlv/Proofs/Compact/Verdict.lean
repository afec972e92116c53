import BootTlv.Proofs.Compact.Scan
import BootTlv.Proofs.Framing.Whole
import BootTlv.Proofs.Validation.Review

/-!
# The verdict on a compact buffer

A buffer that is not cut and not empty gets the verdict that a review of its entries comes to, and
no verdict is valid with faults or invalid without any (`parse_eq_review`).

A buffer that is cut loses its entries and keeps their faults. With `o` the length of the longest
prefix that can be written, the last fault is about offset `o` and says how much is missing there
(`parse_of_not_whole`).
-/

namespace BootTlv.Catalog

open Framing (compact)

/-! ## Buffers that are not cut -/

/-- **Checks made while scanning agree with a review.** The faults are the same in the same order,
whichever of the two finds them, and a verdict is valid exactly when it has none. -/
theorem parse_eq_review (catalog : Catalog) (buffer : List UInt8) :
    (buffer ≠ [] → (catalog.parse buffer).isFraming = false →
      ((catalog.parse buffer).valid, (catalog.parse buffer).faults) =
        catalog.review (catalog.parse buffer).entries) ∧
    ((catalog.parse buffer).valid = true ↔ (catalog.parse buffer).faults = []) := by
  constructor
  · intro hne hframing
    rw [parse_of_split_eq_nil catalog (isFraming_parse_iff.mp hframing) hne]
  · -- Validity is set in three places: for a cut, for an empty buffer and after the review.
    by_cases hcut : (compact.split buffer).2 = []
    · by_cases hne : buffer = []
      · rw [hne, parse_nil]
        exact iff_of_true rfl rfl
      · rw [parse_of_split_eq_nil catalog hcut hne]
        exact valid_review_iff
    · obtain ⟨fault, -, hparse⟩ := catalog.parse_of_cut hcut
      rw [hparse]
      exact iff_of_false Bool.false_ne_true (by simp)

/-- A bad flag and an absent network path, found by the scan and by the review. -/
theorem parse_eq_review_bad_flag :
    [20, 1, 9] ≠ ([] : List UInt8) ∧ (builtin.parse [20, 1, 9]).isFraming = false ∧
      ((builtin.parse [20, 1, 9]).valid, (builtin.parse [20, 1, 9]).faults) =
        builtin.review (builtin.parse [20, 1, 9]).entries := by
  have hne : [20, 1, 9] ≠ ([] : List UInt8) := by decide
  have hframing : (builtin.parse [20, 1, 9]).isFraming = false := by decide +kernel
  exact ⟨hne, hframing, (parse_eq_review builtin [20, 1, 9]).1 hne hframing⟩

/-! ## Buffers that are cut -/

/-- The fault that says how a buffer is cut after its first octets: by half a header, or inside a
value of which the header declares more than there is. -/
inductive CutAt (buffer : List UInt8) (offset : Nat) : Fault → Prop where
  | header (h : buffer.length = offset + 1) : CutAt buffer offset (.headerCut offset)
  | value {declared : UInt8} (hdeclared : buffer[offset + 1]? = some declared)
      (hshort : buffer.length - offset - 2 < declared.toNat) :
      CutAt buffer offset (.valueCut offset declared.toNat (buffer.length - offset - 2))

theorem cutAt_of_readEntry {front rest : List UInt8} {fault : Fault} (hne : rest ≠ [])
    (h : Compact.readEntry front.length rest = .error fault) :
    CutAt (front ++ rest) front.length fault := by
  rcases Compact.readEntry_eq_error h with ⟨hlt, rfl⟩ | ⟨code, declared, value, rfl, hlt, rfl⟩
  · have hpos := List.length_pos_iff.mpr hne
    refine .header ?_
    rw [List.length_append]
    simp only [Compact.headerSize] at hlt
    omega
  · have hlength : value.length =
        (front ++ code :: declared :: value).length - front.length - 2 := by
      simp only [List.length_append, List.length_cons]
      omega
    have hdeclared : (front ++ code :: declared :: value)[front.length + 1]? = some declared := by
      rw [List.getElem?_append_right (Nat.le_add_right _ 1), Nat.add_sub_cancel_left]
      rfl
    rw [hlength] at hlt
    have hcut := CutAt.value hdeclared hlt
    rwa [← hlength] at hcut

/-- **A cut buffer is told exactly how it is cut.** The longest prefix that can be written is read,
its entries are given up and their faults are kept; one more fault says how the buffer ends after
it. Nothing is said of what the entries lack. -/
theorem parse_of_not_whole (catalog : Catalog) {buffer : List UInt8}
    (h : ¬ compact.Whole buffer) :
    ∃ o, IsGreatest (compact.wholeLengths buffer) o ∧ ∃ fault, CutAt buffer o fault ∧
      (catalog.parse buffer).valid = false ∧ (catalog.parse buffer).entries = [] ∧
      (∀ entries, Compact.encode entries = .ok (buffer.take o) →
        (catalog.parse buffer).faults =
          (entries.filterMap catalog.fault?).map Fault.canonical ++ [fault]) ∧
      (catalog.parse buffer).faults.filter Fault.isFraming = [fault] ∧
      ∀ f ∈ (catalog.parse buffer).faults, f.isAbsence = false := by
  have hcut : (compact.split buffer).2 ≠ [] :=
    fun hnil => h (Framing.whole_iff_split_eq_nil.mpr hnil)
  obtain ⟨fault, hread, hparse⟩ := catalog.parse_of_cut hcut
  have hat := cutAt_of_readEntry hcut hread
  rw [Framing.front_append_split] at hat
  refine ⟨_, compact.isGreatest_wholeLengths buffer, fault, hat, ?_⟩
  rw [hparse]
  refine ⟨rfl, rfl, ?_, ?_, ?_⟩
  · -- However the prefix came to be written, the scan split it into the same entries.
    intro entries hentries
    rw [Framing.take_length_front] at hentries
    have hsplit : compact.split (compact.front buffer) = (entries.map Entry.canonical, []) :=
      Framing.split_of_encode hentries
    rw [← Framing.fst_split_front, hsplit, filterMap_fault?_map_canonical]
  · have hkept :
        ((compact.split buffer).1.filterMap catalog.fault?).filter Fault.isFraming = [] := by
      rw [List.filter_eq_nil_iff]
      intro f hf
      rw [Fault.isFraming_of_isOfEntry (isOfEntry_of_mem_filterMap_fault? hf)]
      exact Bool.false_ne_true
    rw [List.filter_append, hkept, List.nil_append,
      List.filter_cons_of_pos (Compact.isFraming_of_readEntry hread), List.filter_nil]
  · intro f hf
    rcases List.mem_append.mp hf with hf | hf
    · exact Fault.isAbsence_of_isOfEntry (isOfEntry_of_mem_filterMap_fault? hf)
    · rw [List.mem_singleton.mp hf]
      exact Fault.isAbsence_of_isFraming (Compact.isFraming_of_readEntry hread)

/-- A bad flag before a network path of which one octet out of five is there. -/
theorem parse_of_not_whole_short_path :
    ¬ compact.Whole [20, 1, 9, 1, 5, 104] ∧
    ∃ o, IsGreatest (compact.wholeLengths [20, 1, 9, 1, 5, 104]) o ∧
      ∃ fault, CutAt [20, 1, 9, 1, 5, 104] o fault ∧
        (builtin.parse [20, 1, 9, 1, 5, 104]).valid = false ∧
        (builtin.parse [20, 1, 9, 1, 5, 104]).entries = [] ∧
        (∀ entries, Compact.encode entries = .ok ([20, 1, 9, 1, 5, 104].take o) →
          (builtin.parse [20, 1, 9, 1, 5, 104]).faults =
            (entries.filterMap builtin.fault?).map Fault.canonical ++ [fault]) ∧
        (builtin.parse [20, 1, 9, 1, 5, 104]).faults.filter Fault.isFraming = [fault] ∧
        ∀ f ∈ (builtin.parse [20, 1, 9, 1, 5, 104]).faults, f.isAbsence = false := by
  have h : ¬ compact.Whole [20, 1, 9, 1, 5, 104] := by
    rw [Framing.whole_iff_split_eq_nil]
    decide +kernel
  exact ⟨h, parse_of_not_whole builtin h⟩

end BootTlv.Catalog
