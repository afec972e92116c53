import BootTlv.Proofs.Validation.Kinds
import Mathlib.Data.List.Basic

/-!
# The check of a value and its reader

What a kind of value asks for is written down twice. The check of an entry matches on the octets after
it has looked at the length octet, and the reader of the kind matches on the octets alone and then
converts them. Both come to the same: an entry has no fault exactly when its length octet counts the
value, the value is within the limit of the row, and the reader of the row's kind gives something
(`fault?_eq_none_iff`).
-/

namespace BootTlv

variable {entry : Entry}

/-! ## Readers -/

namespace Entry

theorem exists_flag_iff :
    (∃ value, entry.flag = .ok value) ↔ entry.value = [0] ∨ entry.value = [1] := by
  rw [flag]
  split
  · next b hvalue =>
      rw [hvalue]
      by_cases hzero : b = 0
      · simp [hzero]
      · by_cases hone : b = 1
        · simp [hone]
        · simp [hzero, hone]
  · next hvalue =>
      refine iff_of_false ?_ ?_
      · rintro ⟨_, h⟩
        cases h
      · rintro (h | h)
        · exact hvalue 0 h
        · exact hvalue 1 h

theorem exists_word_iff : (∃ w, entry.word = .ok w) ↔ entry.value.length = 2 := by
  rw [word]
  split
  · next low high hvalue =>
      rw [hvalue]
      exact iff_of_true ⟨_, rfl⟩ rfl
  · next hvalue =>
      refine iff_of_false ?_ ?_
      · rintro ⟨_, h⟩
        cases h
      · intro hlength
        obtain ⟨low, high, h⟩ := List.length_eq_two.mp hlength
        exact hvalue low high h

/-- A verify method is read from two octets that stand for one. -/
theorem exists_verifyMethod_iff :
    (∃ method, entry.verifyMethod = .ok method) ↔
      ∃ low high, entry.value = [low, high] ∧
        (VerifyMethod.ofCode? (LittleEndian.word low high)).isSome = true := by
  constructor
  · rintro ⟨method, h⟩
    obtain ⟨low, high, hvalue⟩ : ∃ low high, entry.value = [low, high] := by
      have hword : ∃ w, entry.word = .ok w := by
        cases hword : entry.word with
        | ok w => exact ⟨w, rfl⟩
        | error fault =>
            rw [verifyMethod, hword] at h
            cases h
      exact List.length_eq_two.mp (exists_word_iff.mp hword)
    refine ⟨low, high, hvalue, ?_⟩
    rw [verifyMethod, word, hvalue] at h
    cases hmethod : VerifyMethod.ofCode? (LittleEndian.word low high) with
    | some method => rfl
    | none =>
        simp only [hmethod] at h
        cases h
  · rintro ⟨low, high, hvalue, hmethod⟩
    obtain ⟨method, hmethod⟩ := Option.isSome_iff_exists.mp hmethod
    refine ⟨method, ?_⟩
    rw [verifyMethod, word, hvalue]
    simp only [hmethod]

end Entry

/-! ## Checks -/

/-- What a kind asks of a value: that its reader gives something, or that it is a URI. Every value is
a text, and none is good for a parameter that is refused. -/
def ValueKind.Reads (entry : Entry) : ValueKind → Prop
  | .boolean => ∃ value, entry.flag = .ok value
  | .verifyMethod => ∃ method, entry.verifyMethod = .ok method
  | .word => ∃ w, entry.word = .ok w
  | .uri => Uri.accepts entry.value = true
  | .text => True
  | .unsupported => False

theorem ValueKind.fault?_eq_none_iff (kind : ValueKind) (h : entry.Framed) :
    kind.fault? entry = none ↔ kind.Reads entry := by
  cases kind with
  | boolean =>
      rw [Reads, Entry.exists_flag_iff, fault?]
      split <;> simp_all
  | verifyMethod =>
      rw [Reads, Entry.exists_verifyMethod_iff, fault?]
      split
      · next low high hvalue =>
          rw [hvalue]
          constructor
          · intro hnone
            refine ⟨low, high, rfl, ?_⟩
            by_contra hmethod
            rw [if_neg hmethod] at hnone
            cases hnone
          · rintro ⟨_, _, heq, hmethod⟩
            cases heq
            exact if_pos hmethod
      · next hvalue =>
          refine iff_of_false ?_ ?_
          · intro hnone
            cases hnone
          · rintro ⟨low, high, h, -⟩
            exact hvalue low high h
  | word =>
      -- The check looks at the length octet and the reader at the value.
      rw [Reads, Entry.exists_word_iff, fault?, show entry.length.toNat = entry.value.length from h]
      by_cases hlength : entry.value.length = 2
      · simp [hlength]
      · simp [hlength]
  | uri =>
      rw [Reads, fault?]
      split <;> simp_all
  | text => exact iff_of_true rfl trivial
  | unsupported =>
      refine iff_of_false ?_ id
      intro hnone
      cases hnone

namespace Catalog

theorem fault?_eq_none_iff (catalog : Catalog) (entry : Entry) :
    catalog.fault? entry = none ↔
      ∃ row, catalog.lookup entry.tag.code = some row ∧
        entry.length.toNat = entry.value.length ∧ entry.length.toNat ≤ row.maxSize ∧
        row.kind.Reads entry := by
  constructor
  · intro h
    rw [fault?] at h
    split at h
    · cases h
    · next row hrow =>
        split at h
        · cases h
        split at h
        · cases h
        next hsize hlength =>
          have hframed : entry.Framed := Decidable.not_not.mp hlength
          exact ⟨row, hrow, hframed, Nat.le_of_not_lt hsize,
            (row.kind.fault?_eq_none_iff hframed).mp h⟩
  · rintro ⟨row, hrow, hframed, hsize, hreads⟩
    rw [fault?_of_framed hrow hframed (hframed ▸ hsize)]
    exact (row.kind.fault?_eq_none_iff hframed).mpr hreads

end Catalog

end BootTlv
