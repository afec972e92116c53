import BootTlv.Validation

/-!
# What a check may find

Faults fall into classes that no two checks share. An entry by itself has faults of its own
(`isOfEntry_of_fault?`), a set of entries has absences (`isAbsence_of_mem_absences`), and neither of
them says that a buffer is cut short.
-/

namespace BootTlv

namespace Fault

/-! ## Classes of faults -/

/-- Whether an entry by itself may have the fault. -/
def isOfEntry (fault : Fault) : Bool :=
  match fault.kind with
  | .unknownTag | .tooLarge | .lengthMismatch | .badFlag | .badVerifyMethod | .wrongSize | .badUri
  | .unsupported => true
  | _ => false

/-- Whether the fault says that a set of entries lacks one. -/
def isAbsence (fault : Fault) : Bool :=
  match fault.kind with
  | .missingMandatory | .missingDependency => true
  | _ => false

theorem isFraming_of_isOfEntry {fault : Fault} :
    fault.isOfEntry = true → fault.isFraming = false := by
  unfold isOfEntry isFraming
  cases fault.kind <;> decide

theorem isAbsence_of_isOfEntry {fault : Fault} :
    fault.isOfEntry = true → fault.isAbsence = false := by
  unfold isOfEntry isAbsence
  cases fault.kind <;> decide

theorem isAbsence_of_isFraming {fault : Fault} :
    fault.isFraming = true → fault.isAbsence = false := by
  unfold isFraming isAbsence
  cases fault.kind <;> decide

theorem isFraming_of_isAbsence {fault : Fault} :
    fault.isAbsence = true → fault.isFraming = false := by
  unfold isAbsence isFraming
  cases fault.kind <;> decide

end Fault

/-! ## Entries -/

theorem ValueKind.isOfEntry_of_fault? {kind : ValueKind} {entry : Entry} {fault : Fault}
    (h : kind.fault? entry = some fault) : fault.isOfEntry = true := by
  cases kind with
  | boolean =>
      obtain ⟨-, rfl⟩ : _ ∧ Fault.badFlag entry.tag = fault := by simpa [fault?] using h
      rfl
  | verifyMethod =>
      simp only [fault?] at h
      split at h
      · split at h
        · cases h
        · cases h; rfl
      · cases h; rfl
  | word =>
      obtain ⟨-, rfl⟩ : _ ∧ Fault.wrongSize entry.tag 2 entry.length.toNat = fault := by
        simpa [fault?] using h
      rfl
  | uri =>
      obtain ⟨-, rfl⟩ : _ ∧ Fault.badUri entry.tag = fault := by simpa [fault?] using h
      rfl
  | text => cases h
  | unsupported => cases h; rfl

namespace Catalog

theorem isOfEntry_of_fault? {catalog : Catalog} {entry : Entry} {fault : Fault}
    (h : catalog.fault? entry = some fault) : fault.isOfEntry = true := by
  unfold fault? at h
  split at h
  · cases h; rfl
  · split at h
    · cases h; rfl
    · split at h
      · cases h; rfl
      · exact ValueKind.isOfEntry_of_fault? h

/-- An entry within its row's limit, whose length octet agrees, is left to the kind of the row. -/
theorem fault?_of_framed {catalog : Catalog} {entry : Entry} {row : Row}
    (hrow : catalog.lookup entry.tag.code = some row) (hframed : entry.Framed)
    (hsize : entry.value.length ≤ row.maxSize) :
    catalog.fault? entry = row.kind.fault? entry := by
  have hlength : entry.length.toNat = entry.value.length := hframed
  rw [fault?, hrow]
  dsimp only
  rw [if_neg (by omega), if_neg (by omega)]

theorem isOfEntry_of_mem_filterMap_fault? {catalog : Catalog} {entries : List Entry}
    {fault : Fault} (h : fault ∈ entries.filterMap catalog.fault?) : fault.isOfEntry = true := by
  obtain ⟨entry, -, hfault⟩ := List.mem_filterMap.mp h
  exact isOfEntry_of_fault? hfault

/-! ## Sets of entries -/

theorem kind_of_mem_unmet {catalog : Catalog} {entries : List Entry} {fault : Fault} :
    ∀ {reported : List UInt8} {rest : List Entry},
      fault ∈ catalog.unmet entries reported rest → fault.kind = .missingDependency
  | _, [], h => by simp [unmet] at h
  | reported, entry :: rest, h => by
      unfold unmet at h
      dsimp only at h
      split at h
      · exact kind_of_mem_unmet h
      · split at h
        · exact kind_of_mem_unmet h
        · rcases List.mem_cons.mp h with rfl | h
          · rfl
          · exact kind_of_mem_unmet h

theorem isAbsence_of_mem_unmet {catalog : Catalog} {entries rest : List Entry}
    {reported : List UInt8} {fault : Fault} (h : fault ∈ catalog.unmet entries reported rest) :
    fault.isAbsence = true := by
  rw [Fault.isAbsence, kind_of_mem_unmet h]

theorem isAbsence_of_mem_absences {catalog : Catalog} {entries : List Entry} {fault : Fault}
    (h : fault ∈ catalog.absences entries) : fault.isAbsence = true := by
  rcases List.mem_append.mp h with h | h
  · obtain ⟨row, -, rfl⟩ := List.mem_map.mp h
    rfl
  · exact isAbsence_of_mem_unmet h

theorem isFraming_of_mem_review {catalog : Catalog} {entries : List Entry} {fault : Fault}
    (h : fault ∈ (catalog.review entries).2) : fault.isFraming = false := by
  rcases List.mem_append.mp h with h | h
  · exact Fault.isFraming_of_isOfEntry (isOfEntry_of_mem_filterMap_fault? h)
  · exact Fault.isFraming_of_isAbsence (isAbsence_of_mem_absences h)

end Catalog

end BootTlv
