import BootTlv.Validation
import BootTlv.Verdict
import Mathlib.Data.List.Forall2

/-!
# Spelling of tags

A tag may be spelled `other c` where `c` has a name. Two entries are the same when they differ in
the spelling of their tags only, and `canonical` picks one entry out of the same ones.

Validation does not look at the spelling: the fault of the canonical entry is the fault of the
entry with its tags in the named spelling (`fault?_canonical`).

Verdicts are compared in the same way, entry by entry and fault by fault.
-/

namespace BootTlv

/-! ## Tags -/

theorem Tag.canonical_eq_iff {a b : Tag} : a.canonical = b.canonical ↔ a.code = b.code := by
  constructor
  · intro h
    rw [← code_canonical a, h, code_canonical]
  · intro h
    rw [canonical, canonical, h]

theorem Tag.canonical_ofCode (c : UInt8) : (ofCode c).canonical = ofCode c := by
  rw [canonical, code_ofCode]

theorem Tag.canonical_canonical (t : Tag) : t.canonical.canonical = t.canonical :=
  canonical_ofCode t.code

theorem Fault.canonical_canonical (fault : Fault) : fault.canonical.canonical = fault.canonical := by
  cases fault <;> simp [canonical, Tag.canonical_canonical]

namespace Entry

/-! ## Entries -/

/-- The entry with its tag in the named spelling. -/
def canonical (entry : Entry) : Entry := { entry with tag := entry.tag.canonical }

@[simp] theorem tag_canonical (entry : Entry) : entry.canonical.tag = entry.tag.canonical := rfl

@[simp] theorem length_canonical (entry : Entry) : entry.canonical.length = entry.length := rfl

@[simp] theorem value_canonical (entry : Entry) : entry.canonical.value = entry.value := rfl

/-- The entries have the same code, length octet and value. -/
structure Same (a b : Entry) : Prop where
  code : a.tag.code = b.tag.code
  length : a.length = b.length
  value : a.value = b.value

theorem same_iff_canonical_eq {a b : Entry} : Same a b ↔ a.canonical = b.canonical := by
  rcases a with ⟨ta, la, va⟩
  rcases b with ⟨tb, lb, vb⟩
  constructor
  · rintro ⟨hcode, hlength, hvalue⟩
    simp only [canonical, mk.injEq, Tag.canonical_eq_iff]
    exact ⟨hcode, hlength, hvalue⟩
  · intro h
    simp only [canonical, mk.injEq, Tag.canonical_eq_iff] at h
    exact ⟨h.1, h.2.1, h.2.2⟩

theorem same_canonical (entry : Entry) : Same entry.canonical entry :=
  ⟨Tag.code_canonical entry.tag, rfl, rfl⟩

theorem forall₂_same_map_canonical (entries : List Entry) :
    List.Forall₂ Same (entries.map canonical) entries := by
  rw [List.forall₂_map_left_iff, List.forall₂_same]
  exact fun entry _ => same_canonical entry

theorem forall₂_same_iff {entries others : List Entry} :
    List.Forall₂ Same entries others ↔ entries.map canonical = others.map canonical := by
  have hsame : Same = fun a b => a.canonical = b.canonical :=
    funext fun a => funext fun b => propext same_iff_canonical_eq
  rw [← List.forall₂_eq_eq_eq, List.forall₂_map_left_iff, List.forall₂_map_right_iff, hsame]

end Entry

/-! ## Faults of entries -/

theorem ValueKind.fault?_canonical (kind : ValueKind) (entry : Entry) :
    kind.fault? entry.canonical = (kind.fault? entry).map Fault.canonical := by
  cases kind with
  | boolean =>
      by_cases h : entry.value = [0] ∨ entry.value = [1]
      · simp [fault?, h]
      · simp [fault?, h, Fault.canonical]
  | verifyMethod =>
      simp only [fault?, Entry.value_canonical, Entry.tag_canonical]
      split
      · rw [apply_ite (Option.map Fault.canonical)]
        rfl
      · rfl
  | word =>
      by_cases h : entry.length.toNat ≠ 2
      · simp [fault?, h, Fault.canonical]
      · simp [fault?, h]
  | uri =>
      cases h : Uri.accepts entry.value <;> simp [fault?, h, Fault.canonical]
  | text => rfl
  | unsupported => rfl

namespace Catalog

/-- The fault of the canonical entry is the fault of the entry with its tags in the named
spelling. -/
theorem fault?_canonical (catalog : Catalog) (entry : Entry) :
    catalog.fault? entry.canonical = (catalog.fault? entry).map Fault.canonical := by
  unfold fault?
  rw [Entry.tag_canonical, Tag.code_canonical]
  cases catalog.lookup entry.tag.code with
  | none => rfl
  | some row =>
      dsimp only
      rw [apply_ite (Option.map Fault.canonical), apply_ite (Option.map Fault.canonical),
        ← ValueKind.fault?_canonical]
      rfl

theorem filterMap_fault?_map_canonical (catalog : Catalog) (entries : List Entry) :
    (entries.map Entry.canonical).filterMap catalog.fault? =
      (entries.filterMap catalog.fault?).map Fault.canonical := by
  rw [List.filterMap_map, List.map_filterMap]
  congr 1
  funext entry
  exact catalog.fault?_canonical entry

end Catalog

/-! ## Verdicts -/

namespace Verdict

/-- The verdict with all tags in their named spelling. -/
def canonical (verdict : Verdict) : Verdict :=
  ⟨verdict.valid, verdict.entries.map Entry.canonical, verdict.faults.map Fault.canonical⟩

/-- The verdicts have the same flag, the same entries and the same faults, with tags compared by
code. -/
structure Same (v w : Verdict) : Prop where
  valid : v.valid = w.valid
  entries : List.Forall₂ Entry.Same v.entries w.entries
  faults : v.faults.map Fault.canonical = w.faults.map Fault.canonical

theorem same_iff_canonical_eq {v w : Verdict} : Same v w ↔ v.canonical = w.canonical := by
  rw [canonical, canonical, mk.injEq]
  constructor
  · rintro ⟨hvalid, hentries, hfaults⟩
    exact ⟨hvalid, Entry.forall₂_same_iff.mp hentries, hfaults⟩
  · rintro ⟨hvalid, hentries, hfaults⟩
    exact ⟨hvalid, Entry.forall₂_same_iff.mpr hentries, hfaults⟩

theorem same_canonical (verdict : Verdict) : Same verdict.canonical verdict := by
  refine ⟨rfl, Entry.forall₂_same_map_canonical verdict.entries, ?_⟩
  show (verdict.faults.map Fault.canonical).map Fault.canonical = _
  rw [List.map_map]
  exact List.map_congr_left fun fault _ => fault.canonical_canonical

end Verdict

end BootTlv
