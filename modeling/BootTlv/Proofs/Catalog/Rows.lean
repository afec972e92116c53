import BootTlv.Catalog

/-!
# The rows of a catalog

A catalog is a look-up, and its rows are listed by looking every code up. A row is listed exactly
when it is found under its own code (`mem_rows_iff`), and the list ascends strictly, so no code has
two rows (`pairwise_rows`).
-/

namespace BootTlv.Catalog

theorem mem_codes (c : UInt8) : c ∈ codes :=
  List.mem_map.mpr ⟨c.toNat, List.mem_range.mpr c.toNat_lt, UInt8.ofNat_toNat⟩

theorem pairwise_codes : codes.Pairwise (·.toNat < ·.toNat) := by
  unfold codes
  rw [List.pairwise_map]
  refine List.pairwise_lt_range.imp_of_mem ?_
  intro a b ha hb hab
  rw [List.mem_range] at ha hb
  simp only [UInt8.toNat_ofNat']
  omega

theorem mem_rows_iff {catalog : Catalog} {row : Row} :
    row ∈ catalog.rows ↔ catalog.lookup row.code = some row := by
  unfold rows
  rw [List.mem_filterMap]
  constructor
  · rintro ⟨c, -, hlookup⟩
    rwa [catalog.code_of_lookup hlookup]
  · intro hlookup
    exact ⟨row.code, mem_codes row.code, hlookup⟩

theorem pairwise_rows (catalog : Catalog) :
    catalog.rows.Pairwise (·.code.toNat < ·.code.toNat) := by
  unfold rows
  rw [List.pairwise_filterMap]
  refine pairwise_codes.imp ?_
  intro a b hab row hrow row' hrow'
  rwa [catalog.code_of_lookup hrow, catalog.code_of_lookup hrow']

/-! ## The built-in rows -/

theorem mem_builtinRows_of_lookup {c : UInt8} {row : Row}
    (h : builtin.lookup c = some row) : row ∈ builtinRows := by
  rw [builtin, lookup_ofRows] at h
  exact List.mem_reverse.mp (List.mem_of_find?_eq_some h)

theorem map_code_mandatoryRows_builtin : builtin.mandatoryRows.map Row.code = [1] := by
  decide +kernel

end BootTlv.Catalog
