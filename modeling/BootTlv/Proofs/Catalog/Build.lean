import BootTlv.Proofs.Catalog.Rows
import BootTlv.Proofs.Last

/-!
# Catalogs built in layers

A catalog begins with a list of rows, its own or the built-in ones, and any number of further lists
may be put on top of it. What it says in the end depends on all these rows in the order in which
they were given, and not on how they were divided into lists: under each code there is the last row
that was given for it, and no code has two (`last_row_wins`). The version is the last one that was
given.
-/

namespace BootTlv.Catalog

/-! ## Rows that were given -/

/-- The row is the last one with a code. -/
def IsLastRow (given : List Row) (c : UInt8) (row : Row) : Prop :=
  ∃ before after, given = before ++ row :: after ∧ row.code = c ∧ ∀ later ∈ after, later.code ≠ c

/-- The catalog has been built with a version as the last one, from rows that were given in this
order. -/
inductive Built : Catalog → UInt16 → List Row → Prop where
  | ofRows (version : UInt16) (rows : List Row) : Built (ofRows version rows) version rows
  | builtin : Built builtin builtinVersion builtinRows
  | extend {catalog : Catalog} {old : UInt16} {given : List Row} (h : Built catalog old given)
      (version : UInt16) (rows : List Row) :
      Built (catalog.extend version rows) version (given ++ rows)

theorem lookup_ofRows_eq_some_iff {version : UInt16} {given : List Row} {c : UInt8} {row : Row} :
    (ofRows version given).lookup c = some row ↔ IsLastRow given c row := by
  rw [lookup_ofRows, List.find?_reverse_eq_some_iff]
  simp only [IsLastRow, beq_iff_eq, beq_eq_false_iff_ne]

theorem lookup_ofRows_eq_none_iff {version : UInt16} {given : List Row} {c : UInt8} :
    (ofRows version given).lookup c = none ↔ ∀ row ∈ given, row.code ≠ c := by
  rw [lookup_ofRows]
  simp

/-! ## Layers -/

@[simp] theorem version_foldl_insert (catalog : Catalog) (rows : List Row) :
    (rows.foldl insert catalog).version = catalog.version := by
  induction rows generalizing catalog with
  | nil => rfl
  | cons row rows ih =>
      rw [List.foldl_cons, ih]
      rfl

@[simp] theorem version_ofRows (version : UInt16) (rows : List Row) :
    (ofRows version rows).version = version :=
  version_foldl_insert (empty version) rows

@[simp] theorem version_extend (catalog : Catalog) (version : UInt16) (rows : List Row) :
    (catalog.extend version rows).version = version :=
  version_foldl_insert { catalog with version } rows

/-- A catalog is its version and its look-up. -/
theorem ext_lookup {a b : Catalog} (hversion : a.version = b.version)
    (hlookup : ∀ c, a.lookup c = b.lookup c) : a = b := by
  obtain ⟨_, lookup, _⟩ := a
  obtain ⟨_, lookup', _⟩ := b
  obtain rfl : lookup = lookup' := funext hlookup
  cases hversion
  rfl

/-- Where a list of rows is cut into two layers makes no difference. -/
theorem ofRows_append (version old : UInt16) (a b : List Row) :
    ofRows version (a ++ b) = (ofRows old a).extend version b := by
  refine ext_lookup ?_ ?_
  · rw [version_ofRows, version_extend]
  · intro c
    rw [lookup_extend, lookup_ofRows, lookup_ofRows, List.reverse_append, List.find?_append]

/-- However many layers there are, their rows might have been given at once. -/
theorem Built.eq_ofRows {catalog : Catalog} {version : UInt16} {given : List Row}
    (h : Built catalog version given) : catalog = Catalog.ofRows version given := by
  induction h with
  | ofRows version rows => rfl
  | builtin => rfl
  | @extend catalog old given _ version rows ih => rw [ih, ofRows_append version old given rows]

/-! ## What a catalog comes to -/

/-- The catalog has the version, and of the rows that were given it has the last one with each
code. -/
structure HasLastRows (catalog : Catalog) (version : UInt16) (given : List Row) : Prop where
  version_eq : catalog.version = version
  lookup_eq_some_iff : ∀ c row, catalog.lookup c = some row ↔ IsLastRow given c row
  lookup_eq_none_iff : ∀ c, catalog.lookup c = none ↔ ∀ row ∈ given, row.code ≠ c
  /-- The rows ascend strictly by their codes. -/
  ascending : catalog.rows.Pairwise (·.code.toNat < ·.code.toNat)
  /-- Every code that was given has a row. -/
  codes : ∀ c, (∃ row ∈ catalog.rows, row.code = c) ↔ ∃ row ∈ given, row.code = c
  /-- The row of a code is listed, and no other row is. -/
  stored : ∀ row, row ∈ catalog.rows ↔ catalog.lookup row.code = some row
  sublist : catalog.mandatoryRows.Sublist catalog.rows
  mandatory : ∀ row, row ∈ catalog.mandatoryRows ↔ row ∈ catalog.rows ∧ row.mandatory = true

theorem Built.hasLastRows {catalog : Catalog} {version : UInt16} {given : List Row}
    (h : Built catalog version given) : HasLastRows catalog version given := by
  have hsome : ∀ c row, catalog.lookup c = some row ↔ IsLastRow given c row := by
    intro c row
    rw [h.eq_ofRows, lookup_ofRows_eq_some_iff]
  have hnone : ∀ c, catalog.lookup c = none ↔ ∀ row ∈ given, row.code ≠ c := by
    intro c
    rw [h.eq_ofRows, lookup_ofRows_eq_none_iff]
  constructor
  case version_eq => rw [h.eq_ofRows, version_ofRows]
  case lookup_eq_some_iff => exact hsome
  case lookup_eq_none_iff => exact hnone
  case ascending => exact catalog.pairwise_rows
  case codes =>
    intro c
    constructor
    · rintro ⟨row, hrow, rfl⟩
      obtain ⟨before, after, rfl, -, -⟩ := (hsome _ _).mp (mem_rows_iff.mp hrow)
      exact ⟨row, by simp, rfl⟩
    · rintro ⟨row, hrow, hcode⟩
      cases hlookup : catalog.lookup c with
      | none => exact absurd hcode ((hnone c).mp hlookup row hrow)
      | some found =>
          have hfound : found.code = c := catalog.code_of_lookup hlookup
          exact ⟨found, mem_rows_iff.mpr (by rw [hfound, hlookup]), hfound⟩
  case stored =>
    intro row
    exact mem_rows_iff
  case sublist => exact List.filter_sublist
  case mandatory =>
    intro row
    exact List.mem_filter

/-- **The last row wins.** A catalog that was built from rows, or from the built-in ones, and
extended any number of times has the version that was given last and the last row that was given for
each code. It lists one row for each code that was given, ascending, and of these the mandatory ones
apart. Rows that are given at once make the catalog that they make in two layers. -/
theorem last_row_wins :
    (∀ catalog version given, Built catalog version given → HasLastRows catalog version given) ∧
    ∀ version old a b, ofRows version (a ++ b) = (ofRows old a).extend version b :=
  ⟨fun _ _ _ h => h.hasLastRows, ofRows_append⟩

/-- A row for a new code that every set must have. -/
def tokenRow : Row :=
  { code := 40, name := "TOKEN", maxSize := 16, kind := .text, mandatory := true }

/-- Rows of which two are for the same code, and one takes the dependency from the file path. -/
def laterRows : List Row :=
  [{ tokenRow with maxSize := 8 },
    { code := 2, name := "OCR_EFI_FILE_DEVICE_PATH", maxSize := 64, kind := .text },
    { tokenRow with maxSize := 4, mandatory := false }]

/-- The last of three rows for a code counts, so the code is not asked for, and a row of the second
layer takes the place of a built-in one. -/
theorem last_row_wins_laterRows :
    Built ((builtin.extend 2 [tokenRow]).extend 7 laterRows) 7
        (builtinRows ++ [tokenRow] ++ laterRows) ∧
      ((builtin.extend 2 [tokenRow]).extend 7 laterRows).version = 7 ∧
      ((builtin.extend 2 [tokenRow]).extend 7 laterRows).lookup 40 =
        some { tokenRow with maxSize := 4, mandatory := false } ∧
      ((builtin.extend 2 [tokenRow]).extend 7 laterRows).lookup 2 =
        some { code := 2, name := "OCR_EFI_FILE_DEVICE_PATH", maxSize := 64, kind := .text } ∧
      ((builtin.extend 2 [tokenRow]).extend 7 laterRows).lookup 3 = builtinRows[2]? ∧
      ∀ row ∈ ((builtin.extend 2 [tokenRow]).extend 7 laterRows).mandatoryRows, row.code ≠ 40 := by
  have hbuilt : Built ((builtin.extend 2 [tokenRow]).extend 7 laterRows) 7
      (builtinRows ++ [tokenRow] ++ laterRows) :=
    (Built.builtin.extend 2 [tokenRow]).extend 7 laterRows
  obtain ⟨hrows, -⟩ := last_row_wins
  have h := hrows _ _ _ hbuilt
  have htoken := (h.lookup_eq_some_iff 40 { tokenRow with maxSize := 4, mandatory := false }).mpr
    ⟨builtinRows ++ [tokenRow] ++ laterRows.take 2, [], rfl, rfl, by simp⟩
  refine ⟨hbuilt, h.version_eq, htoken, ?_, ?_, ?_⟩
  · exact (h.lookup_eq_some_iff 2 _).mpr
      ⟨builtinRows ++ [tokenRow] ++ laterRows.take 1, laterRows.drop 2, rfl, rfl, by decide⟩
  · exact (h.lookup_eq_some_iff 3 _).mpr
      ⟨builtinRows.take 2, builtinRows.drop 3 ++ [tokenRow] ++ laterRows, rfl, rfl, by decide⟩
  · intro row hrow hcode
    obtain ⟨hmem, hmandatory⟩ := (h.mandatory row).mp hrow
    have hlookup := (h.stored row).mp hmem
    rw [hcode, htoken, Option.some.injEq] at hlookup
    rw [← hlookup] at hmandatory
    cases hmandatory

end BootTlv.Catalog
