import BootTlv.Tag

/-!
# The catalog of known parameters

A catalog has at most one row per code: the name of the parameter, how its value is checked, how
large it may be, whether every set must have it and which other parameter it needs. Catalogs are
built from lists of rows, and a later row takes the place of an earlier one with the same code.

`lookup_ofRows` and `lookup_extend` say so: the row found for a code is the last one given for it.
-/

namespace BootTlv

/-- How the value of a parameter is checked. -/
inductive ValueKind where
  /-- One octet, 0 or 1. -/
  | boolean
  /-- A word that stands for a verify method. -/
  | verifyMethod
  /-- Exactly two octets. -/
  | word
  /-- A URI with a scheme and a host. -/
  | uri
  /-- Any octets. -/
  | text
  /-- A parameter that is known and refused. -/
  | unsupported
deriving DecidableEq

/-- What a catalog says about one code. -/
structure Row where
  code : UInt8
  name : String
  maxSize : Nat
  kind : ValueKind
  mandatory : Bool := false
  dependsOn : Option UInt8 := none
deriving DecidableEq

/-- The tag that the row is about. -/
def Row.tag (row : Row) : Tag := Tag.ofCode row.code

/-- A version and at most one row per code, each under its own code. -/
structure Catalog where
  version : UInt16
  lookup : UInt8 → Option Row
  code_of_lookup : ∀ {c : UInt8} {row : Row}, lookup c = some row → row.code = c

namespace Catalog

/-! ## Building catalogs -/

/-- No rows. -/
def empty (version : UInt16) : Catalog := ⟨version, fun _ => none, by simp⟩

/-- Adds a row in place of any row with its code. -/
def insert (catalog : Catalog) (row : Row) : Catalog where
  version := catalog.version
  lookup c := if c = row.code then some row else catalog.lookup c
  code_of_lookup {c r} h := by
    split at h
    · cases h; simp [*]
    · exact catalog.code_of_lookup h

/-- The catalog of a list of rows. -/
def ofRows (version : UInt16) (rows : List Row) : Catalog := rows.foldl insert (empty version)

/-- A new version with rows put on top of the old ones. -/
def extend (catalog : Catalog) (version : UInt16) (rows : List Row) : Catalog :=
  rows.foldl insert { catalog with version }

/-! ## Reading catalogs -/

/-- The name that the catalog has for a tag. -/
def nameOf (catalog : Catalog) (tag : Tag) : Option String := (catalog.lookup tag.code).map (·.name)

/-- Every code, ascending. -/
def codes : List UInt8 := (List.range 256).map UInt8.ofNat

/-- The rows in ascending order of their codes. -/
def rows (catalog : Catalog) : List Row := codes.filterMap catalog.lookup

/-- The rows that every set of parameters must have, in the same order. -/
def mandatoryRows (catalog : Catalog) : List Row := catalog.rows.filter (·.mandatory)

/-! ## The last row wins -/

theorem lookup_foldl_insert (catalog : Catalog) (rows : List Row) (c : UInt8) :
    (rows.foldl insert catalog).lookup c =
      (rows.reverse.find? (·.code == c)).or (catalog.lookup c) := by
  induction rows generalizing catalog with
  | nil => simp
  | cons row rows ih =>
      rw [List.foldl_cons, ih, List.reverse_cons, List.find?_append]
      by_cases h : c = row.code
      · subst h; cases rows.reverse.find? (·.code == row.code) <;> simp [insert]
      · have : (row.code == c) = false := by simpa using fun e => h e.symm
        cases rows.reverse.find? (·.code == c) <;> simp [insert, h, this]

theorem lookup_ofRows (version : UInt16) (rows : List Row) (c : UInt8) :
    (ofRows version rows).lookup c = rows.reverse.find? (·.code == c) := by
  simp [ofRows, lookup_foldl_insert, empty]

theorem lookup_extend (catalog : Catalog) (version : UInt16) (rows : List Row) (c : UInt8) :
    (catalog.extend version rows).lookup c =
      (rows.reverse.find? (·.code == c)).or (catalog.lookup c) := by
  simp [extend, lookup_foldl_insert]

/-! ## The built-in catalog -/

/-- The version of the built-in rows. -/
def builtinVersion : UInt16 := 1

/-- The built-in rows, in the order of their definition. -/
def builtinRows : List Row :=
  [ { code := 1, name := "OCR_EFI_NETWORK_DEVICE_PATH", maxSize := 255, kind := .uri,
      mandatory := true },
    { code := 2, name := "OCR_EFI_FILE_DEVICE_PATH", maxSize := 255, kind := .text,
      dependsOn := some 4 },
    { code := 3, name := "OCR_EFI_FULL_DEVICE_PATH", maxSize := 255, kind := .unsupported },
    { code := 4, name := "OCR_EFI_DEVICE_PATH_LEN", maxSize := 2, kind := .word },
    { code := 5, name := "OCR_EFI_BOOT_OPTIONAL_DATA", maxSize := 255, kind := .unsupported,
      dependsOn := some 6 },
    { code := 6, name := "OCR_EFI_BOOT_OPTIONAL_DATA_LEN", maxSize := 2, kind := .word },
    { code := 20, name := "OCR_HTTPS_CERT_SYNC_ROOT_CA", maxSize := 1, kind := .boolean },
    { code := 21, name := "OCR_HTTPS_CERT_SERVER_NAME", maxSize := 255, kind := .text },
    { code := 22, name := "OCR_HTTPS_SERVER_NAME_VERIFY_METHOD", maxSize := 2,
      kind := .verifyMethod },
    { code := 23, name := "OCR_HTTPS_SERVER_CERT_HASH_SHA256", maxSize := 32,
      kind := .unsupported },
    { code := 24, name := "OCR_HTTPS_SERVER_CERT_HASH_SHA384", maxSize := 48,
      kind := .unsupported },
    { code := 25, name := "OCR_HTTPS_SERVER_CERT_HASH_SHA512", maxSize := 64,
      kind := .unsupported },
    { code := 26, name := "OCR_HTTPS_REQUEST_TIMEOUT", maxSize := 2, kind := .word },
    { code := 27, name := "OCR_HTTPS_USER_NAME", maxSize := 128, kind := .unsupported },
    { code := 28, name := "OCR_HTTPS_PASSWORD", maxSize := 128, kind := .unsupported } ]

/-- The catalog in use where no other is given. -/
def builtin : Catalog := ofRows builtinVersion builtinRows

end Catalog

end BootTlv
