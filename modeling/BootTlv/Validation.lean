import BootTlv.Catalog
import BootTlv.Entry
import BootTlv.Uri

/-!
# Validation

A catalog finds at most one fault with each entry: the first of an unknown tag, a length octet above
the limit, a length octet that disagrees with the value, and what the kind of the row finds. Of a
set of entries it wants the mandatory tags and what the tags that are there depend on.

An absent dependency is reported once for each code that needs it, where that code occurs first.
-/

namespace BootTlv

/-! ## Single entries -/

/-- What a kind of value finds wrong with an entry. -/
def ValueKind.fault? (kind : ValueKind) (entry : Entry) : Option Fault :=
  match kind with
  | .boolean =>
    if entry.value = [0] ∨ entry.value = [1] then none else some (.badFlag entry.tag)
  | .verifyMethod =>
    match entry.value with
    | [low, high] =>
      if (VerifyMethod.ofCode? (LittleEndian.word low high)).isSome then none
      else some (.badVerifyMethod entry.tag)
    | _ => some (.badVerifyMethod entry.tag)
  | .word =>
    if entry.length.toNat ≠ 2 then some (.wrongSize entry.tag 2 entry.length.toNat) else none
  | .uri => if Uri.accepts entry.value then none else some (.badUri entry.tag)
  | .text => none
  | .unsupported => some (.unsupported entry.tag)

namespace Catalog

/-- The first fault of an entry. -/
def fault? (catalog : Catalog) (entry : Entry) : Option Fault :=
  match catalog.lookup entry.tag.code with
  | none => some (.unknownTag entry.tag.code)
  | some row =>
    if row.maxSize < entry.length.toNat then
      some (.tooLarge entry.tag entry.length.toNat row.maxSize)
    else if entry.length.toNat ≠ entry.value.length then
      some (.lengthMismatch entry.tag entry.length.toNat entry.value.length)
    else row.kind.fault? entry

/-! ## Sets of entries -/

/-- Whether some entry has the code. -/
def present (entries : List Entry) (code : UInt8) : Bool := entries.any (·.tag.code == code)

@[simp] theorem present_iff {entries : List Entry} {code : UInt8} :
    present entries code = true ↔ ∃ entry ∈ entries, entry.tag.code = code := by
  simp [present]

/-- The mandatory tags that no entry has, ascending. -/
def missing (catalog : Catalog) (entries : List Entry) : List Fault :=
  (catalog.mandatoryRows.filter fun row => !present entries row.code).map fun row =>
    .missingMandatory row.tag

/-- The code that entries with the code depend on. -/
def dependency? (catalog : Catalog) (code : UInt8) : Option UInt8 :=
  (catalog.lookup code).bind (·.dependsOn)

/-- The dependencies of some entries of a set that the set lacks, apart from those of codes that
have been reported. -/
def unmet (catalog : Catalog) (entries : List Entry) :
    (reported : List UInt8) → List Entry → List Fault
  | _, [] => []
  | reported, entry :: rest =>
    let code := entry.tag.code
    match catalog.dependency? code with
    | none => unmet catalog entries reported rest
    | some needs =>
      if present entries needs || reported.contains code then unmet catalog entries reported rest
      else
        .missingDependency entry.tag (Tag.ofCode needs) ::
          unmet catalog entries (code :: reported) rest

/-- What a set of entries lacks. -/
def absences (catalog : Catalog) (entries : List Entry) : List Fault :=
  catalog.missing entries ++ catalog.unmet entries [] entries

/-- Every fault of a set of entries, and whether there is none. -/
def review (catalog : Catalog) (entries : List Entry) : Bool × List Fault :=
  let faults := entries.filterMap catalog.fault? ++ catalog.absences entries
  (faults.isEmpty, faults)

end Catalog

end BootTlv
