import BootTlv.Proofs.Construction
import BootTlv.Proofs.Framing.Entry
import BootTlv.Request
import Mathlib.Algebra.Order.BigOperators.Group.List

/-!
# The fields of a request

Each field of a request has a tag, and the entries of a request are built field by field in the
order of their tags (`constructions_eq`). So an entry is found by its tag exactly when the field is
given, and what is read from it is the value of the field (`map_find?_of_field`).

Fields are small: a text has at most 255 octets, a word two and a flag one, so a request fits 828
octets in either framing (`length_flatMap_octets_le`).
-/

namespace BootTlv.Request

/-! ## Fields by tag -/

/-- The tags of the fields. -/
def tags : List Tag :=
  [.networkDevicePath, .fileDevicePath, .devicePathLength, .certSyncRootCa, .certServerName,
    .serverNameVerifyMethod, .requestTimeout]

/-- How the entry of a field is built, if the field is given. -/
def field (request : Request) : Tag → Option Entry.Construction
  | .networkDevicePath => request.networkDevicePath.map (.text .networkDevicePath)
  | .fileDevicePath => request.fileDevicePath.map (.text .fileDevicePath)
  | .devicePathLength => request.devicePathLength.map (.word .devicePathLength)
  | .certSyncRootCa => request.syncRootCa.map (.flag .certSyncRootCa)
  | .certServerName => request.serverName.map (.text .certServerName)
  | .serverNameVerifyMethod => request.verifyMethod.map .verifyMethod
  | .requestTimeout => request.requestTimeoutSecs.map (.word .requestTimeout)
  | _ => none

theorem constructions_eq (request : Request) :
    request.constructions = tags.filterMap request.field := rfl

theorem tag_of_field {request : Request} {t : Tag} {construction : Entry.Construction}
    (h : request.field t = some construction) : construction.tag = t := by
  unfold field at h
  split at h
  case h_8 => cases h
  all_goals
    obtain ⟨_, -, rfl⟩ := Option.map_eq_some_iff.mp h
    rfl

/-- Among fields with different tags one is found by its tag. -/
theorem find?_filterMap_field (request : Request) {ts : List Tag} {t : Tag}
    (hnodup : (ts.map Tag.code).Nodup) (ht : t ∈ ts) :
    (ts.filterMap request.field).find? (·.tag == t) = request.field t := by
  induction ts with
  | nil => cases ht
  | cons s ts ih =>
      rw [List.map_cons, List.nodup_cons] at hnodup
      obtain ⟨hs, hnodup⟩ := hnodup
      cases hfield : request.field s with
      | none =>
          rw [List.filterMap_cons_none hfield]
          rcases List.mem_cons.mp ht with rfl | ht
          · -- The field is not given, and the others have other tags.
            rw [hfield, List.find?_eq_none]
            intro construction hconstruction htag
            obtain ⟨s', hs', hfield'⟩ := List.mem_filterMap.mp hconstruction
            rw [tag_of_field hfield', Tag.beq_iff_code_eq] at htag
            exact hs (List.mem_map.mpr ⟨s', hs', htag⟩)
          · exact ih hnodup ht
      | some construction =>
          rw [List.filterMap_cons_some hfield]
          rcases List.mem_cons.mp ht with rfl | ht
          · have htag : (construction.tag == t) = true := by
              rw [tag_of_field hfield, Tag.beq_iff_code_eq]
            rw [List.find?_cons, htag, hfield]
          · have htag : (construction.tag == t) = false := by
              rw [Bool.eq_false_iff, ne_eq, tag_of_field hfield, Tag.beq_iff_code_eq]
              intro hcode
              exact hs (List.mem_map.mpr ⟨t, ht, hcode.symm⟩)
            rw [List.find?_cons, htag]
            exact ih hnodup ht

/-! ## Entries -/

theorem built_of_entries {request : Request} {entries : List Entry}
    (h : request.entries = .ok entries) :
    Entry.Construction.Built (tags.filterMap request.field) entries :=
  Entry.Construction.built_of_mapM h

/-- What is read from the entry of a field is the value of the field, and there is no entry for a
field that is not given. -/
theorem map_find?_of_field {α β : Type} {request : Request} {entries : List Entry}
    (h : request.entries = .ok entries) {t : Tag} (ht : t ∈ tags) {value : Option α}
    {construction : α → Entry.Construction} (hfield : request.field t = value.map construction)
    {read : Entry → β} {expected : α → β}
    (hread : ∀ a entry, (construction a).build = .ok entry → read entry = expected a) :
    (entries.find? (·.tag == t)).map read = value.map expected := by
  have hfind := (built_of_entries h).find? t
  rw [find?_filterMap_field request (by decide) ht, hfield, Option.map_map] at hfind
  cases value with
  | none =>
      rw [Option.map_eq_none_iff.mp hfind]
      rfl
  | some a =>
      obtain ⟨entry, hentry, hbuild⟩ := Option.map_eq_some_iff.mp hfind
      rw [hentry]
      exact congrArg some (hread a entry hbuild.symm)

theorem exists_field_of_mem {request : Request} {entries : List Entry}
    (h : request.entries = .ok entries) {entry : Entry} (hentry : entry ∈ entries) :
    entry.tag ∈ tags ∧
      ∃ construction, request.field entry.tag = some construction ∧
        construction.build = .ok entry := by
  obtain ⟨construction, hmem, hbuild⟩ := (built_of_entries h).exists_of_mem hentry
  obtain ⟨t, ht, hfield⟩ := List.mem_filterMap.mp hmem
  have htag : entry.tag = t :=
    (Entry.Construction.tag_of_build hbuild).trans (tag_of_field hfield)
  rw [htag]
  exact ⟨ht, construction, hfield, hbuild⟩

theorem sublist_tags {request : Request} {entries : List Entry}
    (h : request.entries = .ok entries) : (entries.map Entry.tag).Sublist tags := by
  rw [(built_of_entries h).map_tag]
  generalize tags = ts
  induction ts with
  | nil => exact .slnil
  | cons t ts ih =>
      cases hfield : request.field t with
      | none =>
          rw [List.filterMap_cons_none hfield]
          exact ih.cons t
      | some construction =>
          rw [List.filterMap_cons_some hfield, List.map_cons, tag_of_field hfield]
          exact ih.cons_cons t

theorem canonical_of_mem_tags {t : Tag} (ht : t ∈ tags) : t.canonical = t := by
  simp only [tags, List.mem_cons, List.not_mem_nil, or_false] at ht
  rcases ht with rfl | rfl | rfl | rfl | rfl | rfl | rfl <;> rfl

/-- The tags of a request are in their named spelling. -/
theorem map_canonical_entries {request : Request} {entries : List Entry}
    (h : request.entries = .ok entries) : entries.map Entry.canonical = entries := by
  have hentry : ∀ e ∈ entries, e.canonical = e := by
    intro e he
    rw [Entry.canonical, canonical_of_mem_tags (exists_field_of_mem h he).1]
  rw [List.map_congr_left hentry, List.map_id']

/-! ## Sizes -/

/-- The most octets in the value of a field. -/
def capacity : Tag → Nat
  | .networkDevicePath | .fileDevicePath | .certServerName => 255
  | .certSyncRootCa => 1
  | _ => 2

theorem length_le_capacity {request : Request} {t : Tag} {construction : Entry.Construction}
    {entry : Entry} (hfield : request.field t = some construction)
    (hbuild : construction.build = .ok entry) : entry.value.length ≤ capacity t := by
  unfold field at hfield
  split at hfield
  case h_8 => cases hfield
  case h_1 | h_2 | h_5 =>
    obtain ⟨text, -, rfl⟩ := Option.map_eq_some_iff.mp hfield
    obtain ⟨hlength, rfl⟩ := Entry.make_eq_ok_iff.mp hbuild
    exact hlength
  all_goals
    obtain ⟨_, -, rfl⟩ := Option.map_eq_some_iff.mp hfield
    cases hbuild
    exact Nat.le_refl _

/-- The entries of a request take no more octets than full fields do. -/
theorem length_flatMap_octets_le {request : Request} {entries : List Entry}
    (h : request.entries = .ok entries) (framing : Framing) :
    (entries.flatMap framing.octets).length ≤ 828 := by
  have heach : ∀ e ∈ entries, (framing.octets e).length ≤ 8 + capacity e.tag := by
    intro e he
    obtain ⟨-, construction, hfield, hbuild⟩ := exists_field_of_mem h he
    have hvalue := length_le_capacity hfield hbuild
    have hheader : framing.headerSize ≤ 8 := by cases framing <;> decide
    rw [Framing.length_octets]
    omega
  calc (entries.flatMap framing.octets).length
      = (entries.map fun e => (framing.octets e).length).sum := List.length_flatMap
    _ ≤ (entries.map fun e => 8 + capacity e.tag).sum := List.sum_le_sum heach
    _ = ((entries.map Entry.tag).map fun t => 8 + capacity t).sum := by
        rw [List.map_map]
        rfl
    _ ≤ (tags.map fun t => 8 + capacity t).sum :=
        ((sublist_tags h).map _).sum_le_sum fun n _ => Nat.zero_le n
    _ = 828 := rfl

end BootTlv.Request
