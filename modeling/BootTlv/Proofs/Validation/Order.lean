import BootTlv.Proofs.Compact.Append
import BootTlv.Proofs.Spelling
import BootTlv.Proofs.Validation.Review

/-!
# The order of entries

What a set of entries lacks depends on the codes that occur in it and on nothing else: neither their
order, nor how often they occur, nor how their tags are spelled changes which faults are found
(`perm_absences`). The loop over the needs reports a code where it occurs first, so the faults do come
in another order, and a fault may come in another spelling. Entries in another order therefore get the
same faults in some order and the same verdict (`review_perm`).

Lists are compared here with all tags in their named spelling, which is comparing them by code.
-/

namespace BootTlv

namespace Catalog

variable {catalog : Catalog} {entries others : List Entry}

/-! ## Codes that occur -/

/-- The same codes occur in both lists. -/
def SameCodes (entries others : List Entry) : Prop :=
  ∀ c, (∃ e ∈ entries, e.tag.code = c) ↔ ∃ e ∈ others, e.tag.code = c

theorem sameCodes_of_perm (h : (entries.map Entry.canonical).Perm (others.map Entry.canonical)) :
    SameCodes entries others := by
  have hcode : Tag.code ∘ Entry.tag ∘ Entry.canonical = Tag.code ∘ Entry.tag :=
    funext fun e => e.tag.code_canonical
  have hcodes := h.map (Tag.code ∘ Entry.tag)
  rw [List.map_map, List.map_map, Function.comp_assoc, hcode] at hcodes
  intro c
  have hmem := hcodes.mem_iff (a := c)
  rwa [List.mem_map, List.mem_map] at hmem

theorem SameCodes.absent_iff (h : SameCodes entries others) (c : UInt8) :
    (∀ e ∈ entries, e.tag.code ≠ c) ↔ ∀ e ∈ others, e.tag.code ≠ c := by
  have hc := not_congr (h c)
  simpa only [not_exists, not_and] using hc

theorem SameCodes.present_eq (h : SameCodes entries others) (c : UInt8) :
    present entries c = present others c := by
  rw [Bool.eq_iff_iff, present_iff, present_iff]
  exact h c

/-! ## Absences -/

theorem missing_eq_of_sameCodes (h : SameCodes entries others) :
    catalog.missing entries = catalog.missing others := by
  rw [missing, missing]
  congr 2
  funext row
  rw [h.present_eq]

/-- The fault of a code that needs another one, if it needs any. -/
def need? (catalog : Catalog) (c : UInt8) : Option Fault :=
  (catalog.dependency? c).map fun d => .missingDependency (Tag.ofCode c) (Tag.ofCode d)

theorem canonical_of_unmetFault {c : UInt8} {fault : Fault}
    (h : catalog.UnmetFault entries c fault) : catalog.need? c = some fault.canonical := by
  obtain ⟨e, d, hfirst, hunmet, rfl⟩ := h
  have hcode : e.tag.code = c := by simpa using List.find?_some hfirst
  rw [need?, hunmet.1, Option.map_some, Fault.canonical, Tag.canonical, Tag.canonical, hcode,
    Tag.code_ofCode]

/-- The needs that are not met are those of a list of codes, each once. -/
theorem map_canonical_unmet (catalog : Catalog) (entries : List Entry) :
    ∃ needing : List UInt8, needing.Nodup ∧
      (∀ c, c ∈ needing ↔
        (∃ e ∈ entries, e.tag.code = c) ∧ ∃ d, catalog.Unmet entries c d) ∧
      (catalog.unmet entries [] entries).map Fault.canonical = needing.filterMap catalog.need? := by
  obtain ⟨needing, hranked, hfaults⟩ := catalog.unmet_nil_spec entries
  refine ⟨needing, ?_, hranked.mem_iff, ?_⟩
  · exact hranked.ascending.imp fun hlt heq => absurd (congrArg _ heq) (Nat.ne_of_lt hlt)
  · clear hranked
    generalize catalog.unmet entries [] entries = faults at hfaults
    induction hfaults with
    | nil => rfl
    | cons hfault _ ih =>
        rw [List.map_cons, ih, List.filterMap_cons_some (canonical_of_unmetFault hfault)]

theorem perm_unmet (h : SameCodes entries others) :
    ((catalog.unmet entries [] entries).map Fault.canonical).Perm
      ((catalog.unmet others [] others).map Fault.canonical) := by
  obtain ⟨needing, hnodup, hmem, hunmet⟩ := catalog.map_canonical_unmet entries
  obtain ⟨needing', hnodup', hmem', hunmet'⟩ := catalog.map_canonical_unmet others
  have hsame : needing.Perm needing' := by
    rw [List.perm_ext_iff_of_nodup hnodup hnodup']
    intro c
    rw [hmem, hmem', h c]
    simp only [Unmet, h.absent_iff]
  rw [hunmet, hunmet']
  exact hsame.filterMap catalog.need?

/-- What entries lack depends on their codes only. -/
theorem perm_absences (catalog : Catalog) (h : SameCodes entries others) :
    ((catalog.absences entries).map Fault.canonical).Perm
      ((catalog.absences others).map Fault.canonical) := by
  rw [absences, absences, List.map_append, List.map_append, missing_eq_of_sameCodes h]
  exact (perm_unmet h).append_left _

/-! ## Reviews -/

theorem perm_faults_review (catalog : Catalog)
    (h : (entries.map Entry.canonical).Perm (others.map Entry.canonical)) :
    ((catalog.review entries).2.map Fault.canonical).Perm
      ((catalog.review others).2.map Fault.canonical) := by
  rw [review, review, List.map_append, List.map_append, ← filterMap_fault?_map_canonical,
    ← filterMap_fault?_map_canonical]
  exact (h.filterMap catalog.fault?).append (catalog.perm_absences (sameCodes_of_perm h))

theorem valid_review_eq (catalog : Catalog)
    (h : (entries.map Entry.canonical).Perm (others.map Entry.canonical)) :
    (catalog.review entries).1 = (catalog.review others).1 := by
  have hlength := (catalog.perm_faults_review h).length_eq
  rw [List.length_map, List.length_map] at hlength
  rw [Bool.eq_iff_iff, valid_review_iff, valid_review_iff, ← List.length_eq_zero_iff, hlength,
    List.length_eq_zero_iff]

/-! ## Buffers -/

open Framing (compact)

theorem valid_parse_of_perm (catalog : Catalog) {buffer : List UInt8}
    (hbuffer : (catalog.parse buffer).isFraming = false)
    (h : ((catalog.parse buffer).entries.map Entry.canonical).Perm
      (others.map Entry.canonical)) :
    ∃ reordered, Compact.encode others = .ok reordered ∧
      (catalog.parse reordered).isFraming = false ∧
      (catalog.parse reordered).valid = (catalog.parse buffer).valid := by
  have hsplit := isFraming_parse_iff.mp hbuffer
  rw [entries_parse catalog hsplit, compact.map_canonical_fst_split] at h
  -- An entry in another place has the same length octet and value, so it can be written.
  have hframed : ∀ e ∈ others, e.Framed := by
    intro e he
    show e.canonical.Framed
    exact Framing.framed_of_mem_split _ (h.mem_iff.mpr (List.mem_map_of_mem he))
  have hencode : compact.encode others = .ok (others.flatMap compact.octets) :=
    Framing.encode_eq_ok_iff.mpr ⟨hframed, rfl⟩
  have hreordered := Framing.split_of_encode hencode
  have hnil := congrArg Prod.snd hreordered
  refine ⟨_, hencode, isFraming_parse_iff.mpr hnil, ?_⟩
  rw [valid_parse_of_split_eq_nil catalog hnil, valid_parse_of_split_eq_nil catalog hsplit,
    hreordered, h.isEmpty_eq, catalog.valid_review_eq (h.map Entry.canonical)]

/-- **The order of entries does not matter.** Entries in another order, with their tags compared by
code, are valid or not as before and have the same faults in some order. So a buffer that is not cut
keeps its verdict when its entries are written in another order. What entries lack is the same for
all entries in which the same codes occur. -/
theorem review_perm (catalog : Catalog) (entries others : List Entry) :
    ((entries.map Entry.canonical).Perm (others.map Entry.canonical) →
      (catalog.review entries).1 = (catalog.review others).1 ∧
      ((catalog.review entries).2.map Fault.canonical).Perm
        ((catalog.review others).2.map Fault.canonical)) ∧
    (∀ buffer, (catalog.parse buffer).isFraming = false →
      ((catalog.parse buffer).entries.map Entry.canonical).Perm (others.map Entry.canonical) →
      ∃ reordered, Compact.encode others = .ok reordered ∧
        (catalog.parse reordered).isFraming = false ∧
        (catalog.parse reordered).valid = (catalog.parse buffer).valid) ∧
    (SameCodes entries others →
      ((catalog.absences entries).map Fault.canonical).Perm
        ((catalog.absences others).map Fault.canonical)) := by
  refine ⟨?_, ?_, catalog.perm_absences⟩
  · intro h
    exact ⟨catalog.valid_review_eq h, catalog.perm_faults_review h⟩
  · intro buffer hbuffer h
    exact catalog.valid_parse_of_perm hbuffer h

/-- A file path under its number, a bad flag and a file path under its name. -/
def unorderedEntries : List Entry :=
  [⟨.other 2, 0, []⟩, ⟨.certSyncRootCa, 1, [9]⟩, ⟨.fileDevicePath, 1, [7]⟩]

theorem review_perm_reverse :
    (builtin.review unorderedEntries).1 = (builtin.review unorderedEntries.reverse).1 ∧
      ((builtin.review unorderedEntries).2.map Fault.canonical).Perm
        ((builtin.review unorderedEntries.reverse).2.map Fault.canonical) ∧
      ((builtin.absences unorderedEntries).map Fault.canonical).Perm
        ((builtin.absences [⟨.certSyncRootCa, 1, [0]⟩, ⟨.fileDevicePath, 0, []⟩]).map
          Fault.canonical) := by
  obtain ⟨hreview, -, -⟩ := review_perm builtin unorderedEntries unorderedEntries.reverse
  obtain ⟨hvalid, hfaults⟩ :=
    hreview ((List.reverse_perm unorderedEntries).symm.map Entry.canonical)
  obtain ⟨-, -, habsences⟩ := review_perm builtin unorderedEntries
    [⟨.certSyncRootCa, 1, [0]⟩, ⟨.fileDevicePath, 0, []⟩]
  refine ⟨hvalid, hfaults, habsences ?_⟩
  intro c
  simp only [unorderedEntries, List.mem_cons, List.not_mem_nil, or_false, exists_eq_or_imp,
    exists_eq_left, Tag.code]
  tauto

end Catalog

end BootTlv
