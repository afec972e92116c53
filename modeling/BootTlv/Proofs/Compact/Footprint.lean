import BootTlv.Proofs.Compact.Scan
import BootTlv.Proofs.Framing.Whole
import BootTlv.Proofs.Validation.Review

/-!
# What a verdict takes from the catalog

A catalog has no say in how a buffer is split, so the entries and the cut are the same under all
catalogs. A catalog says which faults the entries have and what they need by the rows of the codes
that occur (`AgreeOn`), and what is wanted of the buffer by the codes that are mandatory. It is asked
nothing else (`parse_footprint`).

Rows put on top of a catalog can therefore be seen in two ways. A row of a code that occurs is used
for the entries with that code, and a row that is not mandatory takes the place of one that is: its
code is no longer asked for.
-/

namespace BootTlv

/-! ## Verdicts that ask for less -/

/-- Whether the fault says that one of the codes is absent although it is mandatory. -/
def Fault.asksFor (codes : List UInt8) : Fault → Bool
  | missingMandatory tag => codes.contains tag.code
  | _ => false

theorem Fault.asksFor_of_kind_ne {fault : Fault} (h : fault.kind ≠ .missingMandatory)
    (codes : List UInt8) : fault.asksFor codes = false := by
  cases fault with
  | missingMandatory tag => exact absurd rfl h
  | _ => rfl

theorem Fault.asksFor_of_isAbsence {fault : Fault} (h : fault.isAbsence = false)
    (codes : List UInt8) : fault.asksFor codes = false := by
  apply asksFor_of_kind_ne
  intro hkind
  rw [isAbsence, hkind] at h
  cases h

theorem Fault.filter_asksFor_eq_self {codes : List UInt8} {faults : List Fault}
    (h : ∀ fault ∈ faults, fault.asksFor codes = false) :
    faults.filter (!·.asksFor codes) = faults := by
  rw [List.filter_eq_self]
  intro fault hfault
  rw [h fault hfault, Bool.not_false]

theorem Fault.filter_isFraming_eq_nil {faults : List Fault}
    (h : ∀ fault ∈ faults, fault.isFraming = false) : faults.filter isFraming = [] := by
  rw [List.filter_eq_nil_iff]
  intro fault hfault
  rw [h fault hfault]
  exact Bool.false_ne_true

/-- The verdict where the codes are not asked for. -/
def Verdict.excuse (codes : List UInt8) (verdict : Verdict) : Verdict :=
  let faults := verdict.faults.filter (!·.asksFor codes)
  ⟨faults.isEmpty, verdict.entries, faults⟩

namespace Catalog

open Framing (compact)

variable {a b : Catalog} {entries : List Entry}

/-! ## Rows of the codes that occur -/

/-- The catalogs have the same row or none for the code of each entry. -/
def AgreeOn (a b : Catalog) (entries : List Entry) : Prop :=
  ∀ e ∈ entries, a.lookup e.tag.code = b.lookup e.tag.code

theorem AgreeOn.filterMap_fault? (h : AgreeOn a b entries) :
    entries.filterMap b.fault? = entries.filterMap a.fault? := by
  apply List.filterMap_congr
  intro e he
  rw [fault?, fault?, h e he]

theorem AgreeOn.unmet (h : AgreeOn a b entries) (all : List Entry) (reported : List UInt8) :
    b.unmet all reported entries = a.unmet all reported entries := by
  induction entries generalizing reported with
  | nil => rfl
  | cons e rest ih =>
      have hdependency : b.dependency? e.tag.code = a.dependency? e.tag.code := by
        rw [dependency?, dependency?, h e List.mem_cons_self]
      have hrest := ih fun e' he' => h e' (List.mem_cons_of_mem _ he')
      rw [Catalog.unmet, Catalog.unmet, hdependency]
      simp only [hrest]

/-! ## Mandatory codes -/

theorem missing_eq_filter {codes : List UInt8}
    (h : ∀ c, b.Mandatory c ↔ a.Mandatory c ∧ c ∉ codes) (entries : List Entry) :
    b.missing entries = (a.missing entries).filter (!·.asksFor codes) := by
  obtain ⟨absent, habsent, hmissing⟩ := a.missing_spec entries
  obtain ⟨absent', habsent', hmissing'⟩ := b.missing_spec entries
  -- Both lists ascend, so it is enough that they have the same codes.
  have hcodes : absent' = absent.filter (!codes.contains ·) := by
    have hfilter := habsent.filter (!codes.contains ·)
    apply habsent'.unique
    refine ⟨hfilter.ascending, fun c => ?_⟩
    rw [hfilter.mem_iff, h c, Bool.not_eq_true', List.contains_eq_mem, decide_eq_false_iff_not,
      and_right_comm]
  rw [hmissing', hcodes, hmissing, List.filter_map]
  congr 1
  apply List.filter_congr
  intro c _
  show _ = !codes.contains (Tag.ofCode c).code
  rw [Tag.code_ofCode]

/-! ## Verdicts -/

theorem entries_scan (catalog : Catalog) (buffer : List UInt8) :
    (catalog.scan 0 buffer).entries = (compact.split buffer).1 := by
  rw [scan_eq]

/-- How a buffer is read, whatever the catalog: it is cut, or it is empty, or its entries are
reviewed. -/
theorem parse_cases (buffer : List UInt8) :
    (∃ fault : Fault, fault.isFraming = true ∧ ∀ catalog : Catalog, catalog.parse buffer =
      ⟨false, [], (compact.split buffer).1.filterMap catalog.fault? ++ [fault]⟩) ∨
    (∀ catalog : Catalog, catalog.parse buffer = ⟨true, [], []⟩) ∨
    ∀ catalog : Catalog, catalog.parse buffer =
      ⟨(catalog.review (compact.split buffer).1).1, (compact.split buffer).1,
        (catalog.review (compact.split buffer).1).2⟩ := by
  by_cases hcut : (compact.split buffer).2 = []
  · by_cases hne : buffer = []
    · rw [hne]
      exact .inr (.inl parse_nil)
    · exact .inr (.inr fun catalog => catalog.parse_of_split_eq_nil hcut hne)
  · obtain ⟨fault, hread⟩ :=
      Framing.readEntry_of_broken (compact.broken_split buffer) (compact.front buffer).length
    refine .inl ⟨fault, Compact.isFraming_of_readEntry hread, fun catalog => ?_⟩
    obtain ⟨fault', hread', hparse⟩ := catalog.parse_of_cut hcut
    cases hread.symm.trans hread'
    exact hparse

theorem entries_parse_eq (a b : Catalog) (buffer : List UInt8) :
    (a.parse buffer).entries = (b.parse buffer).entries := by
  rcases parse_cases buffer with ⟨fault, -, hparse⟩ | hparse | hparse <;> rw [hparse a, hparse b]

/-- A cut is found in the same place and told in the same way. -/
theorem filter_isFraming_parse_eq (a b : Catalog) (buffer : List UInt8) :
    (a.parse buffer).faults.filter Fault.isFraming =
      (b.parse buffer).faults.filter Fault.isFraming := by
  rcases parse_cases buffer with ⟨fault, -, hparse⟩ | hparse | hparse
  · -- Only the last fault is about the cut.
    have hkept (catalog : Catalog) :
        ((compact.split buffer).1.filterMap catalog.fault?).filter Fault.isFraming = [] := by
      apply Fault.filter_isFraming_eq_nil
      intro fault hfault
      exact Fault.isFraming_of_isOfEntry (isOfEntry_of_mem_filterMap_fault? hfault)
    rw [hparse a, hparse b, List.filter_append, List.filter_append, hkept a, hkept b]
  · rw [hparse a, hparse b]
  · have hnone (catalog : Catalog) : (catalog.parse buffer).faults.filter Fault.isFraming = [] := by
      apply Fault.filter_isFraming_eq_nil
      rw [hparse catalog]
      exact fun fault => isFraming_of_mem_review
    rw [hnone a, hnone b]

theorem asksFor_of_mem_filterMap_fault? {catalog : Catalog} {codes : List UInt8} {fault : Fault}
    (h : fault ∈ entries.filterMap catalog.fault?) : fault.asksFor codes = false :=
  Fault.asksFor_of_isAbsence (Fault.isAbsence_of_isOfEntry (isOfEntry_of_mem_filterMap_fault? h))
    codes

/-- Catalogs that agree on the entries give verdicts that differ by what they ask for. -/
theorem parse_of_agreeOn {codes : List UInt8} {buffer : List UInt8}
    (hagree : AgreeOn a b (compact.split buffer).1)
    (hmandatory : ∀ c, b.Mandatory c ↔ a.Mandatory c ∧ c ∉ codes) :
    b.parse buffer = (a.parse buffer).excuse codes := by
  have hentry : ∀ fault ∈ (compact.split buffer).1.filterMap a.fault?,
      fault.asksFor codes = false := fun fault => asksFor_of_mem_filterMap_fault?
  rcases parse_cases buffer with ⟨fault, hframing, hparse⟩ | hparse | hparse
  · have hfault := Fault.asksFor_of_isAbsence (Fault.isAbsence_of_isFraming hframing) codes
    have hall : ((compact.split buffer).1.filterMap a.fault? ++ [fault]).filter
        (!·.asksFor codes) = (compact.split buffer).1.filterMap a.fault? ++ [fault] := by
      apply Fault.filter_asksFor_eq_self
      rw [List.forall_mem_append, List.forall_mem_singleton]
      exact ⟨hentry, hfault⟩
    rw [hparse a, hparse b, hagree.filterMap_fault?, Verdict.excuse]
    simp only [hall, List.isEmpty_eq_false_iff.mpr (List.concat_ne_nil fault _)]
  · rw [hparse a, hparse b]
    rfl
  · have hunmet : ∀ fault ∈ a.unmet (compact.split buffer).1 [] (compact.split buffer).1,
        fault.asksFor codes = false := by
      intro fault hfault
      apply Fault.asksFor_of_kind_ne
      rw [kind_of_mem_unmet hfault]
      exact Fault.Kind.noConfusion
    have hreview : (b.review (compact.split buffer).1).2 =
        (a.review (compact.split buffer).1).2.filter (!·.asksFor codes) := by
      simp only [review, absences, List.filter_append, hagree.filterMap_fault?, hagree.unmet,
        missing_eq_filter hmandatory, Fault.filter_asksFor_eq_self hentry,
        Fault.filter_asksFor_eq_self hunmet]
    rw [hparse a, hparse b, Verdict.excuse, ← hreview]
    rfl

/-- Catalogs that agree on the entries and on what is mandatory give the same verdict. -/
theorem parse_eq_of_agreeOn {buffer : List UInt8}
    (hagree : AgreeOn a b (compact.split buffer).1)
    (hmandatory : ∀ c, a.Mandatory c ↔ b.Mandatory c) : a.parse buffer = b.parse buffer := by
  have hself : a.parse buffer = (a.parse buffer).excuse [] :=
    parse_of_agreeOn (fun _ _ => rfl) fun c => by simp
  have hother : b.parse buffer = (a.parse buffer).excuse [] :=
    parse_of_agreeOn hagree fun c => by simp [hmandatory c]
  exact hself.trans hother.symm

/-! ## Rows put on top -/

theorem lookup_extend_of_notMem (catalog : Catalog) (version : UInt16) {rows : List Row} {c : UInt8}
    (h : c ∉ rows.map Row.code) : (catalog.extend version rows).lookup c = catalog.lookup c := by
  have hnone : rows.reverse.find? (·.code == c) = none := by
    rw [List.find?_eq_none]
    intro row hrow hcode
    exact h (List.mem_map.mpr ⟨row, List.mem_reverse.mp hrow, eq_of_beq hcode⟩)
  rw [lookup_extend, hnone, Option.none_or]

theorem agreeOn_extend (catalog : Catalog) (version : UInt16) {rows : List Row}
    (h : ∀ row ∈ rows, ∀ e ∈ entries, e.tag.code ≠ row.code) :
    AgreeOn catalog (catalog.extend version rows) entries := by
  intro e he
  have hnotMem : e.tag.code ∉ rows.map Row.code := by
    intro hmem
    obtain ⟨row, hrow, hcode⟩ := List.mem_map.mp hmem
    exact h row hrow e he hcode.symm
  exact (lookup_extend_of_notMem catalog version hnotMem).symm

theorem mandatory_extend_iff {catalog : Catalog} {version : UInt16} {rows : List Row}
    (h : ∀ row ∈ rows, row.mandatory = false) (c : UInt8) :
    (catalog.extend version rows).Mandatory c ↔ catalog.Mandatory c ∧ c ∉ rows.map Row.code := by
  by_cases hc : c ∈ rows.map Row.code
  · refine iff_of_false ?_ fun hboth => hboth.2 hc
    -- The row found is one of the new ones, and none of these is mandatory.
    rintro ⟨row, hlookup, hmandatory⟩
    obtain ⟨row', hrow', rfl⟩ := List.mem_map.mp hc
    rw [lookup_extend] at hlookup
    cases hfind : rows.reverse.find? (·.code == row'.code) with
    | none =>
        have hcode := List.find?_eq_none.mp hfind row' (List.mem_reverse.mpr hrow')
        exact hcode (beq_self_eq_true _)
    | some found =>
        rw [hfind, Option.some_or] at hlookup
        cases hlookup
        rw [h row (List.mem_reverse.mp (List.mem_of_find?_eq_some hfind))] at hmandatory
        cases hmandatory
  · rw [Mandatory, Mandatory, lookup_extend_of_notMem catalog version hc, and_iff_left hc]

/-! ## The footprint of a catalog -/

/-- **A verdict takes from the catalog what it should and nothing else.** The entries and the cut are
the same under all catalogs, and the verdicts are the same where the codes of the entries have the
same rows and the same codes are mandatory. So rows that are not mandatory, put on top for codes that
do not occur, change the verdict in one way: a mandatory code with a new row is not asked for. -/
theorem parse_footprint (a b : Catalog) (buffer : List UInt8) :
    (a.scan 0 buffer).entries = (b.scan 0 buffer).entries ∧
    (a.parse buffer).entries = (b.parse buffer).entries ∧
    (a.parse buffer).faults.filter Fault.isFraming =
      (b.parse buffer).faults.filter Fault.isFraming ∧
    (AgreeOn a b (a.scan 0 buffer).entries → (∀ c, a.Mandatory c ↔ b.Mandatory c) →
      a.parse buffer = b.parse buffer) ∧
    ∀ version rows, (∀ row ∈ rows, row.mandatory = false) →
      (∀ row ∈ rows, ∀ e ∈ (a.scan 0 buffer).entries, e.tag.code ≠ row.code) →
      (a.extend version rows).parse buffer = (a.parse buffer).excuse (rows.map Row.code) ∧
      ((∀ row ∈ rows, ¬ a.Mandatory row.code) →
        (a.extend version rows).parse buffer = a.parse buffer) := by
  simp only [entries_scan]
  refine ⟨trivial, entries_parse_eq a b buffer, filter_isFraming_parse_eq a b buffer,
    parse_eq_of_agreeOn, ?_⟩
  intro version rows hoptional habsent
  have hagree := agreeOn_extend a version habsent
  refine ⟨parse_of_agreeOn hagree (mandatory_extend_iff hoptional), fun hnew => ?_⟩
  refine (parse_eq_of_agreeOn hagree fun c => ?_).symm
  rw [mandatory_extend_iff hoptional, iff_self_and]
  intro hmandatory hmem
  obtain ⟨row, hrow, rfl⟩ := List.mem_map.mp hmem
  exact hnew row hrow hmandatory

/-- A row for a code that the built-in catalog does not have. -/
def spareRow : Row := { code := 9, name := "SPARE", maxSize := 4, kind := .text }

/-- The network path as a parameter that need not be there. -/
def optionalPathRow : Row :=
  { code := 1, name := "OCR_EFI_NETWORK_DEVICE_PATH", maxSize := 255, kind := .uri }

/-- A server name gets the same verdict whether or not there is a row for code 9. -/
theorem parse_footprint_spareRow :
    (∀ row ∈ [spareRow], row.mandatory = false) ∧
    (∀ row ∈ [spareRow], ∀ e ∈ (builtin.scan 0 [21, 2, 104, 105]).entries,
      e.tag.code ≠ row.code) ∧
    (∀ row ∈ [spareRow], ¬ builtin.Mandatory row.code) ∧
    (builtin.extend 2 [spareRow]).parse [21, 2, 104, 105] = builtin.parse [21, 2, 104, 105] := by
  have hoptional : ∀ row ∈ [spareRow], row.mandatory = false := by decide
  have habsent : ∀ row ∈ [spareRow], ∀ e ∈ (builtin.scan 0 [21, 2, 104, 105]).entries,
      e.tag.code ≠ row.code := by decide +kernel
  have hnew : ∀ row ∈ [spareRow], ¬ builtin.Mandatory row.code := by
    rintro row hrow ⟨found, hlookup, -⟩
    rw [List.mem_singleton.mp hrow] at hlookup
    cases hlookup
  have hfootprint := parse_footprint builtin builtin [21, 2, 104, 105]
  exact ⟨hoptional, habsent, hnew, (hfootprint.2.2.2.2 2 [spareRow] hoptional habsent).2 hnew⟩

/-- A row that is not mandatory changes a verdict although its code does not occur: in place of the
mandatory row for the network path it makes a server name by itself valid. -/
theorem parse_extend_optionalPathRow :
    optionalPathRow.mandatory = false ∧
    (∀ e ∈ (builtin.scan 0 [21, 2, 104, 105]).entries, e.tag.code ≠ optionalPathRow.code) ∧
    (builtin.parse [21, 2, 104, 105]).hasFault .missingMandatory = true ∧
    (builtin.extend 2 [optionalPathRow]).parse [21, 2, 104, 105] ≠
      builtin.parse [21, 2, 104, 105] := by
  refine ⟨rfl, by decide +kernel, by decide +kernel, fun h => ?_⟩
  have hvalid : ((builtin.extend 2 [optionalPathRow]).parse [21, 2, 104, 105]).valid = true := by
    decide +kernel
  have hinvalid : (builtin.parse [21, 2, 104, 105]).valid = false := by decide +kernel
  rw [h, hinvalid] at hvalid
  cases hvalid

end Catalog

end BootTlv
