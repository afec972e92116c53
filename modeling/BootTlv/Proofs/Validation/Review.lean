import BootTlv.Proofs.Catalog.Rows
import BootTlv.Validation
import Mathlib.Data.List.Forall2

/-!
# What a review finds

A review names every fault of a set of entries and no other (`review_exact`): the fault of each
entry, then the mandatory codes that no entry has, ascending, then the codes that occur and need
another one that no entry has, in the order in which they occur first.

The last part is found by a loop that remembers what it has reported. Its invariant is that after
some of the entries it has reported exactly the codes among them whose need is not met
(`Reported`).
-/

namespace BootTlv.Catalog

/-! ## Codes in an order -/

/-- The codes for which `p` holds, each once, with ascending ranks. -/
structure Ranked (rank : UInt8 → Nat) (p : UInt8 → Prop) (codes : List UInt8) : Prop where
  ascending : codes.Pairwise (rank · < rank ·)
  mem_iff : ∀ c, c ∈ codes ↔ p c

theorem Ranked.eq_nil_iff {rank : UInt8 → Nat} {p : UInt8 → Prop} {codes : List UInt8}
    (h : Ranked rank p codes) : codes = [] ↔ ∀ c, ¬ p c := by
  simp only [List.eq_nil_iff_forall_not_mem, h.mem_iff]

/-- There is only one such list. -/
theorem Ranked.unique {rank : UInt8 → Nat} {p : UInt8 → Prop} {codes others : List UInt8}
    (h : Ranked rank p codes) (h' : Ranked rank p others) : codes = others := by
  have hnodup : ∀ {list : List UInt8}, Ranked rank p list → list.Nodup := fun hlist =>
    hlist.ascending.imp fun hlt heq => absurd (congrArg rank heq) (Nat.ne_of_lt hlt)
  have hperm : codes.Perm others := by
    rw [List.perm_ext_iff_of_nodup (hnodup h) (hnodup h')]
    intro c
    rw [h.mem_iff, h'.mem_iff]
  refine hperm.eq_of_pairwise ?_ h.ascending h'.ascending
  intro a b _ _ hab hba
  exact absurd hab (Nat.lt_asymm hba)

theorem Ranked.filter {rank : UInt8 → Nat} {p : UInt8 → Prop} {codes : List UInt8}
    (h : Ranked rank p codes) (q : UInt8 → Bool) :
    Ranked rank (fun c => p c ∧ q c = true) (codes.filter q) := by
  refine ⟨h.ascending.filter q, fun c => ?_⟩
  rw [List.mem_filter, h.mem_iff]

/-- Where no code but `a` can be listed, the list is `a` or nothing. -/
theorem Ranked.eq_ite {rank : UInt8 → Nat} {p : UInt8 → Prop} {codes : List UInt8}
    (h : Ranked rank p codes) {a : UInt8} {q : Prop} [Decidable q] (hp : ∀ c, p c ↔ q ∧ c = a) :
    codes = if q then [a] else [] := by
  have hmem : ∀ c, c ∈ codes ↔ q ∧ c = a := fun c => (h.mem_iff c).trans (hp c)
  split
  next hq =>
    match codes with
    | [] => exact absurd ((hmem a).mpr ⟨hq, rfl⟩) List.not_mem_nil
    | [c] => rw [((hmem c).mp List.mem_cons_self).2]
    | c :: d :: rest =>
        obtain ⟨-, rfl⟩ := (hmem c).mp List.mem_cons_self
        obtain ⟨-, rfl⟩ := (hmem d).mp (List.mem_cons_of_mem _ List.mem_cons_self)
        have hlt := (List.pairwise_cons.mp h.ascending).1 d List.mem_cons_self
        exact absurd hlt (Nat.lt_irrefl _)
  next hq =>
    rw [List.eq_nil_iff_forall_not_mem]
    exact fun c hc => hq ((hmem c).mp hc).1

/-! ## Mandatory codes -/

/-- The row of the code is marked mandatory. -/
def Mandatory (catalog : Catalog) (c : UInt8) : Prop :=
  ∃ row, catalog.lookup c = some row ∧ row.mandatory = true

theorem mem_map_code_mandatoryRows_iff {catalog : Catalog} {c : UInt8} :
    c ∈ catalog.mandatoryRows.map Row.code ↔ catalog.Mandatory c := by
  simp only [List.mem_map, mandatoryRows, List.mem_filter, mem_rows_iff]
  constructor
  · rintro ⟨row, ⟨hlookup, hmandatory⟩, rfl⟩
    exact ⟨row, hlookup, hmandatory⟩
  · rintro ⟨row, hlookup, hmandatory⟩
    obtain rfl := catalog.code_of_lookup hlookup
    exact ⟨row, ⟨hlookup, hmandatory⟩, rfl⟩

theorem missing_spec (catalog : Catalog) (entries : List Entry) :
    ∃ absent, Ranked UInt8.toNat
        (fun c => catalog.Mandatory c ∧ ∀ e ∈ entries, e.tag.code ≠ c) absent ∧
      catalog.missing entries = absent.map fun c => .missingMandatory (Tag.ofCode c) := by
  refine ⟨(catalog.mandatoryRows.filter fun row => !present entries row.code).map Row.code,
    ⟨?_, ?_⟩, ?_⟩
  · rw [List.pairwise_map]
    exact (catalog.pairwise_rows.filter _).filter _
  · intro c
    simp only [List.mem_map, List.mem_filter, mandatoryRows, mem_rows_iff, Bool.not_eq_true',
      present, List.any_eq_false, beq_iff_eq]
    constructor
    · rintro ⟨row, ⟨⟨hlookup, hmandatory⟩, habsent⟩, rfl⟩
      exact ⟨⟨row, hlookup, hmandatory⟩, habsent⟩
    · rintro ⟨⟨row, hlookup, hmandatory⟩, habsent⟩
      obtain rfl := catalog.code_of_lookup hlookup
      exact ⟨row, ⟨⟨hlookup, hmandatory⟩, habsent⟩, rfl⟩
  · rw [missing, List.map_map]
    rfl

theorem missing_eq_nil_iff {catalog : Catalog} {entries : List Entry} :
    catalog.missing entries = [] ↔ ∀ c, catalog.Mandatory c → ∃ e ∈ entries, e.tag.code = c := by
  obtain ⟨absent, habsent, hmissing⟩ := catalog.missing_spec entries
  rw [hmissing, List.map_eq_nil_iff, habsent.eq_nil_iff]
  simp

/-! ## Needs -/

/-- The code needs another one, which no entry has. -/
def Unmet (catalog : Catalog) (entries : List Entry) (c d : UInt8) : Prop :=
  catalog.dependency? c = some d ∧ ∀ e ∈ entries, e.tag.code ≠ d

theorem not_unmet_iff {catalog : Catalog} {entries : List Entry} {c : UInt8} :
    (¬ ∃ d, catalog.Unmet entries c d) ↔
      ∀ d, catalog.dependency? c = some d → ∃ e ∈ entries, e.tag.code = d := by
  simp only [Unmet, not_exists, not_and, not_forall, Classical.not_not, exists_prop]

/-- The fault of a code whose need is not met. It names the tag as the first entry with the code
spells it. -/
def UnmetFault (catalog : Catalog) (entries : List Entry) (c : UInt8) (fault : Fault) : Prop :=
  ∃ e d, entries.find? (·.tag.code == c) = some e ∧ catalog.Unmet entries c d ∧
    fault = .missingDependency e.tag (Tag.ofCode d)

theorem unmet_cons_of_unmet {catalog : Catalog} {entries : List Entry} {reported : List UInt8}
    {e : Entry} {d : UInt8} (h : catalog.Unmet entries e.tag.code d)
    (hnew : e.tag.code ∉ reported) (rest : List Entry) :
    catalog.unmet entries reported (e :: rest) =
      .missingDependency e.tag (Tag.ofCode d) ::
        catalog.unmet entries (e.tag.code :: reported) rest := by
  have habsent : present entries d = false := by
    simpa [present] using h.2
  rw [unmet]
  simp only [h.1, habsent, List.contains_eq_mem, hnew, decide_false, Bool.or_self,
    Bool.false_eq_true, if_false]

theorem unmet_cons_of_not_unmet {catalog : Catalog} {entries : List Entry} {reported : List UInt8}
    {e : Entry} (h : (∃ d, catalog.Unmet entries e.tag.code d) → e.tag.code ∈ reported)
    (rest : List Entry) :
    catalog.unmet entries reported (e :: rest) = catalog.unmet entries reported rest := by
  rw [unmet]
  cases hneeds : catalog.dependency? e.tag.code with
  | none => rfl
  | some d =>
      dsimp only
      rw [if_pos]
      by_cases hpresent : present entries d = true
      · rw [hpresent, Bool.true_or]
      · have habsent : ∀ e ∈ entries, e.tag.code ≠ d := by
          simpa [present] using hpresent
        rw [List.contains_iff_mem.mpr (h ⟨d, hneeds, habsent⟩), Bool.or_true]

/-! ## First occurrences -/

/-- The code occurs in the rest and not before. -/
def BeginsIn (before rest : List Entry) (c : UInt8) : Prop :=
  (∃ e ∈ rest, e.tag.code = c) ∧ ∀ e ∈ before, e.tag.code ≠ c

theorem beginsIn_cons_iff {before rest : List Entry} {e : Entry} {c : UInt8} :
    BeginsIn before (e :: rest) c ↔
      (c = e.tag.code ∧ ∀ e' ∈ before, e'.tag.code ≠ c) ∨ BeginsIn (before ++ [e]) rest c := by
  constructor
  · rintro ⟨⟨e', he', hcode⟩, hbefore⟩
    by_cases h : c = e.tag.code
    · exact .inl ⟨h, hbefore⟩
    · rcases List.mem_cons.mp he' with rfl | he'
      · exact absurd hcode.symm h
      · exact .inr ⟨⟨e', he', hcode⟩, List.forall_mem_append.mpr
          ⟨hbefore, List.forall_mem_singleton.mpr (Ne.symm h)⟩⟩
  · rintro (⟨rfl, hbefore⟩ | ⟨⟨e', he', hcode⟩, hbefore⟩)
    · exact ⟨⟨e, List.mem_cons_self, rfl⟩, hbefore⟩
    · exact ⟨⟨e', List.mem_cons_of_mem _ he', hcode⟩, (List.forall_mem_append.mp hbefore).1⟩

/-- The place where a code occurs first. -/
def firstPlace (entries : List Entry) (c : UInt8) : Nat := entries.findIdx (·.tag.code == c)

theorem firstPlace_append {before : List Entry} {c : UInt8} (h : ∀ e ∈ before, e.tag.code ≠ c)
    (rest : List Entry) :
    firstPlace (before ++ rest) c = before.length + firstPlace rest c := by
  have hlength : before.findIdx (·.tag.code == c) = before.length := by
    rw [List.findIdx_eq_length]
    simpa using h
  rw [firstPlace, List.findIdx_append, if_neg (by omega), Nat.add_comm]
  rfl

theorem firstPlace_lt_of_beginsIn {before rest : List Entry} {e : Entry} {c : UInt8}
    (hfirst : ∀ e' ∈ before, e'.tag.code ≠ e.tag.code) (h : BeginsIn (before ++ [e]) rest c) :
    firstPlace (before ++ e :: rest) e.tag.code < firstPlace (before ++ e :: rest) c := by
  have hlater := firstPlace_append h.2 rest
  rw [List.append_assoc, List.singleton_append, List.length_append, List.length_singleton] at hlater
  have hhere : firstPlace (e :: rest) e.tag.code = 0 := by
    simp [firstPlace, List.findIdx_cons]
  rw [firstPlace_append hfirst, hhere, hlater]
  omega

theorem find?_append_cons {before : List Entry} {e : Entry}
    (h : ∀ e' ∈ before, e'.tag.code ≠ e.tag.code) (rest : List Entry) :
    (before ++ e :: rest).find? (·.tag.code == e.tag.code) = some e := by
  have hnone : before.find? (·.tag.code == e.tag.code) = none := by
    rw [List.find?_eq_none]
    simpa using h
  rw [List.find?_append, hnone, Option.none_or, List.find?_cons, beq_self_eq_true]

/-! ## The loop over the needs -/

/-- After some of the entries exactly the codes among them whose need is not met are reported. -/
def Reported (catalog : Catalog) (entries before : List Entry) (reported : List UInt8) : Prop :=
  ∀ c, c ∈ reported ↔ (∃ e ∈ before, e.tag.code = c) ∧ ∃ d, catalog.Unmet entries c d

theorem reported_nil (catalog : Catalog) (entries : List Entry) :
    catalog.Reported entries [] [] := by
  simp [Reported]

theorem Reported.cons {catalog : Catalog} {entries before : List Entry} {reported : List UInt8}
    (h : catalog.Reported entries before reported) {e : Entry}
    (hunmet : ∃ d, catalog.Unmet entries e.tag.code d) :
    catalog.Reported entries (before ++ [e]) (e.tag.code :: reported) := by
  intro c
  rw [List.mem_cons, h c]
  by_cases hc : c = e.tag.code
  · rw [hc]
    simpa using hunmet
  · simp [hc, Ne.symm hc, or_and_right, exists_or]

theorem Reported.skip {catalog : Catalog} {entries before : List Entry} {reported : List UInt8}
    (h : catalog.Reported entries before reported) {e : Entry}
    (hold : (∃ d, catalog.Unmet entries e.tag.code d) → e.tag.code ∈ reported) :
    catalog.Reported entries (before ++ [e]) reported := by
  intro c
  constructor
  · intro hc
    obtain ⟨⟨e', he', hcode⟩, hunmet⟩ := (h c).mp hc
    exact ⟨⟨e', List.mem_append_left _ he', hcode⟩, hunmet⟩
  · rintro ⟨⟨e', he', rfl⟩, hunmet⟩
    rcases List.mem_append.mp he' with he' | he'
    · exact (h _).mpr ⟨⟨e', he', rfl⟩, hunmet⟩
    · obtain rfl := List.mem_singleton.mp he'
      exact hold hunmet

/-- The loop finds the codes that begin in the entries it has still to see. -/
theorem unmet_spec (catalog : Catalog) (before rest : List Entry) {reported : List UInt8}
    (h : catalog.Reported (before ++ rest) before reported) :
    ∃ needing, Ranked (firstPlace (before ++ rest))
        (fun c => BeginsIn before rest c ∧ ∃ d, catalog.Unmet (before ++ rest) c d) needing ∧
      List.Forall₂ (catalog.UnmetFault (before ++ rest)) needing
        (catalog.unmet (before ++ rest) reported rest) := by
  induction rest generalizing before reported with
  | nil => exact ⟨[], ⟨List.Pairwise.nil, by simp [BeginsIn]⟩, .nil⟩
  | cons e rest ih =>
      have hassoc : before ++ [e] ++ rest = before ++ e :: rest := List.append_cons _ _ _ |>.symm
      by_cases hold : (∃ d, catalog.Unmet (before ++ e :: rest) e.tag.code d) →
          e.tag.code ∈ reported
      · -- Nothing is reported, and no code whose need is not met begins here.
        have hnext := ih (before ++ [e]) (hassoc ▸ h.skip hold)
        rw [hassoc] at hnext
        obtain ⟨needing, hranked, hfaults⟩ := hnext
        refine ⟨needing, ⟨hranked.ascending, fun c => ?_⟩, ?_⟩
        · rw [hranked.mem_iff, beginsIn_cons_iff]
          constructor
          · rintro ⟨hbegins, hunmet⟩
            exact ⟨.inr hbegins, hunmet⟩
          · rintro ⟨⟨rfl, hfirst⟩ | hbegins, hunmet⟩
            · obtain ⟨⟨e', he', hcode⟩, -⟩ := (h _).mp (hold hunmet)
              exact absurd hcode (hfirst e' he')
            · exact ⟨hbegins, hunmet⟩
        · rwa [unmet_cons_of_not_unmet hold]
      · obtain ⟨hunmet, hnew⟩ := Classical.not_imp.mp hold
        have hfirst : ∀ e' ∈ before, e'.tag.code ≠ e.tag.code :=
          fun e' he' hcode => hnew ((h _).mpr ⟨⟨e', he', hcode⟩, hunmet⟩)
        have hnext := ih (before ++ [e]) (hassoc ▸ h.cons hunmet)
        rw [hassoc] at hnext
        obtain ⟨needing, hranked, hfaults⟩ := hnext
        obtain ⟨d, hd⟩ := hunmet
        refine ⟨e.tag.code :: needing, ⟨List.pairwise_cons.mpr ⟨?_, hranked.ascending⟩, ?_⟩, ?_⟩
        · intro c hc
          exact firstPlace_lt_of_beginsIn hfirst ((hranked.mem_iff c).mp hc).1
        · intro c
          rw [List.mem_cons, hranked.mem_iff, beginsIn_cons_iff]
          constructor
          · rintro (rfl | ⟨hbegins, hunmet⟩)
            · exact ⟨.inl ⟨rfl, hfirst⟩, d, hd⟩
            · exact ⟨.inr hbegins, hunmet⟩
          · rintro ⟨⟨rfl, -⟩ | hbegins, hunmet⟩
            · exact .inl rfl
            · exact .inr ⟨hbegins, hunmet⟩
        · rw [unmet_cons_of_unmet hd hnew]
          exact .cons ⟨e, d, find?_append_cons hfirst rest, hd, rfl⟩ hfaults

theorem unmet_nil_spec (catalog : Catalog) (entries : List Entry) :
    ∃ needing, Ranked (firstPlace entries)
        (fun c => (∃ e ∈ entries, e.tag.code = c) ∧ ∃ d, catalog.Unmet entries c d) needing ∧
      List.Forall₂ (catalog.UnmetFault entries) needing (catalog.unmet entries [] entries) := by
  have h := catalog.unmet_spec [] entries (catalog.reported_nil entries)
  rw [List.nil_append] at h
  simpa [BeginsIn] using h

theorem unmet_eq_nil_iff {catalog : Catalog} {entries : List Entry} :
    catalog.unmet entries [] entries = [] ↔
      ∀ e ∈ entries, ∀ d, catalog.dependency? e.tag.code = some d →
        ∃ e' ∈ entries, e'.tag.code = d := by
  obtain ⟨needing, hranked, hfaults⟩ := catalog.unmet_nil_spec entries
  have hnil : catalog.unmet entries [] entries = [] ↔ needing = [] := by
    rw [← List.length_eq_zero_iff, ← hfaults.length_eq, List.length_eq_zero_iff]
  rw [hnil, hranked.eq_nil_iff]
  simp only [not_and, not_unmet_iff]
  constructor
  · intro h e he
    exact h _ ⟨e, he, rfl⟩
  · rintro h c ⟨e, he, rfl⟩
    exact h e he

/-! ## The review -/

theorem valid_review_iff {catalog : Catalog} {entries : List Entry} :
    (catalog.review entries).1 = true ↔ (catalog.review entries).2 = [] :=
  List.isEmpty_iff

/-- **A review reports exactly what is wrong.** The faults of the entries come first, one for each
entry that has any, then each mandatory code that is absent, ascending, then each code whose need is
not met, by its first occurrence. So a set of entries is valid exactly when every entry is, every
mandatory code occurs, and the codes that occur need no code that does not. -/
theorem review_exact (catalog : Catalog) (entries : List Entry) :
    (∃ (absent needing : List UInt8) (unmet : List Fault),
      Ranked UInt8.toNat (fun c => catalog.Mandatory c ∧ ∀ e ∈ entries, e.tag.code ≠ c) absent ∧
      Ranked (firstPlace entries)
        (fun c => (∃ e ∈ entries, e.tag.code = c) ∧ ∃ d, catalog.Unmet entries c d) needing ∧
      List.Forall₂ (catalog.UnmetFault entries) needing unmet ∧
      (catalog.review entries).2 =
        entries.filterMap catalog.fault? ++
          (absent.map fun c => .missingMandatory (Tag.ofCode c)) ++ unmet) ∧
    ((catalog.review entries).1 = true ↔ (catalog.review entries).2 = []) ∧
    ((catalog.review entries).1 = true ↔
      (∀ e ∈ entries, catalog.fault? e = none) ∧
      (∀ c, catalog.Mandatory c → ∃ e ∈ entries, e.tag.code = c) ∧
      ∀ e ∈ entries, ∀ d, catalog.dependency? e.tag.code = some d →
        ∃ e' ∈ entries, e'.tag.code = d) := by
  refine ⟨?_, valid_review_iff, ?_⟩
  · obtain ⟨absent, habsent, hmissing⟩ := catalog.missing_spec entries
    obtain ⟨needing, hneeding, hunmet⟩ := catalog.unmet_nil_spec entries
    refine ⟨absent, needing, _, habsent, hneeding, hunmet, ?_⟩
    rw [review, absences, hmissing, List.append_assoc]
  · rw [valid_review_iff, review, absences, List.append_eq_nil_iff, List.append_eq_nil_iff,
      List.filterMap_eq_nil_iff, missing_eq_nil_iff, unmet_eq_nil_iff]

end BootTlv.Catalog
