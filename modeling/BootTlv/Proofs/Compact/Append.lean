import BootTlv.Proofs.Compact.Scan
import BootTlv.Proofs.Framing.Whole
import BootTlv.Proofs.Validation.Review
import Mathlib.Algebra.Ring.Nat

/-!
# Compact buffers one after the other

A buffer that is not cut can be put before any other: what stands behind is read as it is read by
itself, with every offset moved on by the length of what stands before it. So verdicts are put
together part by part (`parse_append`), with one exception. What the entries lack is asked once, of
all of them, and so an absence in one part may be made good in the other.

Taking octets away from the end is the same thing seen from the other side. A prefix is not cut
exactly when it ends where an entry ends, and no octet of an entry that is cut is ever taken for an
entry.
-/

namespace BootTlv

/-! ## Offsets -/

/-- The fault with its offset moved on by `n` octets. -/
def Fault.shift (n : Nat) : Fault → Fault
  | headerCut offset => headerCut (offset + n)
  | valueCut offset declared available => valueCut (offset + n) declared available
  | fault => fault

theorem Compact.readEntry_add (n offset : Nat) (bytes : List UInt8) :
    readEntry (offset + n) bytes = (readEntry offset bytes).mapError (Fault.shift n) := by
  match bytes with
  | [] | [_] => rfl
  | code :: length :: rest =>
      simp only [readEntry]
      split <;> rfl

/-! ## Sets of entries put together -/

namespace Catalog

open Framing (compact)

variable {catalog : Catalog}

theorem faults_review_eq_nil_iff {entries : List Entry} :
    (catalog.review entries).2 = [] ↔
      entries.filterMap catalog.fault? = [] ∧ catalog.missing entries = [] ∧
        catalog.unmet entries [] entries = [] := by
  rw [review, absences, List.append_eq_nil_iff, List.append_eq_nil_iff]

/-- Mandatory codes and needs that are met stay met when more entries come. -/
theorem valid_review_append {left right : List Entry} (hleft : (catalog.review left).1 = true)
    (hright : (catalog.review right).1 = true) :
    (catalog.review (left ++ right)).1 = true := by
  rw [valid_review_iff, faults_review_eq_nil_iff] at hleft hright ⊢
  obtain ⟨hfaults, hmissing, hunmet⟩ := hleft
  obtain ⟨hfaults', -, hunmet'⟩ := hright
  refine ⟨?_, ?_, ?_⟩
  · rw [List.filterMap_append, hfaults, hfaults', List.append_nil]
  · rw [missing_eq_nil_iff] at hmissing ⊢
    intro c hc
    obtain ⟨e, he, hcode⟩ := hmissing c hc
    exact ⟨e, List.mem_append_left right he, hcode⟩
  · rw [unmet_eq_nil_iff] at hunmet hunmet' ⊢
    intro e he d hd
    rcases List.mem_append.mp he with he | he
    · obtain ⟨e', he', hcode⟩ := hunmet e he d hd
      exact ⟨e', List.mem_append_left right he', hcode⟩
    · obtain ⟨e', he', hcode⟩ := hunmet' e he d hd
      exact ⟨e', List.mem_append_right left he', hcode⟩

/-! ## Buffers put together -/

variable {a b : List UInt8}

theorem whole_of_isFraming (h : (catalog.parse a).isFraming = false) : compact.Whole a :=
  Framing.whole_iff_split_eq_nil.mpr (isFraming_parse_iff.mp h)

theorem isFraming_of_valid (h : (catalog.parse a).valid = true) :
    (catalog.parse a).isFraming = false := by
  rw [isFraming_parse_iff]
  by_contra hcut
  obtain ⟨fault, -, hparse⟩ := catalog.parse_of_cut hcut
  rw [hparse] at h
  cases h

theorem faults_parse (h : (catalog.parse a).isFraming = false) (hne : a ≠ []) :
    (catalog.parse a).faults =
      (catalog.parse a).entries.filterMap catalog.fault? ++
        catalog.absences (catalog.parse a).entries := by
  rw [parse_of_split_eq_nil catalog (isFraming_parse_iff.mp h) hne]
  rfl

theorem isFraming_parse_append (ha : (catalog.parse a).isFraming = false) :
    (catalog.parse (a ++ b)).isFraming = false ↔ (catalog.parse b).isFraming = false := by
  rw [isFraming_parse_iff, isFraming_parse_iff,
    Framing.split_append_of_whole (whole_of_isFraming ha)]

theorem entries_parse_append (ha : (catalog.parse a).isFraming = false)
    (hb : (catalog.parse b).isFraming = false) :
    (catalog.parse (a ++ b)).entries =
      (catalog.parse a).entries ++ (catalog.parse b).entries := by
  have hab := (isFraming_parse_append ha).mpr hb
  rw [isFraming_parse_iff] at hab hb
  rw [entries_parse catalog hab, entries_parse catalog hb,
    entries_parse catalog (isFraming_parse_iff.mp ha),
    Framing.split_append_of_whole (whole_of_isFraming ha)]

/-- A cut is found behind any octets that are not cut, as far behind as they are long. -/
theorem parse_append_of_cut (ha : (catalog.parse a).isFraming = false)
    (hb : (compact.split b).2 ≠ []) :
    ∃ fault, fault.isFraming = true ∧
      catalog.parse b = ⟨false, [], (compact.split b).1.filterMap catalog.fault? ++ [fault]⟩ ∧
      catalog.parse (a ++ b) =
        ⟨false, [], (catalog.parse a).entries.filterMap catalog.fault? ++
          (compact.split b).1.filterMap catalog.fault? ++ [fault.shift a.length]⟩ := by
  have hwhole := whole_of_isFraming ha
  have hsplit := Framing.split_append_of_whole hwhole b
  have hentries := entries_parse catalog (isFraming_parse_iff.mp ha)
  obtain ⟨fault, hread, hparse⟩ := catalog.parse_of_cut hb
  have hcut : (compact.split (a ++ b)).2 ≠ [] := by rwa [hsplit]
  obtain ⟨fault', hread', hparse'⟩ := catalog.parse_of_cut hcut
  -- Both readings stop at the same octets, and only the offsets they stop at differ.
  have hfault : fault' = fault.shift a.length := by
    rw [hsplit, Framing.front_append_of_whole hwhole, List.length_append, Nat.add_comm,
      Compact.readEntry_add, hread] at hread'
    cases hread'
    rfl
  refine ⟨fault, Compact.isFraming_of_readEntry hread, hparse, ?_⟩
  rw [hparse', hfault, hsplit, List.filterMap_append, hentries]

theorem valid_parse_append (ha : (catalog.parse a).valid = true)
    (hb : (catalog.parse b).valid = true) : (catalog.parse (a ++ b)).valid = true := by
  by_cases hnil : a = []
  · rwa [hnil, List.nil_append]
  by_cases hnil' : b = []
  · rwa [hnil', List.append_nil]
  have hwhole := isFraming_of_valid ha
  have hwhole' := isFraming_of_valid hb
  have hab := (isFraming_parse_append hwhole).mpr hwhole'
  rw [isFraming_parse_iff] at hwhole hwhole' hab
  rw [parse_of_split_eq_nil catalog hwhole hnil] at ha
  rw [parse_of_split_eq_nil catalog hwhole' hnil'] at hb
  rw [parse_of_split_eq_nil catalog hab (List.append_ne_nil_of_left_ne_nil hnil b),
    Framing.split_append_of_whole (Framing.whole_iff_split_eq_nil.mpr hwhole)]
  exact valid_review_append ha hb

/-! ## Prefixes -/

/-- The offset at which the first `k` entries of a buffer end. -/
def boundary (entries : List Entry) (k : Nat) : Nat :=
  ((entries.take k).map Entry.encodedLength).sum

theorem boundary_eq (entries : List Entry) (k : Nat) :
    boundary entries k = ((entries.take k).flatMap compact.octets).length := by
  rw [boundary, List.length_flatMap]
  congr 1
  exact List.map_congr_left fun e _ => (compact.length_octets e).symm

/-- **Reading is compositional.** Let `a` be a buffer that is not cut. Behind it another such buffer
adds its entries and their faults, and the absences are those of all the entries; a buffer that is
cut is cut in the same way, with its offset moved on by the length of `a`. Two valid buffers make a
valid one. A prefix of `a` is not cut exactly when it ends where an entry of `a` ends, and then it
holds the entries of `a` up to there. -/
theorem parse_append (catalog : Catalog) {a : List UInt8}
    (ha : (catalog.parse a).isFraming = false) :
    (∀ b, (catalog.parse b).isFraming = false →
      (catalog.parse (a ++ b)).isFraming = false ∧
      (catalog.parse (a ++ b)).entries = (catalog.parse a).entries ++ (catalog.parse b).entries ∧
      (a ++ b ≠ [] → (catalog.parse (a ++ b)).faults =
        (catalog.parse a).entries.filterMap catalog.fault? ++
          (catalog.parse b).entries.filterMap catalog.fault? ++
          catalog.absences ((catalog.parse a).entries ++ (catalog.parse b).entries))) ∧
    (∀ b, (catalog.parse b).isFraming = true →
      ∃ kept fault, fault.isFraming = true ∧ (∀ f ∈ kept, f.isOfEntry = true) ∧
        catalog.parse b = ⟨false, [], kept ++ [fault]⟩ ∧
        catalog.parse (a ++ b) =
          ⟨false, [], (catalog.parse a).entries.filterMap catalog.fault? ++ kept ++
            [fault.shift a.length]⟩) ∧
    (∀ b, (catalog.parse a).valid = true → (catalog.parse b).valid = true →
      (catalog.parse (a ++ b)).valid = true) ∧
    ∀ p, p <+: a →
      ((catalog.parse p).isFraming = false ↔
        ∃ k, p.length = boundary (catalog.parse a).entries k) ∧
      ∀ k, p.length = boundary (catalog.parse a).entries k →
        (catalog.parse p).entries = (catalog.parse a).entries.take k := by
  have hwhole := whole_of_isFraming ha
  have hentries := entries_parse catalog (isFraming_parse_iff.mp ha)
  refine ⟨?_, ?_, ?_, ?_⟩
  · intro b hb
    have hab := (isFraming_parse_append ha).mpr hb
    have happend := entries_parse_append ha hb
    refine ⟨hab, happend, fun hne => ?_⟩
    rw [faults_parse hab hne, happend, List.filterMap_append]
  · intro b hb
    have hcut : (compact.split b).2 ≠ [] := by
      intro hnil
      rw [isFraming_parse_iff.mpr hnil] at hb
      cases hb
    obtain ⟨fault, hfault, hparse⟩ := parse_append_of_cut ha hcut
    exact ⟨_, fault, hfault, fun f hf => isOfEntry_of_mem_filterMap_fault? hf, hparse⟩
  · intro b
    exact valid_parse_append
  · intro p hp
    simp only [boundary_eq, hentries]
    constructor
    · rw [isFraming_parse_iff, ← Framing.whole_iff_split_eq_nil]
      exact Framing.whole_iff_of_isPrefix hwhole hp
    · intro k hk
      have hsplit := Framing.split_of_isPrefix hwhole hp hk
      rw [entries_parse catalog (congrArg Prod.snd hsplit), hsplit]

/-- A bad flag and a word, and behind them a network path that is cut. Taking the last octet of the
word away cuts the word, and taking all of it away leaves the flag. -/
theorem parse_append_word_cut_path :
    (builtin.parse [20, 1, 9, 4, 2, 5, 0]).isFraming = false ∧
      (builtin.parse [1, 5, 104]).isFraming = true ∧
      (∃ kept fault, fault.isFraming = true ∧ (∀ f ∈ kept, f.isOfEntry = true) ∧
        builtin.parse [1, 5, 104] = ⟨false, [], kept ++ [fault]⟩ ∧
        builtin.parse ([20, 1, 9, 4, 2, 5, 0] ++ [1, 5, 104]) =
          ⟨false, [], (builtin.parse [20, 1, 9, 4, 2, 5, 0]).entries.filterMap builtin.fault? ++
            kept ++ [fault.shift 7]⟩) ∧
      (builtin.parse [20, 1, 9, 4, 2, 5]).isFraming ≠ false ∧
      (builtin.parse [20, 1, 9]).entries =
        (builtin.parse [20, 1, 9, 4, 2, 5, 0]).entries.take 1 := by
  have ha : (builtin.parse [20, 1, 9, 4, 2, 5, 0]).isFraming = false := by decide +kernel
  have hb : (builtin.parse [1, 5, 104]).isFraming = true := by decide +kernel
  obtain ⟨-, hcut, -, hinit⟩ := parse_append builtin ha
  have hflag : ([20, 1, 9] : List UInt8) <+: [20, 1, 9, 4, 2, 5, 0] := ⟨[4, 2, 5, 0], rfl⟩
  have hword : ([20, 1, 9, 4, 2, 5] : List UInt8) <+: [20, 1, 9, 4, 2, 5, 0] := ⟨[0], rfl⟩
  have hlengths : (builtin.parse [20, 1, 9, 4, 2, 5, 0]).entries.map Entry.encodedLength =
      [3, 4] := by decide +kernel
  refine ⟨ha, hb, hcut _ hb, ?_, (hinit _ hflag).2 1 ?_⟩
  · rw [ne_eq, (hinit _ hword).1]
    rintro ⟨k, hk⟩
    rw [boundary, List.map_take, hlengths] at hk
    match k with
    | 0 | 1 | _ + 2 => simp at hk
  · rw [boundary, List.map_take, hlengths]
    rfl

end Catalog

end BootTlv
