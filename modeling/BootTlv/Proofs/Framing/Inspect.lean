import BootTlv.Inspector
import BootTlv.Proofs.Compact.Scan
import BootTlv.Proofs.Catalog.Rows
import BootTlv.Proofs.Framing.Whole
import BootTlv.Proofs.Vendor.RoundTrip

/-!
# Inspecting what was written

Entries that are written in either framing are inspected as the same verdict, the review of the
entries in their named spelling (`inspect_of_encode`), although one framing is checked while it is
read and the other after it was read. So the framings can stand for each other
(`interchangeable`). The empty buffer is the one exception: in compact framing nothing is wanted of
it.
-/

namespace BootTlv

open Framing (compact vendor)

/-- The verdict that a review of the entries comes to. -/
def Catalog.reviewed (catalog : Catalog) (entries : List Entry) : Verdict :=
  ⟨(catalog.review entries).1, entries, (catalog.review entries).2⟩

/-- A set without entries lacks the mandatory network path. -/
theorem Catalog.reviewed_nil :
    builtin.reviewed [] = ⟨false, [], [.missingMandatory .networkDevicePath]⟩ := by
  have hmissing : builtin.missing [] = [.missingMandatory .networkDevicePath] := by
    have hrows : (builtin.mandatoryRows.filter fun row => !present [] row.code) =
        builtin.mandatoryRows := List.filter_eq_self.mpr fun _ _ => rfl
    calc builtin.missing []
        = (builtin.mandatoryRows.map Row.code).map (fun c => .missingMandatory (Tag.ofCode c)) := by
          rw [missing, hrows, List.map_map]
          rfl
      _ = [.missingMandatory .networkDevicePath] := by
          rw [map_code_mandatoryRows_builtin]
          rfl
  rw [reviewed, review, absences, hmissing]
  rfl

namespace Framing

variable {framing : Framing}

theorem inspect_vendor_of_encode {entries : List Entry} {buffer : List UInt8}
    (h : vendor.encode entries = .ok buffer) :
    vendor.inspect buffer = Catalog.builtin.reviewed (entries.map Entry.canonical) := by
  have hdecode := Vendor.decode_eq_ok_iff.mpr (split_of_encode h)
  rw [inspect, hdecode]
  rfl

theorem inspect_compact_of_encode {entries : List Entry} {buffer : List UInt8}
    (h : compact.encode entries = .ok buffer) (hne : entries ≠ []) :
    compact.inspect buffer = Catalog.builtin.reviewed (entries.map Entry.canonical) := by
  have hsplit := split_of_encode h
  have hbuffer : buffer ≠ [] := by
    rintro rfl
    rw [split_nil] at hsplit
    exact hne (List.map_eq_nil_iff.mp (congrArg Prod.fst hsplit).symm)
  rw [inspect, Catalog.parse_of_split_eq_nil _ (congrArg Prod.snd hsplit) hbuffer, hsplit]
  rfl

/-- What was written is inspected as the review of the entries, in either framing. -/
theorem inspect_of_encode {entries : List Entry} {buffer : List UInt8}
    (h : framing.encode entries = .ok buffer) (hne : entries ≠ []) :
    framing.inspect buffer = Catalog.builtin.reviewed (entries.map Entry.canonical) := by
  cases framing with
  | compact => exact inspect_compact_of_encode h hne
  | vendor => exact inspect_vendor_of_encode h

/-- **The framings are interchangeable.** Entries are written in both or refused by both with the
same fault, a header of vendor framing is six octets longer, and what is written gets the same
verdict and the same report. Only the empty buffer is valid in one framing and not in the other. -/
theorem interchangeable (entries : List Entry) :
    (∃ fault, Compact.encode entries = .error fault ∧ Vendor.encode entries = .error fault) ∨
    ∃ short long, Compact.encode entries = .ok short ∧ Vendor.encode entries = .ok long ∧
      long.length = short.length + 6 * entries.length ∧
      ∀ s t : Settings, s.framing = compact → t.framing = vendor →
        (entries ≠ [] →
          (Inspector.inspect s short).verdict = (Inspector.inspect t long).verdict ∧
          (s.output = t.output →
            (Inspector.inspect s short).report = (Inspector.inspect t long).report)) ∧
        (entries = [] → short = [] ∧ long = [] ∧
          (Inspector.inspect s short).verdict = ⟨true, [], []⟩ ∧
          (Inspector.inspect t long).verdict =
            ⟨false, [], [.missingMandatory .networkDevicePath]⟩) := by
  -- One check of the entries decides both encoders, whenever they make it.
  have hcompact := compact.encode_eq entries
  have hvendor := vendor.encode_eq entries
  cases hfault : entries.findSome? Entry.framingFault? with
  | some fault =>
      rw [hfault] at hcompact hvendor
      exact .inl ⟨fault, hcompact, hvendor⟩
  | none =>
      rw [hfault] at hcompact hvendor
      refine .inr ⟨_, _, hcompact, hvendor, ?_, ?_⟩
      · rw [length_flatMap_octets, length_flatMap_octets]
        simp only [headerSize, Compact.headerSize, Vendor.headerSize]
        omega
      · intro s t hs ht
        constructor
        · intro hne
          have hverdict : s.framing.inspect (entries.flatMap compact.octets) =
              t.framing.inspect (entries.flatMap vendor.octets) := by
            rw [hs, ht, inspect_of_encode hcompact hne, inspect_of_encode hvendor hne]
          refine ⟨hverdict, fun houtput => ?_⟩
          simp only [Inspector.inspect, hverdict, houtput]
        · rintro rfl
          refine ⟨rfl, rfl, ?_, ?_⟩
          · simp only [Inspector.inspect, hs]
            exact Catalog.parse_nil _
          · simp only [Inspector.inspect, ht]
            exact (inspect_vendor_of_encode hvendor).trans Catalog.reviewed_nil

end Framing

end BootTlv
