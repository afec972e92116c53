import BootTlv.Inspector
import BootTlv.Proofs.Compact.Append
import BootTlv.Proofs.Report.Lines
import BootTlv.Proofs.Validation.Readers

/-!
# Values as their kinds read them

A report shows the value of an entry as the reader of its kind reads it, and in hexadecimal where the
reader gives nothing. An entry without a fault has a value that its reader reads, so a report on a
valid buffer shows no flag, no word and no verify method in hexadecimal (`readings_exact`).

No reading looks like hexadecimal text by accident: that begins with `0x`, and a flag, a numeral or
the name of a method does not.
-/

namespace BootTlv

/-! ## Valid buffers -/

theorem Catalog.fault?_of_valid_review {catalog : Catalog} {entries : List Entry}
    (h : (catalog.review entries).1 = true) : ∀ e ∈ entries, catalog.fault? e = none := by
  rw [valid_review_iff, faults_review_eq_nil_iff] at h
  exact List.filterMap_eq_nil_iff.mp h.1

theorem Framing.fault?_of_valid_inspect {framing : Framing} {buffer : List UInt8}
    (h : (framing.inspect buffer).valid = true) :
    ∀ e ∈ (framing.inspect buffer).entries, Catalog.builtin.fault? e = none := by
  cases framing with
  | compact =>
      have hsplit := Catalog.isFraming_parse_iff.mp (Catalog.isFraming_of_valid h)
      rw [inspect, Catalog.valid_parse_of_split_eq_nil _ hsplit, Bool.or_eq_true] at h
      rw [inspect, Catalog.entries_parse _ hsplit]
      rcases h with hempty | hreview
      · rw [List.isEmpty_iff.mp hempty]
        exact List.forall_mem_nil _
      · exact Catalog.fault?_of_valid_review hreview
  | vendor =>
      rw [inspect] at h ⊢
      cases hdecode : Vendor.decode buffer with
      | error fault =>
          simp only [hdecode] at h
          cases h
      | ok entries =>
          simp only [hdecode] at h ⊢
          exact Catalog.fault?_of_valid_review h

namespace Report

/-! ## Readings -/

/-- The text that a value is shown as by the reader of its kind. -/
inductive ShownAs (entry : Entry) : ValueKind → String → Prop where
  | boolean {value : Bool} (h : entry.flag = .ok value) : ShownAs entry .boolean (flag value)
  | word {w : UInt16} (h : entry.word = .ok w) : ShownAs entry .word (Text.decimal w.toNat)
  | verifyMethod {method : VerifyMethod} (h : entry.verifyMethod = .ok method) :
      ShownAs entry .verifyMethod method.label

/-- The kinds whose values are no text. -/
def IsTyped (kind : ValueKind) : Prop :=
  kind = .boolean ∨ kind = .word ∨ kind = .verifyMethod

theorem exists_shownAs {kind : ValueKind} {entry : Entry} (hkind : IsTyped kind)
    (h : kind.Reads entry) : ∃ shown, ShownAs entry kind shown := by
  rcases hkind with rfl | rfl | rfl
  · obtain ⟨value, hvalue⟩ := h
    exact ⟨_, .boolean hvalue⟩
  · obtain ⟨w, hw⟩ := h
    exact ⟨_, .word hw⟩
  · obtain ⟨method, hmethod⟩ := h
    exact ⟨_, .verifyMethod hmethod⟩

theorem value_of_shownAs {entry : Entry} {row : Row} {shown : String}
    (hrow : Catalog.builtin.lookup entry.tag.code = some row)
    (h : ShownAs entry row.kind shown) : value entry = shown := by
  have hvalue : value? entry = some shown := by
    rw [value?, hrow, Option.map_some]
    generalize row.kind = kind at h
    cases h with
    | boolean h => simp only [h, Except.toOption, Option.map_some]
    | word h => simp only [h, Except.toOption, Option.map_some]
    | verifyMethod h => simp only [h, Except.toOption, Option.map_some]
  rw [value, hvalue, Option.getD_some]

theorem toList_hexOctets (bytes : List UInt8) :
    (Text.hexOctets bytes).toList = '0' :: 'x' :: Hex.encode bytes := by
  simp [Text.hexOctets]

theorem ne_hexOctets_of_shownAs {entry : Entry} {kind : ValueKind} {shown : String}
    (h : ShownAs entry kind shown) (bytes : List UInt8) : shown ≠ Text.hexOctets bytes := by
  intro heq
  have hchars := congrArg String.toList heq
  rw [toList_hexOctets] at hchars
  cases h with
  | @boolean value _ => cases value <;> cases hchars
  | @word w _ =>
      have hx : 'x' ∈ Nat.toDigits 10 w.toNat := by
        rw [Text.decimal, String.toList_ofList] at hchars
        rw [hchars]
        exact List.mem_cons_of_mem _ List.mem_cons_self
      have hdigit := Nat.isDigit_of_mem_toDigits (by decide) (by decide) hx
      revert hdigit
      decide
  | @verifyMethod method _ => cases method <;> cases hchars

/-! ## Reports -/

/-- **The check of a value agrees with its reader, and so does the report.** An entry has no fault
exactly when there is a row for its code, its length octet counts the value and is within the row's
limit, and the row's kind reads the value. In a report on a valid buffer each flag, word and verify
method is shown as it is read, never in hexadecimal. -/
theorem readings_exact :
    (∀ (catalog : Catalog) (entry : Entry), catalog.fault? entry = none ↔
      ∃ row, catalog.lookup entry.tag.code = some row ∧
        entry.length.toNat = entry.value.length ∧ entry.length.toNat ≤ row.maxSize ∧
        row.kind.Reads entry) ∧
    ∀ (settings : Settings) (buffer : List UInt8),
      (Inspector.inspect settings buffer).verdict.valid = true →
      (settings.output = .text → (Inspector.inspect settings buffer).report =
        String.join ((lines (Inspector.inspect settings buffer).verdict).map (· ++ "\n"))) ∧
      ∀ (i : Nat) (entry : Entry),
        (Inspector.inspect settings buffer).verdict.entries[i]? = some entry →
        ∃ row, Catalog.builtin.lookup entry.tag.code = some row ∧
          (IsTyped row.kind → ∃ shown, ShownAs entry row.kind shown ∧
            (∀ bytes, shown ≠ Text.hexOctets bytes) ∧
            (lines (Inspector.inspect settings buffer).verdict)[2 + i]? =
              some (String.join ["  [", Text.decimal i, "] ", entry.tag.label, " (",
                Text.hexOctet entry.tag.code, ") len=", Text.decimal entry.length.toNat, " ",
                shown])) := by
  refine ⟨Catalog.fault?_eq_none_iff, ?_⟩
  intro settings buffer hvalid
  constructor
  · intro houtput
    rw [Inspector.inspect, houtput]
    rfl
  · intro i entry hentry
    have hfault := Framing.fault?_of_valid_inspect hvalid entry (List.mem_of_getElem? hentry)
    obtain ⟨row, hrow, -, -, hreads⟩ := (Catalog.fault?_eq_none_iff _ entry).mp hfault
    refine ⟨row, hrow, fun htyped => ?_⟩
    obtain ⟨shown, hshown⟩ := exists_shownAs htyped hreads
    refine ⟨shown, hshown, ne_hexOctets_of_shownAs hshown, ?_⟩
    rw [getElem?_lines hentry, entryLine, value_of_shownAs hrow hshown]

/-- The network path `http://a`, a flag, a word and a verify method. -/
def typedEntries : List Entry :=
  [⟨.networkDevicePath, 8, [104, 116, 116, 112, 58, 47, 47, 97]⟩, ⟨.certSyncRootCa, 1, [1]⟩,
    ⟨.devicePathLength, 2, [5, 0]⟩, ⟨.serverNameVerifyMethod, 2, [3, 0]⟩]

def typedBuffer : List UInt8 :=
  [1, 8, 104, 116, 116, 112, 58, 47, 47, 97, 20, 1, 1, 4, 2, 5, 0, 22, 2, 3, 0]

theorem readings_exact_typedBuffer :
    (Inspector.inspect {} typedBuffer).verdict.valid = true ∧
      Catalog.builtin.fault? ⟨.serverNameVerifyMethod, 2, [3, 0]⟩ = none ∧
      (lines (Inspector.inspect {} typedBuffer).verdict)[5]? =
        some "  [3] OCR_HTTPS_SERVER_NAME_VERIFY_METHOD (0x16) len=2 Other" := by
  obtain ⟨hcheck, hreport⟩ := readings_exact
  have hvalid : (Inspector.inspect {} typedBuffer).verdict.valid = true := by decide +kernel
  have hentries : (Inspector.inspect {} typedBuffer).verdict.entries =
      typedEntries.map Entry.canonical := by
    have hencode : Framing.compact.encode typedEntries = .ok typedBuffer := rfl
    have hsplit := Framing.split_of_encode hencode
    have hparse := Catalog.entries_parse Catalog.builtin (congrArg Prod.snd hsplit)
    rwa [hsplit] at hparse
  have hrow : Catalog.builtin.lookup 22 =
      some ⟨22, "OCR_HTTPS_SERVER_NAME_VERIFY_METHOD", 2, .verifyMethod, false, none⟩ := by
    decide +kernel
  refine ⟨hvalid, (hcheck _ _).mpr ⟨_, hrow, rfl, Nat.le_refl 2, .other, rfl⟩, ?_⟩
  obtain ⟨-, hlines⟩ := hreport {} typedBuffer hvalid
  rw [hentries] at hlines
  obtain ⟨row, hlookup, hline⟩ := hlines 3 ⟨.serverNameVerifyMethod, 2, [3, 0]⟩ rfl
  obtain rfl := Option.some.inj (hrow.symm.trans hlookup)
  obtain ⟨shown, hshown, -, hline⟩ := hline (.inr (.inr rfl))
  cases hshown with
  | verifyMethod h =>
      cases h
      rw [hline]
      decide +kernel

end Report

end BootTlv
