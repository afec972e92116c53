import BootTlv.Proofs.Compact.Loop
import BootTlv.Proofs.Vendor.Loop

/-!
# Scans of untrusted buffers

In either framing the loop that scans a buffer makes no access out of range, whatever the buffer
holds, and ends after no more turns than there is room for headers (`scan_safe`). The lengths in
headers are not trusted for this: each is compared with what is left before it is used.

A scan that stops before the end of the buffer discards what it has decoded (`Stops`). Faults of
framing say that this happened, but not all of it is said by them: a vendor buffer may also be given
up for an identifier, a tag field or a length (`stops_iff`).
-/

namespace BootTlv

/-! ## Faults that end a scan -/

/-- The kinds of faults of a header that is there as a whole and cannot be read. -/
def Fault.headerKinds : List Fault.Kind := [.foreignVendor, .tagOutOfRange, .valueTooLong]

theorem Vendor.StopsAt.kind {buffer : List UInt8} {offset : Nat} {fault : Fault}
    (h : StopsAt buffer offset fault) :
    fault.isFraming = true ∨ fault.kind ∈ Fault.headerKinds := by
  cases h with
  | header => exact .inl rfl
  | vendor => exact .inr (by simp [Fault.kind, Fault.headerKinds])
  | field => exact .inr (by simp [Fault.kind, Fault.headerKinds])
  | length => exact .inr (by simp [Fault.kind, Fault.headerKinds])
  | value => exact .inl rfl

/-- A vendor buffer is given up for what is wrong behind the entries of its split. -/
theorem Vendor.stopsAt_of_decode {buffer : List UInt8} {fault : Fault}
    (h : decode buffer = .error fault) :
    StopsAt buffer (Framing.vendor.front buffer).length fault := by
  rw [decode, decodeFrom_eq, Nat.zero_add] at h
  split at h
  · next hstop =>
      cases h
      have hne : (Framing.vendor.split buffer).2 ≠ [] := by
        intro hnil
        rw [hnil, Framing.stop?_nil] at hstop
        cases hstop
      exact stopsAt_of_readEntry (Framing.vendor.drop_length_front buffer)
        ((Framing.stop?_eq_some_iff hne).mp hstop)
  · cases h

theorem Catalog.kind_of_mem_review {catalog : Catalog} {entries : List Entry} {fault : Fault}
    (h : fault ∈ (catalog.review entries).2) : fault.kind ∉ Fault.headerKinds := by
  rcases List.mem_append.mp h with h | h
  · have hentry := isOfEntry_of_mem_filterMap_fault? h
    rw [Fault.isOfEntry] at hentry
    revert hentry
    cases fault.kind <;> decide
  · have habsence := isAbsence_of_mem_absences h
    rw [Fault.isAbsence] at habsence
    revert habsence
    cases fault.kind <;> decide

namespace Framing

/-! ## Safety -/

/-- **Scans are safe and end.** Their results hold no more entries than there is room for headers. -/
theorem scan_safe (catalog : Catalog) (buffer : List UInt8) :
    ((Compact.loop catalog buffer).Safe buffer 2 Verdict.entries ∧
      (Compact.loop catalog buffer).Returns (catalog.parse buffer) ∧
      (catalog.parse buffer).entries.length ≤ buffer.length / 2) ∧
    (Vendor.loop buffer).Safe buffer 8 id ∧
      (Vendor.loop buffer).Returns (Vendor.decode buffer) ∧
      ∀ entries, Vendor.decode buffer = .ok entries → entries.length ≤ buffer.length / 8 := by
  refine ⟨⟨?_, ?_, ?_⟩, ?_, ?_, ?_⟩
  · refine (Compact.reads_loop catalog buffer).safe fun read => ?_
    rw [Verdict.foldl_accept]
    rfl
  · exact Compact.returns_loop_iff.mpr rfl
  · by_cases hcut : (compact.split buffer).2 = []
    · rw [Catalog.entries_parse catalog hcut]
      exact (passed_split compact buffer).length_le
    · obtain ⟨fault, -, hparse⟩ := catalog.parse_of_cut hcut
      rw [hparse]
      exact Nat.zero_le _
  · refine (Vendor.reads_loop buffer).safe fun read => ?_
    rw [Vendor.foldl_append_singleton]
    rfl
  · exact Vendor.returns_loop_iff.mpr rfl
  · intro entries hdecode
    have hsplit : vendor.split buffer = (entries, []) := Vendor.decode_eq_ok_iff.mp hdecode
    have hle := (passed_split vendor buffer).length_le
    rwa [hsplit] at hle

/-- An entry of the vendor without a value, and a cut one in compact framing. -/
def emptyValue : List UInt8 := [0x86, 0x80, 20, 0, 0, 0, 0, 0]

theorem scan_safe_emptyValue :
    (Compact.loop .builtin emptyValue).Safe emptyValue 2 Verdict.entries ∧
      Vendor.decode emptyValue = .ok [⟨Tag.ofCode 20, 0, []⟩] ∧
      [(⟨Tag.ofCode 20, 0, []⟩ : Entry)].length ≤ emptyValue.length / 8 := by
  obtain ⟨⟨hsafe, -⟩, -, -, hlength⟩ := scan_safe .builtin emptyValue
  have hencode : vendor.encode [⟨Tag.ofCode 20, 0, []⟩] = .ok emptyValue := rfl
  have hdecode : Vendor.decode emptyValue = .ok [⟨Tag.ofCode 20, 0, []⟩] :=
    Vendor.decode_eq_ok_iff.mpr (split_of_encode hencode)
  exact ⟨hsafe, hdecode, hlength _ hdecode⟩

/-! ## How scans stop -/

/-- The scan of the buffer stops before the end of the buffer and discards what it has decoded. -/
def Stops : Framing → List UInt8 → Prop
  | compact, buffer =>
    (Compact.loop .builtin buffer).StopsShort buffer fun verdict => verdict.entries = []
  | vendor, buffer => (Vendor.loop buffer).StopsShort buffer fun result => result.isOk = false

/-- The scan stops exactly when the split leaves something over. -/
theorem stops_iff_split_ne_nil {framing : Framing} {buffer : List UInt8} :
    framing.Stops buffer ↔ (framing.split buffer).2 ≠ [] := by
  cases framing with
  | compact =>
      have hreturns := Compact.returns_loop_iff.mpr (Eq.refl (Catalog.builtin.parse buffer))
      rw [Stops, (Compact.reads_loop .builtin buffer).stopsShort_iff hreturns]
      refine and_iff_left_of_imp fun hcut => ?_
      obtain ⟨fault, -, hparse⟩ := Catalog.builtin.parse_of_cut hcut
      rw [hparse]
  | vendor =>
      have hreturns := Vendor.returns_loop_iff.mpr (Eq.refl (Vendor.decode buffer))
      rw [Stops, (Vendor.reads_loop buffer).stopsShort_iff hreturns]
      refine and_iff_left_of_imp fun hcut => ?_
      cases hdecode : Vendor.decode buffer with
      | ok entries => exact absurd (congrArg Prod.snd (Vendor.decode_eq_ok_iff.mp hdecode)) hcut
      | error fault => rfl

/-- **What says that a scan stopped.** In compact framing the faults of framing do, and they alone.
In vendor framing a scan may also stop at a whole header, and no fault of framing says so: it is for
the identifier, the tag field or the length that the buffer is given up. -/
theorem stops_iff (framing : Framing) (buffer : List UInt8) :
    framing.Stops buffer ↔
      (framing.inspect buffer).isFraming = true ∨
        framing = vendor ∧
          ∃ kind ∈ [Fault.Kind.foreignVendor, .tagOutOfRange, .valueTooLong],
            (framing.inspect buffer).hasFault kind = true := by
  rw [stops_iff_split_ne_nil]
  cases framing with
  | compact =>
      rw [or_iff_left fun h => Framing.noConfusion h.1, ne_eq, ← Catalog.isFraming_parse_iff,
        Bool.not_eq_false]
      rfl
  | vendor =>
      rw [inspect]
      cases hdecode : Vendor.decode buffer with
      | ok entries =>
          rw [Vendor.decode_eq_ok_iff.mp hdecode]
          refine iff_of_false (fun h => h rfl) ?_
          rintro (hframing | ⟨-, kind, hkind, hfault⟩)
          · obtain ⟨fault, hmem, hfault⟩ := List.any_eq_true.mp hframing
            rw [Catalog.isFraming_of_mem_review hmem] at hfault
            cases hfault
          · obtain ⟨fault, hmem, hfault⟩ := List.any_eq_true.mp hfault
            obtain rfl := of_decide_eq_true hfault
            exact Catalog.kind_of_mem_review hmem hkind
      | error fault =>
          refine iff_of_true (fun hnil => ?_) ?_
          · rw [Vendor.decode_eq_ok_iff.mpr (Prod.ext rfl hnil)] at hdecode
            cases hdecode
          · rcases (Vendor.stopsAt_of_decode hdecode).kind with hframing | hkind
            · exact .inl (by simp [Verdict.isFraming, hframing])
            · exact .inr ⟨rfl, _, hkind, by simp [Verdict.hasFault]⟩

/-- An entry, and a second one with the identifier of another vendor. -/
def foreignSecond : List UInt8 :=
  [0x86, 0x80, 20, 0, 1, 0, 0, 0, 1, 0x22, 0x10, 20, 0, 1, 0, 0, 0, 1]

theorem stops_foreignSecond :
    vendor.Stops foreignSecond ∧ (vendor.inspect foreignSecond).isFraming = false ∧
      ¬ ∀ (framing : Framing) (buffer : List UInt8),
        framing.Stops buffer ↔ (framing.inspect buffer).isFraming = true := by
  have hstops : vendor.Stops foreignSecond := stops_iff_split_ne_nil.mpr (by decide +kernel)
  have hframing : (vendor.inspect foreignSecond).isFraming = false := by decide +kernel
  refine ⟨hstops, hframing, fun hall => ?_⟩
  rw [(hall vendor foreignSecond).mp hstops] at hframing
  cases hframing

end Framing

end BootTlv
