import BootTlv.Proofs.Construction
import BootTlv.Proofs.Text.Damage
import BootTlv.Proofs.Uri.Grammar
import BootTlv.Proofs.Validation.Readers

/-!
# Values that are texts

The text of a value is the value itself as far as the value is one. A text that was put into an
entry comes back without a NUL at its end, the check of a URI and the lossy reading agree on what
the octets say, and damage in a value costs no more than the damaged octets (`text_faithful`).
-/

namespace BootTlv.Entry

variable {entry : Entry}

/-- A text of at most 255 octets can be put into an entry, and is read back without a NUL at its
end. -/
theorem exists_ofText (tag : Tag) {text : String} (h : text.utf8ByteSize ≤ 255) :
    ∃ entry, ofText tag text = .ok entry ∧
      entry.text = String.ofList (Utf8.dropNul text.toList) := by
  have hmake : ofText tag text = .ok ⟨tag, UInt8.ofNat (Utf8.encode text.toList).length,
      Utf8.encode text.toList⟩ := by
    refine make_eq_ok_iff.mpr ⟨?_, rfl⟩
    rw [Utf8.length_encode]
    exact h
  exact ⟨_, hmake, text_of_ofText hmake⟩

/-- What the check of a URI accepts is stored in the text as it stands in the value. -/
theorem toByteArray_text_of_accepts (h : Uri.accepts entry.value = true) :
    entry.text.toByteArray = (Text.unterminated entry.value).toByteArray := by
  obtain ⟨text, hvalue, -⟩ := (Uri.accepts_iff entry.value).mp h
  have htext : entry.text = String.ofList text := by
    rw [Entry.text, hvalue, Utf8.lossy_encode]
  rw [htext, hvalue, ← Utf8.toByteArray_encode, String.toList_ofList]

theorem accepts_of_fault?_eq_none {catalog : Catalog} {row : Row}
    (h : catalog.fault? entry = none) (hrow : catalog.lookup entry.tag.code = some row)
    (hkind : row.kind = .uri) : Uri.accepts entry.value = true := by
  obtain ⟨row', hrow', -, -, hreads⟩ := (catalog.fault?_eq_none_iff entry).mp h
  rw [hrow, Option.some.injEq] at hrow'
  rw [← hrow', hkind] at hreads
  exact hreads

/-- A text with octets on both sides is read as it is, and each side by itself. -/
theorem text_of_fragment {before m after : List UInt8} {text : List Char}
    (hm : Utf8.decode? m = some text) (hne : m ≠ []) (hafter : after ≠ [])
    (hlast : after.getLast? ≠ some 0) (tag : Tag) (length : UInt8) :
    Entry.text ⟨tag, length, before ++ m ++ after⟩ =
      String.ofList (Utf8.lossy before) ++ String.ofList text ++
        String.ofList (Utf8.lossy after) := by
  obtain rfl := Utf8.decode?_eq_some_iff.mp hm
  have htext : text ≠ [] := by
    rintro rfl
    exact hne rfl
  have hvalue : Text.unterminated (before ++ Utf8.encode text ++ after) =
      before ++ Utf8.encode text ++ after := by
    refine Text.unterminated_of_getLast?_ne ?_
    rwa [List.getLast?_append_of_ne_nil _ hafter]
  rw [Entry.text, hvalue, Utf8.lossy_append_encode_append htext, String.ofList_append,
    String.ofList_append]

/-- **Texts are read faithfully.** A text that fits into an entry is read back without a NUL at its
end. A value that is accepted as a URI is, but for one terminator, what its text is stored as. In a
value of any octets that does not end in a terminator a fragment that is a text is read as this
text, whatever stands around it, and the rest is read as if the fragment were not there. This
reading of damaged octets has U+FFFD for each maximal damaged part, and there is no other such
reading. -/
theorem text_faithful :
    (∀ tag text, text.utf8ByteSize ≤ 255 →
      ∃ entry, ofText tag text = .ok entry ∧
        entry.text = String.ofList (Utf8.dropNul text.toList)) ∧
    (∀ catalog : Catalog, ∀ entry row, catalog.fault? entry = none →
      catalog.lookup entry.tag.code = some row → row.kind = .uri →
      entry.text.toByteArray = (Text.unterminated entry.value).toByteArray) ∧
    (∀ tag length before m after text, Utf8.decode? m = some text → m ≠ [] → after ≠ [] →
      after.getLast? ≠ some 0 →
      Entry.text ⟨tag, length, before ++ m ++ after⟩ =
        String.ofList (Utf8.lossy before) ++ String.ofList text ++
          String.ofList (Utf8.lossy after)) ∧
    ∀ bytes text, Utf8.lossy bytes = text ↔ Utf8.Reading bytes text := by
  refine ⟨fun tag _ h => exists_ofText tag h, ?_, ?_, fun _ _ => Utf8.lossy_eq_iff⟩
  · intro catalog entry row hfault hrow hkind
    exact toByteArray_text_of_accepts (accepts_of_fault?_eq_none hfault hrow hkind)
  · intro tag length before m after text hm hne hafter hlast
    exact text_of_fragment hm hne hafter hlast tag length

/-- A path with a terminator. -/
def terminatedPath : Entry := ⟨.networkDevicePath, 9, [104, 116, 116, 112, 58, 47, 47, 97, 0]⟩

/-- A name with a NUL at its end, a path with a terminator, and an é between the beginnings of two
characters that were cut short. -/
theorem text_faithful_cutShort :
    (("boot.local\x00".utf8ByteSize ≤ 255 ∧
        ∃ entry, ofText .certServerName "boot.local\x00" = .ok entry ∧ entry.text = "boot.local") ∧
      Catalog.builtin.fault? terminatedPath = none ∧
        terminatedPath.text.toByteArray =
          [104, 116, 116, 112, 58, 47, 47, 97].toByteArray) ∧
      Utf8.decode? [0xC3, 0xA9] = some ['é'] ∧
        Entry.text ⟨.certServerName, 8, [102, 0xE2, 0x82] ++ [0xC3, 0xA9] ++ [0xF0, 0x9F, 107]⟩ =
          "f\uFFFDé\uFFFDk" := by
  obtain ⟨hbuilt, huri, hfragment, -⟩ := text_faithful
  have hsize : "boot.local\x00".utf8ByteSize ≤ 255 := by decide
  have hfault : Catalog.builtin.fault? terminatedPath = none := by decide +kernel
  have hm : Utf8.decode? [0xC3, 0xA9] = some ['é'] := by decide +kernel
  refine ⟨⟨⟨hsize, hbuilt .certServerName _ hsize⟩, hfault, ?_⟩, hm, ?_⟩
  · exact huri Catalog.builtin terminatedPath _ hfault rfl rfl
  · rw [hfragment .certServerName 8 [102, 0xE2, 0x82] _ [0xF0, 0x9F, 107] _ hm (by decide)
      (by decide) (by decide)]
    decide +kernel

end BootTlv.Entry
