import BootTlv.Proofs.Framing.Whole
import BootTlv.Report

/-!
# What does not show the spelling of a tag

A tag is its code. Entries may be spelled in either way at any place, and still they are written as
the same octets or refused for the same reason, they have the same faults and lack the same entries,
the same one of them is found, and every text about them is the same text (`unseen_of_same`).

Each fact is shown of the canonical spelling first: what is made of canonical entries is what is made
of the entries, with its tags in their canonical spelling. Two lists that differ in spelling have one
canonical form, so what is made of them differs in spelling only.
-/

namespace BootTlv

/-! ## Writing -/

theorem Entry.framingFault?_canonical (entry : Entry) :
    entry.canonical.framingFault? = entry.framingFault?.map Fault.canonical := by
  simp only [framingFault?, apply_ite (Option.map Fault.canonical)]
  rfl

theorem Entry.findSome?_framingFault?_canonical (entries : List Entry) :
    (entries.map canonical).findSome? framingFault? =
      (entries.findSome? framingFault?).map Fault.canonical := by
  induction entries with
  | nil => rfl
  | cons e entries ih =>
      rw [List.map_cons, List.findSome?_cons, List.findSome?_cons, framingFault?_canonical, ih]
      cases e.framingFault? <;> rfl

theorem Framing.flatMap_octets_canonical (framing : Framing) (entries : List Entry) :
    (entries.map Entry.canonical).flatMap framing.octets = entries.flatMap framing.octets := by
  rw [List.flatMap_map]
  simp only [octets_canonical]

theorem Compact.append_canonical (buffer : List UInt8) (entries : List Entry) :
    append buffer (entries.map Entry.canonical) =
      (append buffer entries).mapError Fault.canonical := by
  have hoctets := Framing.compact.flatMap_octets_canonical entries
  rw [append, append, Entry.findSome?_framingFault?_canonical]
  cases entries.findSome? Entry.framingFault? with
  | some fault => rfl
  | none => exact congrArg (fun octets => Except.ok (buffer ++ octets)) hoctets

theorem Vendor.encode_canonical (entries : List Entry) :
    encode (entries.map Entry.canonical) = (encode entries).mapError Fault.canonical := by
  have hoctets := Framing.vendor.flatMap_octets_canonical entries
  rw [encode_eq, encode_eq, Entry.findSome?_framingFault?_canonical]
  cases entries.findSome? Entry.framingFault? with
  | some fault => rfl
  | none => exact congrArg Except.ok hoctets

/-! ## Sets of entries -/

namespace Catalog

theorem present_canonical (entries : List Entry) (c : UInt8) :
    present (entries.map Entry.canonical) c = present entries c := by
  simp [present, List.any_map, Function.comp_def]

theorem missing_canonical (catalog : Catalog) (entries : List Entry) :
    catalog.missing (entries.map Entry.canonical) =
      (catalog.missing entries).map Fault.canonical := by
  simp only [missing, present_canonical, List.map_map]
  refine List.map_congr_left fun row _ => ?_
  show Fault.missingMandatory row.tag = .missingMandatory row.tag.canonical
  rw [Row.tag, Tag.canonical_ofCode]

theorem unmet_canonical (catalog : Catalog) (entries rest : List Entry) (reported : List UInt8) :
    catalog.unmet (entries.map Entry.canonical) reported (rest.map Entry.canonical) =
      (catalog.unmet entries reported rest).map Fault.canonical := by
  induction rest generalizing reported with
  | nil => rfl
  | cons e rest ih =>
      rw [List.map_cons, unmet, unmet, Entry.tag_canonical, Tag.code_canonical]
      cases catalog.dependency? e.tag.code with
      | none => exact ih reported
      | some needs =>
          dsimp only
          rw [present_canonical]
          split
          · exact ih reported
          · rw [List.map_cons, ← ih, Fault.canonical, Tag.canonical_ofCode]

theorem absences_canonical (catalog : Catalog) (entries : List Entry) :
    catalog.absences (entries.map Entry.canonical) =
      (catalog.absences entries).map Fault.canonical := by
  rw [absences, absences, List.map_append, missing_canonical, unmet_canonical]

theorem review_canonical (catalog : Catalog) (entries : List Entry) :
    catalog.review (entries.map Entry.canonical) =
      ((catalog.review entries).1, (catalog.review entries).2.map Fault.canonical) := by
  rw [review, review, filterMap_fault?_map_canonical, absences_canonical, ← List.map_append,
    List.isEmpty_map]

end Catalog

/-! ## Looking entries up -/

theorem Verdict.get?_canonical (verdict : Verdict) (tag : Tag) :
    verdict.canonical.get? tag = (verdict.get? tag).map Entry.canonical := by
  rw [get?, get?, canonical, List.find?_map]
  congr 2
  funext entry
  show (entry.tag.canonical.code == tag.code) = (entry.tag.code == tag.code)
  rw [Tag.code_canonical]

/-! ## Texts -/

namespace Entry

/-! A reader that fails names the tag as it is spelled, and a report shows no such failure. -/

theorem toOption_flag_canonical (entry : Entry) :
    entry.canonical.flag.toOption = entry.flag.toOption := by
  simp only [flag, value_canonical]
  split
  · split
    · rfl
    · split <;> rfl
  · rfl

theorem toOption_word_canonical (entry : Entry) :
    entry.canonical.word.toOption = entry.word.toOption := by
  simp only [word, value_canonical]
  split <;> rfl

theorem toOption_verifyMethod (entry : Entry) :
    entry.verifyMethod.toOption = entry.word.toOption.bind VerifyMethod.ofCode? := by
  rw [verifyMethod]
  cases entry.word with
  | error fault => rfl
  | ok w =>
      show _ = VerifyMethod.ofCode? w
      dsimp only
      cases VerifyMethod.ofCode? w <;> rfl

end Entry

namespace Report

theorem value_canonical (entry : Entry) : value entry.canonical = value entry := by
  have htext : entry.canonical.text = entry.text := rfl
  simp only [value, value?, Entry.tag_canonical, Tag.code_canonical, Entry.value_canonical, htext,
    Entry.toOption_flag_canonical, Entry.toOption_word_canonical, Entry.toOption_verifyMethod]

theorem entryLine_canonical (position : Nat) (entry : Entry) :
    entryLine position entry.canonical = entryLine position entry := by
  rw [entryLine, entryLine, value_canonical, Entry.tag_canonical, Tag.label_canonical,
    Tag.code_canonical, Entry.length_canonical]

theorem text_canonical (verdict : Verdict) : text verdict.canonical = text verdict := by
  have hentries : (verdict.entries.map Entry.canonical).mapIdx entryLine =
      verdict.entries.mapIdx entryLine := by
    apply List.ext_getElem?
    intro i
    rw [List.getElem?_mapIdx, List.getElem?_mapIdx, List.getElem?_map]
    cases verdict.entries[i]? with
    | none => rfl
    | some entry => exact congrArg some (entryLine_canonical i entry)
  have hfaults : (verdict.faults.map Fault.canonical).map faultLine =
      verdict.faults.map faultLine := by
    rw [List.map_map]
    refine List.map_congr_left fun fault _ => ?_
    show String.join ["  - ", fault.canonical.message] = faultLine fault
    rw [Fault.message_canonical, faultLine]
  rw [text, text, lines, lines, Verdict.canonical]
  simp only [List.length_map, hentries, hfaults]

end Report

/-! ## JSON -/

theorem Tag.toJson_canonical (tag : Tag) : tag.canonical.toJson = tag.toJson := by
  rw [toJson, code_canonical, toJson]

theorem Entry.toJson_canonical (entry : Entry) : entry.canonical.toJson = entry.toJson := by
  rw [toJson, tag_canonical, Tag.toJson_canonical, toJson]
  rfl

theorem Fault.toJson_canonical (fault : Fault) : fault.canonical.toJson = fault.toJson := by
  cases fault <;> simp [canonical, toJson, kind, content, Tag.toJson_canonical]

theorem Verdict.toJson_canonical (verdict : Verdict) : verdict.canonical.toJson = verdict.toJson := by
  simp [toJson, canonical, Function.comp_def, Entry.toJson_canonical, Fault.toJson_canonical]

theorem Report.render_canonical (format : Format) (verdict : Verdict) :
    render format verdict.canonical = render format verdict := by
  cases format with
  | text => exact text_canonical verdict
  | json => exact congrArg Json.pretty verdict.toJson_canonical

/-- Reports do not tell verdicts apart that are the same. -/
theorem Report.render_eq_of_same {v w : Verdict} (h : v.Same w) (format : Format) :
    render format v = render format w := by
  rw [← render_canonical, Verdict.same_iff_canonical_eq.mp h, render_canonical]

/-! ## Everything that is made of entries -/

namespace Entry

/-- Whatever is made of the two lists is the same where tags are compared by code, and the texts are
the same texts. -/
structure Unseen (catalog : Catalog) (entries others : List Entry) : Prop where
  append (buffer : List UInt8) :
    (Compact.append buffer entries).mapError Fault.canonical =
      (Compact.append buffer others).mapError Fault.canonical
  encode : (Compact.encode entries).mapError Fault.canonical =
    (Compact.encode others).mapError Fault.canonical
  encodeVendor : (Vendor.encode entries).mapError Fault.canonical =
    (Vendor.encode others).mapError Fault.canonical
  fault : entries.map (fun e => (catalog.fault? e).map Fault.canonical) =
    others.map fun e => (catalog.fault? e).map Fault.canonical
  valid : (catalog.review entries).1 = (catalog.review others).1
  faults : (catalog.review entries).2.map Fault.canonical =
    (catalog.review others).2.map Fault.canonical
  absences : (catalog.absences entries).map Fault.canonical =
    (catalog.absences others).map Fault.canonical
  /-- The entries found are the same, whichever spelling is looked for. -/
  get {a b : Tag} (hcode : a.code = b.code) (valid valid' : Bool) (faults faults' : List Fault) :
    ((⟨valid, entries, faults⟩ : Verdict).get? a).map canonical =
      ((⟨valid', others, faults'⟩ : Verdict).get? b).map canonical
  /-- Faults that are the same are worded in the same way, by themselves and in a list. -/
  messages {faults faults' : List Fault}
    (hfaults : faults.map Fault.canonical = faults'.map Fault.canonical) :
    faults.map Fault.message = faults'.map Fault.message ∧
      Fault.messages faults = Fault.messages faults'
  report {faults faults' : List Fault}
    (hfaults : faults.map Fault.canonical = faults'.map Fault.canonical) (valid : Bool)
    (format : Report.Format) :
    Report.render format ⟨valid, entries, faults⟩ = Report.render format ⟨valid, others, faults'⟩

/-- **A tag is its code everywhere.** Where two lists of entries differ in the spelling of tags only,
nothing that is written, found, reported or said of them differs in more than that, and no text
differs at all. -/
theorem unseen_of_same (catalog : Catalog) {entries others : List Entry}
    (h : List.Forall₂ Same entries others) : Unseen catalog entries others := by
  have hsame : entries.map canonical = others.map canonical := forall₂_same_iff.mp h
  -- Each side is what is made of the canonical entries, and these are the same for both lists.
  constructor
  case append =>
    intro buffer
    rw [← Compact.append_canonical, ← Compact.append_canonical, hsame]
  case encode =>
    rw [Compact.encode, Compact.encode, ← Compact.append_canonical, ← Compact.append_canonical,
      hsame]
  case encodeVendor => rw [← Vendor.encode_canonical, ← Vendor.encode_canonical, hsame]
  case fault =>
    have hmap := congrArg (List.map catalog.fault?) hsame
    simpa only [List.map_map, Function.comp_def, catalog.fault?_canonical] using hmap
  case valid =>
    have hreview := congrArg (fun list => (catalog.review list).1) hsame
    simpa only [Catalog.review_canonical] using hreview
  case faults =>
    have hreview := congrArg (fun list => (catalog.review list).2) hsame
    simpa only [Catalog.review_canonical] using hreview
  case absences => rw [← Catalog.absences_canonical, ← Catalog.absences_canonical, hsame]
  case get =>
    intro a b hcode valid valid' faults faults'
    rw [← Verdict.get?_canonical, ← Verdict.get?_canonical]
    show (entries.map canonical).find? (·.tag.code == a.code) =
      (others.map canonical).find? (·.tag.code == b.code)
    rw [hsame, hcode]
  case messages =>
    intro faults faults' hfaults
    have hmessage : faults.map Fault.message = faults'.map Fault.message := by
      have hmap := congrArg (List.map Fault.message) hfaults
      simpa only [List.map_map, Function.comp_def, Fault.message_canonical] using hmap
    exact ⟨hmessage, congrArg ("; ".intercalate ·) hmessage⟩
  case report =>
    intro faults faults' hfaults valid format
    have hverdict : Verdict.Same ⟨valid, entries, faults⟩ ⟨valid, others, faults'⟩ :=
      ⟨rfl, h, hfaults⟩
    exact Report.render_eq_of_same hverdict format

/-- A network path, a file path that lacks its length, a bad flag and a code without a name. -/
def namedEntries : List Entry :=
  [⟨.networkDevicePath, 1, [7]⟩, ⟨.fileDevicePath, 0, []⟩, ⟨.certSyncRootCa, 1, [9]⟩,
    ⟨.other 200, 3, [1]⟩]

/-- The same entries under their numbers, but for the flag. -/
def numberedEntries : List Entry :=
  [⟨.other 1, 1, [7]⟩, ⟨.other 2, 0, []⟩, ⟨.certSyncRootCa, 1, [9]⟩, ⟨.other 200, 3, [1]⟩]

theorem unseen_of_same_numbered :
    List.Forall₂ Same namedEntries numberedEntries ∧
      Unseen Catalog.builtin namedEntries numberedEntries := by
  have h : List.Forall₂ Same namedEntries numberedEntries := by
    refine .cons ⟨rfl, rfl, rfl⟩ (.cons ⟨rfl, rfl, rfl⟩ (.cons ⟨rfl, rfl, rfl⟩ (.cons ?_ .nil)))
    exact ⟨rfl, rfl, rfl⟩
  exact ⟨h, unseen_of_same Catalog.builtin h⟩

end Entry

end BootTlv
