import BootTlv.Proofs.Framing.Inspect
import BootTlv.Proofs.Inspector.HexInput
import BootTlv.Proofs.Request.Fields
import BootTlv.Proofs.Result
import BootTlv.Proofs.Validation.Review

/-!
# Requests, there and back

The buffer of a request is inspected as the entries of the request without a fault, and each field
is read from them again (`encode_inspect`). The digits of the buffer are a file that is read back.
-/

namespace BootTlv.Request

variable {request : Request} {framing : Framing} {entries : List Entry} {buffer : List UInt8}

/-! ## Encoding -/

theorem encode_of_entries (framing : Framing) (h : request.entries = .ok entries) :
    request.encode framing =
      if (Catalog.builtin.review entries).1 then
        (framing.encode entries).mapError Refusal.unwritable
      else .error (.invalid (Catalog.builtin.review entries).2) := by
  rw [encode, h]
  rfl

theorem encode_eq_ok_iff :
    request.encode framing = .ok buffer ↔
      ∃ entries, request.entries = .ok entries ∧ (Catalog.builtin.review entries).1 = true ∧
        framing.encode entries = .ok buffer := by
  constructor
  · intro h
    cases hentries : request.entries with
    | error fault =>
        rw [encode, hentries] at h
        cases h
    | ok entries =>
        rw [encode_of_entries framing hentries] at h
        split at h
        · next hvalid => exact ⟨entries, rfl, hvalid, Except.mapError_eq_ok_iff.mp h⟩
        · cases h
  · rintro ⟨entries, hentries, hvalid, hencode⟩
    rw [encode_of_entries framing hentries, if_pos hvalid]
    exact Except.mapError_eq_ok_iff.mpr hencode

/-- Without entries the network path is missing. -/
theorem ne_nil_of_valid (hvalid : (Catalog.builtin.review entries).1 = true) : entries ≠ [] := by
  rintro rfl
  have hnil := congrArg Verdict.valid Catalog.reviewed_nil
  rw [Catalog.reviewed, hvalid] at hnil
  cases hnil

/-! ## Reading back -/

/-- The buffer of a request is inspected as the entries of the request. -/
theorem inspect_of_encode (hentries : request.entries = .ok entries)
    (hvalid : (Catalog.builtin.review entries).1 = true)
    (hencode : framing.encode entries = .ok buffer) :
    framing.inspect buffer = ⟨true, entries, []⟩ := by
  have hfaults : (Catalog.builtin.review entries).2 = [] := Catalog.valid_review_iff.mp hvalid
  rw [Framing.inspect_of_encode hencode (ne_nil_of_valid hvalid), map_canonical_entries hentries,
    Catalog.reviewed, hvalid, hfaults]

/-- The text that is read for a text that was written: a NUL at the end is taken for a
terminator. -/
def textRead (text : String) : String := String.ofList (Utf8.dropNul text.toList)

/-- A verdict has an entry for a field exactly when the field is given, and the reader of its kind
gives the value of the field. -/
structure ReadBack (request : Request) (verdict : Verdict) : Prop where
  networkDevicePath : (verdict.get? .networkDevicePath).map Entry.text =
    request.networkDevicePath.map textRead
  fileDevicePath : (verdict.get? .fileDevicePath).map Entry.text =
    request.fileDevicePath.map textRead
  devicePathLength : (verdict.get? .devicePathLength).map Entry.word =
    request.devicePathLength.map .ok
  syncRootCa : (verdict.get? .certSyncRootCa).map Entry.flag = request.syncRootCa.map .ok
  serverName : (verdict.get? .certServerName).map Entry.text = request.serverName.map textRead
  verifyMethod : (verdict.get? .serverNameVerifyMethod).map Entry.verifyMethod =
    request.verifyMethod.map .ok
  requestTimeoutSecs : (verdict.get? .requestTimeout).map Entry.word =
    request.requestTimeoutSecs.map .ok

theorem readBack_of_entries (h : request.entries = .ok entries) {verdict : Verdict}
    (hverdict : verdict.entries = entries) : request.ReadBack verdict := by
  have hget : verdict.get? = fun t => entries.find? (·.tag == t) := by
    rw [← hverdict]
    rfl
  have htext : ∀ tag text entry, (Entry.Construction.text tag text).build = .ok entry →
      entry.text = textRead text := fun _ _ _ => Entry.text_of_ofText
  have hword : ∀ tag w entry, (Entry.Construction.word tag w).build = .ok entry →
      entry.word = .ok w := by
    rintro tag w _ ⟨⟩
    exact Entry.word_ofWord tag w
  have hflag : ∀ tag value entry, (Entry.Construction.flag tag value).build = .ok entry →
      entry.flag = .ok value := by
    rintro tag value _ ⟨⟩
    exact Entry.flag_ofFlag tag value
  have hmethod : ∀ method entry, (Entry.Construction.verifyMethod method).build = .ok entry →
      entry.verifyMethod = .ok method := by
    rintro method _ ⟨⟩
    exact Entry.verifyMethod_ofVerifyMethod method
  constructor <;> rw [hget]
  case networkDevicePath | fileDevicePath | serverName =>
    exact map_find?_of_field h (by simp [tags]) rfl (htext _)
  case devicePathLength | requestTimeoutSecs =>
    exact map_find?_of_field h (by simp [tags]) rfl (hword _)
  case syncRootCa => exact map_find?_of_field h (by simp [tags]) rfl (hflag _)
  case verifyMethod => exact map_find?_of_field h (by simp [tags]) rfl hmethod

/-! ## Files -/

theorem length_le_of_encode (hentries : request.entries = .ok entries)
    (hencode : framing.encode entries = .ok buffer) : buffer.length ≤ 828 := by
  obtain ⟨-, rfl⟩ := Framing.encode_eq_ok_iff.mp hencode
  exact length_flatMap_octets_le hentries framing

theorem length_pos_of_encode (hne : entries ≠ []) (hencode : framing.encode entries = .ok buffer) :
    0 < buffer.length := by
  obtain ⟨-, rfl⟩ := Framing.encode_eq_ok_iff.mp hencode
  have hcount : 0 < entries.length := List.length_pos_iff.mpr hne
  have hheader : 0 < framing.headerSize := by cases framing <;> decide
  have hheaders := Nat.mul_pos hheader hcount
  rw [Framing.length_flatMap_octets]
  omega

/-- **What is encoded for a request is decoded to the request again.** The buffer is valid, its
entries are those of the request, and each field is read from its entry, where a text loses one NUL
at its end. The buffer is no longer than 828 octets, and a file of its digits, with a line end or
without one, is inspected as the buffer is. -/
theorem encode_inspect (h : request.encode framing = .ok buffer) :
    (∃ entries, request.entries = .ok entries ∧
      ∀ settings : Settings, settings.framing = framing →
        (Inspector.inspect settings buffer).verdict = ⟨true, entries, []⟩ ∧
        request.ReadBack (Inspector.inspect settings buffer).verdict) ∧
    buffer.length ≤ 828 ∧
    ∀ (settings : Settings) (files : Files) (path : String) (ending : List Char),
      settings.framing = framing → settings.inputFormat = .hex →
      buffer.length ≤ settings.maxLength.toNat → ending = [] ∨ ending = ['\n'] →
      files path = .ok (Utf8.encode (Hex.encode buffer ++ ending)) →
      Inspector.inspectFile settings files path = .ok (Inspector.inspect settings buffer) := by
  obtain ⟨entries, hentries, hvalid, hencode⟩ := encode_eq_ok_iff.mp h
  have hlength := length_le_of_encode hentries hencode
  have hpos := length_pos_of_encode (ne_nil_of_valid hvalid) hencode
  refine ⟨⟨entries, hentries, ?_⟩, hlength, ?_⟩
  · rintro settings rfl
    have hverdict : (Inspector.inspect settings buffer).verdict = ⟨true, entries, []⟩ :=
      inspect_of_encode hentries hvalid hencode
    refine ⟨hverdict, readBack_of_entries hentries ?_⟩
    rw [hverdict]
  · intro settings files path ending hframing hformat hmax hending hcontent
    have hsmall : 2 * buffer.length < Number.maxUnsigned := by
      rw [Number.maxUnsigned]
      omega
    rw [Inspector.inspectFile,
      Inspector.readBuffer_line hformat hmax hpos hsmall hending hcontent]
    rfl

/-- A request whose path ends in a NUL. -/
def terminatedRequest : Request :=
  { networkDevicePath := some "http://a\x00", requestTimeoutSecs := some 300 }

def terminatedBuffer : List UInt8 := [1, 9, 104, 116, 116, 112, 58, 47, 47, 97, 0, 26, 2, 44, 1]

theorem encode_inspect_terminated :
    terminatedRequest.encode .compact = .ok terminatedBuffer ∧
      ((Inspector.inspect {} terminatedBuffer).verdict.get? .networkDevicePath).map Entry.text =
        some "http://a" ∧
      terminatedBuffer.length ≤ 828 ∧
      Inspector.inspectFile {} (fun _ => .ok (Utf8.encode (Hex.encode terminatedBuffer ++ ['\n'])))
        "a.hex" = .ok (Inspector.inspect {} terminatedBuffer) := by
  have h : terminatedRequest.encode .compact = .ok terminatedBuffer :=
    encode_eq_ok_iff.mpr ⟨_, rfl, by decide +kernel, rfl⟩
  obtain ⟨⟨entries, -, hinspect⟩, hlength, hfile⟩ := encode_inspect h
  obtain ⟨-, hread⟩ := hinspect {} rfl
  refine ⟨h, hread.networkDevicePath, hlength, ?_⟩
  exact hfile {} _ "a.hex" ['\n'] rfl rfl (by decide) (.inr rfl) rfl

end BootTlv.Request
