import BootTlv.Inspector
import BootTlv.Proofs.Text.Utf8

/-!
# Hexadecimal input

The digits of a buffer are seven-bit characters and no white space, so what a file adds to them in
white space is dropped and the buffer is read back (`decodeInput_digits`), if the file is no longer
than files may be (`readBuffer_digits`). Four characters for each octet leave room for two digits,
and for one line end if there is an octet at all (`readBuffer_line`).
-/

namespace BootTlv

/-! ## Digits -/

namespace Hex

theorem length_encode (bytes : List UInt8) : (encode bytes).length = 2 * bytes.length := by
  induction bytes with
  | nil => rfl
  | cons b bytes ih =>
      rw [encode, List.flatMap_cons, ← encode, List.length_append, ih, List.length_cons]
      simp only [octet, List.length_cons, List.length_nil]
      omega

theorem utf8_encode (bytes : List UInt8) :
    Utf8.encode (encode bytes) = (encode bytes).map fun c => UInt8.ofNat c.toNat := by
  have hseven : ∀ n : Fin 16, (Nat.digitChar n).toNat < 0x80 := by decide
  refine Utf8.encode_of_lt fun c hc => ?_
  obtain ⟨n, rfl⟩ := exists_digit_of_mem_encode hc
  exact hseven n

theorem length_utf8_encode (bytes : List UInt8) :
    (Utf8.encode (encode bytes)).length = 2 * bytes.length := by
  rw [utf8_encode, List.length_map, length_encode]

theorem decode_utf8_encode (bytes : List UInt8) :
    decode (Utf8.encode (encode bytes)) = .ok bytes := by
  rw [decode, length_utf8_encode, if_neg (by omega), utf8_encode, decodeFrom_encode]

end Hex

/-! ## Files -/

namespace Inspector

theorem filter_digits (buffer : List UInt8) :
    (Utf8.encode (Hex.encode buffer)).filter (!isHexSpace ·) = Utf8.encode (Hex.encode buffer) := by
  have hshown : ∀ n : Fin 16, (!isHexSpace (UInt8.ofNat (Nat.digitChar n).toNat)) = true := by
    decide
  rw [List.filter_eq_self, Hex.utf8_encode]
  intro b hb
  obtain ⟨c, hc, rfl⟩ := List.mem_map.mp hb
  obtain ⟨n, rfl⟩ := Hex.exists_digit_of_mem_encode hc
  exact hshown n

theorem within_of_le {length limit : Nat} (h : length ≤ limit) : within length limit = .ok () :=
  if_neg (Nat.not_lt.mpr h)

/-- White space behind the digits of a buffer is not read. -/
theorem decodeInput_digits {settings : Settings} (hformat : settings.inputFormat = .hex)
    {buffer spaces : List UInt8} (hlength : buffer.length ≤ settings.maxLength.toNat)
    (hspaces : ∀ b ∈ spaces, isHexSpace b = true) :
    decodeInput settings (Utf8.encode (Hex.encode buffer) ++ spaces) = .ok buffer := by
  have hdigits : (Utf8.encode (Hex.encode buffer) ++ spaces).filter (!isHexSpace ·) =
      Utf8.encode (Hex.encode buffer) := by
    have hnone : spaces.filter (!isHexSpace ·) = [] := by
      simpa [List.filter_eq_nil_iff] using hspaces
    rw [List.filter_append, filter_digits, hnone, List.append_nil]
  have hhalf : (Utf8.encode (Hex.encode buffer)).length / 2 = buffer.length := by
    rw [Hex.length_utf8_encode]
    omega
  rw [decodeInput, hformat]
  dsimp only
  rw [hdigits, hhalf, within_of_le hlength, Hex.decode_utf8_encode]
  rfl

theorem readBuffer_digits {settings : Settings} (hformat : settings.inputFormat = .hex)
    {buffer spaces : List UInt8} (hlength : buffer.length ≤ settings.maxLength.toNat)
    (hspaces : ∀ b ∈ spaces, isHexSpace b = true)
    (hfile : 2 * buffer.length + spaces.length ≤ maxFileLength settings)
    {files : Files} {path : String}
    (hcontent : files path = .ok (Utf8.encode (Hex.encode buffer) ++ spaces)) :
    readBuffer settings files path = .ok buffer := by
  have hwithin : within (Utf8.encode (Hex.encode buffer) ++ spaces).length
      (maxFileLength settings) = .ok () := by
    refine within_of_le ?_
    rwa [List.length_append, Hex.length_utf8_encode]
  have haccept : accept settings (Utf8.encode (Hex.encode buffer) ++ spaces) = .ok buffer := by
    rw [accept, hwithin]
    exact decodeInput_digits hformat hlength hspaces
  rw [readBuffer, hcontent]
  exact haccept

/-- The digits of a buffer are read with a line end behind them or without one. -/
theorem readBuffer_line {settings : Settings} (hformat : settings.inputFormat = .hex)
    {buffer : List UInt8} (hlength : buffer.length ≤ settings.maxLength.toNat)
    (hpos : 0 < buffer.length) (hsmall : 2 * buffer.length < Number.maxUnsigned)
    {ending : List Char} (hending : ending = [] ∨ ending = ['\n'])
    {files : Files} {path : String}
    (hcontent : files path = .ok (Utf8.encode (Hex.encode buffer ++ ending))) :
    readBuffer settings files path = .ok buffer := by
  have hoctets : Utf8.encode ending = [] ∨ Utf8.encode ending = [0x0A] := by
    rcases hending with rfl | rfl
    · exact .inl rfl
    · exact .inr rfl
  have hspaces : ∀ b ∈ Utf8.encode ending, isHexSpace b = true := by
    intro b hb
    rcases hoctets with hnil | hnewline
    · rw [hnil] at hb
      cases hb
    · rw [hnewline] at hb
      rw [List.mem_singleton.mp hb]
      rfl
  have hshort : (Utf8.encode ending).length ≤ 1 := by
    rcases hoctets with hnil | hnewline
    · rw [hnil]
      exact Nat.zero_le 1
    · rw [hnewline]
      exact Nat.le_refl 1
  -- The first octet of the buffer leaves room for the line end.
  have hfile : 2 * buffer.length + (Utf8.encode ending).length ≤ maxFileLength settings := by
    rw [maxFileLength, hformat]
    simp only [Nat.le_min]
    omega
  rw [Utf8.encode_append] at hcontent
  exact readBuffer_digits hformat hlength hspaces hfile hcontent

end Inspector

end BootTlv
