import BootTlv.Proofs.Hex.Spelling
import BootTlv.Proofs.Inspector.HexInput

/-!
# Admission of buffers

A file is measured twice before it is decoded: its octets when it is opened, and the octets of the
buffer when its white space is gone. The first measure is taken in characters, of which hexadecimal
text has four for each octet of the largest buffer, and the second one in octets. The second measure
alone bounds what is decoded (`length_le_of_accept`); the first one refuses nothing that it admits,
as long as no more than half of the characters are white space (`readBuffer_bounded`).
-/

namespace BootTlv.Inspector

variable {settings : Settings} {raw buffer : List UInt8}

/-! ## What a content stands for -/

/-- The content of a file stands for a buffer: octet by octet, or as a spelling of it between white
space. -/
inductive StandsFor (settings : Settings) (raw : List UInt8) : List UInt8 → Prop where
  | binary (hformat : settings.inputFormat = .binary) : StandsFor settings raw raw
  | hex {buffer : List UInt8} (hformat : settings.inputFormat = .hex)
      (hspells : Hex.Spells (raw.filter (!isHexSpace ·)) buffer) : StandsFor settings raw buffer

theorem within_of_lt {length limit : Nat} (h : limit < length) :
    within length limit = .error (.inputTooLarge length limit) := if_pos h

theorem decodeInput_binary (hformat : settings.inputFormat = .binary) :
    decodeInput settings raw =
      if settings.maxLength.toNat < raw.length then
        .error (.inputTooLarge raw.length settings.maxLength.toNat)
      else .ok raw := by
  rw [decodeInput, hformat]
  dsimp only
  split
  · next h =>
      rw [within_of_lt h]
      rfl
  · next h =>
      rw [within_of_le (Nat.le_of_not_lt h)]
      rfl

theorem decodeInput_hex (hformat : settings.inputFormat = .hex) :
    decodeInput settings raw =
      if settings.maxLength.toNat < (raw.filter (!isHexSpace ·)).length / 2 then
        .error (.inputTooLarge ((raw.filter (!isHexSpace ·)).length / 2) settings.maxLength.toNat)
      else (Hex.decode (raw.filter (!isHexSpace ·))).mapError .badHex := by
  rw [decodeInput, hformat]
  dsimp only
  split
  · next h =>
      rw [within_of_lt h]
      rfl
  · next h =>
      rw [within_of_le (Nat.le_of_not_lt h)]
      rfl

/-- A content is decoded as what it stands for, if that is no longer than the limit. -/
theorem decodeInput_eq_ok_iff :
    decodeInput settings raw = .ok buffer ↔
      StandsFor settings raw buffer ∧ buffer.length ≤ settings.maxLength.toNat := by
  cases hformat : settings.inputFormat with
  | binary =>
      rw [decodeInput_binary hformat]
      constructor
      · intro h
        split at h
        · cases h
        · next hlength =>
            cases h
            exact ⟨.binary hformat, Nat.le_of_not_lt hlength⟩
      · rintro ⟨hstands, hlength⟩
        cases hstands with
        | binary => exact if_neg (Nat.not_lt.mpr hlength)
        | hex hhex =>
            rw [hformat] at hhex
            cases hhex
  | hex =>
      rw [decodeInput_hex hformat]
      constructor
      · intro h
        split at h
        · cases h
        · next hlength =>
            have hspells := Hex.decode_eq_ok_iff.mp (Except.mapError_eq_ok_iff.mp h)
            rw [hspells.length] at hlength
            exact ⟨.hex hformat hspells, by omega⟩
      · rintro ⟨hstands, hlength⟩
        cases hstands with
        | binary hbinary =>
            rw [hformat] at hbinary
            cases hbinary
        | hex _ hspells =>
            rw [hspells.length, if_neg (by omega), Hex.decode_eq_ok_iff.mpr hspells]
            rfl

/-! ## Files -/

theorem accept_eq :
    accept settings raw =
      if maxFileLength settings < raw.length then
        .error (.inputTooLarge raw.length (maxFileLength settings))
      else decodeInput settings raw := by
  rw [accept]
  split
  · next h =>
      rw [within_of_lt h]
      rfl
  · next h =>
      rw [within_of_le (Nat.le_of_not_lt h)]
      rfl

theorem accept_eq_ok_iff :
    accept settings raw = .ok buffer ↔
      raw.length ≤ maxFileLength settings ∧ StandsFor settings raw buffer ∧
        buffer.length ≤ settings.maxLength.toNat := by
  rw [accept_eq, ← decodeInput_eq_ok_iff]
  constructor
  · intro h
    split at h
    · cases h
    · next hlength => exact ⟨Nat.le_of_not_lt hlength, h⟩
  · rintro ⟨hlength, h⟩
    rw [if_neg (Nat.not_lt.mpr hlength)]
    exact h

theorem readBuffer_eq_ok_iff {files : Files} {path : String} :
    readBuffer settings files path = .ok buffer ↔
      ∃ raw, files path = .ok raw ∧ accept settings raw = .ok buffer := by
  rw [readBuffer, Except.bind_eq_ok_iff]
  simp only [Except.mapError_eq_ok_iff]

/-- A spelling with at most as much white space as digits is no longer than files may be. -/
theorem length_le_maxFileLength (hformat : settings.inputFormat = .hex)
    (hspells : Hex.Spells (raw.filter (!isHexSpace ·)) buffer)
    (hlength : buffer.length ≤ settings.maxLength.toNat)
    (hspaces : raw.countP isHexSpace ≤ 2 * buffer.length)
    (hraw : raw.length ≤ Number.maxUnsigned) : raw.length ≤ maxFileLength settings := by
  have hparts : raw.length = raw.countP isHexSpace + (raw.filter (!isHexSpace ·)).length := by
    rw [← List.countP_eq_length_filter, List.length_eq_countP_add_countP isHexSpace]
    simp only [decide_not, Bool.decide_eq_true]
  rw [hspells.length] at hparts
  rw [maxFileLength, hformat]
  exact Nat.le_min.mpr ⟨by omega, hraw⟩

/-- **No oversized buffer is decoded, and measuring the file refuses nothing else.** What is read
from a file is within the limit, and so is all that is inspected. A binary file is refused when it is
longer than the limit. A hexadecimal one is refused as a file when it has more than four characters
for each octet of the limit, and otherwise its content decides; so every spelling of a buffer within
the limit is read if it has at most as much white space as digits. (A file has at most 2^64 - 1
octets.) -/
theorem readBuffer_bounded {files : Files} {path : String} (hcontent : files path = .ok raw) :
    (∀ buffer, readBuffer settings files path = .ok buffer →
      buffer.length ≤ settings.maxLength.toNat) ∧
    (∀ inspection, inspectFile settings files path = .ok inspection →
      ∃ buffer, buffer.length ≤ settings.maxLength.toNat ∧
        inspection = inspect settings buffer) ∧
    (settings.inputFormat = .binary →
      readBuffer settings files path =
        if raw.length ≤ settings.maxLength.toNat then .ok raw
        else .error (.inputTooLarge raw.length settings.maxLength.toNat)) ∧
    (settings.inputFormat = .hex →
      (readBuffer settings files path =
        if min (4 * settings.maxLength.toNat) Number.maxUnsigned < raw.length then
          .error (.inputTooLarge raw.length
            (min (4 * settings.maxLength.toNat) Number.maxUnsigned))
        else decodeInput settings raw) ∧
      ∀ buffer, Hex.Spells (raw.filter (!isHexSpace ·)) buffer →
        buffer.length ≤ settings.maxLength.toNat → raw.countP isHexSpace ≤ 2 * buffer.length →
        raw.length ≤ Number.maxUnsigned → readBuffer settings files path = .ok buffer) := by
  have hread : readBuffer settings files path = accept settings raw := by
    rw [readBuffer, hcontent]
    rfl
  have hbound : ∀ buffer, readBuffer settings files path = .ok buffer →
      buffer.length ≤ settings.maxLength.toNat := by
    intro buffer h
    rw [hread] at h
    exact (accept_eq_ok_iff.mp h).2.2
  refine ⟨hbound, ?_, ?_, ?_⟩
  · intro inspection h
    obtain ⟨buffer, hbuffer, rfl⟩ := Except.map_eq_ok_iff.mp h
    exact ⟨buffer, hbound buffer hbuffer, rfl⟩
  · intro hformat
    rw [hread, accept_eq, decodeInput_binary hformat, maxFileLength, hformat]
    dsimp only
    by_cases hlength : raw.length ≤ settings.maxLength.toNat
    · rw [if_neg (Nat.not_lt.mpr hlength), if_neg (Nat.not_lt.mpr hlength), if_pos hlength]
    · rw [if_pos (Nat.lt_of_not_le hlength), if_neg hlength]
  · intro hformat
    refine ⟨?_, ?_⟩
    · rw [hread, accept_eq, maxFileLength, hformat]
    · intro buffer hspells hlength hspaces hraw
      rw [hread]
      refine accept_eq_ok_iff.mpr ⟨?_, .hex hformat hspells, hlength⟩
      exact length_le_maxFileLength hformat hspells hlength hspaces hraw

/-- Two octets in digits of both cases, with four octets of white space, two of them inside an
octet. -/
def spacedDigits : List UInt8 := [0x34, 0x20, 0x41, 0x0A, 0x36, 0x09, 0x66, 0x0A]

theorem readBuffer_bounded_spacedDigits :
    readBuffer { maxLength := 2 } (fun _ => .ok spacedDigits) "a.hex" = .ok [0x4A, 0x6F] ∧
      readBuffer { maxLength := 7, inputFormat := .binary } (fun _ => .ok spacedDigits) "a.bin" =
        .error (.inputTooLarge 8 7) := by
  have hspells : Hex.Spells (spacedDigits.filter (!isHexSpace ·)) [0x4A, 0x6F] :=
    .cons (.inl rfl) (.inr rfl) (.cons (.inl rfl) (.inl rfl) .nil)
  constructor
  · obtain ⟨-, -, -, hhex⟩ :=
      @readBuffer_bounded { maxLength := 2 } _ (fun _ => .ok spacedDigits) "a.hex" rfl
    exact (hhex rfl).2 _ hspells (by decide) (by decide) (by decide)
  · obtain ⟨-, -, hbinary, -⟩ := @readBuffer_bounded
      { maxLength := 7, inputFormat := .binary } _ (fun _ => .ok spacedDigits) "a.bin" rfl
    exact hbinary rfl

end BootTlv.Inspector
