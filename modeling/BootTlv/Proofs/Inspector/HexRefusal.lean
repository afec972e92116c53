import BootTlv.Proofs.Inspector.Admission

/-!
# What hexadecimal input stands for

White space is taken out of hexadecimal input before anything is looked at, so all that is said of an
input is said of the digits that are left: which buffer they spell, whether there are too many of
them, and the position of the first one that is none (`decodeInput_exact`). Neither white space, which
may stand between the two digits of an octet, nor the case of the digits makes a difference to an
input that stands for a buffer.
-/

namespace BootTlv.Inspector

variable {settings : Settings} {raw : List UInt8}

/-- Why the digits of an input stand for no buffer within a limit. Half of a digit too many is not
counted. -/
inductive HexRefused (limit : Nat) (digits : List UInt8) : Failure → Prop where
  | tooLarge (hlength : limit < digits.length / 2) :
      HexRefused limit digits (.inputTooLarge (digits.length / 2) limit)
  | badHex (hlength : digits.length / 2 ≤ limit) {fault : Hex.Fault}
      (h : Hex.Refused digits fault) : HexRefused limit digits (.badHex fault)

theorem decodeInput_eq_error_iff (hformat : settings.inputFormat = .hex) {failure : Failure} :
    decodeInput settings raw = .error failure ↔
      HexRefused settings.maxLength.toNat (raw.filter (!isHexSpace ·)) failure := by
  rw [decodeInput_hex hformat]
  constructor
  · intro h
    split at h
    · next hlength =>
        cases h
        exact .tooLarge hlength
    · next hlength =>
        obtain ⟨fault, hdecode, rfl⟩ := Except.mapError_eq_error_iff.mp h
        exact .badHex (Nat.le_of_not_lt hlength) (Hex.decode_eq_error_iff.mp hdecode)
  · intro h
    cases h with
    | tooLarge hlength => exact if_pos hlength
    | badHex hlength h =>
        rw [if_neg (Nat.not_lt.mpr hlength)]
        exact Except.mapError_eq_error_iff.mpr ⟨_, Hex.decode_eq_error_iff.mpr h, rfl⟩

theorem decodeInput_eq_ok_iff_spells (hformat : settings.inputFormat = .hex)
    {buffer : List UInt8} :
    decodeInput settings raw = .ok buffer ↔
      Hex.Spells (raw.filter (!isHexSpace ·)) buffer ∧
        buffer.length ≤ settings.maxLength.toNat := by
  rw [decodeInput_eq_ok_iff]
  refine and_congr_left fun _ => ⟨?_, StandsFor.hex hformat⟩
  intro h
  cases h with
  | binary hbinary =>
      rw [hformat] at hbinary
      cases hbinary
  | hex _ hspells => exact hspells

/-- **Hexadecimal input is decoded exactly.** An input stands for a buffer if its digits spell one
within the limit, in any mix of cases, and then so does every input with the same digits but for
white space and case. Any other input is refused: for the number of its digits if they are too many,
for an odd number of them, or for the first one that is no digit, in this order. -/
theorem decodeInput_exact (hformat : settings.inputFormat = .hex) :
    (∀ buffer, decodeInput settings raw = .ok buffer ↔
      Hex.Spells (raw.filter (!isHexSpace ·)) buffer ∧
        buffer.length ≤ settings.maxLength.toNat) ∧
    (∀ buffer other, (other.filter (!isHexSpace ·)).map Hex.toLower =
        (raw.filter (!isHexSpace ·)).map Hex.toLower →
      decodeInput settings raw = .ok buffer → decodeInput settings other = .ok buffer) ∧
    ∀ failure, decodeInput settings raw = .error failure ↔
      HexRefused settings.maxLength.toNat (raw.filter (!isHexSpace ·)) failure := by
  refine ⟨?_, ?_, ?_⟩
  · intro buffer
    exact decodeInput_eq_ok_iff_spells hformat
  · intro buffer other heq h
    obtain ⟨hspells, hlength⟩ := (decodeInput_eq_ok_iff_spells hformat).mp h
    exact (decodeInput_eq_ok_iff_spells hformat).mpr ⟨hspells.of_map_toLower_eq heq, hlength⟩
  · intro failure
    exact decodeInput_eq_error_iff hformat

/-- The octets `4A` and `6F` as lines of one digit and as one word, and an input of which the third
digit is `g`. -/
theorem decodeInput_exact_lines :
    decodeInput { maxLength := 2 } [0x34, 0x0A, 0x61, 0x0A, 0x36, 0x0A, 0x46, 0x0A] =
        .ok [0x4A, 0x6F] ∧
      decodeInput { maxLength := 2 } [0x34, 0x41, 0x36, 0x66] = .ok [0x4A, 0x6F] ∧
      decodeInput { maxLength := 2 } [0x34, 0x20, 0x61, 0x67, 0x46] =
        .error (.badHex (.badDigit 0x67 2)) := by
  obtain ⟨hok, hsame, -⟩ :=
    @decodeInput_exact { maxLength := 2 } [0x34, 0x0A, 0x61, 0x0A, 0x36, 0x0A, 0x46, 0x0A] rfl
  obtain ⟨-, -, herror⟩ :=
    @decodeInput_exact { maxLength := 2 } [0x34, 0x20, 0x61, 0x67, 0x46] rfl
  have hspells : Hex.Spells [0x34, 0x61, 0x36, 0x46] [0x4A, 0x6F] :=
    .cons (.inl rfl) (.inl rfl) (.cons (.inl rfl) (.inr rfl) .nil)
  have hlines := (hok _).mpr ⟨hspells, by decide⟩
  refine ⟨hlines, hsame _ _ rfl hlines, (herror _).mpr ?_⟩
  have hbefore : ∀ c ∈ ([0x34, 0x61] : List UInt8), Hex.IsHexDigit c := by
    rw [List.forall_mem_cons, List.forall_mem_singleton]
    exact ⟨⟨4, by decide, .inl rfl⟩, ⟨10, by decide, .inl rfl⟩⟩
  have hbad : ¬ Hex.IsHexDigit 0x67 := Hex.digit?_eq_none_iff.mp rfl
  show HexRefused 2 _ (.badHex (.badDigit 0x67 [0x34, 0x61].length))
  exact .badHex (by decide) (.badDigit rfl rfl hbefore hbad)

end BootTlv.Inspector
