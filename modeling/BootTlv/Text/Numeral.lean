import BootTlv.Hex

/-!
# Numerals

Numbers as they stand in messages and reports: decimal without leading zeros, octets and words in
hexadecimal after `0x`.
-/

namespace BootTlv.Text

/-- Numbers with the same decimal digits are the same. -/
theorem toDigits_inj {n m : Nat} : Nat.toDigits 10 n = Nat.toDigits 10 m ↔ n = m := by
  constructor
  · intro h
    rw [← Nat.ofDigitChars_ten_toDigits (n := n), h, Nat.ofDigitChars_ten_toDigits]
  · rintro rfl
    rfl

/-- A number in decimal. -/
def decimal (n : Nat) : String := String.ofList (Nat.toDigits 10 n)

/-- An octet as two hexadecimal digits. -/
def hexOctet (b : UInt8) : String := "0x" ++ String.ofList (Hex.octet b)

/-- A word as four hexadecimal digits. -/
def hexWord (w : UInt16) : String := "0x" ++ String.ofList (Hex.word w)

/-- Octets as hexadecimal digits. -/
def hexOctets (bytes : List UInt8) : String := "0x" ++ String.ofList (Hex.encode bytes)

end BootTlv.Text
