/-!
# Reading integers

The value of a run of digits, and the texts of integers of 64 bits. A sign may stand before the
digits: `+` everywhere, `-` where the number may be negative.
-/

namespace BootTlv.Number

/-- The value of a digit in a base of at most sixteen. -/
def digitValue (c : Char) : Nat :=
  if c.isDigit then c.toNat - 48
  else if 'a' ≤ c ∧ c ≤ 'f' then c.toNat - 87
  else c.toNat - 55

/-- The value of a run of digits, the most significant first. -/
def ofDigits (base : Nat) (digits : List Char) : Nat :=
  digits.foldl (fun n c => base * n + digitValue c) 0

/-- Whether a text is a run of decimal digits. -/
def isDecimal (text : List Char) : Bool := !text.isEmpty && text.all Char.isDigit

/-- The greatest unsigned number of 64 bits. -/
def maxUnsigned : Nat := 18446744073709551615

/-- Whether a number has 64 bits with a sign. -/
def isSigned (n : Int) : Bool := -9223372036854775808 ≤ n && n ≤ 9223372036854775807

/-- The text without a plus sign at its start. -/
def dropPlus : List Char → List Char
  | '+' :: digits => digits
  | digits => digits

/-- The unsigned number of 64 bits that a text spells. -/
def unsigned? (text : List Char) : Option Nat :=
  let digits := dropPlus text
  if isDecimal digits && ofDigits 10 digits ≤ maxUnsigned then some (ofDigits 10 digits) else none

/-- The signed number of 64 bits that a text spells. -/
def signed? (text : List Char) : Option Int :=
  let (negative, digits) := match text with
    | '-' :: digits => (true, digits)
    | digits => (false, dropPlus digits)
  let n : Int := if negative then -(ofDigits 10 digits : Int) else ofDigits 10 digits
  if isDecimal digits && isSigned n then some n else none

end BootTlv.Number
