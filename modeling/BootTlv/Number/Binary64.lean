import BootTlv.Number.Integer

/-!
# Binary floating-point numbers

The numbers of the 64-bit binary format, exactly: a sign, an integer of at most 53 bits and a power
of two, or one of the values that are no number. A decimal is read as the number nearest to it; of
two that are equally near it is read as the one whose integer is even. `roundQuotient` does the
rounding, and `roundQuotient_near` says that its error is at most one half.
-/

namespace BootTlv.Number

/-! ## Rounding quotients -/

/-- The integer nearest to a quotient; of two, the even one. -/
def roundQuotient (num den : Nat) : Nat :=
  let q := num / den
  let twice := 2 * (num % den)
  if twice < den then q else if den < twice then q + 1 else q + q % 2

theorem roundQuotient_near (num den : Nat) (h : 0 < den) :
    2 * num ≤ 2 * (roundQuotient num den * den) + den ∧
      2 * (roundQuotient num den * den) ≤ 2 * num + den := by
  have eq := Nat.div_add_mod num den
  have lt := Nat.mod_lt num h
  have odd := Nat.mod_lt (num / den) (show 0 < 2 by omega)
  unfold roundQuotient
  rw [Nat.mul_comm] at eq
  simp only
  split
  · omega
  · split
    · rw [Nat.add_mul, Nat.one_mul]; omega
    · rw [Nat.add_mul]
      rcases (show num / den % 2 = 0 ∨ num / den % 2 = 1 by omega) with h0 | h1
      · rw [h0]; omega
      · rw [h1]; omega

/-! ## Numbers -/

/-- A binary floating-point number of 64 bits. -/
inductive Binary64 where
  /-- An integer times a power of two, with a sign. -/
  | finite (negative : Bool) (significand : Nat) (exponent : Int)
  | infinite (negative : Bool)
  | notANumber
deriving DecidableEq

namespace Binary64

/-- The numerator and the denominator of a natural number times a power of a base. -/
def scaled (base n : Nat) (exponent : Int) : Nat × Nat :=
  if exponent < 0 then (n, Nat.pow base exponent.natAbs)
  else (n * Nat.pow base exponent.natAbs, 1)

/-- The exponent of the greatest power of two that is not above a positive quotient. -/
def binaryOrder (num den : Nat) : Int :=
  let order : Int := (Nat.log2 num : Int) - Nat.log2 den
  let scale := Nat.pow 2 order.natAbs
  let (n, d) := if order < 0 then (num * scale, den) else (num, den * scale)
  if n < d then order - 1 else order

/-- The number nearest to a positive quotient. -/
def ofQuotient (negative : Bool) (num den : Nat) : Binary64 :=
  let exponent := max (binaryOrder num den - 52) (-1074)
  let scale := Nat.pow 2 exponent.natAbs
  let significand :=
    if exponent < 0 then roundQuotient (num * scale) den else roundQuotient num (den * scale)
  if exponent + (Nat.log2 significand : Int) < 1024 then .finite negative significand exponent
  else .infinite negative

/-- The number nearest to a natural number times a power of ten. Far outside the range of the
format the answer is known from the size alone. -/
def ofDecimal (negative : Bool) (n : Nat) (exponent : Int) : Binary64 :=
  let size : Int := exponent + (Nat.log2 n : Int) / 4
  if n = 0 ∨ exponent + (Nat.log2 n : Int) < -400 then .finite negative 0 0
  else if 400 < size then .infinite negative
  else
    let (num, den) := scaled 10 n exponent
    ofQuotient negative num den

/-- Whether the number is zero. -/
def isZero : Binary64 → Bool
  | finite _ significand _ => significand = 0
  | _ => false

/-- The nearest unsigned number of 64 bits. A half is rounded up, what is below zero becomes zero,
and so does what is no number. -/
def toUnsigned : Binary64 → Nat
  | finite true _ _ => 0
  | finite false significand exponent =>
    let (num, den) := scaled 2 significand exponent
    min ((2 * num + den) / (2 * den)) maxUnsigned
  | infinite true => 0
  | infinite false => maxUnsigned
  | notANumber => 0

/-! ## Reading decimals -/

/-- The exponent after the letter `e`. -/
def exponent? : List Char → Option Int
  | '-' :: digits => if isDecimal digits then some (-(ofDigits 10 digits : Int)) else none
  | digits =>
    let digits := dropPlus digits
    if isDecimal digits then some (ofDigits 10 digits) else none

/-- The number of a decimal without a sign: digits with or without a point among them or at either
end, and possibly an exponent. -/
def unsignedText? (negative : Bool) (text : List Char) : Option Binary64 := do
  let whole := text.takeWhile Char.isDigit
  let rest := text.dropWhile Char.isDigit
  let (fraction, rest) := match rest with
    | '.' :: rest => (rest.takeWhile Char.isDigit, rest.dropWhile Char.isDigit)
    | rest => ([], rest)
  if whole.isEmpty && fraction.isEmpty then none
  let exponent ← match rest with
    | [] => some 0
    | 'e' :: rest => exponent? rest
    | _ => none
  return ofDecimal negative (ofDigits 10 (whole ++ fraction)) (exponent - fraction.length)

/-- The number that a text spells in either case: a decimal with or without a sign, `inf`,
`infinity` or `nan`. -/
def ofText? (text : List Char) : Option Binary64 :=
  let text := text.map Char.toLower
  let (negative, text) := match text with
    | '-' :: text => (true, text)
    | text => (false, dropPlus text)
  if text = ['i', 'n', 'f'] ∨ text = ['i', 'n', 'f', 'i', 'n', 'i', 't', 'y'] then
    some (.infinite negative)
  else if text = ['n', 'a', 'n'] then some .notANumber
  else unsignedText? negative text

end Binary64

end BootTlv.Number
