import BootTlv.Toml.Lexeme
import BootTlv.Toml.Moment
import BootTlv.Toml.Value

/-!
# Scalars of TOML

Strings, flags, dates and times, floats and integers. Digits may be grouped by single underscores;
a decimal integer has no leading zero. An integer has 64 bits with a sign. A float above the range
of the format is refused and one below it is an infinity.
-/

namespace BootTlv.Toml.Scanner

/-! ## Digits -/

/-- Digits of a class with single underscores between them, which are left out. -/
def digits (p : Char → Bool) : Scanner (List Char) := do
  let first ← one p
  let others ← many (one p <|> (do char '_'; one p))
  pure (first :: others)

/-- Whether a minus sign comes first; either sign is read. -/
def sign : Scanner Bool := do
  match ← maybe (one fun c => c == '+' || c == '-') with
  | some '-' => pure true
  | _ => pure false

/-- The digits of a decimal integer: zero alone or digits without a leading zero. -/
def wholeDigits : Scanner (List Char) := (do char '0'; pure ['0']) <|> digits Char.isDigit

/-! ## Numbers -/

/-- An integer of a base after its mark. -/
def based (m : Char) (base : Nat) (p : Char → Bool) : Scanner Int := do
  mark ['0', m]
  let ds ← digits p
  pure (Number.ofDigits base ds)

/-- A decimal integer. -/
def decimalInteger : Scanner Int := do
  let negative ← sign
  let ds ← wholeDigits
  pure (if negative then -(Number.ofDigits 10 ds : Int) else Number.ofDigits 10 ds)

/-- An integer. -/
def integer : Scanner Int := do
  let n ← based 'x' 16 isHexDigit <|> based 'o' 8 (fun c => '0' ≤ c && c ≤ '7') <|>
    based 'b' 2 (fun c => c == '0' || c == '1') <|> decimalInteger
  if Number.isSigned n then pure n else failure

/-- The exponent of a float. -/
def exponent : Scanner Int := do
  let _ ← one fun c => c == 'e' || c == 'E'
  let negative ← sign
  let ds ← digits Char.isDigit
  pure (if negative then -(Number.ofDigits 10 ds : Int) else Number.ofDigits 10 ds)

/-- The digits after the point of a float. -/
def fraction : Scanner (List Char) := do
  char '.'
  digits Char.isDigit

/-- A float with a point, an exponent or both. -/
def decimalFloat : Scanner Number.Binary64 := do
  let negative ← sign
  let whole ← wholeDigits
  let part ← maybe fraction
  let power ← maybe exponent
  if part.isNone && power.isNone then failure
  let places := part.getD []
  let x := Number.Binary64.ofDecimal negative (Number.ofDigits 10 (whole ++ places))
    (power.getD 0 - places.length)
  if x = .infinite false then failure else pure x

/-- An infinity or what is no number. -/
def specialFloat : Scanner Number.Binary64 := do
  let negative ← sign
  (do mark ['i', 'n', 'f']; pure (.infinite negative)) <|>
    (do mark ['n', 'a', 'n']; pure .notANumber)

/-! ## Scalars -/

/-- A flag. -/
def flag : Scanner Bool :=
  (do mark ['t', 'r', 'u', 'e']; pure true) <|> (do mark ['f', 'a', 'l', 's', 'e']; pure false)

/-- A value that holds no other values. -/
def scalar : Scanner Value :=
  Value.text <$> string <|> Value.flag <$> flag <|> (do moment; pure .moment) <|>
    Value.float <$> decimalFloat <|> Value.float <$> specialFloat <|> Value.integer <$> integer

end BootTlv.Toml.Scanner
