import BootTlv.Number.Integer
import BootTlv.Toml.Scanner

/-!
# Dates and times of TOML

A date, a time of day, or both, and then possibly an offset. A date has to be in the calendar; a
minute may have a second 60.
-/

namespace BootTlv.Toml

/-! ## The calendar -/

/-- Whether a year has a 29th of February. -/
def isLeapYear (year : Nat) : Bool := year % 4 = 0 && (year % 100 ≠ 0 || year % 400 = 0)

/-- The number of days of a month. -/
def daysOfMonth (year month : Nat) : Nat :=
  match month with
  | 2 => if isLeapYear year then 29 else 28
  | 4 | 6 | 9 | 11 => 30
  | _ => 31

namespace Scanner

/-! ## Fields of digits -/

/-- A number of decimal digits, read as their value. -/
def decimals : Nat → Nat → Scanner Nat
  | 0, value => pure value
  | count + 1, value => do
    let c ← one Char.isDigit
    decimals count (10 * value + Number.digitValue c)

/-- Two digits with a value between two bounds. -/
def field (low high : Nat) : Scanner Unit := do
  let n ← decimals 2 0
  if low ≤ n ∧ n ≤ high then pure () else failure

/-! ## Dates and times -/

/-- A date of the calendar. -/
def date : Scanner Unit := do
  let year ← decimals 4 0
  char '-'
  let month ← decimals 2 0
  char '-'
  let day ← decimals 2 0
  if 1 ≤ month ∧ month ≤ 12 ∧ 1 ≤ day ∧ day ≤ daysOfMonth year month then pure () else failure

/-- A time of day, possibly with a fraction of a second. -/
def time : Scanner Unit := do
  field 0 23
  char ':'
  field 0 59
  char ':'
  field 0 60
  let _ ← maybe do
    char '.'
    let _ ← one Char.isDigit
    run Char.isDigit

/-- The distance from universal time. -/
def offset : Scanner Unit :=
  (do let _ ← one fun c => c == 'Z' || c == 'z') <|> do
    let _ ← one fun c => c == '+' || c == '-'
    field 0 23
    char ':'
    field 0 59

/-- A time after a date. -/
def timeOfDate : Scanner Unit := do
  let _ ← one fun c => c == 'T' || c == 't' || c == ' '
  time
  let _ ← maybe offset

/-- A date, a time or both. -/
def moment : Scanner Unit := (do date; let _ ← maybe timeOfDate) <|> time

end Scanner

end BootTlv.Toml
