import BootTlv.Text.Blank
import BootTlv.Text.GraphemeBase

/-!
# Quoted text

Text between two delimiters, on one line and without characters that a terminal would act on. The
delimiter and the backslash are written after a backslash; tab, line feed, carriage return and NUL
have escapes of a letter or a digit. Characters that are seen on their own are written as they are,
as is the space. Every other character is written as its code point in braces, in lower-case
hexadecimal.
-/

namespace BootTlv.Text

/-- A base character that is drawn as nothing: the four Hangul fillers. -/
def isFiller (c : Char) : Bool :=
  c == '\u115F' || c == '\u1160' || c == '\u3164' || c == '\uFFA0'

/-- The two sound marks of halfwidth katakana, which extend the character before them but are drawn
in a cell of their own. -/
def isHalfwidthMark (c : Char) : Bool := c == '\uFF9E' || c == '\uFF9F'

/-- Whether a character is written as it is. -/
def isShown (c : Char) : Bool :=
  isHalfwidthMark c || (isGraphemeBase c && (c == ' ' || !isBlank c) && !isFiller c)

/-- A control character is not written as it is. -/
theorem not_isShown_of_control {c : Char} (h : isControl c = true) : isShown c = false := by
  have mark : isHalfwidthMark c = false := by
    refine Bool.eq_false_iff.2 fun hm => ?_
    simp only [isHalfwidthMark, Bool.or_eq_true, beq_iff_eq] at hm
    rcases hm with rfl | rfl <;> revert h <;> decide
  simp [isShown, mark, not_isGraphemeBase_of_control h]

/-- One character of a quoted text. -/
def escape (delimiter c : Char) : List Char :=
  if c = '\x00' then ['\\', '0']
  else if c = '\t' then ['\\', 't']
  else if c = '\r' then ['\\', 'r']
  else if c = '\n' then ['\\', 'n']
  else if c = '\\' then ['\\', '\\']
  else if c = delimiter then ['\\', c]
  else if isShown c then [c]
  else ['\\', 'u', '\x7b'] ++ Nat.toDigits 16 c.toNat ++ ['\x7d']

/-- The text between delimiters. -/
def quoted (delimiter : Char) (text : List Char) : List Char :=
  delimiter :: text.flatMap (escape delimiter) ++ [delimiter]

end BootTlv.Text
