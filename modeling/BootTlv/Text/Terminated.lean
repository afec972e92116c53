/-!
# Terminated text

Firmware may end a text with a zero octet. One such octet at the end is no part of the text.
-/

namespace BootTlv.Text

/-- The octets of a text without the terminator. -/
def unterminated (bytes : List UInt8) : List UInt8 :=
  if bytes.getLast? = some 0 then bytes.dropLast else bytes

theorem unterminated_append_zero (bytes : List UInt8) : unterminated (bytes ++ [0]) = bytes := by
  simp [unterminated]

theorem unterminated_of_getLast?_ne {bytes : List UInt8} (h : bytes.getLast? ≠ some 0) :
    unterminated bytes = bytes := if_neg h

end BootTlv.Text
