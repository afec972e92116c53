/-!
# UTF-8

A character is one to four octets: a lead octet that carries the first bits of the code point and
says how many octets follow, then octets from 0x80 to 0xBF with six bits each. After some leads the
second octet has a narrower range, which keeps out spellings that are too long, surrogates and code
points above 0x10FFFF.

Octets that are no character are damage. `parts` cuts a list of octets into characters and maximal
damaged parts: a part of damage is as much of one character as could be read before it went wrong,
and at least one octet. The strict reading refuses damage, the lossy one shows each part of it as
U+FFFD.
-/

namespace BootTlv.Utf8

/-! ## Writing -/

/-- The octets of a character. -/
def encodeChar (c : Char) : List UInt8 :=
  let n := c.toNat
  if n < 0x80 then [UInt8.ofNat n]
  else if n < 0x800 then [UInt8.ofNat (0xC0 + n / 64), UInt8.ofNat (0x80 + n % 64)]
  else if n < 0x10000 then
    [UInt8.ofNat (0xE0 + n / 4096), UInt8.ofNat (0x80 + n / 64 % 64), UInt8.ofNat (0x80 + n % 64)]
  else
    [UInt8.ofNat (0xF0 + n / 262144), UInt8.ofNat (0x80 + n / 4096 % 64),
      UInt8.ofNat (0x80 + n / 64 % 64), UInt8.ofNat (0x80 + n % 64)]

/-- The octets of a text. -/
def encode (text : List Char) : List UInt8 := text.flatMap encodeChar

/-! ## Reading one part -/

/-- What a lead octet says: its bits of the code point, how many octets follow, and the least and
the greatest value of the next one. -/
structure Lead where
  bits : Nat
  follow : Nat
  low : Nat
  high : Nat

/-- The reading of a lead octet, if the octet can begin a character. -/
def lead? (b : UInt8) : Option Lead :=
  let n := b.toNat
  if n < 0x80 then some ⟨n, 0, 0x80, 0xBF⟩
  else if n < 0xC2 then none
  else if n < 0xE0 then some ⟨n - 0xC0, 1, 0x80, 0xBF⟩
  else if n = 0xE0 then some ⟨0, 2, 0xA0, 0xBF⟩
  else if n = 0xED then some ⟨0xD, 2, 0x80, 0x9F⟩
  else if n < 0xF0 then some ⟨n - 0xE0, 2, 0x80, 0xBF⟩
  else if n = 0xF0 then some ⟨0, 3, 0x90, 0xBF⟩
  else if n < 0xF4 then some ⟨n - 0xF0, 3, 0x80, 0xBF⟩
  else if n = 0xF4 then some ⟨4, 3, 0x80, 0x8F⟩
  else none

/-- Reads the octets that have to follow a lead, and what is left after the last that fits. -/
def follow : (count low high bits : Nat) → List UInt8 → Option Nat × List UInt8
  | 0, _, _, bits, rest => (some bits, rest)
  | _ + 1, _, _, _, [] => (none, [])
  | count + 1, low, high, bits, b :: rest =>
    if low ≤ b.toNat ∧ b.toNat ≤ high then
      follow count 0x80 0xBF (bits * 64 + (b.toNat - 0x80)) rest
    else (none, b :: rest)

/-- The part that begins with the octet: a character, or nothing for damage. -/
def part (b : UInt8) (rest : List UInt8) : Option Char × List UInt8 :=
  match lead? b with
  | none => (none, rest)
  | some l =>
    let (point, rest) := follow l.follow l.low l.high l.bits rest
    (point.map Char.ofNat, rest)

theorem length_follow_le (count low high bits : Nat) (rest : List UInt8) :
    (follow count low high bits rest).2.length ≤ rest.length := by
  fun_induction follow count low high bits rest <;> simp
  omega

theorem length_part_le (b : UInt8) (rest : List UInt8) :
    (part b rest).2.length ≤ rest.length := by
  unfold part
  split
  · simp
  · exact length_follow_le ..

/-! ## Reading a text -/

/-- The characters and the parts of damage, in order. -/
def parts : List UInt8 → List (Option Char)
  | [] => []
  | b :: rest => (part b rest).1 :: parts (part b rest).2
termination_by bytes => bytes.length
decreasing_by exact Nat.lt_succ_of_le (length_part_le b rest)

/-- The text of octets that hold no damage. -/
def decode? (bytes : List UInt8) : Option (List Char) := (parts bytes).mapM id

/-- The text of any octets, with U+FFFD for each part of damage. -/
def lossy (bytes : List UInt8) : List Char := (parts bytes).map (·.getD '\uFFFD')

end BootTlv.Utf8
