/-!
# Hexadecimal text

Two digits per octet, the high digit first. Writing uses lower-case digits; reading takes either
case. `decode_encode` says that what is written is read back.

The digits are read from octets, because the text comes from a file that may hold anything. Of the
two ways to fail an odd number of digits is found first.
-/

namespace BootTlv.Hex

/-! ## Writing -/

/-- The two digits of an octet. -/
def octet (b : UInt8) : List Char := [Nat.digitChar (b.toNat / 16), Nat.digitChar (b.toNat % 16)]

/-- The digits of a list of octets. -/
def encode (bytes : List UInt8) : List Char := bytes.flatMap octet

/-- The four digits of a word. -/
def word (w : UInt16) : List Char :=
  octet (UInt8.ofNat (w.toNat / 256)) ++ octet (UInt8.ofNat (w.toNat % 256))

theorem exists_digit_of_mem_encode {bytes : List UInt8} {c : Char} (h : c ∈ encode bytes) :
    ∃ n : Fin 16, c = Nat.digitChar n := by
  obtain ⟨b, -, hc⟩ := List.mem_flatMap.mp h
  have hb := b.toNat_lt
  simp only [octet, List.mem_cons, List.not_mem_nil, or_false] at hc
  rcases hc with rfl | rfl
  · exact ⟨⟨b.toNat / 16, by omega⟩, rfl⟩
  · exact ⟨⟨b.toNat % 16, by omega⟩, rfl⟩

/-! ## Reading -/

/-- Why a text is no hexadecimal text. -/
inductive Fault where
  | oddLength
  | badDigit (octet : UInt8) (position : Nat)
deriving DecidableEq

/-- The value of a digit. -/
def digit? (b : UInt8) : Option Nat :=
  let n := b.toNat
  if 0x30 ≤ n ∧ n ≤ 0x39 then some (n - 0x30)
  else if 0x61 ≤ n ∧ n ≤ 0x66 then some (n - 0x61 + 10)
  else if 0x41 ≤ n ∧ n ≤ 0x46 then some (n - 0x41 + 10)
  else none

/-- Reads pairs of digits, the first of which stands at a position. -/
def decodeFrom (position : Nat) : List UInt8 → Except Fault (List UInt8)
  | [] => .ok []
  | [_] => .error .oddLength
  | high :: low :: rest =>
    match digit? high, digit? low with
    | none, _ => .error (.badDigit high position)
    | some _, none => .error (.badDigit low (position + 1))
    | some h, some l => (decodeFrom (position + 2) rest).map (UInt8.ofNat (16 * h + l) :: ·)

/-- The octets that a text spells. -/
def decode (digits : List UInt8) : Except Fault (List UInt8) :=
  if digits.length % 2 = 1 then .error .oddLength else decodeFrom 0 digits

/-! ## What is written is read back -/

theorem digit?_digitChar {n : Nat} (h : n < 16) :
    digit? (UInt8.ofNat (Nat.digitChar n).toNat) = some n := by
  have : ∀ k : Fin 16, digit? (UInt8.ofNat (Nat.digitChar k).toNat) = some k.val := by decide
  exact this ⟨n, h⟩

theorem decodeFrom_encode (position : Nat) (bytes : List UInt8) :
    decodeFrom position ((encode bytes).map fun c => UInt8.ofNat c.toNat) = .ok bytes := by
  induction bytes generalizing position with
  | nil => rfl
  | cons b bytes ih =>
      have hb := b.toNat_lt
      have hb' : UInt8.ofNat (16 * (b.toNat / 16) + b.toNat % 16) = b := by
        rw [Nat.div_add_mod]
        exact UInt8.ofNat_toNat
      have step : (encode (b :: bytes)).map (fun c => UInt8.ofNat c.toNat) =
          UInt8.ofNat (Nat.digitChar (b.toNat / 16)).toNat ::
            UInt8.ofNat (Nat.digitChar (b.toNat % 16)).toNat ::
              (encode bytes).map fun c => UInt8.ofNat c.toNat := rfl
      rw [step, decodeFrom, digit?_digitChar (by omega), digit?_digitChar (by omega)]
      simp only [ih, hb']
      rfl

theorem encode_inj {a b : List UInt8} : encode a = encode b ↔ a = b := by
  constructor
  · intro h
    have hread := decodeFrom_encode 0 a
    rw [h, decodeFrom_encode] at hread
    exact (Except.ok.inj hread).symm
  · rintro rfl
    rfl

end BootTlv.Hex
