/-!
# Little-endian words

Words of two and four octets, the least significant octet first. `word_wordBytes` and
`wordBytes_word` say that sixteen-bit words and pairs of octets are the same thing.
-/

namespace BootTlv.LittleEndian

/-- The word of two octets. -/
def word (low high : UInt8) : UInt16 := UInt16.ofNat (low.toNat + 256 * high.toNat)

/-- The two octets of a word. -/
def wordBytes (w : UInt16) : List UInt8 :=
  [UInt8.ofNat (w.toNat % 256), UInt8.ofNat (w.toNat / 256)]

/-- The number that four octets stand for. -/
def long (a b c d : UInt8) : Nat :=
  a.toNat + 256 * b.toNat + 65536 * c.toNat + 16777216 * d.toNat

/-- The four octets of an octet widened to 32 bits. -/
def octetAsLong (n : UInt8) : List UInt8 := [n, 0, 0, 0]

theorem word_toNat (low high : UInt8) : (word low high).toNat = low.toNat + 256 * high.toNat := by
  have := low.toNat_lt
  have := high.toNat_lt
  simp only [word, UInt16.toNat_ofNat']
  omega

theorem wordBytes_word (low high : UInt8) : wordBytes (word low high) = [low, high] := by
  have := low.toNat_lt
  have := high.toNat_lt
  simp only [wordBytes, word_toNat, List.cons.injEq, and_true]
  constructor <;> apply UInt8.toNat_inj.1 <;> simp only [UInt8.toNat_ofNat'] <;> omega

theorem word_wordBytes (w : UInt16) :
    word (UInt8.ofNat (w.toNat % 256)) (UInt8.ofNat (w.toNat / 256)) = w := by
  have := w.toNat_lt
  apply UInt16.toNat_inj.1
  simp only [word_toNat, UInt8.toNat_ofNat']
  omega

end BootTlv.LittleEndian
