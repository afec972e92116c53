import BootTlv.Text.Terminated
import BootTlv.Text.Utf8
import Mathlib.Tactic.IntervalCases

/-!
# UTF-8, there and back

The octets of a character are read back as the character, whatever follows them
(`parts_encodeChar_append`), so the octets of a text hold no damage and are read as the text
(`lossy_encode`). No other octets are read as a character (`eq_encodeChar_append_of_part`), so octets
without damage are the octets of their text (`decode?_eq_some_iff`). A terminator is one octet of the
octets and one character of the text (`unterminated_encode`).
-/

namespace BootTlv.Utf8

/-! ## The first octet -/

theorem toNat_ofNat_of_lt {n : Nat} (h : n < 256) : (UInt8.ofNat n).toNat = n := by
  rw [UInt8.toNat_ofNat']
  exact Nat.mod_eq_of_lt h

theorem lead?_one {n : Nat} (h : n < 0x80) :
    lead? (UInt8.ofNat n) = some ⟨n, 0, 0x80, 0xBF⟩ := by
  simp only [lead?, toNat_ofNat_of_lt (show n < 256 by omega), if_pos h]

theorem lead?_two {k : Nat} (hlow : 2 ≤ k) (hhigh : k < 32) :
    lead? (UInt8.ofNat (0xC0 + k)) = some ⟨k, 1, 0x80, 0xBF⟩ := by
  simp only [lead?, toNat_ofNat_of_lt (show 0xC0 + k < 256 by omega)]
  rw [if_neg (by omega), if_neg (by omega), if_pos (by omega), Nat.add_sub_cancel_left]

/-- After the first of the leads of three octets spellings that are too long are kept out, and after
the fourteenth surrogates. -/
theorem lead?_three {k : Nat} (h : k < 16) :
    lead? (UInt8.ofNat (0xE0 + k)) =
      some ⟨k, 2, if k = 0 then 0xA0 else 0x80, if k = 13 then 0x9F else 0xBF⟩ := by
  interval_cases k <;> rfl

/-- After the last of the leads of four octets code points above the greatest are kept out. -/
theorem lead?_four {k : Nat} (h : k < 5) :
    lead? (UInt8.ofNat (0xF0 + k)) =
      some ⟨k, 3, if k = 0 then 0x90 else 0x80, if k = 4 then 0x8F else 0xBF⟩ := by
  interval_cases k <;> rfl

/-! ## The octets that follow -/

/-- One octet that fits adds its six bits. -/
theorem follow_succ {count low high k : Nat} (hk : k < 64) (hlow : low ≤ 0x80 + k)
    (hhigh : 0x80 + k ≤ high) (bits : Nat) (rest : List UInt8) :
    follow (count + 1) low high bits (UInt8.ofNat (0x80 + k) :: rest) =
      follow count 0x80 0xBF (bits * 64 + k) rest := by
  rw [follow, toNat_ofNat_of_lt (by omega), if_pos ⟨hlow, hhigh⟩, Nat.add_sub_cancel_left]

theorem follow_zero (low high bits : Nat) (rest : List UInt8) :
    follow 0 low high bits rest = (some bits, rest) := by
  rw [follow]

/-! ## One character -/

theorem part_of_lead? {b : UInt8} {bits count low high : Nat}
    (hlead : lead? b = some ⟨bits, count, low, high⟩) {c : Char} {octets rest : List UInt8}
    (hfollow : follow count low high bits octets = (some c.toNat, rest)) :
    part b octets = (some c, rest) := by
  rw [part, hlead]
  simp only [hfollow, Option.map_some, Char.ofNat_toNat]

/-- The octets of a character are read as one part, whatever follows them. -/
theorem parts_encodeChar_append (c : Char) (rest : List UInt8) :
    parts (encodeChar c ++ rest) = some c :: parts rest := by
  have hvalid : c.toNat < 0xD800 ∨ 0xDFFF < c.toNat ∧ c.toNat < 0x110000 := c.valid
  -- It is enough that the first octet begins a part that ends where the rest begins.
  suffices h : ∃ b octets, encodeChar c ++ rest = b :: octets ∧ part b octets = (some c, rest) by
    obtain ⟨b, octets, heq, hpart⟩ := h
    rw [heq, parts, hpart]
  unfold encodeChar
  dsimp only
  by_cases h₁ : c.toNat < 0x80
  · rw [if_pos h₁, List.singleton_append]
    exact ⟨_, _, rfl, part_of_lead? (lead?_one h₁) (follow_zero ..)⟩
  rw [if_neg h₁]
  by_cases h₂ : c.toNat < 0x800
  · rw [if_pos h₂, List.cons_append, List.singleton_append]
    refine ⟨_, _, rfl, part_of_lead? (lead?_two (by omega) (by omega)) ?_⟩
    rw [follow_succ (by omega) (by omega) (by omega), follow_zero]
    congr 2
    omega
  rw [if_neg h₂]
  by_cases h₃ : c.toNat < 0x10000
  · rw [if_pos h₃, List.cons_append, List.cons_append, List.singleton_append]
    refine ⟨_, _, rfl, part_of_lead? (lead?_three (by omega)) ?_⟩
    rw [follow_succ (by omega) (by split <;> omega) (by split <;> omega),
      follow_succ (by omega) (by omega) (by omega), follow_zero]
    congr 2
    omega
  · rw [if_neg h₃, List.cons_append, List.cons_append, List.cons_append, List.singleton_append]
    refine ⟨_, _, rfl, part_of_lead? (lead?_four (by omega)) ?_⟩
    rw [follow_succ (by omega) (by split <;> omega) (by split <;> omega),
      follow_succ (by omega) (by omega) (by omega),
      follow_succ (by omega) (by omega) (by omega), follow_zero]
    congr 2
    omega

/-! ## A text -/

theorem parts_encode (text : List Char) : parts (encode text) = text.map some := by
  induction text with
  | nil => rw [encode, List.flatMap_nil, parts, List.map_nil]
  | cons c text ih =>
      rw [encode, List.flatMap_cons, parts_encodeChar_append, ← encode, ih, List.map_cons]

/-- The octets of a text are read as the text. -/
theorem lossy_encode (text : List Char) : lossy (encode text) = text := by
  rw [lossy, parts_encode, List.map_map]
  exact List.map_id text

theorem encode_append (a b : List Char) : encode (a ++ b) = encode a ++ encode b :=
  List.flatMap_append

/-- The octets of a text of seven-bit characters are their code points. -/
theorem encode_of_lt {text : List Char} (h : ∀ c ∈ text, c.toNat < 0x80) :
    encode text = text.map fun c => UInt8.ofNat c.toNat := by
  induction text with
  | nil => rfl
  | cons c text ih =>
      have hc : encodeChar c = [UInt8.ofNat c.toNat] := if_pos (h c List.mem_cons_self)
      rw [encode, List.flatMap_cons, hc, ← encode, ih fun c hc => h c (List.mem_cons_of_mem _ hc)]
      rfl

/-! ## Octets without damage -/

/-- An octet that begins a character begins one of one, two, three or four octets. -/
theorem lead?_cases (b : UInt8) :
    lead? b = none ∨ (∃ k < 0x80, b = UInt8.ofNat k) ∨
      (∃ k, 2 ≤ k ∧ k < 32 ∧ b = UInt8.ofNat (0xC0 + k)) ∨
      (∃ k < 16, b = UInt8.ofNat (0xE0 + k)) ∨ ∃ k < 5, b = UInt8.ofNat (0xF0 + k) := by
  have hlt := b.toNat_lt
  have hsplit : ∀ {base : Nat}, base ≤ b.toNat → b = UInt8.ofNat (base + (b.toNat - base)) := by
    intro base hbase
    rw [Nat.add_sub_cancel' hbase, UInt8.ofNat_toNat]
  by_cases h₁ : b.toNat < 0x80
  · exact .inr (.inl ⟨b.toNat, h₁, UInt8.ofNat_toNat.symm⟩)
  by_cases h₂ : b.toNat < 0xC2
  · exact .inl (by simp only [lead?, if_neg h₁, if_pos h₂])
  by_cases h₃ : b.toNat < 0xE0
  · exact .inr (.inr (.inl ⟨b.toNat - 0xC0, by omega, by omega, hsplit (by omega)⟩))
  by_cases h₄ : b.toNat < 0xF0
  · exact .inr (.inr (.inr (.inl ⟨b.toNat - 0xE0, by omega, hsplit (by omega)⟩)))
  by_cases h₅ : b.toNat < 0xF5
  · exact .inr (.inr (.inr (.inr ⟨b.toNat - 0xF0, by omega, hsplit (by omega)⟩)))
  · left
    unfold lead?
    dsimp only
    repeat rw [if_neg (by omega)]

/-- The first of the octets that have to follow is there and fits. -/
theorem exists_of_follow {count low high bits point : Nat} {octets rest : List UInt8}
    (hlow : 0x80 ≤ low) (hhigh : high ≤ 0xBF)
    (h : follow (count + 1) low high bits octets = (some point, rest)) :
    ∃ k left, octets = UInt8.ofNat (0x80 + k) :: left ∧ k < 64 ∧ low ≤ 0x80 + k ∧
      0x80 + k ≤ high ∧ follow count 0x80 0xBF (bits * 64 + k) left = (some point, rest) := by
  cases octets with
  | nil =>
      rw [follow] at h
      cases h
  | cons b left =>
      rw [follow] at h
      split at h
      · next hrange =>
          refine ⟨b.toNat - 0x80, left, ?_, by omega, by omega, by omega, h⟩
          rw [Nat.add_sub_cancel' (by omega), UInt8.ofNat_toNat]
      · cases h

theorem toNat_ofNat_of_valid {n : Nat} (h : n.isValidChar) : (Char.ofNat n).toNat = n := by
  rw [Char.ofNat, dif_pos h]
  rfl

theorem encodeChar_one {k : Nat} (h : k < 0x80) : encodeChar (Char.ofNat k) = [UInt8.ofNat k] := by
  have hk : (Char.ofNat k).toNat = k := toNat_ofNat_of_valid (.inl (by omega))
  simp only [encodeChar, hk, if_pos h]

theorem encodeChar_two {k i : Nat} (hlow : 2 ≤ k) (hk : k < 32) (hi : i < 64) :
    encodeChar (Char.ofNat (k * 64 + i)) = [UInt8.ofNat (0xC0 + k), UInt8.ofNat (0x80 + i)] := by
  have hn : (Char.ofNat (k * 64 + i)).toNat = k * 64 + i := toNat_ofNat_of_valid (.inl (by omega))
  simp only [encodeChar, hn]
  rw [if_neg (by omega), if_pos (by omega), show (k * 64 + i) / 64 = k by omega,
    show (k * 64 + i) % 64 = i by omega]

theorem encodeChar_three {k i j : Nat} (hk : k < 16) (hi : i < 64) (hj : j < 64)
    (hlong : k = 0 → 32 ≤ i) (hsurrogate : k = 13 → i < 32) :
    encodeChar (Char.ofNat ((k * 64 + i) * 64 + j)) =
      [UInt8.ofNat (0xE0 + k), UInt8.ofNat (0x80 + i), UInt8.ofNat (0x80 + j)] := by
  have hvalid : ((k * 64 + i) * 64 + j).isValidChar := by
    unfold Nat.isValidChar
    omega
  simp only [encodeChar, toNat_ofNat_of_valid hvalid]
  rw [if_neg (by omega), if_neg (by omega), if_pos (by omega),
    show ((k * 64 + i) * 64 + j) / 4096 = k by omega,
    show ((k * 64 + i) * 64 + j) / 64 % 64 = i by omega,
    show ((k * 64 + i) * 64 + j) % 64 = j by omega]

theorem encodeChar_four {k i j l : Nat} (hk : k < 5) (hi : i < 64) (hj : j < 64) (hl : l < 64)
    (hlong : k = 0 → 16 ≤ i) (hgreatest : k = 4 → i < 16) :
    encodeChar (Char.ofNat (((k * 64 + i) * 64 + j) * 64 + l)) =
      [UInt8.ofNat (0xF0 + k), UInt8.ofNat (0x80 + i), UInt8.ofNat (0x80 + j),
        UInt8.ofNat (0x80 + l)] := by
  have hvalid : (((k * 64 + i) * 64 + j) * 64 + l).isValidChar := by
    unfold Nat.isValidChar
    omega
  simp only [encodeChar, toNat_ofNat_of_valid hvalid]
  rw [if_neg (by omega), if_neg (by omega), if_neg (by omega),
    show (((k * 64 + i) * 64 + j) * 64 + l) / 262144 = k by omega,
    show (((k * 64 + i) * 64 + j) * 64 + l) / 4096 % 64 = i by omega,
    show (((k * 64 + i) * 64 + j) * 64 + l) / 64 % 64 = j by omega,
    show (((k * 64 + i) * 64 + j) * 64 + l) % 64 = l by omega]

theorem exists_of_part {b : UInt8} {bits count low high : Nat}
    (hlead : lead? b = some ⟨bits, count, low, high⟩) {c : Char} {octets rest : List UInt8}
    (h : part b octets = (some c, rest)) :
    ∃ point, c = Char.ofNat point ∧ follow count low high bits octets = (some point, rest) := by
  simp only [part, hlead, Prod.mk.injEq, Option.map_eq_some_iff] at h
  obtain ⟨⟨point, hpoint, rfl⟩, rfl⟩ := h
  exact ⟨point, rfl, Prod.ext hpoint rfl⟩

/-- What is read as a character is the octets of the character. -/
theorem eq_encodeChar_append_of_part {b : UInt8} {octets rest : List UInt8} {c : Char}
    (h : part b octets = (some c, rest)) : b :: octets = encodeChar c ++ rest := by
  rcases lead?_cases b with hnone | ⟨k, hk, rfl⟩ | ⟨k, hlow, hk, rfl⟩ | ⟨k, hk, rfl⟩ | ⟨k, hk, rfl⟩
  · rw [part, hnone] at h
    cases h
  · obtain ⟨point, rfl, hpoint⟩ := exists_of_part (lead?_one hk) h
    rw [follow_zero] at hpoint
    cases hpoint
    rw [encodeChar_one hk]
    rfl
  · obtain ⟨point, rfl, hpoint⟩ := exists_of_part (lead?_two hlow hk) h
    obtain ⟨i, left, rfl, hi, -, -, hpoint⟩ :=
      exists_of_follow (Nat.le_refl _) (Nat.le_refl _) hpoint
    rw [follow_zero] at hpoint
    cases hpoint
    rw [encodeChar_two hlow hk hi]
    rfl
  · obtain ⟨point, rfl, hpoint⟩ := exists_of_part (lead?_three hk) h
    obtain ⟨i, left, rfl, hi, hmin, hmax, hpoint⟩ :=
      exists_of_follow (by split <;> omega) (by split <;> omega) hpoint
    obtain ⟨j, left, rfl, hj, -, -, hpoint⟩ :=
      exists_of_follow (Nat.le_refl _) (Nat.le_refl _) hpoint
    rw [follow_zero] at hpoint
    cases hpoint
    rw [encodeChar_three hk hi hj (by split at hmin <;> omega) (by split at hmax <;> omega)]
    rfl
  · obtain ⟨point, rfl, hpoint⟩ := exists_of_part (lead?_four hk) h
    obtain ⟨i, left, rfl, hi, hmin, hmax, hpoint⟩ :=
      exists_of_follow (by split <;> omega) (by split <;> omega) hpoint
    obtain ⟨j, left, rfl, hj, -, -, hpoint⟩ :=
      exists_of_follow (Nat.le_refl _) (Nat.le_refl _) hpoint
    obtain ⟨l, left, rfl, hl, -, -, hpoint⟩ :=
      exists_of_follow (Nat.le_refl _) (Nat.le_refl _) hpoint
    rw [follow_zero] at hpoint
    cases hpoint
    rw [encodeChar_four hk hi hj hl (by split at hmin <;> omega) (by split at hmax <;> omega)]
    rfl

theorem eq_encode_of_parts {bytes : List UInt8} {text : List Char}
    (h : parts bytes = text.map some) : bytes = encode text := by
  induction text generalizing bytes with
  | nil =>
      cases bytes with
      | nil => rfl
      | cons b octets =>
          rw [parts] at h
          cases h
  | cons c text ih =>
      cases bytes with
      | nil =>
          rw [parts] at h
          cases h
      | cons b octets =>
          rw [parts, List.map_cons, List.cons.injEq] at h
          obtain ⟨hchar, hrest⟩ := h
          have hpart : part b octets = (some c, encode text) := Prod.ext hchar (ih hrest)
          exact eq_encodeChar_append_of_part hpart

theorem mapM_id_eq_some_iff {read : List (Option Char)} {text : List Char} :
    read.mapM id = some text ↔ read = text.map some := by
  induction read generalizing text with
  | nil => cases text <;> simp
  | cons c read ih => cases text <;> simp [List.mapM_cons, Option.bind_eq_some_iff, ih]

/-- Octets without damage are the octets of their text. -/
theorem decode?_eq_some_iff {bytes : List UInt8} {text : List Char} :
    decode? bytes = some text ↔ bytes = encode text := by
  rw [decode?, mapM_id_eq_some_iff]
  constructor
  · exact eq_encode_of_parts
  · rintro rfl
    exact parts_encode text

/-! ## Sizes -/

theorem length_encodeChar (c : Char) : (encodeChar c).length = c.utf8Size := by
  have hc : c.toNat = c.val.toNat := rfl
  unfold encodeChar Char.utf8Size
  simp only [hc, UInt32.le_iff_toNat_le]
  split_ifs <;> simp_all <;> omega

theorem length_encode_eq_utf8ByteSize_ofList (text : List Char) :
    (encode text).length = (String.ofList text).utf8ByteSize := by
  induction text with
  | nil => rfl
  | cons c text ih =>
      rw [encode, List.flatMap_cons, List.length_append, length_encodeChar, ← encode, ih,
        String.ofList_cons, String.utf8ByteSize_append, String.utf8ByteSize_singleton]

/-- A text has as many octets as its size in UTF-8 says. -/
theorem length_encode (text : String) : (encode text.toList).length = text.utf8ByteSize := by
  rw [length_encode_eq_utf8ByteSize_ofList, String.ofList_toList]

/-! ## Terminated text -/

/-- The text without a NUL at its end. -/
def dropNul (text : List Char) : List Char :=
  if text.getLast? = some '\x00' then text.dropLast else text

/-- Only the octets of NUL end in a zero octet. -/
theorem getLast?_encodeChar {c : Char} (h : c ≠ '\x00') :
    ∃ b, (encodeChar c).getLast? = some b ∧ b ≠ 0 := by
  have hnonzero : ∀ {n : Nat}, n < 256 → n ≠ 0 → UInt8.ofNat n ≠ 0 := by
    intro n hlt hn heq
    have hzero := congrArg UInt8.toNat heq
    rw [toNat_ofNat_of_lt hlt] at hzero
    exact hn hzero
  have hc : c.toNat ≠ 0 := fun heq => h (by rw [← Char.ofNat_toNat c, heq])
  unfold encodeChar
  dsimp only
  split
  · exact ⟨_, rfl, hnonzero (by omega) hc⟩
  split
  · exact ⟨_, rfl, hnonzero (by omega) (by omega)⟩
  split
  · exact ⟨_, rfl, hnonzero (by omega) (by omega)⟩
  · exact ⟨_, rfl, hnonzero (by omega) (by omega)⟩

/-- A terminator of the octets of a text is a NUL at the end of the text. -/
theorem unterminated_encode (text : List Char) :
    Text.unterminated (encode text) = encode (dropNul text) := by
  rcases List.eq_nil_or_concat text with rfl | ⟨init, c, rfl⟩
  · rfl
  rw [List.concat_eq_append, dropNul, List.getLast?_concat, List.dropLast_concat]
  by_cases hc : c = '\x00'
  · rw [if_pos (congrArg some hc), hc, encode_append]
    exact Text.unterminated_append_zero (encode init)
  · obtain ⟨b, hlast, hb⟩ := getLast?_encodeChar hc
    rw [if_neg fun heq => hc (Option.some.inj heq)]
    refine Text.unterminated_of_getLast?_ne ?_
    rw [encode_append, List.getLast?_append, encode, List.flatMap_singleton, hlast, Option.some_or]
    exact fun heq => hb (Option.some.inj heq)

end BootTlv.Utf8
