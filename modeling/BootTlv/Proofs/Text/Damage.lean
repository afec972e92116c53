import BootTlv.Proofs.Text.Utf8

/-!
# Damage in UTF-8

What the lossy reading makes of octets that are no text, said without the table of lead octets.
Octets are cut into characters and damaged parts, and a damaged part is as long as it can be: no
character begins where it begins, and with one octet more it would not be the beginning of any
character (`Damage`). The reading has U+FFFD for each of these parts, and no other cut is possible
(`lossy_eq_iff`).

Damage does not spread. A character begins with an octet that cannot continue another one, so what
stands before it is read as if it ended there (`parts_append`), and a text in the middle of damage
is read as it is (`lossy_append_encode_append`).
-/

namespace BootTlv.Utf8

/-! ## The octets of a text -/

/-- The octets of a character are those that a string is stored as. -/
theorem encodeChar_eq_utf8EncodeChar (c : Char) : encodeChar c = String.utf8EncodeChar c := by
  have hvalid : c.toNat < 0xD800 ∨ 0xDFFF < c.toNat ∧ c.toNat < 0x110000 := c.valid
  have hc : c.val.toNat = c.toNat := rfl
  unfold encodeChar String.utf8EncodeChar
  dsimp only
  rw [hc]
  split_ifs <;> try omega
  · rfl
  · rw [Nat.mod_eq_of_lt (show c.toNat / 64 < 32 by omega), Nat.add_comm, Nat.add_comm 0x80]
  · rw [Nat.mod_eq_of_lt (show c.toNat / 4096 < 16 by omega), Nat.add_comm, Nat.add_comm 0x80,
      Nat.add_comm 0x80]
  · rw [Nat.mod_eq_of_lt (show c.toNat / 262144 < 8 by omega), Nat.add_comm, Nat.add_comm 0x80,
      Nat.add_comm 0x80, Nat.add_comm 0x80]

/-- The octets of a text are those that the string is stored as. -/
theorem toByteArray_encode (text : String) :
    (encode text.toList).toByteArray = text.toByteArray := by
  rw [← String.utf8Encode_toList, List.utf8Encode, encode, funext encodeChar_eq_utf8EncodeChar]

/-! ## Where a character begins -/

/-- The octet stands in a character only after others. -/
def Continues (b : UInt8) : Prop := 0x80 ≤ b.toNat ∧ b.toNat ≤ 0xBF

/-- The first octet of a character cannot continue another one. -/
theorem exists_encodeChar_eq_cons (c : Char) :
    ∃ b tail, encodeChar c = b :: tail ∧ ¬ Continues b := by
  have hvalid : c.toNat < 0xD800 ∨ 0xDFFF < c.toNat ∧ c.toNat < 0x110000 := c.valid
  unfold encodeChar
  dsimp only
  split
  · refine ⟨_, _, rfl, ?_⟩
    rw [Continues, toNat_ofNat_of_lt (by omega)]
    omega
  split
  · refine ⟨_, _, rfl, ?_⟩
    rw [Continues, toNat_ofNat_of_lt (by omega)]
    omega
  split
  · refine ⟨_, _, rfl, ?_⟩
    rw [Continues, toNat_ofNat_of_lt (by omega)]
    omega
  · refine ⟨_, _, rfl, ?_⟩
    rw [Continues, toNat_ofNat_of_lt (by omega)]
    omega

/-- The octets after a lead are read as before if nothing is put behind them that could continue a
character. -/
theorem follow_append {count low high bits : Nat} {octets rest : List UInt8} (hlow : 0x80 ≤ low)
    (hhigh : high ≤ 0xBF) (hrest : ∀ b ∈ rest.head?, ¬ Continues b) :
    follow count low high bits (octets ++ rest) =
      ((follow count low high bits octets).1, (follow count low high bits octets).2 ++ rest) := by
  fun_induction follow count low high bits octets with
  | case1 low high bits octets => rw [follow_zero]
  | case2 low high bits count =>
      cases rest with
      | nil => rw [List.append_nil, follow]
      | cons b rest =>
          have hb : ¬ (0x80 ≤ b.toNat ∧ b.toNat ≤ 0xBF) := hrest b rfl
          rw [List.nil_append, follow, if_neg (by omega)]
  | case3 count low high bits b octets hrange ih =>
      rw [List.cons_append, follow, if_pos hrange, ih (Nat.le_refl _) (Nat.le_refl _)]
  | case4 count low high bits b octets hrange =>
      rw [List.cons_append, follow, if_neg hrange]

theorem lead?_bounds {b : UInt8} {bits count low high : Nat}
    (h : lead? b = some ⟨bits, count, low, high⟩) :
    0x80 ≤ low ∧ low ≤ high ∧ high ≤ 0xBF := by
  rcases lead?_cases b with hnone | ⟨k, hk, rfl⟩ | ⟨k, hlow, hk, rfl⟩ | ⟨k, hk, rfl⟩ | ⟨k, hk, rfl⟩
  · rw [hnone] at h
    cases h
  · rw [lead?_one hk] at h
    cases h
    decide
  · rw [lead?_two hlow hk] at h
    cases h
    decide
  · rw [lead?_three hk] at h
    cases h
    split_ifs <;> omega
  · rw [lead?_four hk] at h
    cases h
    split_ifs <;> omega

theorem part_append {b : UInt8} {octets rest : List UInt8}
    (hrest : ∀ b ∈ rest.head?, ¬ Continues b) :
    part b (octets ++ rest) = ((part b octets).1, (part b octets).2 ++ rest) := by
  unfold part
  cases hlead : lead? b with
  | none => rfl
  | some l =>
      obtain ⟨hlow, -, hhigh⟩ := lead?_bounds hlead
      simp only [follow_append hlow hhigh hrest]

/-- What stands before an octet that cannot continue a character is read by itself. -/
theorem parts_append {octets rest : List UInt8}
    (hrest : ∀ b ∈ rest.head?, ¬ Continues b) :
    parts (octets ++ rest) = parts octets ++ parts rest := by
  induction octets using parts.induct with
  | case1 => rw [parts, List.nil_append, List.nil_append]
  | case2 b octets ih =>
      rw [List.cons_append, parts, parts, part_append hrest, ih, List.cons_append]

theorem head?_encode_append {c : Char} {text : List Char} {rest : List UInt8} :
    ∀ b ∈ (encode (c :: text) ++ rest).head?, ¬ Continues b := by
  obtain ⟨first, tail, hfirst, hlead⟩ := exists_encodeChar_eq_cons c
  intro b hb
  rw [encode, List.flatMap_cons, hfirst, List.cons_append, List.cons_append, List.head?_cons] at hb
  rwa [← Option.some.inj hb]

theorem parts_encode_append (text : List Char) (rest : List UInt8) :
    parts (encode text ++ rest) = text.map some ++ parts rest := by
  induction text with
  | nil => rfl
  | cons c text ih =>
      rw [encode, List.flatMap_cons, List.append_assoc, parts_encodeChar_append, ← encode, ih]
      rfl

/-- A text in the middle of damage is read as it is. -/
theorem lossy_append_encode_append {text : List Char} (h : text ≠ []) (before after : List UInt8) :
    lossy (before ++ encode text ++ after) = lossy before ++ text ++ lossy after := by
  obtain ⟨c, text, rfl⟩ := List.exists_cons_of_ne_nil h
  simp only [lossy]
  rw [List.append_assoc, parts_append head?_encode_append, parts_encode_append, List.map_append,
    List.map_append, List.append_assoc, List.map_map]
  exact congrArg _ (congrArg (· ++ _) (List.map_id (c :: text)))

/-! ## Maximal damage -/

/-- Some character begins with the octets. -/
def Begins (octets : List UInt8) : Prop := ∃ c, octets <+: encodeChar c

/-- A part that is no character, as long as it can be: it is the beginning of a character, or else a
single octet, and no character begins with it and the octet after it. -/
structure Damage (part rest : List UInt8) : Prop where
  ne_nil : part ≠ []
  damaged : ∀ c, ¬ encodeChar c <+: part ++ rest
  begins : part.length = 1 ∨ Begins part
  longest : ∀ b left, rest = b :: left → ¬ Begins (part ++ [b])

/-- The text of octets that are cut into characters and damaged parts. -/
inductive Reading : List UInt8 → List Char → Prop where
  | nil : Reading [] []
  | char (c : Char) {rest : List UInt8} {text : List Char} (h : Reading rest text) :
      Reading (encodeChar c ++ rest) (c :: text)
  | damage {part rest : List UInt8} {text : List Char} (hpart : Damage part rest)
      (h : Reading rest text) : Reading (part ++ rest) ('\uFFFD' :: text)

/-- Octets can be found that complete a character. -/
theorem exists_follow_eq_some (count : Nat) {low high : Nat} (bits : Nat) (hlow : low ≤ high)
    (hhigh : high ≤ 0xBF) :
    ∃ octets point, follow count low high bits octets = (some point, []) := by
  induction count generalizing low high bits with
  | zero => exact ⟨[], bits, follow_zero ..⟩
  | succ count ih =>
      obtain ⟨octets, point, h⟩ := ih (bits * 64 + (low - 0x80)) (show 0x80 ≤ 0xBF by decide)
        (Nat.le_refl _)
      refine ⟨UInt8.ofNat low :: octets, point, ?_⟩
      rw [follow, toNat_ofNat_of_lt (by omega), if_pos ⟨Nat.le_refl _, hlow⟩, h]

/-- Where the octets of a character go wrong, those before might have been completed, and the first
one that is wrong is so whatever follows it. -/
theorem exists_of_follow_eq_none {count low high bits : Nat} {octets rest : List UInt8}
    (hlow : low ≤ high) (hhigh : high ≤ 0xBF)
    (h : follow count low high bits octets = (none, rest)) :
    ∃ taken, octets = taken ++ rest ∧
      (∃ octets' point, follow count low high bits (taken ++ octets') = (some point, [])) ∧
      ∀ b left left', rest = b :: left →
        follow count low high bits (taken ++ b :: left') = (none, b :: left') := by
  fun_induction follow count low high bits octets with
  | case1 => cases h
  | case2 low high bits count =>
      cases h
      refine ⟨[], rfl, exists_follow_eq_some _ bits hlow hhigh, ?_⟩
      intro b left left' hrest
      cases hrest
  | case3 count low high bits b octets hrange ih =>
      obtain ⟨taken, rfl, ⟨octets', point, hfollow⟩, hwrong⟩ :=
        ih (by decide) (Nat.le_refl _) h
      refine ⟨b :: taken, rfl, ⟨octets', point, ?_⟩, ?_⟩
      · rw [List.cons_append, follow, if_pos hrange, hfollow]
      · intro b' left left' hrest
        rw [List.cons_append, follow, if_pos hrange, hwrong b' left left' hrest]
  | case4 count low high bits b octets hrange =>
      cases h
      refine ⟨[], rfl, exists_follow_eq_some _ bits hlow hhigh, ?_⟩
      intro b' left left' hrest
      cases hrest
      rw [List.nil_append, follow, if_neg hrange]

/-- A character that begins with an octet is the part that begins there. -/
theorem part_of_encodeChar_prefix {b : UInt8} {octets : List UInt8} {c : Char}
    (h : encodeChar c <+: b :: octets) : (part b octets).1 = some c := by
  obtain ⟨rest, hrest⟩ := h
  have hparts := parts_encodeChar_append c rest
  rw [hrest, parts, List.cons.injEq] at hparts
  exact hparts.1

theorem part_of_encodeChar_eq {b : UInt8} {octets : List UInt8} {c : Char}
    (h : encodeChar c = b :: octets) : (part b octets).1 = some c :=
  part_of_encodeChar_prefix (h ▸ List.prefix_rfl)

/-- What is read as damage is damage, and as much of it as there is. -/
theorem exists_damage_of_part {b : UInt8} {octets rest : List UInt8}
    (h : part b octets = (none, rest)) :
    ∃ taken, octets = taken ++ rest ∧ Damage (b :: taken) rest := by
  have hdamaged : ∀ c, ¬ encodeChar c <+: b :: octets := by
    intro c hc
    have hpart := part_of_encodeChar_prefix hc
    rw [h] at hpart
    cases hpart
  cases hlead : lead? b with
  | none =>
      obtain rfl : octets = rest := by
        rw [part, hlead] at h
        exact (Prod.mk.inj h).2
      refine ⟨[], rfl, List.cons_ne_nil _ _, hdamaged, .inl rfl, ?_⟩
      rintro b' left - ⟨c, tail, hc⟩
      have hpart := part_of_encodeChar_eq hc.symm
      rw [part, hlead] at hpart
      cases hpart
  | some l =>
      obtain ⟨bits, count, low, high⟩ := l
      obtain ⟨-, hlow, hhigh⟩ := lead?_bounds hlead
      have hfollow : follow count low high bits octets = (none, rest) := by
        simp only [part, hlead, Prod.mk.injEq, Option.map_eq_none_iff] at h
        exact Prod.ext h.1 h.2
      obtain ⟨taken, rfl, ⟨octets', point, hpoint⟩, hwrong⟩ :=
        exists_of_follow_eq_none hlow hhigh hfollow
      refine ⟨taken, rfl, List.cons_ne_nil _ _, hdamaged, .inr ⟨Char.ofNat point, octets', ?_⟩, ?_⟩
      · have hpart : part b (taken ++ octets') = (some (Char.ofNat point), []) := by
          simp only [part, hlead, hpoint, Option.map_some]
        rw [List.cons_append, eq_encodeChar_append_of_part hpart, List.append_nil]
      · rintro b' left hrest ⟨c, tail, hc⟩
        rw [List.cons_append, List.cons_append, List.append_assoc, List.singleton_append] at hc
        have hpart := part_of_encodeChar_eq hc.symm
        rw [part, hlead] at hpart
        simp only [hwrong b' left tail hrest] at hpart
        cases hpart

/-- The lossy reading is a reading. -/
theorem reading_lossy (bytes : List UInt8) : Reading bytes (lossy bytes) := by
  unfold lossy
  induction bytes using parts.induct with
  | case1 =>
      rw [parts]
      exact .nil
  | case2 b octets ih =>
      rw [parts, List.map_cons]
      cases hpart : part b octets with
      | mk read rest =>
          rw [hpart] at ih
          cases read with
          | some c =>
              rw [eq_encodeChar_append_of_part hpart]
              exact .char c ih
          | none =>
              obtain ⟨taken, rfl, hdamage⟩ := exists_damage_of_part hpart
              exact .damage hdamage ih

/-! ## No other cut -/

theorem Begins.of_prefix {octets longer : List UInt8} (h : Begins longer)
    (hshort : octets <+: longer) : Begins octets := by
  obtain ⟨c, hc⟩ := h
  exact ⟨c, hshort.trans hc⟩

/-- Of two damaged parts at one place neither goes further than the other. -/
theorem Damage.length_le {part rest part' rest' : List UInt8} (h : Damage part rest)
    (h' : Damage part' rest') (heq : part ++ rest = part' ++ rest') :
    part'.length ≤ part.length := by
  by_contra hlt
  rw [Nat.not_le] at hlt
  have hpos : 0 < part.length := List.length_pos_iff.mpr h.ne_nil
  -- The longer part has the octet after the shorter one, and begins a character.
  obtain ⟨more, rfl⟩ : part <+: part' :=
    List.prefix_of_prefix_length_le (List.prefix_append part rest)
      (heq ▸ List.prefix_append part' rest') (Nat.le_of_lt hlt)
  rw [List.append_assoc, List.append_cancel_left_eq] at heq
  rw [List.length_append] at hlt
  obtain ⟨b, more, rfl⟩ := List.exists_cons_of_length_pos (show 0 < more.length by omega)
  have hbegins : Begins (part ++ b :: more) := by
    refine h'.begins.resolve_left ?_
    rw [List.length_append, List.length_cons]
    omega
  refine h.longest b (more ++ rest') heq (hbegins.of_prefix ?_)
  exact ⟨more, by rw [List.append_assoc, List.singleton_append]⟩

/-- What is damage is read as damage. -/
theorem parts_damage_append {part rest : List UInt8} (h : Damage part rest) :
    parts (part ++ rest) = none :: parts rest := by
  obtain ⟨b, octets, rfl⟩ := List.exists_cons_of_ne_nil h.ne_nil
  rw [List.cons_append, parts]
  cases hpart : Utf8.part b (octets ++ rest) with
  | mk read rest' =>
      cases read with
      | some c =>
          refine absurd ?_ (h.damaged c)
          exact ⟨rest', (eq_encodeChar_append_of_part hpart).symm⟩
      | none =>
          obtain ⟨taken, heq, hdamage⟩ := exists_damage_of_part hpart
          have hcons : b :: octets ++ rest = b :: taken ++ rest' := congrArg (b :: ·) heq
          have hlength : (b :: octets).length = (b :: taken).length :=
            Nat.le_antisymm (hdamage.length_le h hcons.symm) (h.length_le hdamage hcons)
          rw [(List.append_inj hcons hlength).2]

/-- **The lossy reading has U+FFFD for each maximal damaged part**, and every character is read as
it is. There is only one such reading. -/
theorem lossy_eq_iff {bytes : List UInt8} {text : List Char} :
    lossy bytes = text ↔ Reading bytes text := by
  constructor
  · rintro rfl
    exact reading_lossy bytes
  · intro h
    unfold lossy
    induction h with
    | nil => rw [parts, List.map_nil]
    | char c _ ih =>
        rw [parts_encodeChar_append, List.map_cons, ih]
        rfl
    | damage hpart _ ih =>
        rw [parts_damage_append hpart, List.map_cons, ih]
        rfl

end BootTlv.Utf8
