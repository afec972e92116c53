import BootTlv.Hex
import BootTlv.Proofs.Result

/-!
# Spellings in hexadecimal

Octets have more than one spelling, because a digit may be written in either case. `Spells` says what
the spellings of a list of octets are, and reading accepts these and nothing else
(`decode_eq_ok_iff`), so a text is read as at most half as many octets as it has digits.

A text that spells nothing is refused for its length, or else for the first octet in it that is no
digit (`decode_eq_error_iff`).
-/

namespace BootTlv.Hex

/-! ## The format -/

/-- A digit of a value below sixteen, in lower or in upper case. -/
def IsDigit (value : Nat) (digit : UInt8) : Prop :=
  digit = UInt8.ofNat (Nat.digitChar value).toNat ∨
    digit = UInt8.ofNat (Nat.digitChar value).toUpper.toNat

instance (value : Nat) (digit : UInt8) : Decidable (IsDigit value digit) :=
  inferInstanceAs (Decidable (_ ∨ _))

/-- Two digits for each octet, the high one first. -/
inductive Spells : List UInt8 → List UInt8 → Prop where
  | nil : Spells [] []
  | cons {b high low : UInt8} {digits bytes : List UInt8} (hhigh : IsDigit (b.toNat / 16) high)
      (hlow : IsDigit (b.toNat % 16) low) (h : Spells digits bytes) :
      Spells (high :: low :: digits) (b :: bytes)

theorem Spells.length {digits bytes : List UInt8} (h : Spells digits bytes) :
    digits.length = 2 * bytes.length := by
  induction h with
  | nil => rfl
  | cons _ _ _ ih =>
      simp only [List.length_cons, ih]
      omega

/-! ## Reading -/

theorem lt_of_digit? {b : UInt8} {value : Nat} (h : digit? b = some value) : value < 16 := by
  simp only [digit?] at h
  split at h
  · cases h
    omega
  split at h
  · cases h
    omega
  split at h
  · cases h
    omega
  · cases h

theorem digit?_eq_some_iff {b : UInt8} {value : Nat} :
    digit? b = some value ↔ value < 16 ∧ IsDigit value b := by
  -- Both sides are tables of digits.
  have htable : ∀ n : Fin 256, ∀ value : Fin 16,
      digit? (UInt8.ofNat n) = some value.val ↔ IsDigit value (UInt8.ofNat n) := by
    decide +kernel
  have hb := htable ⟨b.toNat, b.toNat_lt⟩
  simp only [UInt8.ofNat_toNat] at hb
  constructor
  · intro h
    have hlt := lt_of_digit? h
    exact ⟨hlt, (hb ⟨value, hlt⟩).mp h⟩
  · rintro ⟨hlt, h⟩
    exact (hb ⟨value, hlt⟩).mpr h

/-- Two digits spell the octet that they are read as. -/
theorem Spells.cons_digits {h l : Nat} {high low : UInt8} {digits bytes : List UInt8} (hh : h < 16)
    (hl : l < 16) (hhigh : IsDigit h high) (hlow : IsDigit l low) (hrest : Spells digits bytes) :
    Spells (high :: low :: digits) (UInt8.ofNat (16 * h + l) :: bytes) := by
  have hvalue : (UInt8.ofNat (16 * h + l)).toNat = 16 * h + l := by
    rw [UInt8.toNat_ofNat']
    omega
  refine .cons ?_ ?_ hrest
  · rwa [hvalue, show (16 * h + l) / 16 = h by omega]
  · rwa [hvalue, show (16 * h + l) % 16 = l by omega]

/-- Reading accepts the spellings, wherever they begin. -/
theorem decodeFrom_eq_ok_iff {position : Nat} {digits bytes : List UInt8} :
    decodeFrom position digits = .ok bytes ↔ Spells digits bytes := by
  constructor
  · intro h
    fun_induction decodeFrom position digits generalizing bytes with
    | case1 =>
        cases h
        exact .nil
    | case2 => cases h
    | case3 => cases h
    | case4 => cases h
    | case5 position high low rest h₁ h₂ hlow hhigh ih =>
        obtain ⟨hlt₁, hdigit₁⟩ := digit?_eq_some_iff.mp hhigh
        obtain ⟨hlt₂, hdigit₂⟩ := digit?_eq_some_iff.mp hlow
        obtain ⟨tail, hrest, rfl⟩ := Except.map_eq_ok_iff.mp h
        exact .cons_digits hlt₁ hlt₂ hdigit₁ hdigit₂ (ih hrest)
  · intro h
    induction h generalizing position with
    | nil => rfl
    | @cons b high low digits bytes hhigh hlow _ ih =>
        have hb := b.toNat_lt
        rw [decodeFrom, digit?_eq_some_iff.mpr ⟨by omega, hhigh⟩,
          digit?_eq_some_iff.mpr ⟨by omega, hlow⟩]
        simp only [ih, Nat.div_add_mod, UInt8.ofNat_toNat]
        rfl

/-- **Reading accepts exactly the spellings.** -/
theorem decode_eq_ok_iff {digits bytes : List UInt8} :
    decode digits = .ok bytes ↔ Spells digits bytes := by
  rw [decode]
  constructor
  · intro h
    split at h
    · cases h
    · exact decodeFrom_eq_ok_iff.mp h
  · intro h
    rw [if_neg (by rw [h.length]; omega)]
    exact decodeFrom_eq_ok_iff.mpr h

/-! ## Either case -/

/-- The octet of a letter in lower case. -/
def toLower (b : UInt8) : UInt8 :=
  if 0x41 ≤ b.toNat ∧ b.toNat ≤ 0x5A then UInt8.ofNat (b.toNat + 0x20) else b

theorem digit?_toLower (b : UInt8) : digit? (toLower b) = digit? b := by
  have htable : ∀ n : Fin 256, digit? (toLower (UInt8.ofNat n)) = digit? (UInt8.ofNat n) := by
    decide +kernel
  have hb := htable ⟨b.toNat, b.toNat_lt⟩
  rwa [UInt8.ofNat_toNat] at hb

theorem IsDigit.of_toLower_eq {value : Nat} {a b : UInt8} (hvalue : value < 16)
    (h : IsDigit value a) (heq : toLower b = toLower a) : IsDigit value b := by
  have ha := digit?_eq_some_iff.mpr ⟨hvalue, h⟩
  rw [← digit?_toLower, ← heq, digit?_toLower] at ha
  exact (digit?_eq_some_iff.mp ha).2

/-- What differs from a spelling in the case of letters only spells the same octets. -/
theorem Spells.of_map_toLower_eq {digits bytes : List UInt8} (h : Spells digits bytes)
    {others : List UInt8} (heq : others.map toLower = digits.map toLower) :
    Spells others bytes := by
  induction h generalizing others with
  | nil =>
      rw [List.map_nil, List.map_eq_nil_iff] at heq
      rw [heq]
      exact .nil
  | @cons b high low digits bytes hhigh hlow _ ih =>
      have hb := b.toNat_lt
      obtain ⟨x, _, rfl, hx, heq⟩ := List.map_eq_cons_iff.mp heq
      obtain ⟨y, others, rfl, hy, heq⟩ := List.map_eq_cons_iff.mp heq
      exact .cons (hhigh.of_toLower_eq (by omega) hx) (hlow.of_toLower_eq (by omega) hy) (ih heq)

/-! ## Refusals -/

/-- A digit of some value, in either case. -/
def IsHexDigit (b : UInt8) : Prop := ∃ value, value < 16 ∧ IsDigit value b

theorem exists_digit?_iff {b : UInt8} : (∃ value, digit? b = some value) ↔ IsHexDigit b := by
  simp only [digit?_eq_some_iff, IsHexDigit]

theorem digit?_eq_none_iff {b : UInt8} : digit? b = none ↔ ¬ IsHexDigit b := by
  rw [← exists_digit?_iff]
  cases digit? b with
  | none => simp
  | some value => simp

/-- Digits without one that is left over spell something. -/
theorem exists_spells : ∀ {digits : List UInt8}, digits.length % 2 = 0 →
    (∀ c ∈ digits, IsHexDigit c) → ∃ bytes, Spells digits bytes
  | [], _, _ => ⟨[], .nil⟩
  | [_], heven, _ => absurd heven Nat.one_ne_zero
  | high :: low :: digits, heven, hdigits => by
      rw [List.forall_mem_cons, List.forall_mem_cons] at hdigits
      obtain ⟨⟨h, hh, hhigh⟩, ⟨l, hl, hlow⟩, hrest⟩ := hdigits
      simp only [List.length_cons] at heven
      have hlength : digits.length % 2 = 0 := by omega
      obtain ⟨bytes, hbytes⟩ := exists_spells hlength hrest
      exact ⟨_, .cons_digits hh hl hhigh hlow hbytes⟩

/-- Reading stops at the first octet that is no digit. -/
theorem decodeFrom_of_not_isHexDigit {b : UInt8} (hb : ¬ IsHexDigit b) {after : List UInt8} :
    ∀ {before : List UInt8} {position : Nat}, (∀ c ∈ before, IsHexDigit c) →
      (before ++ b :: after).length % 2 = 0 →
      decodeFrom position (before ++ b :: after) =
        .error (.badDigit b (position + before.length))
  | [], position, _, heven => by
      match after with
      | [] => exact absurd heven Nat.one_ne_zero
      | low :: after =>
          rw [List.nil_append, decodeFrom, digit?_eq_none_iff.mpr hb]
          rfl
  | [high], position, hbefore, _ => by
      obtain ⟨h, hhigh⟩ := exists_digit?_iff.mpr (hbefore high List.mem_cons_self)
      rw [List.singleton_append, decodeFrom, hhigh, digit?_eq_none_iff.mpr hb]
      rfl
  | high :: low :: before, position, hbefore, heven => by
      rw [List.forall_mem_cons, List.forall_mem_cons] at hbefore
      obtain ⟨hhigh, hlow, hbefore⟩ := hbefore
      obtain ⟨h, hhigh⟩ := exists_digit?_iff.mpr hhigh
      obtain ⟨l, hlow⟩ := exists_digit?_iff.mpr hlow
      simp only [List.cons_append, List.length_cons] at heven
      have hrest : (before ++ b :: after).length % 2 = 0 := by omega
      have hposition : position + 2 + before.length = position + (before.length + 1 + 1) := by omega
      rw [List.cons_append, List.cons_append, decodeFrom, hhigh, hlow]
      dsimp only
      rw [decodeFrom_of_not_isHexDigit hb hbefore hrest, hposition]
      rfl

/-- Why a text spells nothing: there is a digit too many, or something in it is no digit, of which the
first one counts. -/
inductive Refused (digits : List UInt8) : Fault → Prop where
  | oddLength (hodd : digits.length % 2 = 1) : Refused digits .oddLength
  | badDigit (heven : digits.length % 2 = 0) {before after : List UInt8} {b : UInt8}
      (hdigits : digits = before ++ b :: after) (hbefore : ∀ c ∈ before, IsHexDigit c)
      (hbad : ¬ IsHexDigit b) : Refused digits (.badDigit b before.length)

theorem decode_of_refused {digits : List UInt8} {fault : Fault} (h : Refused digits fault) :
    decode digits = .error fault := by
  cases h with
  | oddLength hodd => exact if_pos hodd
  | badDigit heven hdigits hbefore hbad =>
      rw [decode, if_neg (by omega)]
      subst hdigits
      rw [decodeFrom_of_not_isHexDigit hbad hbefore heven, Nat.zero_add]

theorem exists_refused {digits : List UInt8} (h : ∀ bytes, ¬ Spells digits bytes) :
    ∃ fault, Refused digits fault := by
  rcases Nat.mod_two_eq_zero_or_one digits.length with heven | hodd
  · cases hfind : digits.find? (fun c => (digit? c).isNone) with
    | none =>
        rw [List.find?_eq_none] at hfind
        obtain ⟨bytes, hbytes⟩ := exists_spells heven fun c hc =>
          exists_digit?_iff.mp (Option.ne_none_iff_exists'.mp (by simpa using hfind c hc))
        exact absurd hbytes (h bytes)
    | some b =>
        obtain ⟨hb, before, after, hdigits, hbefore⟩ := List.find?_eq_some_iff_append.mp hfind
        rw [Option.isNone_iff_eq_none, digit?_eq_none_iff] at hb
        refine ⟨_, .badDigit heven hdigits ?_ hb⟩
        intro c hc
        exact exists_digit?_iff.mp (Option.isSome_iff_exists.mp (by simpa using hbefore c hc))
  · exact ⟨_, .oddLength hodd⟩

/-- **Reading refuses a text for its length or for the first octet that is no digit.** -/
theorem decode_eq_error_iff {digits : List UInt8} {fault : Fault} :
    decode digits = .error fault ↔ Refused digits fault := by
  constructor
  · intro h
    have hnone : ∀ bytes, ¬ Spells digits bytes := by
      intro bytes hbytes
      rw [decode_eq_ok_iff.mpr hbytes] at h
      cases h
    obtain ⟨fault', hrefused⟩ := exists_refused hnone
    rw [decode_of_refused hrefused] at h
    cases h
    exact hrefused
  · exact decode_of_refused

end BootTlv.Hex
