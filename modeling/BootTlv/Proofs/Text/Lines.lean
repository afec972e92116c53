import BootTlv.Text.Numeral
import BootTlv.Text.Quoted
import BootTlv.Text.Split

/-!
# Lines without control characters

A text is shown safely when none of its characters is a control character: then it neither ends its
line nor tells a terminal to do anything. Numerals are such texts, and so is any text once it is
quoted (`controlFree_quoted`). Lines of this sort are found again in the text that they are put
together to (`splitAll_lines`).
-/

namespace BootTlv.Text

/-- No character is a control character. -/
def ControlFree (text : String) : Prop := ∀ c ∈ text.toList, isControl c = false

instance (text : String) : Decidable (ControlFree text) :=
  decidable_of_iff (text.toList.all (!isControl ·) = true) (by simp [ControlFree])

theorem controlFree_append {a b : String} (ha : ControlFree a) (hb : ControlFree b) :
    ControlFree (a ++ b) := by
  intro c hc
  rw [String.toList_append] at hc
  rcases List.mem_append.mp hc with hc | hc
  · exact ha c hc
  · exact hb c hc

theorem controlFree_join {pieces : List String} (h : ∀ s ∈ pieces, ControlFree s) :
    ControlFree (String.join pieces) := by
  intro c hc
  rw [String.toList_join] at hc
  obtain ⟨s, hs, hc⟩ := List.mem_flatMap.mp hc
  exact h s hs c hc

/-! ## Numerals -/

/-- The character of any digit, and the star that stands for what is none. -/
theorem isControl_digitChar (n : Nat) : isControl (Nat.digitChar n) = false := by
  by_cases hn : n < 16
  · have htable : ∀ k : Fin 16, isControl (Nat.digitChar k) = false := by decide
    exact htable ⟨n, hn⟩
  · rw [Nat.digitChar_eq_star.mpr (Nat.le_of_not_lt hn)]
    decide

theorem isControl_of_mem_toDigits {base : Nat} (hbase : 1 < base) {n : Nat} {c : Char}
    (h : c ∈ Nat.toDigits base n) : isControl c = false := by
  induction n using Nat.strongRecOn with
  | ind n ih =>
      rw [Nat.toDigits_eq_if hbase] at h
      split at h
      · rw [List.mem_singleton.mp h]
        exact isControl_digitChar n
      · next hle =>
          rcases List.mem_append.mp h with h | h
          · exact ih (n / base) (Nat.div_lt_self (by omega) hbase) h
          · rw [List.mem_singleton.mp h]
            exact isControl_digitChar (n % base)

theorem controlFree_ofList {text : List Char} (h : ∀ c ∈ text, isControl c = false) :
    ControlFree (String.ofList text) := by
  intro c hc
  rw [String.toList_ofList] at hc
  exact h c hc

theorem controlFree_decimal (n : Nat) : ControlFree (decimal n) :=
  controlFree_ofList fun _ hc => isControl_of_mem_toDigits (by decide) hc

theorem isControl_of_mem_octet {b : UInt8} {c : Char} (h : c ∈ Hex.octet b) :
    isControl c = false := by
  rw [Hex.octet, List.mem_cons, List.mem_singleton] at h
  rcases h with rfl | rfl
  · exact isControl_digitChar _
  · exact isControl_digitChar _

theorem controlFree_hexOctets (bytes : List UInt8) : ControlFree (hexOctets bytes) := by
  refine controlFree_append (by decide) (controlFree_ofList ?_)
  intro c hc
  obtain ⟨b, -, hc⟩ := List.mem_flatMap.mp hc
  exact isControl_of_mem_octet hc

theorem controlFree_hexOctet (b : UInt8) : ControlFree (hexOctet b) :=
  controlFree_append (by decide) (controlFree_ofList fun _ hc => isControl_of_mem_octet hc)

theorem controlFree_hexWord (w : UInt16) : ControlFree (hexWord w) := by
  refine controlFree_append (by decide) (controlFree_ofList ?_)
  intro c hc
  rcases List.mem_append.mp hc with hc | hc
  · exact isControl_of_mem_octet hc
  · exact isControl_of_mem_octet hc

/-! ## Quoted text -/

/-- A control character is escaped, and an escape has none. -/
theorem isControl_of_mem_escape {delimiter c x : Char} (hdelimiter : isControl delimiter = false)
    (h : x ∈ escape delimiter c) : isControl x = false := by
  have hpair : ∀ {d : Char}, isControl d = false → x ∈ ['\\', d] → isControl x = false := by
    intro d hd hx
    rcases List.mem_cons.mp hx with rfl | hx
    · decide
    · rwa [List.mem_singleton.mp hx]
  unfold escape at h
  split at h
  · exact hpair (by decide) h
  split at h
  · exact hpair (by decide) h
  split at h
  · exact hpair (by decide) h
  split at h
  · exact hpair (by decide) h
  split at h
  · exact hpair (by decide) h
  split at h
  · next heq => exact hpair (heq ▸ hdelimiter) h
  split at h
  · next hshown =>
      rw [List.mem_singleton.mp h, Bool.eq_false_iff]
      intro hcontrol
      rw [not_isShown_of_control hcontrol] at hshown
      cases hshown
  · rcases List.mem_append.mp h with h | h
    · rcases List.mem_append.mp h with h | h
      · simp only [List.mem_cons, List.not_mem_nil, or_false] at h
        rcases h with rfl | rfl | rfl <;> decide
      · exact isControl_of_mem_toDigits (by decide) h
    · rw [List.mem_singleton.mp h]
      decide

theorem controlFree_quoted {delimiter : Char} (hdelimiter : isControl delimiter = false)
    (text : List Char) : ControlFree (String.ofList (quoted delimiter text)) := by
  refine controlFree_ofList ?_
  intro x hx
  rw [quoted, List.mem_append, List.mem_cons, List.mem_flatMap, List.mem_singleton] at hx
  rcases hx with (rfl | ⟨c, -, hx⟩) | rfl
  · exact hdelimiter
  · exact isControl_of_mem_escape hdelimiter hx
  · exact hdelimiter

/-! ## Lines -/

theorem splitAll_append_cons {c : Char} {before : List Char} (h : c ∉ before)
    (after : List Char) : splitAll c (before ++ c :: after) = before :: splitAll c after := by
  induction before with
  | nil => exact if_pos rfl
  | cons x before ih =>
      rw [List.mem_cons, not_or] at h
      rw [List.cons_append, splitAll, if_neg (Ne.symm h.1), ih h.2]

/-- Lines are found again in their text, and nothing stands behind the end of the last one. -/
theorem splitAll_lines {c : Char} {lines : List (List Char)} (h : ∀ l ∈ lines, c ∉ l) :
    splitAll c (lines.flatMap (· ++ [c])) = lines ++ [[]] := by
  induction lines with
  | nil => rfl
  | cons l lines ih =>
      rw [List.forall_mem_cons] at h
      rw [List.flatMap_cons, List.append_assoc, List.singleton_append, splitAll_append_cons h.1,
        ih h.2]
      rfl

end BootTlv.Text
