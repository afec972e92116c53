/-!
# Cutting a text at a mark

Cutting at the first or the last place where a character stands, and at the first place where a
longer mark stands. Each cut gives what stands before and after the mark. Cutting at every place of a
character gives the pieces between.

`splitFirst_eq_some_iff` and `splitLast_eq_some_iff` say which place it is: there is no further mark
before the first one, and none after the last one.
-/

namespace BootTlv.Text

/-- What stands before and after the first place of a character. -/
def splitFirst (c : Char) : List Char → Option (List Char × List Char)
  | [] => none
  | x :: rest =>
    if x = c then some ([], rest) else (splitFirst c rest).map fun p => (x :: p.1, p.2)

/-- What stands before and after the last place of a character. -/
def splitLast (c : Char) : List Char → Option (List Char × List Char)
  | [] => none
  | x :: rest =>
    match splitLast c rest with
    | some p => some (x :: p.1, p.2)
    | none => if x = c then some ([], rest) else none

/-- What stands before and after the first place of a mark. -/
def splitMark (mark : List Char) : List Char → Option (List Char × List Char)
  | [] => if mark = [] then some ([], []) else none
  | x :: rest =>
    if mark.isPrefixOf (x :: rest) then some ([], (x :: rest).drop mark.length)
    else (splitMark mark rest).map fun p => (x :: p.1, p.2)

/-- The pieces between the places of a character. -/
def splitAll (c : Char) : List Char → List (List Char)
  | [] => [[]]
  | x :: rest =>
    if x = c then [] :: splitAll c rest
    else
      match splitAll c rest with
      | [] => [[x]]
      | piece :: pieces => (x :: piece) :: pieces

theorem splitFirst_eq_some_iff {c : Char} {text before after : List Char} :
    splitFirst c text = some (before, after) ↔ text = before ++ c :: after ∧ c ∉ before := by
  induction text generalizing before with
  | nil => simp [splitFirst]
  | cons x rest ih =>
      by_cases h : x = c
      · subst h
        cases before with
        | nil => simp [splitFirst]
        | cons y before => simp +contextual [splitFirst, eq_comm]
      · cases before with
        | nil => simp [splitFirst, h]
        | cons y before =>
            simp only [splitFirst, h, if_false, Option.map_eq_some_iff, Prod.mk.injEq,
              List.cons.injEq, Prod.exists, List.cons_append, List.mem_cons, not_or]
            constructor
            · rintro ⟨b, a, hs, ⟨rfl, rfl⟩, rfl⟩
              exact ⟨⟨rfl, (ih.1 hs).1⟩, Ne.symm h, (ih.1 hs).2⟩
            · rintro ⟨⟨rfl, hr⟩, _, hb⟩
              exact ⟨before, after, ih.2 ⟨hr, hb⟩, ⟨rfl, rfl⟩, rfl⟩

theorem splitLast_eq_none_iff {c : Char} {text : List Char} :
    splitLast c text = none ↔ c ∉ text := by
  induction text with
  | nil => simp [splitLast]
  | cons x rest ih =>
      cases hs : splitLast c rest with
      | some p =>
          have : c ∈ rest := Decidable.byContradiction fun hn => by simp [ih.2 hn] at hs
          simp [splitLast, hs, this]
      | none => simp [splitLast, hs, ih.1 hs, eq_comm]

theorem splitLast_eq_some_iff {c : Char} {text before after : List Char} :
    splitLast c text = some (before, after) ↔ text = before ++ c :: after ∧ c ∉ after := by
  induction text generalizing before after with
  | nil => simp [splitLast]
  | cons x rest ih =>
      cases hs : splitLast c rest with
      | none =>
          have hc := splitLast_eq_none_iff.1 hs
          by_cases h : x = c
          · subst h
            cases before with
            | nil =>
                simp only [splitLast, hs, if_true, Option.some.injEq, Prod.mk.injEq, true_and,
                  List.nil_append, List.cons.injEq]
                exact ⟨fun h => ⟨h, h ▸ hc⟩, And.left⟩
            | cons y before =>
                simp only [splitLast, hs, if_true, Option.some.injEq, Prod.mk.injEq,
                  reduceCtorEq, false_and, List.cons_append, List.cons.injEq, false_iff]
                rintro ⟨⟨_, hr⟩, _⟩
                simp [hr] at hc
          · simp only [splitLast, hs, h, if_false, reduceCtorEq, false_iff]
            rintro ⟨hr, _⟩
            cases before with
            | nil => exact h (List.cons.inj hr).1
            | cons y before => simp [(List.cons.inj hr).2] at hc
      | some p =>
          obtain ⟨b, a⟩ := p
          have hba := ih.1 hs
          cases before with
          | nil =>
              simp only [splitLast, hs, Option.some.injEq, Prod.mk.injEq, reduceCtorEq,
                false_and, List.nil_append, List.cons.injEq, false_iff]
              rintro ⟨⟨_, hr⟩, hn⟩
              simp [← hr, hba.1] at hn
          | cons y before =>
              simp only [splitLast, hs, Option.some.injEq, Prod.mk.injEq, List.cons.injEq,
                List.cons_append]
              constructor
              · rintro ⟨⟨rfl, rfl⟩, rfl⟩
                exact ⟨⟨rfl, hba.1⟩, hba.2⟩
              · rintro ⟨⟨rfl, hr⟩, hn⟩
                have := ih.2 ⟨hr, hn⟩
                simp only [hs, Option.some.injEq, Prod.mk.injEq] at this
                exact ⟨⟨rfl, this.1⟩, this.2⟩

end BootTlv.Text
