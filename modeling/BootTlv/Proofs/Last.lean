import Mathlib.Data.List.Basic

/-!
# The last item of a sort

Where the last of some items counts, it is found by going through them backwards. These lemmas say
where it stands: it is of the sort, and no item after it is.
-/

namespace List

variable {α β : Type} {items : List α}

theorem findSome?_reverse_eq_some_iff {f : α → Option β} {b : β} :
    items.reverse.findSome? f = some b ↔
      ∃ before a after, items = before ++ a :: after ∧ f a = some b ∧
        ∀ later ∈ after, f later = none := by
  rw [findSome?_eq_some_iff]
  constructor
  · rintro ⟨later, a, earlier, hitems, ha, hlater⟩
    refine ⟨earlier.reverse, a, later.reverse, ?_, ha, ?_⟩
    · rw [← reverse_reverse items, hitems, reverse_append, reverse_cons, append_assoc]
      rfl
    · intro x hx
      exact hlater x (mem_reverse.mp hx)
  · rintro ⟨before, a, after, rfl, ha, hafter⟩
    refine ⟨after.reverse, a, before.reverse, by simp, ha, ?_⟩
    intro x hx
    exact hafter x (mem_reverse.mp hx)

theorem find?_reverse_eq_some_iff {p : α → Bool} {a : α} :
    items.reverse.find? p = some a ↔
      ∃ before after, items = before ++ a :: after ∧ p a = true ∧
        ∀ later ∈ after, p later = false := by
  rw [← findSome?_guard, findSome?_reverse_eq_some_iff]
  simp only [Option.guard_eq_some_iff, Option.guard_eq_none_iff]
  constructor
  · rintro ⟨before, _, after, hitems, ⟨rfl, ha⟩, hafter⟩
    exact ⟨before, after, hitems, ha, hafter⟩
  · rintro ⟨before, after, hitems, ha, hafter⟩
    exact ⟨before, a, after, hitems, ⟨rfl, ha⟩, hafter⟩

theorem getLast?_filterMap_eq_some_iff {f : α → Option β} {b : β} :
    (items.filterMap f).getLast? = some b ↔
      ∃ before a after, items = before ++ a :: after ∧ f a = some b ∧
        ∀ later ∈ after, f later = none := by
  rw [getLast?_filterMap, findSome?_reverse_eq_some_iff]

theorem getLast?_filterMap_eq_none_iff {f : α → Option β} :
    (items.filterMap f).getLast? = none ↔ ∀ a ∈ items, f a = none := by
  rw [getLast?_eq_none_iff, filterMap_eq_nil_iff]

end List
