/-!
# Named values

Lists of names with a value each. A name that is given a new value keeps its place, and a new name
comes last. `lookup_set` says what a name stands for after that.
-/

namespace BootTlv.Named

variable {α : Type}

/-- The list with a value for a name, at the old place of the name if it had one. -/
def set (name : String) (value : α) : List (String × α) → List (String × α)
  | [] => [(name, value)]
  | (n, old) :: rest => if n = name then (name, value) :: rest else (n, old) :: set name value rest

theorem lookup_set (name key : String) (value : α) (values : List (String × α)) :
    (set name value values).lookup key = if key = name then some value else values.lookup key := by
  induction values with
  | nil =>
      by_cases h : key = name
      · simp [set, h]
      · simp [set, List.lookup_cons, h, beq_eq_false_iff_ne.2 h]
  | cons item rest ih =>
      obtain ⟨n, old⟩ := item
      by_cases hn : n = name
      · subst hn
        by_cases h : key = n
        · simp [set, h]
        · simp [set, List.lookup_cons, h, beq_eq_false_iff_ne.2 h]
      · by_cases hk : key = n
        · subst hk
          simp [set, hn]
        · simp [set, List.lookup_cons, hn, ih, beq_eq_false_iff_ne.2 hk]

end BootTlv.Named
