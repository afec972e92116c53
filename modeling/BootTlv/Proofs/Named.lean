import BootTlv.Named
import Mathlib.Data.List.Nodup

/-!
# Lists with names

A name is given a value in place or at the end, so names that are different stay different
(`nodup_set`), and where they are, a name stands for the value that is listed with it
(`lookup_eq_some_iff`).
-/

namespace BootTlv.Named

variable {α : Type} {name : String} {value : α} {values : List (String × α)}

/-- A new name comes last. -/
theorem set_eq_append (h : name ∉ values.map Prod.fst) :
    set name value values = values ++ [(name, value)] := by
  induction values with
  | nil => rfl
  | cons item values ih =>
      rw [List.map_cons, List.mem_cons, not_or] at h
      rw [set, if_neg (Ne.symm h.1), ih h.2, List.cons_append]

theorem lookup_eq_none (h : name ∉ values.map Prod.fst) : values.lookup name = none := by
  rw [List.lookup_eq_none_iff]
  intro item hitem
  rw [bne_iff_ne]
  exact fun heq => h (List.mem_map.mpr ⟨item, hitem, heq.symm⟩)

/-- What a name stands for goes with the values. -/
theorem lookup_map {β : Type} (f : α → β) (name : String) (values : List (String × α)) :
    (values.map fun item => (item.1, f item.2)).lookup name = (values.lookup name).map f := by
  induction values with
  | nil => rfl
  | cons item values ih =>
      rw [List.map_cons, List.lookup_cons, List.lookup_cons]
      cases name == item.1 with
      | true => rfl
      | false => exact ih

/-- A name that is there keeps its place. -/
theorem map_fst_set_of_mem (h : name ∈ values.map Prod.fst) :
    (set name value values).map Prod.fst = values.map Prod.fst := by
  induction values with
  | nil => exact absurd h List.not_mem_nil
  | cons item values ih =>
      by_cases hname : item.1 = name
      · rw [set, if_pos hname, List.map_cons, List.map_cons, hname]
      · rw [List.map_cons, List.mem_cons] at h
        rw [set, if_neg hname, List.map_cons, List.map_cons, ih (h.resolve_left (Ne.symm hname))]

theorem nodup_set (h : (values.map Prod.fst).Nodup) :
    ((set name value values).map Prod.fst).Nodup := by
  by_cases hname : name ∈ values.map Prod.fst
  · rw [map_fst_set_of_mem hname]
    exact h
  · rw [set_eq_append hname, List.map_append]
    exact h.append (List.nodup_singleton name) (List.disjoint_singleton.mpr hname)

theorem mem_of_mem_set {item : String × α} (h : item ∈ set name value values) :
    item = (name, value) ∨ item ∈ values := by
  induction values with
  | nil => exact .inl (List.mem_singleton.mp h)
  | cons first values ih =>
      obtain ⟨n, old⟩ := first
      rw [set] at h
      split at h
      · rcases List.mem_cons.mp h with h | h
        · exact .inl h
        · exact .inr (List.mem_cons_of_mem _ h)
      · rcases List.mem_cons.mp h with h | h
        · exact .inr (h ▸ List.mem_cons_self)
        · exact (ih h).imp_right (List.mem_cons_of_mem _)

theorem mem_of_lookup {key : String} {a : α} (h : values.lookup key = some a) :
    (key, a) ∈ values := by
  obtain ⟨before, after, rfl, -⟩ := List.lookup_eq_some_iff.mp h
  simp

theorem lookup_eq_some_iff {key : String} {a : α} (h : (values.map Prod.fst).Nodup) :
    values.lookup key = some a ↔ (key, a) ∈ values := by
  refine ⟨mem_of_lookup, fun hmem => ?_⟩
  induction values with
  | nil => exact absurd hmem List.not_mem_nil
  | cons item values ih =>
      rw [List.map_cons, List.nodup_cons] at h
      rcases List.mem_cons.mp hmem with rfl | hmem
      · exact List.lookup_cons_self
      · have hne : key ≠ item.1 := by
          rintro rfl
          exact h.1 (List.mem_map.mpr ⟨_, hmem, rfl⟩)
        rw [List.lookup_cons, beq_false_of_ne hne]
        exact ih h.2 hmem

end BootTlv.Named
