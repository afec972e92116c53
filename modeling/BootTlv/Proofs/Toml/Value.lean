import BootTlv.Toml.Value

/-!
# Values of a document

A value is built from the values in its lists and tables, so what holds of a value as soon as it
holds of these holds of every value (`Value.induct`). Two values are compared part by part
(`same_iff`), which decides whether a document says a given thing.
-/

namespace BootTlv.Toml.Value

/-- Values are built from the values in their lists and tables. -/
@[elab_as_elim]
theorem induct {P : Value → Prop} (text : ∀ value, P (.text value))
    (integer : ∀ value, P (.integer value)) (float : ∀ value, P (.float value))
    (flag : ∀ value, P (.flag value)) (moment : P .moment)
    (list : ∀ items, (∀ item ∈ items, P item) → P (.list items))
    (table : ∀ fields, (∀ field ∈ fields, P field.2) → P (.table fields)) (value : Value) :
    P value :=
  @Value.rec P (fun items => ∀ item ∈ items, P item) (fun fields => ∀ field ∈ fields, P field.2)
    (fun field => P field.2) text integer float flag moment list table
    (fun _ h => absurd h List.not_mem_nil)
    (fun _ _ hitem hitems => List.forall_mem_cons.mpr ⟨hitem, hitems⟩)
    (fun _ h => absurd h List.not_mem_nil)
    (fun _ _ hfield hfields => List.forall_mem_cons.mpr ⟨hfield, hfields⟩)
    (fun _ _ h => h) value

/-! ## Equality -/

mutual

/-- Whether two values are the same, part by part. -/
def same : Value → Value → Bool
  | text s, text t => s == t
  | integer m, integer n => m == n
  | float x, float y => x == y
  | flag b, flag c => b == c
  | moment, moment => true
  | list items, list others => sameItems items others
  | table fields, table others => sameFields fields others
  | _, _ => false

/-- Whether two lists have the same items. -/
def sameItems : List Value → List Value → Bool
  | [], [] => true
  | item :: items, other :: others => same item other && sameItems items others
  | _, _ => false

/-- Whether two tables have the same fields in the same order. -/
def sameFields : List (String × Value) → List (String × Value) → Bool
  | [], [] => true
  | (key, value) :: fields, (key', value') :: others =>
    key == key' && same value value' && sameFields fields others
  | _, _ => false

end

theorem sameItems_iff {items others : List Value}
    (h : ∀ item ∈ items, ∀ other, same item other = true ↔ item = other) :
    sameItems items others = true ↔ items = others := by
  induction items generalizing others with
  | nil => cases others <;> simp [sameItems]
  | cons item items ih =>
      rw [List.forall_mem_cons] at h
      cases others with
      | nil => simp [sameItems]
      | cons other others => simp [sameItems, h.1, ih h.2]

theorem sameFields_iff {fields others : Fields}
    (h : ∀ field ∈ fields, ∀ other, same field.2 other = true ↔ field.2 = other) :
    sameFields fields others = true ↔ fields = others := by
  induction fields generalizing others with
  | nil => cases others <;> simp [sameFields]
  | cons field fields ih =>
      obtain ⟨key, value⟩ := field
      rw [List.forall_mem_cons] at h
      cases others with
      | nil => simp [sameFields]
      | cons other others =>
          obtain ⟨key', value'⟩ := other
          simp [sameFields, h.1, ih h.2]

theorem same_iff {value other : Value} : same value other = true ↔ value = other := by
  induction value using induct generalizing other with
  | text value => cases other <;> simp [same]
  | integer value => cases other <;> simp [same]
  | float value => cases other <;> simp [same]
  | flag value => cases other <;> simp [same]
  | moment => cases other <;> simp [same]
  | list items ih =>
      cases other with
      | list others => simp [same, sameItems_iff fun item hitem _ => ih item hitem]
      | _ => simp [same]
  | table fields ih =>
      cases other with
      | table others => simp [same, sameFields_iff fun field hfield _ => ih field hfield]
      | _ => simp [same]

instance : DecidableEq Value := fun value other =>
  decidable_of_iff (same value other = true) same_iff

end BootTlv.Toml.Value
