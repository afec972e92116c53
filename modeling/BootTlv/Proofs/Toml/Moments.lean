import BootTlv.Proofs.Result
import BootTlv.Proofs.Toml.Keys
import BootTlv.Proofs.Toml.Value

/-!
# Tables that are read as moments

A table that begins with the key of a moment is taken for a moment, and the text of a date or time
has to stand under that key. A value can be read with its moments exactly when this is so for each
such table in it (`exists_withMoments?_iff`). What is read then has the keys that were written
(`map_fst_fieldsWithMoments?`), each with what its value is read as (`lookup_fieldsWithMoments?`).
-/

namespace BootTlv.Toml.Value

/-- Every table in the value that begins with the key of a moment gives one. Such a table is not
looked into any further. -/
inductive WellDated : Value → Prop where
  | text (value : String) : WellDated (.text value)
  | integer (value : Int) : WellDated (.integer value)
  | float (value : Number.Binary64) : WellDated (.float value)
  | flag (value : Bool) : WellDated (.flag value)
  | moment : WellDated .moment
  | list {items : List Value} (h : ∀ item ∈ items, WellDated item) : WellDated (.list items)
  | momentTable {text : String} (h : isMoment text = true) (fields : Fields) :
      WellDated (.table ((momentKey, .text text) :: fields))
  | table {fields : Fields} (hfirst : ∀ field ∈ fields.head?, field.1 ≠ momentKey)
      (h : ∀ field ∈ fields, WellDated field.2) : WellDated (.table fields)

/-! ## Values one by one -/

section Lists

variable {items readItems : List Value} {fields read : Fields}

theorem itemsWithMoments?_eq_some_iff :
    itemsWithMoments? items = some readItems ↔
      List.Forall₂ (fun item read => item.withMoments? = some read) items readItems := by
  induction items generalizing readItems with
  | nil => simp [itemsWithMoments?, eq_comm]
  | cons item items ih =>
      rw [itemsWithMoments?, List.forall₂_cons_left_iff]
      constructor
      · intro h
        obtain ⟨value, hvalue, h⟩ := Option.bind_eq_some_iff.mp h
        obtain ⟨values, hvalues, h⟩ := Option.bind_eq_some_iff.mp h
        exact ⟨value, values, hvalue, ih.mp hvalues, (Option.some.inj h).symm⟩
      · rintro ⟨value, values, hvalue, hvalues, rfl⟩
        rw [hvalue, ih.mpr hvalues]
        rfl

theorem fieldsWithMoments?_eq_some_iff :
    fieldsWithMoments? fields = some read ↔
      List.Forall₂ (fun field read => field.1 = read.1 ∧ field.2.withMoments? = some read.2)
        fields read := by
  induction fields generalizing read with
  | nil => simp [fieldsWithMoments?, eq_comm]
  | cons field fields ih =>
      obtain ⟨key, value⟩ := field
      rw [fieldsWithMoments?, List.forall₂_cons_left_iff]
      constructor
      · intro h
        obtain ⟨value', hvalue, h⟩ := Option.bind_eq_some_iff.mp h
        obtain ⟨rest, hrest, h⟩ := Option.bind_eq_some_iff.mp h
        exact ⟨(key, value'), rest, ⟨rfl, hvalue⟩, ih.mp hrest, (Option.some.inj h).symm⟩
      · rintro ⟨⟨key', value'⟩, rest, ⟨rfl, hvalue⟩, hrest, rfl⟩
        dsimp only at hvalue
        rw [hvalue, ih.mpr hrest]
        rfl

theorem exists_itemsWithMoments?_iff :
    (∃ read, itemsWithMoments? items = some read) ↔
      ∀ item ∈ items, ∃ read, item.withMoments? = some read := by
  simp only [itemsWithMoments?_eq_some_iff, List.exists_forall₂_iff]

theorem exists_fieldsWithMoments?_iff :
    (∃ read, fieldsWithMoments? fields = some read) ↔
      ∀ field ∈ fields, ∃ read, field.2.withMoments? = some read := by
  simp only [fieldsWithMoments?_eq_some_iff, List.exists_forall₂_iff]
  refine forall₂_congr fun field _ => ⟨?_, ?_⟩
  · rintro ⟨read, -, hread⟩
    exact ⟨read.2, hread⟩
  · rintro ⟨read, hread⟩
    exact ⟨(field.1, read), rfl, hread⟩

/-- The keys are kept as they are written. -/
theorem map_fst_fieldsWithMoments? (h : fieldsWithMoments? fields = some read) :
    read.map Prod.fst = fields.map Prod.fst := by
  rw [fieldsWithMoments?_eq_some_iff] at h
  induction h with
  | nil => rfl
  | cons hfield _ ih => rw [List.map_cons, List.map_cons, hfield.1, ih]

/-- A key stands for what its value is read as. -/
theorem lookup_fieldsWithMoments? (h : fieldsWithMoments? fields = some read) (key : String) :
    read.lookup key = (fields.lookup key).bind withMoments? := by
  rw [fieldsWithMoments?_eq_some_iff] at h
  induction h with
  | nil => rfl
  | @cons field read' _ _ hfield _ ih =>
      obtain ⟨hkey, hvalue⟩ := hfield
      rw [List.lookup_cons, List.lookup_cons, hkey]
      cases key == read'.1 with
      | true => exact hvalue.symm
      | false => exact ih

end Lists

/-! ## Tables -/

section Tables

variable {fields : Fields} {value read : Value}

/-- A table that begins with another key is read field by field. -/
theorem withMoments?_table (hfirst : ∀ field ∈ fields.head?, field.1 ≠ momentKey) :
    (table fields).withMoments? = (fieldsWithMoments? fields).map table := by
  cases fields with
  | nil => rfl
  | cons field fields =>
      obtain ⟨key, value⟩ := field
      rw [withMoments?.eq_def, fieldsWithMoments?]
      dsimp only
      rw [if_neg (hfirst (key, value) rfl)]
      cases value.withMoments? with
      | none => rfl
      | some read => cases fieldsWithMoments? fields <;> rfl

/-- A table that begins with the key of a moment is read as one or not at all. -/
theorem withMoments?_momentTable_eq_some_iff :
    (table ((momentKey, value) :: fields)).withMoments? = some read ↔
      read = moment ∧ ∃ text, value = .text text ∧ isMoment text = true := by
  rw [withMoments?.eq_def]
  dsimp only
  rw [if_pos rfl]
  cases value with
  | text text =>
      dsimp only
      split
      · next htext =>
          rw [Option.some.injEq, eq_comm]
          exact (and_iff_left ⟨text, rfl, htext⟩).symm
      · next htext =>
          refine iff_of_false (Option.some_ne_none read).symm ?_
          rintro ⟨-, text', heq, htext'⟩
          cases heq
          exact htext htext'
  | _ => simp

/-- A table begins with the key of a moment or does not. -/
theorem first_cases (fields : Fields) :
    (∀ field ∈ fields.head?, field.1 ≠ momentKey) ∨
      ∃ value rest, fields = (momentKey, value) :: rest := by
  cases fields with
  | nil => exact .inl fun field hfield => absurd hfield (Option.not_mem_none field)
  | cons field rest =>
      by_cases hkey : field.1 = momentKey
      · exact .inr ⟨field.2, rest, by rw [← hkey]⟩
      · exact .inl fun first hfirst => Option.some.inj hfirst ▸ hkey

/-- **A value can be read with its moments exactly when it is well dated.** -/
theorem exists_withMoments?_iff (value : Value) :
    (∃ read, value.withMoments? = some read) ↔ value.WellDated := by
  induction value using induct with
  | text value => exact iff_of_true ⟨_, rfl⟩ (.text value)
  | integer value => exact iff_of_true ⟨_, rfl⟩ (.integer value)
  | float value => exact iff_of_true ⟨_, rfl⟩ (.float value)
  | flag value => exact iff_of_true ⟨_, rfl⟩ (.flag value)
  | moment => exact iff_of_true ⟨_, rfl⟩ .moment
  | list items ih =>
      have hitems : (∃ read, (list items).withMoments? = some read) ↔
          ∃ read, itemsWithMoments? items = some read := by
        simp [withMoments?]
      rw [hitems, exists_itemsWithMoments?_iff, forall₂_congr ih]
      refine ⟨.list, fun h => ?_⟩
      cases h with
      | list h => exact h
  | table fields ih =>
      -- What holds of the fields says nothing about a moment: nothing below its text is read.
      obtain hfirst | ⟨value, rest, rfl⟩ := first_cases fields
      · have hfields : (∃ read, (table fields).withMoments? = some read) ↔
            ∃ read, fieldsWithMoments? fields = some read := by
          simp [withMoments?_table hfirst]
        rw [hfields, exists_fieldsWithMoments?_iff, forall₂_congr ih]
        refine ⟨.table hfirst, fun h => ?_⟩
        cases h with
        | momentTable => exact absurd rfl (hfirst _ rfl)
        | table _ h => exact h
      · simp only [withMoments?_momentTable_eq_some_iff]
        constructor
        · rintro ⟨-, -, text, rfl, htext⟩
          exact .momentTable htext rest
        · intro h
          cases h with
          | momentTable htext => exact ⟨moment, rfl, _, rfl, htext⟩
          | table hfirst => exact absurd rfl (hfirst _ rfl)

/-- What is read has no two values for one key in a table, if what is written has none. -/
theorem Distinct.withMoments? (h : value.Distinct) (hread : value.withMoments? = some read) :
    read.Distinct := by
  induction h generalizing read with
  | text value =>
      cases hread
      exact .text value
  | integer value =>
      cases hread
      exact .integer value
  | float value =>
      cases hread
      exact .float value
  | flag value =>
      cases hread
      exact .flag value
  | moment =>
      cases hread
      exact .moment
  | list _ ih =>
      obtain ⟨readItems, hitems, rfl⟩ := Option.map_eq_some_iff.mp hread
      refine .list fun item hitem => ?_
      obtain ⟨written, hwritten, hvalue⟩ :=
        (itemsWithMoments?_eq_some_iff.mp hitems).exists_of_mem hitem
      exact ih written hwritten hvalue
  | @table fields hkeys _ ih =>
      obtain hfirst | ⟨value, rest, rfl⟩ := first_cases fields
      · rw [withMoments?_table hfirst] at hread
        obtain ⟨readFields, hfields, rfl⟩ := Option.map_eq_some_iff.mp hread
        refine .table (map_fst_fieldsWithMoments? hfields ▸ hkeys) fun field hfield => ?_
        obtain ⟨written, hwritten, -, hvalue⟩ :=
          (fieldsWithMoments?_eq_some_iff.mp hfields).exists_of_mem hfield
        exact ih written hwritten hvalue
      · rw [(withMoments?_momentTable_eq_some_iff.mp hread).1]
        exact .moment

end Tables

end BootTlv.Toml.Value
