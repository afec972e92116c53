import BootTlv.Proofs.Toml.Keys
import BootTlv.Settings.Layers

/-!
# Laying layers

A layer whose keys are plain names, each there once, is laid value by value. Over nothing it is as
it was (`lay_nil`), and its values take the place of those below it under the same keys, while the
other values below it are kept (`lookup_lay`).

A table that is added to nothing is the same table, if it has no two values for one key
(`add_eq_append`). Tables of documents are so, also after their keys are put in lower case
(`Distinct.ofToml`).
-/

namespace BootTlv.Settings

namespace Loose

/-! ## Values with one value for a key -/

/-- No table in the value has two values for one key. -/
inductive Distinct : Loose → Prop where
  | flag (value : Bool) : Distinct (.flag value)
  | integer (value : Int) : Distinct (.integer value)
  | float (value : Number.Binary64) : Distinct (.float value)
  | text (value : String) : Distinct (.text value)
  | table {fields : List (String × Loose)} (hkeys : (fields.map Prod.fst).Nodup)
      (h : ∀ field ∈ fields, Distinct field.2) : Distinct (.table fields)
  | other : Distinct .other

theorem ofFields_eq_map (fields : Toml.Fields) :
    ofFields fields = fields.map fun field => (field.1, ofToml field.2) := by
  induction fields with
  | nil => rfl
  | cons field fields ih =>
      obtain ⟨key, value⟩ := field
      rw [ofFields, ih, List.map_cons]

theorem map_fst_ofFields (fields : Toml.Fields) :
    (ofFields fields).map Prod.fst = fields.map Prod.fst := by
  rw [ofFields_eq_map, List.map_map]
  rfl

section LowerCase

variable {fields : List (String × Loose)}

theorem mem_of_mem_inLowerCase {item : String × Loose} (h : item ∈ inLowerCase fields) :
    ∃ key, (key, item.2) ∈ fields ∧ item.1 = Text.lower key := by
  obtain ⟨named, hnamed, rfl⟩ := List.mem_map.mp h
  obtain ⟨field, hfield, rfl⟩ := List.mem_map.mp (List.mem_of_mem_filter hnamed)
  exact ⟨field.1, hfield, rfl⟩

/-- Of keys that are the same in lower case only the greatest is kept. -/
theorem nodup_inLowerCase (h : (fields.map Prod.fst).Nodup) :
    ((inLowerCase fields).map Prod.fst).Nodup := by
  have hnamed : (fields.map fun field => (Text.lower field.1, field)).Pairwise
      fun n m => n.2.1 ≠ m.2.1 := List.pairwise_map.mpr (List.pairwise_map.mp h)
  unfold inLowerCase
  rw [List.map_map, List.Nodup, List.pairwise_map]
  refine (hnamed.filter _).imp_of_mem fun {n m} hn hm hkeys heq => ?_
  rw [List.mem_filter] at hn hm
  simp only [Function.comp_apply] at heq
  simp only [Bool.not_eq_true', List.any_eq_false, Bool.and_eq_true, decide_eq_true_eq,
    not_and] at hn hm
  have hle : m.2.1 ≤ n.2.1 := String.not_lt.mp (hn.2 m hm.1 heq.symm)
  have hge : n.2.1 ≤ m.2.1 := String.not_lt.mp (hm.2 n hn.1 heq)
  exact hkeys (String.le_antisymm hge hle)

/-- Keys that differ in lower case are all kept. -/
theorem inLowerCase_eq_map (h : (fields.map fun field => Text.lower field.1).Nodup) :
    inLowerCase fields = fields.map fun field => (Text.lower field.1, field.2) := by
  dsimp only [inLowerCase]
  rw [List.filter_eq_self.mpr, List.map_map]
  · rfl
  · intro n hn
    obtain ⟨field, hfield, rfl⟩ := List.mem_map.mp hn
    simp only [Bool.not_eq_true', List.any_eq_false, Bool.and_eq_true, decide_eq_true_eq, not_and]
    intro m hm hkeys
    obtain ⟨other, hother, rfl⟩ := List.mem_map.mp hm
    rw [List.inj_on_of_nodup_map h hother hfield hkeys]
    exact String.lt_irrefl _

end LowerCase

theorem Distinct.ofToml {value : Toml.Value} (h : value.Distinct) : (ofToml value).Distinct := by
  induction h with
  | text value => exact .text value
  | integer value => exact .integer value
  | float value => exact .float value
  | flag value => exact .flag value
  | moment => exact .other
  | list => exact .other
  | @table fields hkeys _ ih =>
      refine .table (nodup_inLowerCase (map_fst_ofFields fields ▸ hkeys)) fun item hitem => ?_
      obtain ⟨key, hkey, -⟩ := mem_of_mem_inLowerCase hitem
      rw [ofFields_eq_map] at hkey
      obtain ⟨field, hfield, heq⟩ := List.mem_map.mp hkey
      rw [← congrArg Prod.snd heq]
      exact ih field hfield

/-! ## Adding to nothing -/

/-- Named values that are added one after another come after what is there, if each does. -/
theorem merge_eq_append {values into : List (String × Loose)}
    (hkeys : ((into ++ values).map Prod.fst).Nodup)
    (hadd : ∀ item ∈ values, ∀ name (into : List (String × Loose)), name ∉ into.map Prod.fst →
      add name item.2 into = into ++ [(name, item.2)]) :
    merge values (table into) = table (into ++ values) := by
  induction values generalizing into with
  | nil => rw [merge, List.append_nil]
  | cons item values ih =>
      obtain ⟨name, value⟩ := item
      rw [List.forall_mem_cons] at hadd
      have hname : name ∉ into.map Prod.fst := by
        rw [List.map_append, List.map_cons] at hkeys
        exact fun hmem => List.disjoint_of_nodup_append hkeys hmem List.mem_cons_self
      rw [merge, Loose.fields, hadd.1 name into hname, ih _ hadd.2, List.append_assoc]
      · rfl
      · rw [List.append_assoc]
        exact hkeys

/-- A value that is added under a new name is there as it is. -/
theorem add_eq_append {value : Loose} (h : value.Distinct) (name : String)
    (into : List (String × Loose)) (hname : name ∉ into.map Prod.fst) :
    add name value into = into ++ [(name, value)] := by
  induction h generalizing name into with
  | @table fields hkeys _ ih =>
      have hmerge : merge fields (table []) = table fields := merge_eq_append hkeys ih
      rw [add, Named.lookup_eq_none hname, Option.getD_none, hmerge]
      exact Named.set_eq_append hname
  | _ => exact Named.set_eq_append hname

end Loose

/-! ## Plain keys -/

/-- The key is a plain name, without the points and brackets that lead below a name. -/
def IsPlain (key : String) : Prop := ∀ c ∈ key.toList, Place.isNameChar c = true

instance (key : String) : Decidable (IsPlain key) :=
  decidable_of_iff (key.toList.all Place.isNameChar = true) List.all_eq_true

/-- A plain name is not the key of a moment. -/
theorem ne_momentKey_of_plain {key : String} (h : IsPlain key) : key ≠ Toml.momentKey := by
  rintro rfl
  exact absurd h (by decide)

/-- Where the keys of all tables are plain, none of them is the key of a moment. -/
theorem lacks_momentKey_of_plain {value : Toml.Value}
    (h : value.EveryTable fun fields => ∀ field ∈ fields, IsPlain field.1) :
    value.Lacks Toml.momentKey :=
  h.imp fun _ hplain field hfield => ne_momentKey_of_plain (hplain field hfield)

theorem toNat_lt_of_isNameChar {c : Char} (h : Place.isNameChar c = true) : c.toNat < 128 := by
  have hbelow {d : Char} (hd : d.toNat < 128) (hle : c.val ≤ d.val) : c.toNat < 128 :=
    Nat.lt_of_le_of_lt (UInt32.le_iff_toNat_le.mp hle) hd
  simp only [Place.isNameChar, Bool.or_eq_true, beq_iff_eq] at h
  rcases h with ((halphanum | rfl) | rfl) | rfl
  case inr | inl.inr | inl.inl.inr => decide
  obtain halpha | hdigit := Bool.or_eq_true_iff.mp halphanum
  · obtain hupper | hlower := Bool.or_eq_true_iff.mp halpha
    · exact hbelow (d := 'Z') (by decide) (of_decide_eq_true hupper).2
    · exact hbelow (d := 'z') (by decide) (of_decide_eq_true (Bool.and_eq_true_iff.mp hlower).2)
  · exact hbelow (d := '9') (by decide) (of_decide_eq_true (Bool.and_eq_true_iff.mp hdigit).2)

theorem isNameChar_of_mem_lowerChar {c d : Char} (h : Place.isNameChar c = true)
    (hd : d ∈ Text.lowerChar c) : Place.isNameChar d = true := by
  have htable : ∀ n : Fin 128, Place.isNameChar (Char.ofNat n) = true →
      (Text.lowerChar (Char.ofNat n)).all Place.isNameChar = true := by
    decide
  have hlower := htable ⟨c.toNat, toNat_lt_of_isNameChar h⟩
  simp only [Char.ofNat_toNat] at hlower
  exact List.all_eq_true.mp (hlower h) d hd

theorem IsPlain.lower {key : String} (h : IsPlain key) : IsPlain (Text.lower key) := by
  intro d hd
  rw [Text.lower, String.toList_ofList] at hd
  obtain ⟨c, hc, hd⟩ := List.mem_flatMap.mp hd
  exact isNameChar_of_mem_lowerChar (h c hc) hd

theorem put_of_plain {key : String} (h : IsPlain key) (value : Loose)
    (into : List (String × Loose)) :
    Loose.put (Place.ofKey key) value into = Loose.add key value into := by
  rw [Loose.put, Place.ofKey_of_plain h]

/-! ## Layers of plain keys -/

section Layers

variable {layer : Layer} {fields : List (String × Loose)}

/-- A layer with keys of its own comes after what is there. -/
theorem lay_eq_append (hplain : ∀ item ∈ layer, IsPlain item.1)
    (hkeys : ((fields ++ layer).map Prod.fst).Nodup)
    (hvalues : ∀ item ∈ layer, item.2.Distinct) : lay layer fields = fields ++ layer := by
  induction layer generalizing fields with
  | nil => exact (List.append_nil fields).symm
  | cons item layer ih =>
      rw [List.forall_mem_cons] at hplain hvalues
      have hname : item.1 ∉ fields.map Prod.fst := by
        rw [List.map_append, List.map_cons] at hkeys
        exact fun hmem => List.disjoint_of_nodup_append hkeys hmem List.mem_cons_self
      have hitem : lay (item :: layer) fields = lay layer (fields ++ [item]) := by
        rw [← Loose.add_eq_append hvalues.1 item.1 fields hname, ← put_of_plain hplain.1]
        rfl
      rw [hitem, ih hplain.2 ?_ hvalues.2, List.append_assoc]
      · rfl
      · rw [List.append_assoc]
        exact hkeys

/-- A layer without tables takes the place of what is there under its keys. -/
theorem lookup_lay (hplain : ∀ item ∈ layer, IsPlain item.1)
    (hkeys : (layer.map Prod.fst).Nodup)
    (hadd : ∀ item ∈ layer, ∀ fields,
      Loose.add item.1 item.2 fields = Named.set item.1 item.2 fields)
    (key : String) : (lay layer fields).lookup key = (layer.lookup key).or (fields.lookup key) := by
  induction layer generalizing fields with
  | nil => rfl
  | cons item layer ih =>
      obtain ⟨name, value⟩ := item
      rw [List.forall_mem_cons] at hplain hadd
      rw [List.map_cons, List.nodup_cons] at hkeys
      have hitem :
          lay ((name, value) :: layer) fields = lay layer (Named.set name value fields) := by
        rw [← hadd.1, ← put_of_plain hplain.1]
        rfl
      rw [hitem, ih hplain.2 hkeys.2 hadd.2, Named.lookup_set]
      by_cases hkey : key = name
      · subst hkey
        rw [Named.lookup_eq_none hkeys.1, List.lookup_cons_self, if_pos rfl]
        rfl
      · rw [if_neg hkey, List.lookup_cons, beq_false_of_ne hkey]

end Layers

end BootTlv.Settings
