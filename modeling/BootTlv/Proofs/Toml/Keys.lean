import BootTlv.Proofs.Named
import BootTlv.Proofs.Toml.Yields
import BootTlv.Toml.Document
import BootTlv.Toml.MomentTable

/-!
# The keys of a document

A key of a table is given a value once. The tables of a document are built by edits, each of which
puts a value under a key or goes on in the table that is there, so no edit makes a second value for
a key (`keeps_within`, `keeps_assign`, `keeps_openTable`, `keeps_openItem`). What a document says
therefore has no two values for one key in any of its tables, at whatever depth
(`distinct_of_fields?`).
-/

namespace BootTlv.Toml

/-! ## Values -/

/-- Every table in the value has the property, at whatever depth it is. -/
inductive Value.EveryTable (P : Fields → Prop) : Value → Prop where
  | text (value : String) : EveryTable P (.text value)
  | integer (value : Int) : EveryTable P (.integer value)
  | float (value : Number.Binary64) : EveryTable P (.float value)
  | flag (value : Bool) : EveryTable P (.flag value)
  | moment : EveryTable P .moment
  | list {items : List Value} (h : ∀ item ∈ items, EveryTable P item) : EveryTable P (.list items)
  | table {fields : Fields} (hfields : P fields) (h : ∀ field ∈ fields, EveryTable P field.2) :
      EveryTable P (.table fields)

theorem Value.EveryTable.imp {P Q : Fields → Prop} (hPQ : ∀ fields, P fields → Q fields)
    {value : Value} (h : value.EveryTable P) : value.EveryTable Q := by
  induction h with
  | text value => exact .text value
  | integer value => exact .integer value
  | float value => exact .float value
  | flag value => exact .flag value
  | moment => exact .moment
  | list _ ih => exact .list ih
  | table hfields _ ih => exact .table (hPQ _ hfields) ih

/-- No table in the value has two values for one key. -/
abbrev Value.Distinct (value : Value) : Prop :=
  value.EveryTable fun fields => (fields.map Prod.fst).Nodup

/-- No table in the value has the key. -/
abbrev Value.Lacks (key : String) (value : Value) : Prop :=
  value.EveryTable fun fields => ∀ field ∈ fields, field.1 ≠ key

/-! ## Tables that are being built -/

namespace Node

theorem values_eq_map (fields : List (String × Node)) :
    values fields = fields.map fun field => (field.1, field.2.value) := by
  induction fields with
  | nil => rfl
  | cons field fields ih =>
      obtain ⟨key, node⟩ := field
      rw [values, ih, List.map_cons]

theorem items_eq_map (tables : List (List (String × Node))) :
    items tables = tables.map fun fields => .table (values fields) := by
  induction tables with
  | nil => rfl
  | cons fields tables ih => rw [items, ih, List.map_cons]

/-- The table has no two values for one key, in itself and in what it holds. -/
structure Distinct (fields : List (String × Node)) : Prop where
  keys : (fields.map Prod.fst).Nodup
  held : ∀ field ∈ fields, field.2.value.Distinct

variable {fields : List (String × Node)}

theorem distinct_nil : Distinct [] := ⟨List.nodup_nil, fun _ h => absurd h List.not_mem_nil⟩

theorem distinct_iff : Distinct fields ↔ (Value.table (values fields)).Distinct := by
  have hkeys : (values fields).map Prod.fst = fields.map Prod.fst := by
    rw [values_eq_map, List.map_map]
    rfl
  constructor
  · rintro ⟨hnodup, hheld⟩
    refine .table (hkeys ▸ hnodup) ?_
    intro field hfield
    rw [values_eq_map] at hfield
    obtain ⟨node, hnode, rfl⟩ := List.mem_map.mp hfield
    exact hheld node hnode
  · intro h
    cases h with
    | table hnodup hheld =>
        refine ⟨hkeys ▸ hnodup, ?_⟩
        intro field hfield
        refine hheld (field.1, field.2.value) ?_
        rw [values_eq_map]
        exact List.mem_map.mpr ⟨field, hfield, rfl⟩

theorem Distinct.set {key : String} {node : Node} (h : Distinct fields)
    (hnode : node.value.Distinct) : Distinct (Named.set key node fields) := by
  refine ⟨Named.nodup_set h.keys, ?_⟩
  intro field hfield
  rcases Named.mem_of_mem_set hfield with rfl | hfield
  · exact hnode
  · exact h.held field hfield

theorem Distinct.of_lookup {key : String} {node : Node} (h : Distinct fields)
    (hlookup : fields.lookup key = some node) : node.value.Distinct :=
  h.held (key, node) (Named.mem_of_lookup hlookup)

theorem distinct_value_table_iff {origin : Origin} :
    (Node.table origin fields).value.Distinct ↔ Distinct fields := by
  rw [value, distinct_iff]

theorem distinct_value_tables_iff {earlier : List (List (String × Node))} :
    (Node.tables earlier fields).value.Distinct ↔
      (∀ table ∈ earlier, Distinct table) ∧ Distinct fields := by
  rw [value, items_eq_map]
  constructor
  · intro h
    cases h with
    | list h =>
        refine ⟨?_, distinct_iff.mpr (h _ (by simp))⟩
        intro table htable
        have hitem := List.mem_map_of_mem (f := fun table => Value.table (values table)) htable
        exact distinct_iff.mpr (h _ (List.mem_append_left _ hitem))
  · rintro ⟨hearlier, hlast⟩
    refine .list ?_
    intro item hitem
    rcases List.mem_append.mp hitem with hitem | hitem
    · obtain ⟨table, htable, rfl⟩ := List.mem_map.mp hitem
      exact distinct_iff.mp (hearlier table htable)
    · rw [List.mem_singleton.mp hitem]
      exact distinct_iff.mp hlast

/-! ## Edits -/

/-- The edit makes no second value for a key. -/
def Keeps (edit : Edit) : Prop :=
  ∀ origin fields edited, Distinct fields → edit origin fields = some edited → Distinct edited

/-- Tables on the way to the place of an edit only get one value for a key, the table in which the
edit goes on. -/
theorem keeps_within (made : Origin) {edit : Edit} (h : Keeps edit) (path : List String) :
    Keeps (within made edit path) := by
  induction path with
  | nil => exact h
  | cons key path ih =>
      intro origin fields edited hfields hedit
      rw [within] at hedit
      split at hedit
      · next hlookup =>
          obtain ⟨inner, hinner, hedited⟩ := Option.bind_eq_some_iff.mp hedit
          cases hedited
          exact hfields.set (distinct_value_table_iff.mpr (ih _ _ _ distinct_nil hinner))
      · cases hedit
      · next origin' inner hlookup =>
          split at hedit
          · cases hedit
          · obtain ⟨inner', hinner, hedited⟩ := Option.bind_eq_some_iff.mp hedit
            cases hedited
            have hold := distinct_value_table_iff.mp (hfields.of_lookup hlookup)
            exact hfields.set (distinct_value_table_iff.mpr (ih _ _ _ hold hinner))
      · next earlier last hlookup =>
          obtain ⟨last', hlast, hedited⟩ := Option.bind_eq_some_iff.mp hedit
          cases hedited
          obtain ⟨hearlier, hold⟩ := distinct_value_tables_iff.mp (hfields.of_lookup hlookup)
          exact hfields.set (distinct_value_tables_iff.mpr ⟨hearlier, ih _ _ _ hold hlast⟩)

theorem keeps_assign (path : List String) (key : String) {value : Value} (h : value.Distinct) :
    Keeps (assign path key value) := by
  refine keeps_within .dotted ?_ path
  intro origin fields edited hfields hedit
  dsimp only at hedit
  split at hedit
  · cases hedit
    exact hfields.set h
  · cases hedit

theorem keeps_openTable (path : List String) (key : String) : Keeps (openTable path key) := by
  refine keeps_within .passed ?_ path
  intro origin fields edited hfields hedit
  dsimp only at hedit
  split at hedit
  · cases hedit
    exact hfields.set (distinct_value_table_iff.mpr distinct_nil)
  · next inner hlookup =>
      cases hedit
      -- A table that is opened late is taken out before it is put at the end.
      have hinner := hfields.of_lookup hlookup
      rw [distinct_value_table_iff] at hinner
      constructor
      case keys =>
        rw [List.map_append]
        refine (hfields.keys.sublist (List.filter_sublist.map Prod.fst)).append
          (List.nodup_singleton key) ?_
        intro a ha hkey
        obtain ⟨field, hfield, rfl⟩ := List.mem_map.mp ha
        rw [List.mem_filter, decide_eq_true_eq] at hfield
        exact hfield.2 (List.mem_singleton.mp hkey)
      case held =>
        intro field hfield
        rcases List.mem_append.mp hfield with hfield | hfield
        · exact hfields.held field (List.mem_of_mem_filter hfield)
        · rw [List.mem_singleton.mp hfield]
          exact distinct_value_table_iff.mpr hinner
  · cases hedit

theorem keeps_openItem (path : List String) (key : String) : Keeps (openItem path key) := by
  refine keeps_within .passed ?_ path
  intro origin fields edited hfields hedit
  dsimp only at hedit
  split at hedit
  · cases hedit
    refine hfields.set (distinct_value_tables_iff.mpr ⟨?_, distinct_nil⟩)
    exact fun table htable => absurd htable List.not_mem_nil
  · next earlier last hlookup =>
      cases hedit
      obtain ⟨hearlier, hlast⟩ := distinct_value_tables_iff.mp (hfields.of_lookup hlookup)
      refine hfields.set (distinct_value_tables_iff.mpr ⟨?_, distinct_nil⟩)
      intro table htable
      rcases List.mem_append.mp htable with htable | htable
      · exact hearlier table htable
      · rw [List.mem_singleton.mp htable]
        exact hlast
  · cases hedit

end Node

namespace Scanner

/-! ## Values that are read -/

theorem yields_scalar : Yields Value.Distinct scalar := by
  unfold scalar
  refine (yields_map Value.EveryTable.text).orElse ?_
  refine (yields_map Value.EveryTable.flag).orElse ?_
  refine (yields_bind fun _ => yields_pure Value.EveryTable.moment).orElse ?_
  refine (yields_map Value.EveryTable.float).orElse ?_
  exact (yields_map Value.EveryTable.float).orElse (yields_map Value.EveryTable.integer)

variable {P : Value → Prop} {item : Scanner Value}

/-- All items of a list have what each item has. -/
theorem yields_list (h : Yields P item) :
    Yields (fun items => ∀ value ∈ items, P value) (list item) := by
  have hend (items : List Value) (hitems : ∀ value ∈ items, P value) :
      Yields (fun items => ∀ value ∈ items, P value) (do gap; char ']'; pure items) :=
    yields_bind fun _ => yields_bind fun _ => yields_pure hitems
  refine yields_bind fun _ => yields_bind fun _ => h.maybe.bind fun read hread => ?_
  cases read with
  | none => exact hend [] fun value hvalue => absurd hvalue List.not_mem_nil
  | some first =>
      have hnext : Yields P (do char ','; gap; let next ← item; gap; pure next) :=
        yields_bind fun _ => yields_bind fun _ =>
          h.bind fun value hvalue => yields_bind fun _ => yields_pure hvalue
      refine yields_bind fun _ => hnext.many.bind fun others hothers => yields_bind fun _ => ?_
      refine hend (first :: others) fun value hvalue => ?_
      rcases List.mem_cons.mp hvalue with rfl | hvalue
      · exact hread value rfl
      · exact hothers value hvalue

theorem yields_pair (h : Yields P item) : Yields (fun read => P read.2) (pair item) := by
  refine yields_bind fun _ => yields_bind fun _ => yields_bind fun _ => ?_
  exact h.bind fun value hvalue => yields_pure hvalue

theorem yields_braces (h : Yields Value.Distinct item) :
    Yields (fun fields => (Value.table fields).Distinct) (braces item) := by
  have hpair := yields_pair h
  have hend (pairs : List ((String × List String) × Value))
      (hpairs : ∀ read ∈ pairs, read.2.Distinct) :
      Yields (fun fields => (Value.table fields).Distinct) (do
        blanks
        char '\x7d'
        let fields ← pairs.foldlM (fun fields p =>
          liftM (Node.assign (splitKey p.1).1 (splitKey p.1).2 p.2 .stated fields)) []
        pure (Node.values fields)) := by
    refine yields_bind fun _ => yields_bind fun _ => ?_
    have hassign (fields : List (String × Node)) (hfields : Node.Distinct fields)
        (p : (String × List String) × Value) (hp : p ∈ pairs) :
        Yields Node.Distinct
          (liftM (Node.assign (splitKey p.1).1 (splitKey p.1).2 p.2 .stated fields)) :=
      yields_liftM fun edited hedited =>
        Node.keeps_assign _ _ (hpairs p hp) .stated fields edited hfields hedited
    refine (yields_foldlM Node.distinct_nil hassign).bind fun fields hfields => ?_
    exact yields_pure (Node.distinct_iff.mp hfields)
  refine yields_bind fun _ => hpair.maybe.bind fun read hread => ?_
  cases read with
  | none => exact hend [] fun read hmem => absurd hmem List.not_mem_nil
  | some first =>
      have hnext : Yields (fun read => read.2.Distinct)
          (do char ','; let next ← pair item; blanks; pure next) :=
        yields_bind fun _ => hpair.bind fun read hread => yields_bind fun _ => yields_pure hread
      refine yields_bind fun _ => hnext.many.bind fun others hothers => ?_
      refine hend (first :: others) fun read hmem => ?_
      rcases List.mem_cons.mp hmem with rfl | hmem
      · exact hread read rfl
      · exact hothers read hmem

theorem yields_value (depth : Nat) : Yields Value.Distinct (value depth) := by
  induction depth with
  | zero => exact yields_scalar
  | succ depth ih =>
      rw [value]
      refine yields_scalar.orElse (Yields.orElse ?_ ?_)
      · exact (yields_list ih).map fun _ => .list
      · exact (yields_braces ih).map fun _ => id

end Scanner

/-! ## Documents -/

/-- The value that the line gives a key has no two values for one key in it. -/
def Line.Distinct : Line → Prop
  | .pair _ _ value => value.Distinct
  | .blank | .header _ _ | .itemHeader _ _ => True

theorem Scanner.yields_line : Yields Line.Distinct line := by
  refine yields_bind fun _ => ?_
  have hcontent : Yields Line.Distinct (itemHeaderLine <|> headerLine <|> pairLine) := by
    refine Yields.orElse ?_ (Yields.orElse ?_ ?_)
    · exact yields_bind fun _ => yields_bind fun _ => yields_bind fun _ => yields_pure trivial
    · exact yields_bind fun _ => yields_bind fun _ => yields_bind fun _ => yields_pure trivial
    · exact (yields_pair (yields_value _)).bind fun _ h => yields_pure h
  refine hcontent.maybe.bind fun content h => yields_bind fun _ => yields_pure ?_
  cases content with
  | none => trivial
  | some content => exact h content rfl

theorem Document.distinct_add {document document' : Document} {line : Line}
    (hdocument : Node.Distinct document.fields) (hline : line.Distinct)
    (hadd : document.add line = some document') : Node.Distinct document'.fields := by
  cases line with
  | blank =>
      cases hadd
      exact hdocument
  | pair path last value =>
      obtain ⟨fields, hfields, heq⟩ := Option.bind_eq_some_iff.mp hadd
      cases heq
      exact Node.keeps_within .passed (Node.keeps_assign path last hline) _ _ _ _ hdocument hfields
  | header path last =>
      obtain ⟨fields, hfields, heq⟩ := Option.bind_eq_some_iff.mp hadd
      cases heq
      exact Node.keeps_openTable path last _ _ _ hdocument hfields
  | itemHeader path last =>
      obtain ⟨fields, hfields, heq⟩ := Option.bind_eq_some_iff.mp hadd
      cases heq
      exact Node.keeps_openItem path last _ _ _ hdocument hfields

theorem Document.distinct_foldlM {lines : List Line} {document read : Document}
    (hdocument : Node.Distinct document.fields) (hlines : ∀ line ∈ lines, line.Distinct)
    (hread : lines.foldlM add document = some read) : Node.Distinct read.fields := by
  induction lines generalizing document with
  | nil =>
      cases hread
      exact hdocument
  | cons line lines ih =>
      rw [List.foldlM_cons] at hread
      obtain ⟨next, hnext, hread⟩ := Option.bind_eq_some_iff.mp hread
      rw [List.forall_mem_cons] at hlines
      exact ih (distinct_add hdocument hlines.1 hnext) hlines.2 hread

/-- **No table of a document has two values for one key**, at whatever depth it is. -/
theorem Document.distinct_of_fields? {text : String} {fields : Fields}
    (h : fields? text = some fields) : (Value.table fields).Distinct := by
  obtain ⟨lines, hlines, hrest⟩ := Option.bind_eq_some_iff.mp h
  obtain ⟨document, hdocument, heq⟩ := Option.bind_eq_some_iff.mp hrest
  cases heq
  have hdistinct := Scanner.yields_line.many.of_readAll? hlines
  exact Node.distinct_iff.mp (distinct_foldlM Node.distinct_nil hdistinct hdocument)

/-! ## Tables that give moments -/

theorem Value.itemsWithMoments?_eq_self {items : List Value}
    (h : ∀ item ∈ items, item.withMoments? = some item) :
    itemsWithMoments? items = some items := by
  induction items with
  | nil => rfl
  | cons item items ih =>
      rw [List.forall_mem_cons] at h
      rw [itemsWithMoments?, h.1, ih h.2]
      rfl

theorem Value.fieldsWithMoments?_eq_self {fields : Fields}
    (h : ∀ field ∈ fields, field.2.withMoments? = some field.2) :
    fieldsWithMoments? fields = some fields := by
  induction fields with
  | nil => rfl
  | cons field fields ih =>
      obtain ⟨key, value⟩ := field
      rw [List.forall_mem_cons] at h
      rw [fieldsWithMoments?, h.1, ih h.2]
      rfl

/-- A value is as written where no table in it has the key of a moment. -/
theorem Value.withMoments?_of_lacks {value : Value} (h : value.Lacks momentKey) :
    value.withMoments? = some value := by
  induction h with
  | list _ ih =>
      rw [withMoments?, itemsWithMoments?_eq_self ih]
      rfl
  | @table fields hfields _ ih =>
      cases fields with
      | nil => rw [withMoments?]
      | cons field fields =>
          obtain ⟨key, value⟩ := field
          rw [List.forall_mem_cons] at hfields ih
          rw [withMoments?.eq_def]
          dsimp only
          rw [if_neg hfields.1, ih.1, fieldsWithMoments?_eq_self ih.2]
          rfl
  | _ => rfl

end BootTlv.Toml
