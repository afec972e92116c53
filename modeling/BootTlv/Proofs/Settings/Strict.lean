import BootTlv.Proofs.Program.Outcome
import BootTlv.Proofs.Settings.Load
import BootTlv.Proofs.Toml.Moments
import BootTlv.Proofs.Toml.Value
import BootTlv.Settings.Strict

/-!
# Strict settings that are read loosely

What is loaded from a document that is read strictly is what is read strictly
(`load_of_strict`). What is a size, a flag or a word strictly is the same one loosely
(`Field.read?_ofToml`), and a setting is found under its key, whatever the other keys are in lower
case (`Loose.lookup_inLowerCase`). Only tables that begin with the key of a moment are told apart:
the strict reader ignores them, and the loose one has to find a moment in each.
-/

namespace BootTlv.Settings

/-! ## Words -/

/-- The words by which settings are chosen. -/
def choices : List String := ["hex", "binary", "text", "json", "compact", "vendor"]

section Words

variable {word : String}

theorem mem_choices_of_inputFormat {format : InputFormat}
    (h : InputFormat.ofWord? word = some format) : word ∈ choices := by
  unfold InputFormat.ofWord? at h
  split at h
  · decide
  · decide
  · cases h

theorem mem_choices_of_output {format : Report.Format}
    (h : Report.Format.ofWord? word = some format) : word ∈ choices := by
  unfold Report.Format.ofWord? at h
  split at h
  · decide
  · decide
  · cases h

theorem mem_choices_of_framing {framing : Framing} (h : Framing.ofWord? word = some framing) :
    word ∈ choices := by
  unfold Framing.ofWord? at h
  split at h
  · decide
  · decide
  · cases h

theorem toLower_of_mem_choices (h : word ∈ choices) : word.toLower = word := by
  revert word
  decide +kernel

theorem lower_of_mem_choices (h : word ∈ choices) : Text.lower word = word := by
  revert word
  decide +kernel

theorem ne_momentKey_of_mem_choices (h : word ∈ choices) : word ≠ Toml.momentKey := by
  revert word
  decide

theorem Field.lower_name (field : Field) : Text.lower field.name = field.name := by
  cases field <;> decide +kernel

end Words

/-! ## Values -/

section Values

variable {value : Toml.Value} {word : String}

theorem word?_cases (h : value.word? = some word) :
    value = .text word ∨ ∃ held, value = .table [(word, held)] ∧ held.isEmpty = true := by
  unfold Toml.Value.word? at h
  split at h
  · cases h
    exact .inl rfl
  · next key held =>
      split at h
      · next hempty =>
          cases h
          exact .inr ⟨held, rfl, hempty⟩
      · cases h
  · cases h

theorem withMoments?_of_isEmpty (h : value.isEmpty = true) : value.withMoments? = some value := by
  cases value with
  | list items =>
      rw [List.isEmpty_iff.mp h]
      rfl
  | table fields =>
      rw [List.isEmpty_iff.mp h]
      rfl
  | _ => cases h

/-- A size is the same one loosely. -/
theorem size?_ofToml {size : UInt64} (h : strictSize? value = some size) :
    value.withMoments? = some value ∧ (Loose.ofToml value).size? = some size := by
  cases value with
  | integer n =>
      refine ⟨rfl, ?_⟩
      rw [← h, Loose.ofToml, Loose.size?, strictSize?, Toml.Value.natural?]
      split <;> rfl
  | _ => cases h

/-- A flag is the same one loosely. -/
theorem flag?_ofToml {flag : Bool} (h : value.flag? = some flag) :
    value.withMoments? = some value ∧ (Loose.ofToml value).flag? = some flag := by
  cases value with
  | flag _ => exact ⟨rfl, h⟩
  | _ => cases h

/-- A word by which a setting is chosen is the same one loosely, as a text and as the key of a
table. -/
theorem word?_ofToml (h : value.word? = some word) (hword : word ∈ choices) :
    value.withMoments? = some value ∧ (Loose.ofToml value).word? = some word := by
  obtain rfl | ⟨held, rfl, hempty⟩ := word?_cases h
  · refine ⟨rfl, ?_⟩
    rw [Loose.ofToml, Loose.word?, toLower_of_mem_choices hword]
  · constructor
    · have hfirst : ∀ field ∈ [(word, held)].head?, field.1 ≠ Toml.momentKey := by
        rintro _ ⟨⟩
        exact ne_momentKey_of_mem_choices hword
      rw [Toml.Value.withMoments?_table hfirst, Toml.Value.fieldsWithMoments?_eq_self]
      · rfl
      · rw [List.forall_mem_singleton]
        exact withMoments?_of_isEmpty hempty
    · have hfields : Loose.ofFields [(word, held)] = [(word, Loose.ofToml held)] := rfl
      have hkeys : ([(word, Loose.ofToml held)].map fun field => Text.lower field.1).Nodup :=
        List.nodup_singleton (Text.lower word)
      have hlower : Loose.inLowerCase [(word, Loose.ofToml held)] =
          [(word, Loose.ofToml held)] := by
        rw [Loose.inLowerCase_eq_map hkeys, List.map_singleton, lower_of_mem_choices hword]
      rw [Loose.ofToml, hfields, hlower, Loose.word?, toLower_of_mem_choices hword]

/-- What is chosen by a word is the same loosely. -/
theorem choice?_ofToml {α : Type} {ofWord? : String → Option α} {choice : α}
    (hchoices : ∀ word choice, ofWord? word = some choice → word ∈ choices)
    (h : (value.word? >>= ofWord?) = some choice) :
    value.withMoments? = some value ∧ ((Loose.ofToml value).word? >>= ofWord?) = some choice := by
  obtain ⟨word, hword, hchoice⟩ := Option.bind_eq_some_iff.mp h
  obtain ⟨hread, hloose⟩ := word?_ofToml hword (hchoices word choice hchoice)
  exact ⟨hread, Option.bind_eq_some_iff.mpr ⟨word, hloose, hchoice⟩⟩

/-- **What a field is strictly, it is loosely.** -/
theorem Field.read?_ofToml {field : Field} {x : field.Value}
    (h : field.read? strictSize? Toml.Value.flag? Toml.Value.word? value = some x) :
    value.withMoments? = some value ∧
      field.read? Loose.size? Loose.flag? Loose.word? (.ofToml value) = some x := by
  cases field with
  | maxLength => exact size?_ofToml h
  | inputFormat => exact choice?_ofToml (fun _ _ => mem_choices_of_inputFormat) h
  | output => exact choice?_ofToml (fun _ _ => mem_choices_of_output) h
  | framing => exact choice?_ofToml (fun _ _ => mem_choices_of_framing) h
  | rejectInvalid => exact flag?_ofToml h

end Values

/-! ## Keys -/

/-- A name stands for what it stands for as written, unless another key is the name in lower
case. -/
theorem Loose.lookup_inLowerCase {fields : List (String × Loose)} {name : String}
    (hkeys : (fields.map Prod.fst).Nodup) (hname : Text.lower name = name)
    (honly : ∀ field ∈ fields, Text.lower field.1 = name → field.1 = name) :
    (inLowerCase fields).lookup name = fields.lookup name := by
  refine Option.ext fun value => ?_
  rw [Named.lookup_eq_some_iff (nodup_inLowerCase hkeys), Named.lookup_eq_some_iff hkeys]
  constructor
  · intro hmem
    obtain ⟨key, hkey, heq⟩ := mem_of_mem_inLowerCase hmem
    rwa [← honly _ hkey heq.symm]
  · intro hmem
    refine List.mem_map.mpr ⟨(Text.lower name, name, value), ?_, by rw [hname]⟩
    rw [List.mem_filter]
    refine ⟨List.mem_map.mpr ⟨_, hmem, rfl⟩, ?_⟩
    simp only [Bool.not_eq_true', List.any_eq_false, Bool.and_eq_true, decide_eq_true_eq, not_and]
    intro other hother hlower
    obtain ⟨field, hfield, rfl⟩ := List.mem_map.mp hother
    rw [honly field hfield (hlower.trans hname)]
    exact String.lt_irrefl _

/-! ## Documents -/

section Documents

variable {path : Option String} {files : Files} {environment : List (String × String)}
  {text name : String} {fields read : Toml.Fields} {settings : Settings}

theorem text?_of_file (h : files name = .ok (Utf8.encode text.toList)) :
    text? files name = some text := by
  rw [text?, Files.readText_eq_ok_iff.mpr h]

/-- The fields of a document with plain keys are read one by one. -/
theorem withMoments?_of_plain (hplain : ∀ field ∈ fields, IsPlain field.1) :
    (Toml.Value.table fields).withMoments? =
      (Toml.Value.fieldsWithMoments? fields).map .table :=
  Toml.Value.withMoments?_table fun field hfield =>
    ne_momentKey_of_plain (hplain field (List.mem_of_mem_head? hfield))

/-- The keys of a layer are those that are written in the document. -/
theorem map_fst_document (hread : Toml.Value.fieldsWithMoments? fields = some read) :
    (Loose.ofFields read).map Prod.fst = fields.map Prod.fst := by
  rw [Loose.map_fst_ofFields, Toml.Value.map_fst_fieldsWithMoments? hread]

theorem exists_field_of_mem (hread : Toml.Value.fieldsWithMoments? fields = some read)
    {item : String × Loose} (hitem : item ∈ Loose.ofFields read) :
    ∃ field ∈ fields, field.1 = item.1 := by
  have hmem := List.mem_map_of_mem (f := Prod.fst) hitem
  rwa [map_fst_document hread, List.mem_map] at hmem

/-- The layer of a document is laid over nothing as it is. -/
theorem lay_document (hfields : Toml.Document.fields? text = some fields)
    (hplain : ∀ field ∈ fields, IsPlain field.1)
    (hread : Toml.Value.fieldsWithMoments? fields = some read) :
    lay (Loose.inLowerCase (Loose.ofFields read)) [] =
      Loose.inLowerCase (Loose.ofFields read) := by
  have htable : (Toml.Value.table fields).withMoments? = some (.table read) := by
    rw [withMoments?_of_plain hplain, hread]
    rfl
  have hdistinct : (Loose.table (Loose.inLowerCase (Loose.ofFields read))).Distinct :=
    Loose.Distinct.ofToml ((Toml.Document.distinct_of_fields? hfields).withMoments? htable)
  have hkeys : ∀ item ∈ Loose.inLowerCase (Loose.ofFields read), IsPlain item.1 := by
    intro item hitem
    obtain ⟨key, hkey, hlower⟩ := Loose.mem_of_mem_inLowerCase hitem
    obtain ⟨field, hfield, rfl⟩ : ∃ field ∈ fields, field.1 = key := exists_field_of_mem hread hkey
    rw [hlower]
    exact (hplain field hfield).lower
  cases hdistinct with
  | table hnodup hvalues => exact lay_eq_append hkeys hnodup hvalues

/-- A setting is found in the layer of a document as the document has it. -/
theorem lookup_document (hfields : Toml.Document.fields? text = some fields)
    (hread : Toml.Value.fieldsWithMoments? fields = some read) {field : Field}
    (hcase : ∀ item ∈ fields, Text.lower item.1 = field.name → item.1 = field.name) :
    (Loose.inLowerCase (Loose.ofFields read)).lookup field.name =
      ((fields.lookup field.name).bind Toml.Value.withMoments?).map Loose.ofToml := by
  have hkeys : (fields.map Prod.fst).Nodup := by
    cases Toml.Document.distinct_of_fields? hfields with
    | table hkeys _ => exact hkeys
  rw [Loose.lookup_inLowerCase (map_fst_document hread ▸ hkeys) field.lower_name,
    Loose.ofFields_eq_map, Named.lookup_map, Toml.Value.lookup_fieldsWithMoments? hread]
  intro item hitem hlower
  obtain ⟨written, hmem, hwritten⟩ := exists_field_of_mem hread hitem
  rw [← hwritten] at hlower ⊢
  exact hcase written hmem hlower

/-- What a field is in a document strictly, it is in the layer of the document. -/
theorem given?_document {found : Option Toml.Value} {field : Field} {x : field.Value}
    (h : field.given? strictSize? Toml.Value.flag? Toml.Value.word? found = some x) :
    field.given? Loose.size? Loose.flag? Loose.word?
      ((found.bind Toml.Value.withMoments?).map Loose.ofToml) = some x := by
  cases found with
  | none => exact h
  | some value =>
      obtain ⟨hread, hloose⟩ := field.read?_ofToml h
      rw [Option.bind_some, hread]
      exact hloose

/-- Without variables the settings of a document are those of its layer. -/
theorem load?_document (htext : text? files (path.getD defaultPath) = some text)
    (hfields : Toml.Document.fields? text = some fields)
    (hplain : ∀ field ∈ fields, IsPlain field.1) (hunset : variableKeys environment = []) :
    load? path files environment =
      (Toml.Value.fieldsWithMoments? fields).bind fun read =>
        ofLoose? (Loose.inLowerCase (Loose.ofFields read)) := by
  have hvariables : ofVariables environment = [] := by
    rw [← List.map_eq_nil_iff, map_fst_ofVariables, hunset]
  rw [load?, fileLayer?_of_text? htext, layer?, hfields, Option.map_some, Option.bind_some,
    withMoments?_of_plain hplain, hvariables]
  cases hread : Toml.Value.fieldsWithMoments? fields with
  | none => rfl
  | some read => exact congrArg ofLoose? (lay_document hfields hplain hread)

/-- **The loose reader refines the strict one, but for tables that are read as moments.** From a
document that is read strictly nothing else is loaded than is read strictly, and this is loaded if
every table in the document that begins with the key of a moment gives one. -/
theorem load_of_strict (hfile : files (path.getD defaultPath) = .ok (Utf8.encode text.toList))
    (hfields : Toml.Document.fields? text = some fields)
    (hplain : ∀ item ∈ fields, IsPlain item.1)
    (hcase : ∀ item ∈ fields, ∀ field : Field, Text.lower item.1 = field.name → item.1 = field.name)
    (hunset : variableKeys environment = []) (hstrict : ofText? text = some settings) :
    (∀ loaded, load? path files environment = some loaded → loaded = settings) ∧
      ((∀ item ∈ fields, item.2.WellDated) → load? path files environment = some settings) := by
  have hload := load?_document (text?_of_file hfile) hfields hplain hunset
  rw [ofText?, hfields, Option.bind_some] at hstrict
  -- Moments alone decide whether the document is read. If it is, no field is read otherwise.
  have hagrees {read : Toml.Fields}
      (hread : Toml.Value.fieldsWithMoments? fields = some read) :
      load? path files environment = some settings := by
    rw [hload, hread, Option.bind_some]
    refine ofFields?_eq_some_iff.mpr fun field => ?_
    rw [lookup_document hfields hread fun item hitem => hcase item hitem field]
    exact given?_document (ofFields?_eq_some_iff.mp hstrict field)
  constructor
  · intro loaded hloaded
    obtain ⟨read, hread, -⟩ := Option.bind_eq_some_iff.mp (hload.symm.trans hloaded)
    rw [hagrees hread] at hloaded
    exact (Option.some.inj hloaded).symm
  · intro hdated
    obtain ⟨read, hread⟩ := Toml.Value.exists_fieldsWithMoments?_iff.mpr fun item hitem =>
      (Toml.Value.exists_withMoments?_iff item.2).mpr (hdated item hitem)
    exact hagrees hread

end Documents

/-- A document with the greatest size, a word as a key, two keys that are the same in lower case and
a date that is given as a table. -/
def dated : String :=
  "max_buffer_len = 9223372036854775807\noutput = \x7b json = \x7b\x7d \x7d\nExtra = 1\n" ++
    "extra = \x7b \"$__toml_private_datetime\" = \"1979-05-27\" \x7d\n"

/-- What the document holds. -/
def datedFields : Toml.Fields :=
  [("max_buffer_len", .integer 9223372036854775807), ("output", .table [("json", .table [])]),
    ("Extra", .integer 1), ("extra", .table [(Toml.momentKey, .text "1979-05-27")])]

theorem fields?_dated : Toml.Document.fields? dated = some datedFields := by
  decide +kernel

/-- A folder with the document as the default file. -/
def datedFolder : Files := Files.ofList [(defaultPath, Utf8.encode dated.toList)]

theorem load_of_strict_dated :
    load? none datedFolder [("HOME", "/root")] =
      some { maxLength := 9223372036854775807, output := .json } := by
  have hfile : datedFolder ((none : Option String).getD defaultPath) =
      .ok (Utf8.encode dated.toList) := by
    decide +kernel
  have hstrict : ofText? dated = some { maxLength := 9223372036854775807, output := .json } := by
    rw [ofText?, fields?_dated]
    decide +kernel
  have hdated : ∀ item ∈ datedFields, item.2.WellDated := by
    have hmoment : Toml.isMoment "1979-05-27" = true := by decide +kernel
    have houtput : (Toml.Value.table [("json", .table [])]).WellDated :=
      (Toml.Value.exists_withMoments?_iff _).mp ⟨_, rfl⟩
    simp only [datedFields, List.forall_mem_cons]
    exact ⟨.integer _, houtput, .integer _, .momentTable hmoment [],
      fun _ h => absurd h List.not_mem_nil⟩
  have hcase : ∀ item ∈ datedFields, ∀ field : Field,
      Text.lower item.1 = field.name → item.1 = field.name := by
    decide +kernel
  exact (load_of_strict hfile fields?_dated (by decide +kernel) hcase (by decide +kernel)
    hstrict).2 hdated

/-- A document with a table that begins with the key of a moment and gives none. -/
def undated : String :=
  "x = \x7b\"$__toml_private_datetime\" = \"nope\"\x7d\noutput = \"json\"\n"

/-- What the document holds. -/
def undatedFields : Toml.Fields :=
  [("x", .table [(Toml.momentKey, .text "nope")]), ("output", .text "json")]

theorem fields?_undated : Toml.Document.fields? undated = some undatedFields := by
  decide +kernel

/-- A folder with the document as the default file. -/
def undatedFolder : Files := Files.ofList [(defaultPath, Utf8.encode undated.toList)]

theorem load_of_strict_undated :
    ofText? undated = some { output := .json } ∧ load? none undatedFolder [] = none ∧
      ¬ ∀ (path : Option String) (files : Files) (environment : List (String × String))
        (text : String) (fields : Toml.Fields) (settings : Settings),
        files (path.getD defaultPath) = .ok (Utf8.encode text.toList) →
        Toml.Document.fields? text = some fields →
        (∀ item ∈ fields, IsPlain item.1) →
        (∀ item ∈ fields, ∀ field : Field,
          Text.lower item.1 = field.name → item.1 = field.name) →
        variableKeys environment = [] → ofText? text = some settings →
        load? path files environment = some settings := by
  have hfile : undatedFolder ((none : Option String).getD defaultPath) =
      .ok (Utf8.encode undated.toList) := by
    decide +kernel
  have hplain : ∀ item ∈ undatedFields, IsPlain item.1 := by decide +kernel
  have hcase : ∀ item ∈ undatedFields, ∀ field : Field,
      Text.lower item.1 = field.name → item.1 = field.name := by
    decide +kernel
  have hstrict : ofText? undated = some { output := .json } := by
    rw [ofText?, fields?_undated]
    decide +kernel
  have hmoments : Toml.Value.fieldsWithMoments? undatedFields = none := by decide +kernel
  have hload : load? none undatedFolder [] = none := by
    rw [load?_document (text?_of_file hfile) fields?_undated hplain rfl, hmoments]
    rfl
  refine ⟨hstrict, hload, fun hall => ?_⟩
  have hsame := hall none undatedFolder [] undated undatedFields _ hfile fields?_undated hplain
    hcase rfl hstrict
  rw [hload] at hsame
  cases hsame

end BootTlv.Settings
