import BootTlv.Proofs.Settings.Fields
import BootTlv.Proofs.Settings.Layers
import BootTlv.Proofs.Toml.Value

/-!
# Where settings come from

A setting is looked for in the environment first, then in the file, and has its default if neither
gives it. Of each key one value wins in this way (`Wins`), and the settings that are loaded are what
the winners of the five fields are read as (`load_by_field`). A value that does not win is not even
read, and the winner of a key depends on nothing that is said about other keys.
-/

namespace BootTlv.Settings

/-! ## What sources say -/

/-- The keys of the variables that are settings. -/
def variableKeys (environment : List (String × String)) : List String :=
  environment.filterMap fun v => variableKey? v.1

/-- The keys of the fields of a file, in lower case. -/
def fieldKeys (fields : Toml.Fields) : List String := fields.map fun field => Text.lower field.1

/-- The environment sets the key: a variable of the key has the value. -/
def Sets (environment : List (String × String)) (key value : String) : Prop :=
  ∃ name, (name, value) ∈ environment ∧ variableKey? name = some key

/-- The fields of a file give the key the value, written in any case. -/
def Gives (fields : Toml.Fields) (key : String) (value : Toml.Value) : Prop :=
  ∃ written, (written, value) ∈ fields ∧ Text.lower written = key

/-- The fields that the file of a settings path holds: those of the document that is there, and none
if no path is named and there is no default file. -/
inductive Holds (path : Option String) (files : Files) : Toml.Fields → Prop where
  | document {text : String} {fields : Toml.Fields}
      (htext : text? files (path.getD defaultPath) = some text)
      (hfields : Toml.Document.fields? text = some fields) : Holds path files fields
  | nothing (hpath : path = none) (htext : text? files defaultPath = none) : Holds path files []

/-- The value that wins for a key, if any source has one. -/
inductive Wins (environment : List (String × String)) (fields : Toml.Fields) (key : String) :
    Option Loose → Prop where
  | environment {value : String} (h : Sets environment key value) :
      Wins environment fields key (some (ofVariable value))
  | file {value : Toml.Value} (hunset : ∀ value, ¬ Sets environment key value)
      (h : Gives fields key value) : Wins environment fields key (some (.ofToml value))
  | default (hunset : ∀ value, ¬ Sets environment key value)
      (hungiven : ∀ value, ¬ Gives fields key value) : Wins environment fields key none

/-- What the winner of a field is read as. -/
def Field.convert? (field : Field) (winner : Option Loose) : Option field.Value :=
  field.given? Loose.size? Loose.flag? Loose.word? winner

/-- A file and an environment with plain keys, in each of which no two keys are the same when their
case is ignored. Keys inside the tables of the file need not be plain, but none may be the one that
makes a table a date, which no plain key is (`PlainSources.of_plain`). -/
structure PlainSources (path : Option String) (files : Files)
    (environment : List (String × String)) (fields : Toml.Fields) : Prop where
  holds : Holds path files fields
  plain_fields : ∀ field ∈ fields, IsPlain field.1
  lacks_momentKey : (Toml.Value.table fields).Lacks Toml.momentKey
  nodup_fields : (fieldKeys fields).Nodup
  plain_variables : ∀ key ∈ variableKeys environment, IsPlain key
  nodup_variables : (variableKeys environment).Nodup

/-- The winner of a key depends on the environment at this key and, if it does not set the key, on
the file at this key. -/
theorem Wins.congr {environment environment' : List (String × String)}
    {fields fields' : Toml.Fields} {key : String} {winner : Option Loose}
    (hwins : Wins environment fields key winner)
    (henvironment : ∀ value, Sets environment' key value ↔ Sets environment key value)
    (hfile : (∀ value, ¬ Sets environment key value) →
      ∀ value, Gives fields' key value ↔ Gives fields key value) :
    Wins environment' fields' key winner := by
  cases hwins with
  | environment hsets => exact .environment ((henvironment _).mpr hsets)
  | file hunset hgives =>
      refine .file (fun value hsets => ?_) ((hfile hunset _).mpr hgives)
      exact hunset value ((henvironment value).mp hsets)
  | default hunset hungiven =>
      refine .default (fun value hsets => ?_) (fun value hgives => ?_)
      · exact hunset value ((henvironment value).mp hsets)
      · exact hungiven value ((hfile hunset value).mp hgives)

/-! ## Layers -/

/-- The layer of the fields of a file. -/
def layerOf (fields : Toml.Fields) : Layer :=
  fields.map fun field => (Text.lower field.1, .ofToml field.2)

section Lookup

variable {environment : List (String × String)} {fields : Toml.Fields} {key : String}
  {loose : Loose}

theorem mem_variableKeys :
    key ∈ variableKeys environment ↔ ∃ value, Sets environment key value := by
  rw [variableKeys, List.mem_filterMap]
  constructor
  · rintro ⟨⟨name, value⟩, hmem, hkey⟩
    exact ⟨value, name, hmem, hkey⟩
  · rintro ⟨value, name, hmem, hkey⟩
    exact ⟨(name, value), hmem, hkey⟩

theorem mem_fieldKeys : key ∈ fieldKeys fields ↔ ∃ value, Gives fields key value := by
  rw [fieldKeys, List.mem_map]
  constructor
  · rintro ⟨⟨written, value⟩, hmem, hkey⟩
    exact ⟨value, written, hmem, hkey⟩
  · rintro ⟨value, written, hmem, hkey⟩
    exact ⟨(written, value), hmem, hkey⟩

theorem mem_ofVariables {item : String × Loose} :
    item ∈ ofVariables environment ↔
      ∃ value, Sets environment item.1 value ∧ ofVariable value = item.2 := by
  rw [ofVariables, List.mem_filterMap]
  constructor
  · rintro ⟨⟨name, value⟩, hmem, hitem⟩
    obtain ⟨key, hkey, rfl⟩ := Option.map_eq_some_iff.mp hitem
    exact ⟨value, ⟨name, hmem, hkey⟩, rfl⟩
  · rintro ⟨value, ⟨name, hmem, hkey⟩, hvalue⟩
    refine ⟨(name, value), hmem, ?_⟩
    rw [hkey, Option.map_some, hvalue]

theorem map_fst_ofVariables :
    (ofVariables environment).map Prod.fst = variableKeys environment := by
  rw [ofVariables, variableKeys, List.map_filterMap]
  simp only [Option.map_map, Function.comp_def, Option.map_id']

theorem lookup_ofVariables (h : (variableKeys environment).Nodup) :
    (ofVariables environment).lookup key = some loose ↔
      ∃ value, Sets environment key value ∧ ofVariable value = loose := by
  rw [← map_fst_ofVariables] at h
  exact (Named.lookup_eq_some_iff h).trans mem_ofVariables

theorem lookup_ofVariables_eq_none_iff (h : (variableKeys environment).Nodup) :
    (ofVariables environment).lookup key = none ↔ ∀ value, ¬ Sets environment key value := by
  simp [Option.eq_none_iff_forall_ne_some, lookup_ofVariables h]

theorem mem_layerOf {item : String × Loose} :
    item ∈ layerOf fields ↔ ∃ value, Gives fields item.1 value ∧ Loose.ofToml value = item.2 := by
  rw [layerOf, List.mem_map]
  constructor
  · rintro ⟨⟨written, value⟩, hmem, rfl⟩
    exact ⟨value, ⟨written, hmem, rfl⟩, rfl⟩
  · rintro ⟨value, ⟨written, hmem, hkey⟩, hvalue⟩
    exact ⟨(written, value), hmem, Prod.ext hkey hvalue⟩

theorem map_fst_layerOf : (layerOf fields).map Prod.fst = fieldKeys fields := by
  rw [layerOf, List.map_map]
  rfl

theorem lookup_layerOf (h : (fieldKeys fields).Nodup) :
    (layerOf fields).lookup key = some loose ↔
      ∃ value, Gives fields key value ∧ Loose.ofToml value = loose := by
  rw [← map_fst_layerOf] at h
  exact (Named.lookup_eq_some_iff h).trans mem_layerOf

theorem lookup_layerOf_eq_none_iff (h : (fieldKeys fields).Nodup) :
    (layerOf fields).lookup key = none ↔ ∀ value, ¬ Gives fields key value := by
  simp [Option.eq_none_iff_forall_ne_some, lookup_layerOf h]

/-- A variable is never a table, so its value takes the place of what is there. -/
theorem add_ofVariable (key value : String) (into : List (String × Loose)) :
    Loose.add key (ofVariable value) into = Named.set key (ofVariable value) into := by
  have htable : ∀ fields, ofVariable value ≠ .table fields := by
    intro fields
    unfold ofVariable
    repeat' split
    all_goals exact Loose.noConfusion
  generalize ofVariable value = loose at htable ⊢
  cases loose with
  | table fields => exact absurd rfl (htable fields)
  | _ => rfl

/-- The file layer holds the settings of the text that is there. -/
theorem fileLayer?_of_text? {path : Option String} {files : Files} {text : String}
    (h : text? files (path.getD defaultPath) = some text) :
    fileLayer? path files = layer? text := by
  cases path with
  | none =>
      rw [Option.getD_none] at h
      rw [fileLayer?, h]
  | some path =>
      rw [Option.getD_some] at h
      rw [fileLayer?, h]
      rfl

/-- The settings of a document are its fields, if no table in it stands for a moment. -/
theorem layer?_eq {text : String} (hfields : Toml.Document.fields? text = some fields)
    (hlacks : (Toml.Value.table fields).Lacks Toml.momentKey)
    (hnodup : (fieldKeys fields).Nodup) : layer? text = some (layerOf fields) := by
  have hkeys : ((Loose.ofFields fields).map fun field => Text.lower field.1).Nodup := by
    rw [Loose.ofFields_eq_map, List.map_map]
    exact hnodup
  rw [layer?, hfields, Option.map_some, Option.bind_some, Toml.Value.withMoments?_of_lacks hlacks,
    Option.map_some, Loose.ofToml, Loose.inLowerCase_eq_map hkeys, Loose.ofFields_eq_map,
    List.map_map]
  rfl

end Lookup

namespace PlainSources

variable {path path' : Option String} {files files' : Files}
  {environment environment' : List (String × String)} {fields fields' : Toml.Fields}

/-- It is enough that the keys of the file are plain at every depth. -/
theorem of_plain (hholds : Holds path files fields)
    (hplain : (Toml.Value.table fields).EveryTable fun fields => ∀ field ∈ fields, IsPlain field.1)
    (hfields : (fieldKeys fields).Nodup) (hkeys : ∀ key ∈ variableKeys environment, IsPlain key)
    (hvariables : (variableKeys environment).Nodup) :
    PlainSources path files environment fields := by
  refine ⟨hholds, ?_, lacks_momentKey_of_plain hplain, hfields, hkeys, hvariables⟩
  cases hplain with
  | table hfields _ => exact hfields

theorem fileLayer?_eq (h : PlainSources path files environment fields) :
    fileLayer? path files = some (layerOf fields) := by
  obtain ⟨hholds, -, hlacks, hnodup, -, -⟩ := h
  cases hholds with
  | nothing hpath htext =>
      subst hpath
      rw [fileLayer?, htext]
      rfl
  | document htext hfields =>
      rw [fileLayer?_of_text? htext]
      exact layer?_eq hfields hlacks hnodup

/-- Laid over nothing, the layer of a file is as it was. -/
theorem lay_layerOf (h : PlainSources path files environment fields) :
    lay (layerOf fields) [] = layerOf fields := by
  have hdistinct : ∀ field ∈ fields, field.2.Distinct := by
    obtain ⟨hholds, -, -, -, -, -⟩ := h
    cases hholds with
    | nothing => exact fun field hfield => absurd hfield List.not_mem_nil
    | document _ hfields =>
        cases Toml.Document.distinct_of_fields? hfields with
        | table _ hvalues => exact hvalues
  refine lay_eq_append ?_ ?_ ?_
  · intro item hitem
    obtain ⟨field, hfield, rfl⟩ := List.mem_map.mp hitem
    exact (h.plain_fields field hfield).lower
  · rw [List.nil_append, map_fst_layerOf]
    exact h.nodup_fields
  · intro item hitem
    obtain ⟨field, hfield, rfl⟩ := List.mem_map.mp hitem
    exact Loose.Distinct.ofToml (hdistinct field hfield)

/-- A key is looked up in the environment first and then in the file. -/
theorem lookup_lay_eq (h : PlainSources path files environment fields) (key : String) :
    (lay (ofVariables environment) (layerOf fields)).lookup key =
      ((ofVariables environment).lookup key).or ((layerOf fields).lookup key) := by
  refine lookup_lay ?_ (map_fst_ofVariables ▸ h.nodup_variables) ?_ key
  · intro item hitem
    refine h.plain_variables item.1 ?_
    rw [← map_fst_ofVariables]
    exact List.mem_map_of_mem hitem
  · intro item hitem into
    obtain ⟨value, -, hvalue⟩ := mem_ofVariables.mp hitem
    rw [← hvalue, add_ofVariable]

/-- What is found under a key in the layers is the winner of the key. -/
theorem lookup_lay_iff (h : PlainSources path files environment fields) {key : String}
    {winner : Option Loose} :
    (lay (ofVariables environment) (layerOf fields)).lookup key = winner ↔
      Wins environment fields key winner := by
  rw [h.lookup_lay_eq]
  constructor
  · rintro rfl
    cases hvariable : (ofVariables environment).lookup key with
    | some loose =>
        obtain ⟨value, hsets, rfl⟩ := (lookup_ofVariables h.nodup_variables).mp hvariable
        exact .environment hsets
    | none =>
        have hunset := (lookup_ofVariables_eq_none_iff h.nodup_variables).mp hvariable
        cases hfile : (layerOf fields).lookup key with
        | some loose =>
            obtain ⟨value, hgives, rfl⟩ := (lookup_layerOf h.nodup_fields).mp hfile
            exact .file hunset hgives
        | none => exact .default hunset ((lookup_layerOf_eq_none_iff h.nodup_fields).mp hfile)
  · intro hwins
    cases hwins with
    | environment hsets =>
        rw [(lookup_ofVariables h.nodup_variables).mpr ⟨_, hsets, rfl⟩]
        rfl
    | file hunset hgives =>
        rw [(lookup_ofVariables_eq_none_iff h.nodup_variables).mpr hunset, Option.none_or]
        exact (lookup_layerOf h.nodup_fields).mpr ⟨_, hgives, rfl⟩
    | default hunset hungiven =>
        rw [(lookup_ofVariables_eq_none_iff h.nodup_variables).mpr hunset, Option.none_or]
        exact (lookup_layerOf_eq_none_iff h.nodup_fields).mpr hungiven

/-- A key has one winner. -/
theorem winner_unique (h : PlainSources path files environment fields) {key : String}
    {winner winner' : Option Loose} (hwins : Wins environment fields key winner)
    (hwins' : Wins environment fields key winner') : winner = winner' := by
  rw [← h.lookup_lay_iff.mpr hwins, ← h.lookup_lay_iff.mpr hwins']

variable {settings settings' : Settings}

theorem load?_eq (h : PlainSources path files environment fields) :
    load? path files environment =
      ofFields? ((lay (ofVariables environment) (layerOf fields)).lookup ·) Loose.size? Loose.flag?
        Loose.word? := by
  rw [load?, h.fileLayer?_eq]
  change ofLoose? (lay (ofVariables environment) (lay (layerOf fields) [])) = _
  rw [h.lay_layerOf]
  rfl

/-- What is found for a field is read as its winner is. -/
theorem convert?_lookup_eq_iff (h : PlainSources path files environment fields) {field : Field}
    {value : Option field.Value} :
    field.convert? ((lay (ofVariables environment) (layerOf fields)).lookup field.name) = value ↔
      ∃ winner, Wins environment fields field.name winner ∧ field.convert? winner = value := by
  constructor
  · intro hfield
    exact ⟨_, h.lookup_lay_iff.mp rfl, hfield⟩
  · rintro ⟨winner, hwins, hfield⟩
    rw [h.lookup_lay_iff.mpr hwins]
    exact hfield

theorem load?_eq_some_iff (h : PlainSources path files environment fields) :
    load? path files environment = some settings ↔
      ∀ field : Field, ∃ winner, Wins environment fields field.name winner ∧
        field.convert? winner = some (field.get settings) := by
  rw [h.load?_eq, ofFields?_eq_some_iff]
  exact forall_congr' fun field => h.convert?_lookup_eq_iff

theorem load?_eq_none_iff (h : PlainSources path files environment fields) :
    load? path files environment = none ↔
      ∃ field : Field, ∃ winner, Wins environment fields field.name winner ∧
        field.convert? winner = none := by
  rw [h.load?_eq, ofFields?_eq_none_iff]
  exact exists_congr fun field => h.convert?_lookup_eq_iff

/-- What a file gives for keys that the environment sets does not matter. -/
theorem load?_eq_of_set (h : PlainSources path files environment fields)
    (h' : PlainSources path' files' environment fields')
    (hsame : ∀ key, (∀ value, ¬ Sets environment key value) →
      ∀ value, Gives fields' key value ↔ Gives fields key value) :
    load? path' files' environment = load? path files environment := by
  refine Option.ext fun settings => ?_
  rw [h'.load?_eq_some_iff, h.load?_eq_some_iff]
  refine forall_congr' fun field => exists_congr fun winner => and_congr_left fun _ => ?_
  constructor
  · intro hwins
    exact hwins.congr (fun _ => Iff.rfl) fun hunset value => (hsame field.name hunset value).symm
  · intro hwins
    exact hwins.congr (fun _ => Iff.rfl) (hsame field.name)

/-- A field is the same where the sources say the same about its key. -/
theorem get_eq_of_same (h : PlainSources path files environment fields)
    (h' : PlainSources path' files' environment' fields')
    (hload : load? path files environment = some settings)
    (hload' : load? path' files' environment' = some settings') {field : Field}
    (henvironment : ∀ value, Sets environment' field.name value ↔ Sets environment field.name value)
    (hfile : ∀ value, Gives fields' field.name value ↔ Gives fields field.name value) :
    field.get settings' = field.get settings := by
  obtain ⟨winner, hwins, hfield⟩ := h.load?_eq_some_iff.mp hload field
  obtain ⟨winner', hwins', hfield'⟩ := h'.load?_eq_some_iff.mp hload' field
  have hsame := h'.winner_unique (hwins.congr henvironment fun _ => hfile) hwins'
  rw [← hsame, hfield] at hfield'
  exact (Option.some.inj hfield').symm

end PlainSources

/-! ## Loading by field -/

/-- **Settings are loaded field by field, the environment over the file over the defaults.** The
settings that are loaded are those whose fields are what the winners of their keys are read as, and
loading fails exactly when the winner of some field cannot be read. So a file that differs only at
keys that the environment sets, by other values, by none or by such as cannot be read, comes to the
same; and sources that differ only at one key, and load both, give the same in all other fields. -/
theorem load_by_field {path : Option String} {files : Files}
    {environment : List (String × String)} {fields : Toml.Fields}
    (h : PlainSources path files environment fields) :
    (∀ settings, load? path files environment = some settings ↔
      ∀ field : Field, ∃ winner, Wins environment fields field.name winner ∧
        field.convert? winner = some (field.get settings)) ∧
    (load? path files environment = none ↔
      ∃ field : Field, ∃ winner, Wins environment fields field.name winner ∧
        field.convert? winner = none) ∧
    (∀ path' files' fields', PlainSources path' files' environment fields' →
      (∀ key, (∀ value, ¬ Sets environment key value) →
        ∀ value, Gives fields' key value ↔ Gives fields key value) →
      load? path' files' environment = load? path files environment) ∧
    (∀ path' files' environment' fields' key settings settings',
      PlainSources path' files' environment' fields' →
      (∀ other, other ≠ key →
        (∀ value, Sets environment' other value ↔ Sets environment other value) ∧
        (∀ value, Gives fields' other value ↔ Gives fields other value)) →
      load? path files environment = some settings →
      load? path' files' environment' = some settings' →
      ∀ field : Field, field.name ≠ key → field.get settings' = field.get settings) := by
  refine ⟨fun settings => h.load?_eq_some_iff, h.load?_eq_none_iff, ?_, ?_⟩
  · intro path' files' fields' h' hsame
    exact h.load?_eq_of_set h' hsame
  · intro path' files' environment' fields' key settings settings' h' hsame hload hload' field hne
    obtain ⟨henvironment, hfile⟩ := hsame field.name hne
    exact h.get_eq_of_same h' hload hload' henvironment hfile

/-- A folder with two files of settings. The size in the second one is no size. -/
def sampleFolder : Files :=
  Files.ofList
    [("a.toml", Utf8.encode "Max_buffer_len = 512\noutput = \"json\"\n".toList),
      ("b.toml", Utf8.encode "output = \"json\"\nmax_buffer_len = \"much\"\n".toList)]

/-- What the first file holds. -/
def sampleFields : Toml.Fields := [("Max_buffer_len", .integer 512), ("output", .text "json")]

/-- Variables that are settings and one that is not. -/
def sampleVariables : List (String × String) :=
  [("HOME", "/root"), ("OCR_INSPECT_MAX_BUFFER_LEN", "77"), ("ocr_inspect_Framing", "Vendor")]

theorem variableKeys_sampleVariables :
    variableKeys sampleVariables = ["max_buffer_len", "framing"] := by
  decide +kernel

theorem plainSources_sampleFields :
    PlainSources (some "a.toml") sampleFolder sampleVariables sampleFields := by
  have htext : text? sampleFolder "a.toml" =
      some "Max_buffer_len = 512\noutput = \"json\"\n" := by
    decide +kernel
  refine .of_plain (.document htext (by decide +kernel)) (.table (by decide +kernel) ?_)
    (by decide +kernel) (variableKeys_sampleVariables ▸ by decide +kernel)
    (variableKeys_sampleVariables ▸ by decide +kernel)
  simp only [sampleFields, List.forall_mem_cons]
  exact ⟨.integer 512, .text "json", fun _ h => absurd h List.not_mem_nil⟩

theorem plainSources_sampleFolder :
    PlainSources (some "b.toml") sampleFolder sampleVariables
      [("output", .text "json"), ("max_buffer_len", .text "much")] := by
  have htext : text? sampleFolder "b.toml" =
      some "output = \"json\"\nmax_buffer_len = \"much\"\n" := by
    decide +kernel
  refine .of_plain (.document htext (by decide +kernel)) (.table (by decide +kernel) ?_)
    (by decide +kernel) (variableKeys_sampleVariables ▸ by decide +kernel)
    (variableKeys_sampleVariables ▸ by decide +kernel)
  simp only [List.forall_mem_cons]
  exact ⟨.text "json", .text "much", fun _ h => absurd h List.not_mem_nil⟩

theorem load_by_field_sampleFolder :
    load? (some "a.toml") sampleFolder sampleVariables =
        some { maxLength := 77, output := .json, framing := .vendor } ∧
      load? (some "b.toml") sampleFolder sampleVariables =
        load? (some "a.toml") sampleFolder sampleVariables := by
  obtain ⟨hload, -, hsame, -⟩ := load_by_field plainSources_sampleFields
  constructor
  · refine (hload _).mpr fun field => ?_
    have hunset (hkey : field.name ∉ ["max_buffer_len", "framing"]) (value : String) :
        ¬ Sets sampleVariables field.name value := by
      rw [← variableKeys_sampleVariables] at hkey
      exact fun hsets => hkey (mem_variableKeys.mpr ⟨value, hsets⟩)
    have hungiven (hkey : field.name ∉ ["max_buffer_len", "output"]) (value : Toml.Value) :
        ¬ Gives sampleFields field.name value :=
      fun hgives => hkey (mem_fieldKeys.mpr ⟨value, hgives⟩)
    have hgives : Gives sampleFields "output" (.text "json") :=
      ⟨"output", .tail _ (.head _), by decide +kernel⟩
    have hsize : Loose.size? (ofVariable "77") = some 77 := by decide +kernel
    have hformat : (Loose.word? (.text "json") >>= Report.Format.ofWord?) = some .json := by
      decide +kernel
    have hframing : (Loose.word? (ofVariable "Vendor") >>= Framing.ofWord?) = some .vendor := by
      decide +kernel
    cases field with
    | maxLength =>
        exact ⟨_, .environment ⟨"OCR_INSPECT_MAX_BUFFER_LEN", by decide, by decide +kernel⟩, hsize⟩
    | inputFormat => exact ⟨_, .default (hunset (by decide)) (hungiven (by decide)), rfl⟩
    | output => exact ⟨_, .file (hunset (by decide)) hgives, hformat⟩
    | framing =>
        exact ⟨_, .environment ⟨"ocr_inspect_Framing", by decide, by decide +kernel⟩, hframing⟩
    | rejectInvalid => exact ⟨_, .default (hunset (by decide)) (hungiven (by decide)), rfl⟩
  · refine hsame _ _ _ plainSources_sampleFolder fun key hunset value => ?_
    have hkey : key ≠ "max_buffer_len" := by
      rintro rfl
      exact hunset "77" ⟨"OCR_INSPECT_MAX_BUFFER_LEN", by decide, by decide +kernel⟩
    have hlower : Text.lower "Max_buffer_len" = "max_buffer_len" := by decide +kernel
    have hlower' : Text.lower "max_buffer_len" = "max_buffer_len" := by decide +kernel
    simp [Gives, sampleFields, or_and_right, exists_or, hlower, hlower', hkey.symm]

end BootTlv.Settings
