import BootTlv.Settings
import Mathlib.Data.Finset.Insert
import Mathlib.Data.Fintype.Defs
import Mathlib.Tactic.ByContra

/-!
# Settings field by field

Settings have five fields. Each is read from a source of its own, the one that its name finds, and
no field is read with a look at another. So settings are what the sources give exactly when each
field is what its source gives (`ofFields?_eq_some_iff`), and there are none exactly when some field
cannot be read (`ofFields?_eq_none_iff`).
-/

namespace BootTlv.Settings

/-- A field of settings. -/
inductive Field where
  | maxLength
  | inputFormat
  | output
  | framing
  | rejectInvalid
deriving DecidableEq

namespace Field

instance : Fintype Field where
  elems := {maxLength, inputFormat, output, framing, rejectInvalid}
  complete := by
    intro field
    cases field <;> decide

/-- The key of a field. -/
def name : Field → String
  | maxLength => "max_buffer_len"
  | inputFormat => "input_format"
  | output => "output"
  | framing => "framing"
  | rejectInvalid => "reject_invalid"

/-- What a field holds. -/
def Value : Field → Type
  | maxLength => UInt64
  | inputFormat => InputFormat
  | output => Report.Format
  | framing => Framing
  | rejectInvalid => Bool

/-- The field of settings. -/
def get (settings : Settings) : (field : Field) → field.Value
  | maxLength => settings.maxLength
  | inputFormat => settings.inputFormat
  | output => settings.output
  | framing => settings.framing
  | rejectInvalid => settings.rejectInvalid

/-- The settings of a value for each field. -/
def settings (value : (field : Field) → field.Value) : Settings :=
  ⟨value maxLength, value inputFormat, value output, value framing, value rejectInvalid⟩

theorem get_settings (value : (field : Field) → field.Value) (field : Field) :
    field.get (settings value) = value field := by
  cases field <;> rfl

section Reading

variable {Source : Type} (size : Source → Option UInt64) (flag : Source → Option Bool)
  (word : Source → Option String)

/-- What a source gives for a field, by the ways of reading a size, a flag and a word. -/
def read? : (field : Field) → Source → Option field.Value
  | maxLength => size
  | inputFormat => fun source => word source >>= InputFormat.ofWord?
  | output => fun source => word source >>= Report.Format.ofWord?
  | framing => fun source => word source >>= Framing.ofWord?
  | rejectInvalid => flag

/-- What there is for a field: what its source gives, and the default where there is no source. -/
def given? (field : Field) : Option Source → Option field.Value
  | some source => field.read? size flag word source
  | none => some (field.get {})

end Reading

end Field

/-! ## Reading -/

variable {Source : Type} {find : String → Option Source} {size : Source → Option UInt64}
  {flag : Source → Option Bool} {word : Source → Option String}

/-- The fields are read in their order, and the first that cannot be read ends the reading. -/
theorem ofFields?_eq :
    ofFields? find size flag word = (do
      let maxLength : UInt64 ← Field.given? size flag word .maxLength (find "max_buffer_len")
      let inputFormat : InputFormat ← Field.given? size flag word .inputFormat (find "input_format")
      let output : Report.Format ← Field.given? size flag word .output (find "output")
      let framing : Framing ← Field.given? size flag word .framing (find "framing")
      let rejectInvalid : Bool ← Field.given? size flag word .rejectInvalid (find "reject_invalid")
      return ⟨maxLength, inputFormat, output, framing, rejectInvalid⟩) := rfl

/-- **Settings are given field by field.** -/
theorem ofFields?_eq_some_iff {settings : Settings} :
    ofFields? find size flag word = some settings ↔
      ∀ field : Field,
        field.given? size flag word (find field.name) = some (field.get settings) := by
  rw [ofFields?_eq]
  constructor
  · intro h field
    obtain ⟨maxLength, hmaxLength, h⟩ := Option.bind_eq_some_iff.mp h
    obtain ⟨inputFormat, hinputFormat, h⟩ := Option.bind_eq_some_iff.mp h
    obtain ⟨output, houtput, h⟩ := Option.bind_eq_some_iff.mp h
    obtain ⟨framing, hframing, h⟩ := Option.bind_eq_some_iff.mp h
    obtain ⟨rejectInvalid, hrejectInvalid, h⟩ := Option.bind_eq_some_iff.mp h
    cases h
    cases field with
    | maxLength => exact hmaxLength
    | inputFormat => exact hinputFormat
    | output => exact houtput
    | framing => exact hframing
    | rejectInvalid => exact hrejectInvalid
  · intro h
    refine Option.bind_eq_some_iff.mpr ⟨_, h .maxLength, ?_⟩
    refine Option.bind_eq_some_iff.mpr ⟨_, h .inputFormat, ?_⟩
    refine Option.bind_eq_some_iff.mpr ⟨_, h .output, ?_⟩
    refine Option.bind_eq_some_iff.mpr ⟨_, h .framing, ?_⟩
    exact Option.bind_eq_some_iff.mpr ⟨_, h .rejectInvalid, rfl⟩

/-- There are no settings exactly when some field cannot be read. -/
theorem ofFields?_eq_none_iff :
    ofFields? find size flag word = none ↔
      ∃ field : Field, field.given? size flag word (find field.name) = none := by
  constructor
  · intro hnone
    by_contra hall
    rw [not_exists] at hall
    have hgiven (field : Field) := Option.isSome_iff_ne_none.mpr (hall field)
    have hsome : ofFields? find size flag word =
        some (Field.settings fun field => Option.get _ (hgiven field)) := by
      refine ofFields?_eq_some_iff.mpr fun field => ?_
      rw [Field.get_settings, Option.some_get]
    rw [hnone] at hsome
    cases hsome
  · rintro ⟨field, hfield⟩
    rw [Option.eq_none_iff_forall_ne_some]
    intro settings hsettings
    rw [ofFields?_eq_some_iff.mp hsettings field] at hfield
    cases hfield

end BootTlv.Settings
