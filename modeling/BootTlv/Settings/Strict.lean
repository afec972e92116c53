import BootTlv.Settings
import BootTlv.Toml.Document

/-!
# Strict settings

Settings as a TOML document gives them: the size is a natural number, the flag is a flag, and words
are written in lower case. Keys that are no settings are ignored.
-/

namespace BootTlv.Settings

/-- A size in a TOML document. -/
def strictSize? (value : Toml.Value) : Option UInt64 :=
  (value.natural? Number.maxUnsigned).map UInt64.ofNat

/-- The settings of the fields of a document. -/
def ofToml? (fields : Toml.Fields) : Option Settings :=
  ofFields? (fields.lookup ·) strictSize? Toml.Value.flag? Toml.Value.word?

/-- The settings of the text of a document. -/
def ofText? (text : String) : Option Settings := (Toml.Document.fields? text).bind ofToml?

end BootTlv.Settings
