import BootTlv.Proofs.Compact.Scan
import BootTlv.Proofs.Framing.Whole

/-!
# Compact framing, there and back

Reading what was written gives the entries back, up to the spelling of their tags, whatever catalog
reads them (`parse_encode`). Writing what was read gives the buffer back, and a buffer is read to
its end exactly when it can be written (`encode_parse_iff`). So lists of framed entries and buffers
that are not cut stand for each other.
-/

namespace BootTlv.Compact

open Framing (compact)

theorem encode_eq_ok_iff {entries : List Entry} {buffer : List UInt8} :
    encode entries = .ok buffer ↔ (∀ e ∈ entries, e.Framed) ∧ buffer = entries.flatMap octets :=
  (Framing.encode_eq_ok_iff : compact.encode entries = .ok buffer ↔ _)

theorem isFraming_parse_iff_whole {catalog : Catalog} {buffer : List UInt8} :
    (catalog.parse buffer).isFraming = false ↔ compact.Whole buffer :=
  Catalog.isFraming_parse_iff.trans Framing.whole_iff_split_eq_nil.symm

/-- **Reading undoes writing.** Every entry comes back, in order and with its length octet and
value as they were; a check that finds a fault neither drops an entry nor changes it. -/
theorem parse_encode (catalog : Catalog) {entries : List Entry} {buffer : List UInt8}
    (h : encode entries = .ok buffer) :
    (catalog.parse buffer).isFraming = false ∧
      List.Forall₂ Entry.Same (catalog.parse buffer).entries entries := by
  have hsplit : compact.split buffer = (entries.map Entry.canonical, []) :=
    Framing.split_of_encode h
  have hnil : (compact.split buffer).2 = [] := congrArg Prod.snd hsplit
  refine ⟨Catalog.isFraming_parse_iff.mpr hnil, ?_⟩
  rw [Catalog.entries_parse catalog hnil, hsplit]
  exact Entry.forall₂_same_map_canonical entries

/-- Two spellings of one tag, an empty value, a full one of an unknown code and a bad flag. -/
def mixedEntries : List Entry :=
  [⟨.other 1, 0, []⟩, ⟨.networkDevicePath, 1, [7]⟩, ⟨.other 200, 255, List.replicate 255 7⟩,
    ⟨.certSyncRootCa, 1, [9]⟩]

/-- What is written for them. -/
def mixedBuffer : List UInt8 :=
  [1, 0, 1, 1, 7, 200, 255] ++ List.replicate 255 7 ++ [20, 1, 9]

theorem parse_encode_mixed :
    encode mixedEntries = .ok mixedBuffer ∧
      (Catalog.builtin.parse mixedBuffer).isFraming = false ∧
      List.Forall₂ Entry.Same (Catalog.builtin.parse mixedBuffer).entries mixedEntries := by
  have h : encode mixedEntries = .ok mixedBuffer :=
    encode_eq_ok_iff.mpr
      ⟨by simp [mixedEntries, Entry.Framed, -List.reduceReplicate],
        by simp [mixedEntries, mixedBuffer, octets, Tag.code, -List.reduceReplicate]⟩
  exact ⟨h, parse_encode Catalog.builtin h⟩

/-- **Writing undoes reading.** A buffer is read to its end exactly when some entries are written
as it, and then the entries that were read are. -/
theorem encode_parse_iff (catalog : Catalog) (buffer : List UInt8) :
    ((catalog.parse buffer).isFraming = false ↔ ∃ entries, encode entries = .ok buffer) ∧
      ((catalog.parse buffer).isFraming = false ↔
        encode (catalog.parse buffer).entries = .ok buffer) := by
  refine ⟨isFraming_parse_iff_whole, ?_⟩
  constructor
  · intro h
    have hnil : (compact.split buffer).2 = [] := Catalog.isFraming_parse_iff.mp h
    have hencode : encode (compact.split buffer).1 = .ok (compact.front buffer) :=
      compact.encode_split buffer
    rw [Catalog.entries_parse catalog hnil, hencode, Framing.front_eq_self hnil]
  · intro h
    exact isFraming_parse_iff_whole.mpr ⟨_, h⟩

end BootTlv.Compact
