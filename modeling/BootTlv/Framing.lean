import BootTlv.Compact
import BootTlv.Vendor

/-!
# Framings

The two ways of putting entries into a buffer, and the verdict on a buffer under the built-in
catalog. A buffer in vendor framing is read as a whole before it is checked, so a buffer without
entries is checked there, too.
-/

namespace BootTlv

/-- A way of putting entries into a buffer. -/
inductive Framing where
  | compact
  | vendor
deriving DecidableEq

namespace Framing

/-- The buffer of a list of entries. -/
def encode : Framing → List Entry → Except Fault (List UInt8)
  | compact => Compact.encode
  | vendor => Vendor.encode

/-- The verdict on a buffer. -/
def inspect (framing : Framing) (buffer : List UInt8) : Verdict :=
  match framing with
  | compact => Catalog.builtin.parse buffer
  | vendor =>
    match Vendor.decode buffer with
    | .ok entries =>
      let (valid, faults) := Catalog.builtin.review entries
      ⟨valid, entries, faults⟩
    | .error fault => ⟨false, [], [fault]⟩

end Framing

end BootTlv
