import BootTlv.Entry

/-!
# Verdicts

What reading a buffer comes to: whether it is valid, the entries it holds and what is wrong with
it. A buffer that is cut short has no entries, whatever could be read of it.
-/

namespace BootTlv

/-- The outcome of reading a buffer. -/
structure Verdict where
  valid : Bool := false
  entries : List Entry := []
  faults : List Fault := []

namespace Verdict

/-- The first entry with a tag. -/
def get? (verdict : Verdict) (tag : Tag) : Option Entry := verdict.entries.find? (·.tag == tag)

/-- Whether there is a fault of a kind. -/
def hasFault (verdict : Verdict) (kind : Fault.Kind) : Bool :=
  verdict.faults.any (·.kind = kind)

/-- Whether the buffer was cut short. -/
def isFraming (verdict : Verdict) : Bool := verdict.faults.any Fault.isFraming

/-- Nothing was read and nothing was found. -/
def isBlank (verdict : Verdict) : Bool :=
  !verdict.valid && verdict.entries.isEmpty && verdict.faults.isEmpty

end Verdict

end BootTlv
