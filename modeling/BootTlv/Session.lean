import BootTlv.Compact
import BootTlv.Vendor

/-!
# Sessions

A session works on a list of entries and a buffer, both empty at first. Each step builds, reads,
writes or damages one of them. A step that fails changes neither.
-/

namespace BootTlv

/-- The entries and the buffer that a session works on. -/
structure Session where
  entries : List Entry := []
  buffer : List UInt8 := []

namespace Session

/-- One step of a session. -/
inductive Step where
  /-- Adds an entry as it is. -/
  | push (entry : Entry)
  /-- Adds a new entry. -/
  | construct (construction : Entry.Construction)
  /-- Adds the entries to the buffer in compact framing. -/
  | append
  /-- Makes the buffer of the entries in compact framing. -/
  | create
  /-- Makes the buffer of the entries in vendor framing. -/
  | encodeVendor
  /-- Takes the entries from the buffer in vendor framing. -/
  | decodeVendor
  /-- Takes the entries from the buffer in compact framing, under a catalog. -/
  | parse (catalog : Catalog)
  /-- Checks the entries under a catalog. -/
  | validate (catalog : Catalog)
  /-- Drops the entries. -/
  | clear
  /-- Cuts the buffer to a length. -/
  | truncate (length : Nat)
  /-- Adds octets to the buffer. -/
  | addOctets (octets : List UInt8)
  /-- Overwrites one octet of the buffer. -/
  | setOctet (index : Nat) (octet : UInt8)

/-- What a step that does not fail answers. -/
inductive Reply where
  | done
  | entries (entries : List Entry)
  | verdict (verdict : Verdict)
  | review (valid : Bool) (faults : List Fault)

/-- The session after a step and the step's answer. -/
def step (session : Session) : Step → Except Fault (Session × Reply)
  | .push entry => .ok ({ session with entries := session.entries ++ [entry] }, .done)
  | .construct construction =>
    construction.build.map fun entry =>
      ({ session with entries := session.entries ++ [entry] }, .done)
  | .append =>
    (Compact.append session.buffer session.entries).map fun buffer =>
      ({ session with buffer }, .done)
  | .create => (Compact.encode session.entries).map fun buffer => ({ session with buffer }, .done)
  | .encodeVendor =>
    (Vendor.encode session.entries).map fun buffer => ({ session with buffer }, .done)
  | .decodeVendor =>
    (Vendor.decode session.buffer).map fun entries => ({ session with entries }, .entries entries)
  | .parse catalog =>
    let verdict := catalog.parse session.buffer
    .ok ({ session with entries := verdict.entries }, .verdict verdict)
  | .validate catalog =>
    let (valid, faults) := catalog.review session.entries
    .ok (session, .review valid faults)
  | .clear => .ok ({ session with entries := [] }, .done)
  | .truncate length => .ok ({ session with buffer := session.buffer.take length }, .done)
  | .addOctets octets => .ok ({ session with buffer := session.buffer ++ octets }, .done)
  | .setOctet index octet =>
    .ok ({ session with buffer := session.buffer.set index octet }, .done)

/-- The session after a step, which is the same session if the step fails, and the answer. -/
def run (session : Session) (s : Step) : Session × Except Fault Reply :=
  match session.step s with
  | .ok (next, reply) => (next, .ok reply)
  | .error fault => (session, .error fault)

end Session

end BootTlv
