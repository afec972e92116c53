import BootTlv.Proofs.Framing.Whole
import BootTlv.Proofs.Result
import BootTlv.Session
import Mathlib.Algebra.Ring.Nat

/-!
# Writing in place

Entries are added to a buffer in place, octet by octet, and whatever a writer has put into the buffer
when it fails stays there. `appendInPlace` goes through the entries twice. The first pass may fail and
puts nothing into the buffer; the second one puts the entries into it and cannot fail. So it does to
the buffer what `append` says, and a buffer to which entries cannot be added is left as it was,
however many good entries stand before the bad one (`append_atomic`).
-/

namespace BootTlv

/-! ## Entries that cannot be written -/

namespace Entry

theorem framingFault?_eq_some_iff {entry : Entry} {fault : Fault} :
    entry.framingFault? = some fault ↔
      ¬ entry.Framed ∧
        fault = if 255 < entry.value.length then .valueTooLong entry.tag entry.value.length
          else .lengthMismatch entry.tag entry.length.toNat entry.value.length := by
  have hlt := entry.length.toNat_lt
  rw [framingFault?, Framed, maxLength]
  by_cases hlong : 255 < entry.value.length
  · have hne : entry.length.toNat ≠ entry.value.length := by omega
    rw [if_pos hlong, if_pos hlong, Option.some.injEq, eq_comm]
    exact (and_iff_right hne).symm
  · rw [if_neg hlong, if_neg hlong]
    by_cases hlength : entry.length.toNat = entry.value.length
    · rw [if_neg (not_not.mpr hlength)]
      refine iff_of_false ?_ fun h => h.1 hlength
      intro h
      cases h
    · rw [if_pos hlength, Option.some.injEq, eq_comm]
      exact (and_iff_right hlength).symm

theorem framed_iff {entry : Entry} :
    entry.Framed ↔ entry.value.length ≤ 255 ∧ entry.length.toNat = entry.value.length := by
  have hlt := entry.length.toNat_lt
  rw [Framed]
  constructor
  · intro h
    exact ⟨by omega, h⟩
  · exact And.right

end Entry

namespace Compact

open Framing (compact)

/-! ## Writers -/

/-- Works on a buffer and may fail. The buffer is there after a failure, too. -/
abbrev Writer := EStateM Fault (List UInt8)

/-- Fails if the entry cannot be written. -/
def check (entry : Entry) : Writer Unit :=
  match entry.framingFault? with
  | some fault => throw fault
  | none => pure ()

/-- Puts octets at the end of the buffer. -/
def put (bytes : List UInt8) : Writer Unit := modify (· ++ bytes)

/-- Puts the parts of an entry at the end of the buffer, one after the other. -/
def putEntry (entry : Entry) : Writer Unit := do
  put [entry.tag.code]
  put [entry.length]
  put entry.value

/-- Checks every entry, and then puts every entry into the buffer. -/
def appendInPlace (entries : List Entry) : Writer Unit := do
  forM entries check
  forM entries putEntry

/-! ## Passes -/

variable {buffer : List UInt8} {entries : List Entry}

/-- The first pass stops at the first entry that cannot be written and leaves the buffer alone. -/
theorem run_forM_check (buffer : List UInt8) (entries : List Entry) :
    (forM entries check).run buffer =
      match entries.findSome? Entry.framingFault? with
      | some fault => .error fault buffer
      | none => .ok () buffer := by
  induction entries with
  | nil => rfl
  | cons e entries ih =>
      rw [List.forM_cons, EStateM.run_bind, check, List.findSome?_cons]
      cases e.framingFault? with
      | some fault => rfl
      | none => exact ih

theorem run_putEntry (buffer : List UInt8) (entry : Entry) :
    (putEntry entry).run buffer = .ok () (buffer ++ octets entry) := by
  show EStateM.Result.ok () (buffer ++ [entry.tag.code] ++ [entry.length] ++ entry.value) = _
  rw [octets, List.append_assoc, List.append_assoc]
  rfl

/-- The second pass puts every entry into the buffer. -/
theorem run_forM_putEntry (buffer : List UInt8) (entries : List Entry) :
    (forM entries putEntry).run buffer = .ok () (buffer ++ entries.flatMap octets) := by
  induction entries generalizing buffer with
  | nil =>
      rw [List.flatMap_nil, List.append_nil]
      rfl
  | cons e entries ih =>
      rw [List.forM_cons, EStateM.run_bind, run_putEntry, List.flatMap_cons, ← List.append_assoc]
      exact ih (buffer ++ octets e)

/-- Adding entries in place does what `append` says, and a failure leaves the buffer as it was. -/
theorem run_appendInPlace (buffer : List UInt8) (entries : List Entry) :
    (appendInPlace entries).run buffer =
      match append buffer entries with
      | .ok written => .ok () written
      | .error fault => .error fault buffer := by
  rw [appendInPlace, EStateM.run_bind, run_forM_check, append]
  cases entries.findSome? Entry.framingFault? with
  | some fault => rfl
  | none => exact run_forM_putEntry buffer entries

/-! ## Buffers with entries added -/

theorem append_eq_ok_iff {written : List UInt8} :
    append buffer entries = .ok written ↔
      (∀ e ∈ entries, e.Framed) ∧ written = buffer ++ entries.flatMap octets := by
  rw [append, ← Entry.findSome?_framingFault?_eq_none_iff]
  cases entries.findSome? Entry.framingFault? with
  | some fault => simp
  | none => simp [eq_comm]

theorem append_eq_error_iff {fault : Fault} :
    append buffer entries = .error fault ↔
      ∃ before e after, entries = before ++ e :: after ∧ (∀ e' ∈ before, e'.Framed) ∧
        e.framingFault? = some fault := by
  have hfirst : append buffer entries = .error fault ↔
      entries.findSome? Entry.framingFault? = some fault := by
    rw [append]
    cases entries.findSome? Entry.framingFault? with
    | some fault => simp
    | none => simp
  rw [hfirst, List.findSome?_eq_some_iff]
  simp only [Entry.framingFault?_eq_none_iff]
  constructor
  · rintro ⟨before, e, after, heq, hfault, hbefore⟩
    exact ⟨before, e, after, heq, hbefore, hfault⟩
  · rintro ⟨before, e, after, heq, hbefore, hfault⟩
    exact ⟨before, e, after, heq, hfault, hbefore⟩

/-- Entries are added in two parts as they are added at once. -/
theorem append_append (buffer : List UInt8) (entries more : List Entry) :
    (append buffer entries >>= fun written => append written more) =
      append buffer (entries ++ more) := by
  rw [append, append, List.findSome?_append, List.flatMap_append]
  cases entries.findSome? Entry.framingFault? with
  | some fault => rfl
  | none =>
      show append (buffer ++ entries.flatMap octets) more = _
      rw [append, List.append_assoc]
      rfl

/-- **Adding entries is all or nothing.** They are added exactly when each has at most 255 octets of
value and a length octet that counts them. Then the buffer is followed by what is written for the
entries alone, and adding more entries gives what adding all at once gives. Otherwise the fault is that
of the first entry that cannot be written, wherever it stands, and the buffer is left as it was, though
it is worked on in place. A session does the same to its buffer. -/
theorem append_atomic (buffer : List UInt8) (entries : List Entry) :
    ((∃ written, append buffer entries = .ok written) ↔
      ∀ e ∈ entries, e.value.length ≤ 255 ∧ e.length.toNat = e.value.length) ∧
    (∀ written, append buffer entries = .ok written →
      (appendInPlace entries).run buffer = .ok () written ∧
      Session.run ⟨entries, buffer⟩ .append = (⟨entries, written⟩, .ok .done) ∧
      (∃ created, encode entries = .ok created ∧ written = buffer ++ created) ∧
      written.length = buffer.length + (entries.map Entry.encodedLength).sum) ∧
    (∀ more, (append buffer entries >>= fun written => append written more) =
      append buffer (entries ++ more)) ∧
    ∀ fault, append buffer entries = .error fault →
      (appendInPlace entries).run buffer = .error fault buffer ∧
      Session.run ⟨entries, buffer⟩ .append = (⟨entries, buffer⟩, .error fault) ∧
      ∃ before e after, entries = before ++ e :: after ∧ (∀ e' ∈ before, e'.Framed) ∧
        ¬ e.Framed ∧
        fault = if 255 < e.value.length then .valueTooLong e.tag e.value.length
          else .lengthMismatch e.tag e.length.toNat e.value.length := by
  refine ⟨?_, ?_, append_append buffer entries, ?_⟩
  · simp only [append_eq_ok_iff, Entry.framed_iff]
    constructor
    · rintro ⟨_, h, -⟩
      exact h
    · intro h
      exact ⟨_, h, rfl⟩
  · intro written h
    refine ⟨?_, ?_, ?_, ?_⟩
    · rw [run_appendInPlace, h]
    · rw [Session.run, Session.step, h]
      rfl
    · obtain ⟨hframed, rfl⟩ := append_eq_ok_iff.mp h
      exact ⟨_, append_eq_ok_iff.mpr ⟨hframed, rfl⟩, rfl⟩
    · obtain ⟨-, rfl⟩ := append_eq_ok_iff.mp h
      rw [List.length_append, List.length_flatMap]
      congr 2
      exact List.map_congr_left fun e _ => compact.length_octets e
  · intro fault h
    refine ⟨?_, ?_, ?_⟩
    · rw [run_appendInPlace, h]
    · rw [Session.run, Session.step, h]
      rfl
    · obtain ⟨before, e, after, heq, hbefore, hfault⟩ := append_eq_error_iff.mp h
      obtain ⟨hbad, hfault⟩ := Entry.framingFault?_eq_some_iff.mp hfault
      exact ⟨before, e, after, heq, hbefore, hbad, hfault⟩

/-- A flag, a value of which the length octet counts three octets out of four, and a value of three
hundred octets. -/
def lateFaults : List Entry :=
  [⟨.certSyncRootCa, 1, [0]⟩, ⟨.certServerName, 3, [98, 111, 111, 116]⟩,
    ⟨.certServerName, 0, List.replicate 300 120⟩]

theorem append_atomic_lateFaults :
    append [0xEE] (lateFaults.take 1) = .ok [0xEE, 20, 1, 0] ∧
      (appendInPlace (lateFaults.take 1)).run [0xEE] = .ok () [0xEE, 20, 1, 0] ∧
      append [0xEE] lateFaults = .error (.lengthMismatch .certServerName 3 4) ∧
      (appendInPlace lateFaults).run [0xEE] =
        .error (.lengthMismatch .certServerName 3 4) [0xEE] := by
  obtain ⟨-, hwritten, -⟩ := append_atomic [0xEE] (lateFaults.take 1)
  obtain ⟨-, -, -, hfault⟩ := append_atomic [0xEE] lateFaults
  exact ⟨rfl, (hwritten _ rfl).1, rfl, (hfault _ rfl).1⟩

end Compact

end BootTlv
