import BootTlv.Proofs.Compact.Scan
import BootTlv.Proofs.Framing.Loop

/-!
# The loop of the compact scan

The scan of a compact buffer as a loop: one place that moves through the buffer, one verdict that
grows with each entry, and octets that are read by their places. An entry is checked in the turn that
reads it. The loop reads entries (`reads_loop`) and ends with the verdict on the buffer
(`returns_loop_iff`).
-/

namespace BootTlv

open Framing (compact)

namespace Verdict

/-- The verdict with one more entry and, if the entry has one, its fault. -/
def accept (catalog : Catalog) (verdict : Verdict) (entry : Entry) : Verdict :=
  match catalog.fault? entry with
  | some fault => ⟨false, verdict.entries ++ [entry], verdict.faults ++ [fault]⟩
  | none => ⟨verdict.valid, verdict.entries ++ [entry], verdict.faults⟩

/-- The verdict on a buffer that is cut: the entries are given up, and their faults are kept. -/
def cut (verdict : Verdict) (fault : Fault) : Verdict := ⟨false, [], verdict.faults ++ [fault]⟩

/-- The verdict with what the entries lack, if there are any. -/
def conclude (catalog : Catalog) (verdict : Verdict) : Verdict :=
  if verdict.entries.isEmpty then verdict
  else
    let absences := catalog.absences verdict.entries
    if absences.isEmpty then verdict
    else ⟨false, verdict.entries, verdict.faults ++ absences⟩

theorem foldl_accept (catalog : Catalog) (verdict : Verdict) (entries : List Entry) :
    entries.foldl (accept catalog) verdict =
      ⟨verdict.valid && (entries.filterMap catalog.fault?).isEmpty, verdict.entries ++ entries,
        verdict.faults ++ entries.filterMap catalog.fault?⟩ := by
  induction entries generalizing verdict with
  | nil => simp
  | cons entry entries ih =>
      rw [List.foldl_cons, ih, accept]
      cases hfault : catalog.fault? entry with
      | none => simp [hfault]
      | some fault => simp [hfault]

/-- The verdict that is concluded for entries and their faults is the review of the entries. -/
theorem conclude_of_ne_nil (catalog : Catalog) {entries : List Entry} (hne : entries ≠ []) :
    conclude catalog
        ⟨(entries.filterMap catalog.fault?).isEmpty, entries, entries.filterMap catalog.fault?⟩ =
      ⟨(catalog.review entries).1, entries, (catalog.review entries).2⟩ := by
  rw [conclude, if_neg (by simpa using hne), Catalog.review]
  -- The verdict is valid if there are neither faults of entries nor absences.
  dsimp only
  cases entries.filterMap catalog.fault? <;> cases catalog.absences entries <;> simp

end Verdict

namespace Compact

/-- One turn of the scan. -/
def turn (catalog : Catalog) (buffer : List UInt8) (s : Cursor Verdict) :
    Option (Turn (Cursor Verdict) Verdict) :=
  if s.offset < buffer.length then do
    let left ← Nat.psub buffer.length s.offset
    if left < headerSize then
      return .done (s.gathered.cut (.headerCut s.offset))
    let code ← buffer[s.offset]?
    let length ← buffer[s.offset + 1]?
    let start := s.offset + headerSize
    let available ← Nat.psub buffer.length start
    if available < length.toNat then
      return .done (s.gathered.cut (.valueCut s.offset length.toNat available))
    let value ← slice? buffer start (start + length.toNat)
    return .again
      ⟨start + length.toNat, s.gathered.accept catalog ⟨Tag.ofCode code, length, value⟩⟩
  else some (.done (s.gathered.conclude catalog))

/-- The scan of a buffer. -/
def loop (catalog : Catalog) (buffer : List UInt8) : Loop (Cursor Verdict) Verdict where
  start := ⟨0, ⟨true, [], []⟩⟩
  turn := turn catalog buffer

variable {catalog : Catalog} {buffer : List UInt8} {s : Cursor Verdict}

/-! ## Turns -/

/-- An entry is read where the octets of its value are there. -/
theorem readEntry_eq_ok {offset : Nat} {bytes rest : List UInt8} {entry : Entry}
    (h : readEntry offset bytes = .ok (entry, rest)) :
    ∃ code length tail, bytes = code :: length :: tail ∧ ¬ tail.length < length.toNat ∧
      entry = ⟨Tag.ofCode code, length, tail.take length.toNat⟩ := by
  unfold readEntry at h
  split at h
  · next code length tail =>
      dsimp only at h
      split at h
      · cases h
      · next hvalue =>
          rw [List.length_take] at hvalue
          cases h
          exact ⟨code, length, tail, rfl, by omega, rfl⟩
  · cases h

theorem turn_of_short (hlt : s.offset < buffer.length)
    (hshort : (buffer.drop s.offset).length < headerSize) :
    turn catalog buffer s = some (.done (s.gathered.cut (.headerCut s.offset))) := by
  rw [List.length_drop] at hshort
  rw [turn, if_pos hlt, Nat.psub_eq_sub (Nat.le_of_lt hlt), Option.bind_eq_bind, Option.bind_some,
    if_pos hshort]
  rfl

/-- Behind a header, the turn goes by whether the value is there. -/
theorem turn_of_header {code length : UInt8} {rest : List UInt8}
    (hdrop : buffer.drop s.offset = code :: length :: rest) :
    turn catalog buffer s = some
      (if rest.length < length.toNat then
        .done (s.gathered.cut (.valueCut s.offset length.toNat rest.length))
      else
        .again ⟨s.offset + headerSize + length.toNat,
          s.gathered.accept catalog ⟨Tag.ofCode code, length, rest.take length.toNat⟩⟩) := by
  have hlength := congrArg List.length hdrop
  rw [List.length_drop, List.length_cons, List.length_cons] at hlength
  have hlt : s.offset < buffer.length := by omega
  have hleft : Nat.psub buffer.length s.offset = some (rest.length + 2) := by
    rw [Nat.psub_eq_sub (by omega), hlength]
  have hwhole : ¬ rest.length + 2 < headerSize := Nat.not_lt.mpr (Nat.le_add_left 2 rest.length)
  have hcode : buffer[s.offset]? = some code := by
    rw [← Nat.add_zero s.offset, ← List.getElem?_drop, hdrop]
    rfl
  have hoctet : buffer[s.offset + 1]? = some length := by
    rw [← List.getElem?_drop, hdrop]
    rfl
  have hrest : buffer.drop (s.offset + headerSize) = rest := by
    rw [← List.drop_drop, hdrop]
    rfl
  have hstart : s.offset + headerSize + rest.length = buffer.length := by
    simp only [headerSize]
    omega
  have havailable : Nat.psub buffer.length (s.offset + headerSize) = some rest.length := by
    rw [← hstart, Nat.psub_eq_sub (Nat.le_add_right _ _), Nat.add_sub_cancel_left]
  simp only [turn, if_pos hlt, hleft, if_neg hwhole, hcode, hoctet, havailable,
    Option.bind_eq_bind, Option.bind_some]
  split
  · rfl
  · next hvalue =>
      rw [slice?_eq_some (by omega), hrest]
      rfl

/-- **The scan is a loop that reads entries.** -/
theorem reads_loop (catalog : Catalog) (buffer : List UInt8) :
    compact.Reads buffer (loop catalog buffer) (Verdict.accept catalog) Verdict.cut
      (Verdict.conclude catalog) := by
  constructor
  case start => rfl
  case turn_end =>
    intro s hend
    show turn catalog buffer s = _
    rw [turn, if_neg (by omega)]
  case turn_error =>
    intro s fault hlt hread
    rcases readEntry_eq_error hread with ⟨hshort, rfl⟩ | ⟨code, length, rest, hdrop, hvalue, rfl⟩
    · exact turn_of_short hlt hshort
    · exact (turn_of_header hdrop).trans (by rw [if_pos hvalue])
  case turn_ok =>
    intro s entry rest _ hread
    obtain ⟨code, length, tail, hdrop, hvalue, rfl⟩ := readEntry_eq_ok hread
    refine (turn_of_header hdrop).trans ?_
    rw [if_neg hvalue, List.length_take, Nat.min_eq_left (Nat.le_of_not_lt hvalue)]
    rfl

/-- What the loop makes of the buffer is the verdict on it. -/
theorem outcome_loop (catalog : Catalog) (buffer : List UInt8) :
    compact.outcome buffer ⟨true, [], []⟩ (Verdict.accept catalog) Verdict.cut
      (Verdict.conclude catalog) = catalog.parse buffer := by
  rw [Framing.outcome, Verdict.foldl_accept]
  by_cases hcut : (compact.split buffer).2 = []
  · rw [hcut, Framing.stop?_nil]
    by_cases hne : buffer = []
    · rw [hne, Framing.split_nil, Catalog.parse_nil]
      rfl
    · rw [Catalog.parse_of_split_eq_nil catalog hcut hne]
      exact Verdict.conclude_of_ne_nil catalog (Framing.fst_split_ne_nil hcut hne)
  · obtain ⟨fault, hread, hparse⟩ := catalog.parse_of_cut hcut
    have hstop : compact.stop? (compact.front buffer).length (compact.split buffer).2 =
        some fault := (Framing.stop?_eq_some_iff hcut).mpr hread
    rw [hstop, hparse]
    rfl

/-- **The loop ends with the verdict on the buffer.** -/
theorem returns_loop_iff {verdict : Verdict} :
    (loop catalog buffer).Returns verdict ↔ catalog.parse buffer = verdict := by
  rw [(reads_loop catalog buffer).returns_iff, ← outcome_loop catalog buffer]
  rfl

end Compact

end BootTlv
