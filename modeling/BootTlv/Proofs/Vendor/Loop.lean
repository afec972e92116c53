import BootTlv.Proofs.Framing.Loop
import BootTlv.Proofs.Vendor.Format

/-!
# The loop of vendor decoding

Decoding a vendor buffer as a loop. Each turn cuts off what is left of the buffer, reads the fields of
a header there by their places, one after the other as they are checked, and says how many octets the
entry took. The loop reads entries (`reads_loop`) and ends with what the buffer decodes to
(`returns_loop_iff`).
-/

namespace BootTlv.Vendor

open Framing (vendor)

/-- Reads the entry at a place of the buffer and counts its octets. -/
def entryAt (buffer : List UInt8) (offset : Nat) : Option (Except Fault (Entry × Nat)) := do
  let rest ← slice? buffer offset buffer.length
  if rest.length < headerSize then
    return .error (.headerCut offset)
  let id := LittleEndian.word (← rest[0]?) (← rest[1]?)
  if id ≠ vendorId then
    return .error (.foreignVendor id)
  let field := LittleEndian.word (← rest[2]?) (← rest[3]?)
  if 255 < field.toNat then
    return .error (.tagOutOfRange field)
  let tag := Tag.ofCode field.toUInt8
  let length := LittleEndian.long (← rest[4]?) (← rest[5]?) (← rest[6]?) (← rest[7]?)
  if Entry.maxLength < length then
    return .error (.valueTooLong tag length)
  let available ← Nat.psub rest.length headerSize
  if available < length then
    return .error (.valueCut offset length available)
  let value ← slice? rest headerSize (headerSize + length)
  return .ok (⟨tag, UInt8.ofNat length, value⟩, headerSize + length)

/-- One turn of decoding. -/
def turn (buffer : List UInt8) (s : Cursor (List Entry)) :
    Option (Turn (Cursor (List Entry)) (Except Fault (List Entry))) :=
  if s.offset < buffer.length then do
    match ← entryAt buffer s.offset with
    | .error fault => return .done (.error fault)
    | .ok (entry, consumed) => return .again ⟨s.offset + consumed, s.gathered ++ [entry]⟩
  else some (.done (.ok s.gathered))

/-- The decoding of a buffer. -/
def loop (buffer : List UInt8) : Loop (Cursor (List Entry)) (Except Fault (List Entry)) where
  start := ⟨0, []⟩
  turn := turn buffer

variable {buffer : List UInt8} {offset : Nat}

/-! ## Entries at a place -/

theorem slice?_rest (h : offset ≤ buffer.length) :
    slice? buffer offset buffer.length = some (buffer.drop offset) := by
  rw [slice?, if_pos ⟨h, Nat.le_refl _⟩, List.take_length]

/-- Fields that are read by their places are those that stand at the beginning of what is left. -/
theorem entryAt_eq (h : offset ≤ buffer.length) :
    entryAt buffer offset = some
      (match readEntry offset (buffer.drop offset) with
        | .error fault => .error fault
        | .ok (entry, _) => .ok (entry, headerSize + entry.value.length)) := by
  rw [entryAt, slice?_rest h]
  match buffer.drop offset with
  | v₀ :: v₁ :: t₀ :: t₁ :: l₀ :: l₁ :: l₂ :: l₃ :: rest =>
      have hlength : (v₀ :: v₁ :: t₀ :: t₁ :: l₀ :: l₁ :: l₂ :: l₃ :: rest).length =
          headerSize + rest.length := by
        simp only [List.length_cons, headerSize]
        omega
      have hwhole : ¬ headerSize + rest.length < headerSize :=
        Nat.not_lt.mpr (Nat.le_add_right _ _)
      have havailable : Nat.psub (headerSize + rest.length) headerSize = some rest.length := by
        rw [Nat.psub_eq_sub (Nat.le_add_right _ _), Nat.add_sub_cancel_left]
      simp only [Option.bind_eq_bind, Option.bind_some, readEntry, hlength, if_neg hwhole,
        List.getElem?_cons_zero, List.getElem?_cons_succ, havailable, List.length_take]
      -- Both sides make the same checks in the same order.
      by_cases hid : LittleEndian.word v₀ v₁ ≠ vendorId
      · rw [if_pos hid, if_pos hid]
        rfl
      rw [if_neg hid, if_neg hid]
      by_cases hfield : 255 < (LittleEndian.word t₀ t₁).toNat
      · rw [if_pos hfield, if_pos hfield]
        rfl
      rw [if_neg hfield, if_neg hfield]
      generalize LittleEndian.long l₀ l₁ l₂ l₃ = length
      by_cases hlong : Entry.maxLength < length
      · rw [if_pos hlong, if_pos hlong]
        rfl
      rw [if_neg hlong, if_neg hlong]
      by_cases hvalue : rest.length < length
      · rw [if_pos hvalue, Nat.min_eq_right (Nat.le_of_lt hvalue), if_pos hvalue]
        rfl
      · have hmin : min length rest.length = length := Nat.min_eq_left (Nat.le_of_not_lt hvalue)
        have hslice : slice? (v₀ :: v₁ :: t₀ :: t₁ :: l₀ :: l₁ :: l₂ :: l₃ :: rest) headerSize
            (headerSize + length) = some (rest.take length) := by
          rw [slice?_eq_some (by omega)]
          rfl
        rw [if_neg hvalue, hmin, if_neg (Nat.lt_irrefl length), hslice]
        dsimp only
        rw [List.length_take, hmin]
        rfl
  -- Less than a header.
  | [] | [_] | [_, _] | [_, _, _] | [_, _, _, _] | [_, _, _, _, _] | [_, _, _, _, _, _]
  | [_, _, _, _, _, _, _] => rfl

/-! ## The loop -/

/-- **Decoding is a loop that reads entries.** -/
theorem reads_loop (buffer : List UInt8) :
    vendor.Reads buffer (loop buffer) (fun entries entry => entries ++ [entry])
      (fun _ fault => .error fault) .ok := by
  constructor
  case start => rfl
  case turn_end =>
    intro s hend
    show turn buffer s = _
    rw [turn, if_neg (by omega)]
  case turn_error =>
    intro s fault hlt hread
    have hread : readEntry s.offset (buffer.drop s.offset) = .error fault := hread
    show turn buffer s = _
    rw [turn, if_pos hlt, entryAt_eq (Nat.le_of_lt hlt), hread]
    rfl
  case turn_ok =>
    intro s entry rest hlt hread
    have hread : readEntry s.offset (buffer.drop s.offset) = .ok (entry, rest) := hread
    show turn buffer s = _
    rw [turn, if_pos hlt, entryAt_eq (Nat.le_of_lt hlt), hread]
    simp only [Option.bind_eq_bind, Option.bind_some]
    rw [← Nat.add_assoc]
    rfl

theorem foldl_append_singleton (read entries : List Entry) :
    entries.foldl (fun entries entry => entries ++ [entry]) read = read ++ entries := by
  rw [List.foldl_append_eq_append, ← List.flatMap_def, List.flatMap_singleton']

/-- **The loop ends with what the buffer decodes to.** -/
theorem returns_loop_iff {result : Except Fault (List Entry)} :
    (loop buffer).Returns result ↔ decode buffer = result := by
  have houtcome : vendor.outcome buffer [] (fun entries entry => entries ++ [entry])
      (fun _ fault => .error fault) .ok = decode buffer := by
    rw [Framing.outcome, foldl_append_singleton, decode, decodeFrom_eq, Nat.zero_add]
    cases vendor.stop? (vendor.front buffer).length (vendor.split buffer).2 <;> rfl
  rw [(reads_loop buffer).returns_iff, ← houtcome]
  rfl

end BootTlv.Vendor
