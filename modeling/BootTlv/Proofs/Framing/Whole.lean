import BootTlv.Proofs.Framing.Split
import Mathlib.Order.Bounds.Basic

/-!
# Octets that can be written

The octets that are the buffer of some entries are those of which the split leaves nothing over
(`whole_iff_split_eq_nil`), whatever is put behind them. The entries that begin a buffer take up the
longest prefix that can be written (`isGreatest_wholeLengths`).
-/

namespace BootTlv

/-! ## Writing -/

theorem Entry.findSome?_framingFault?_eq_none_iff {entries : List Entry} :
    entries.findSome? Entry.framingFault? = none ↔ ∀ e ∈ entries, e.Framed := by
  simp only [List.findSome?_eq_none_iff, Entry.framingFault?_eq_none_iff]

/-- Checking each entry as it is written finds the fault that checking all of them first finds. -/
theorem Vendor.encode_eq (entries : List Entry) :
    encode entries =
      match entries.findSome? Entry.framingFault? with
      | some fault => .error fault
      | none => .ok (entries.flatMap octets) := by
  induction entries with
  | nil => rfl
  | cons e entries ih =>
      rw [encode, List.findSome?_cons, ih]
      cases e.framingFault? with
      | some fault => rfl
      | none => cases entries.findSome? Entry.framingFault? <;> rfl

namespace Framing

variable {framing : Framing}

/-- Either framing writes all entries, or it fails with the first fault that keeps one of them from
being written. -/
theorem encode_eq (framing : Framing) (entries : List Entry) :
    framing.encode entries =
      match entries.findSome? Entry.framingFault? with
      | some fault => .error fault
      | none => .ok (entries.flatMap framing.octets) := by
  cases framing with
  | compact => rfl
  | vendor => exact Vendor.encode_eq entries

/-- Entries are written exactly when each of them is framed, one after the other. -/
theorem encode_eq_ok_iff {entries : List Entry} {buffer : List UInt8} :
    framing.encode entries = .ok buffer ↔
      (∀ e ∈ entries, e.Framed) ∧ buffer = entries.flatMap framing.octets := by
  rw [encode_eq, ← Entry.findSome?_framingFault?_eq_none_iff]
  cases entries.findSome? Entry.framingFault? with
  | some fault => simp
  | none => simp [eq_comm]

/-- A buffer is as long as a header for each entry and the values. -/
theorem length_flatMap_octets (framing : Framing) (entries : List Entry) :
    (entries.flatMap framing.octets).length =
      framing.headerSize * entries.length + (entries.flatMap Entry.value).length := by
  induction entries with
  | nil => rfl
  | cons e entries ih =>
      rw [List.flatMap_cons, List.length_append, length_octets, ih, List.length_cons,
        List.flatMap_cons, List.length_append, Nat.mul_succ]
      omega

/-- The octets are the buffer of some list of entries. -/
def Whole (framing : Framing) (bytes : List UInt8) : Prop :=
  ∃ entries, framing.encode entries = .ok bytes

theorem encode_split (framing : Framing) (bytes : List UInt8) :
    framing.encode (framing.split bytes).1 = .ok (framing.front bytes) :=
  encode_eq_ok_iff.mpr ⟨framed_of_mem_split, rfl⟩

theorem split_of_encode {entries : List Entry} {bytes : List UInt8}
    (h : framing.encode entries = .ok bytes) :
    framing.split bytes = (entries.map Entry.canonical, []) := by
  obtain ⟨hframed, rfl⟩ := encode_eq_ok_iff.mp h
  exact split_flatMap_octets hframed

theorem whole_iff_split_eq_nil {bytes : List UInt8} :
    framing.Whole bytes ↔ (framing.split bytes).2 = [] := by
  constructor
  · rintro ⟨entries, h⟩
    rw [split_of_encode h]
  · intro h
    refine ⟨(framing.split bytes).1, ?_⟩
    rw [encode_split, front_eq_self h]

/-! ## What stands behind -/

theorem split_append_of_whole {bytes : List UInt8} (h : framing.Whole bytes)
    (rest : List UInt8) :
    framing.split (bytes ++ rest) =
      ((framing.split bytes).1 ++ (framing.split rest).1, (framing.split rest).2) := by
  obtain ⟨entries, hencode⟩ := h
  obtain ⟨hframed, rfl⟩ := encode_eq_ok_iff.mp hencode
  rw [split_flatMap_octets_append framing hframed, split_of_encode hencode]

theorem fst_split_front (framing : Framing) (bytes : List UInt8) :
    (framing.split (framing.front bytes)).1 = (framing.split bytes).1 := by
  have happend := split_append_of_whole ⟨_, framing.encode_split bytes⟩ (framing.split bytes).2
  -- What is left over begins no entry, so putting it back adds none.
  rw [front_append_split, split_of_broken (framing.broken_split bytes), List.append_nil] at happend
  exact (congrArg Prod.fst happend).symm

/-- The entries of a split are in their named spelling. -/
theorem map_canonical_fst_split (framing : Framing) (bytes : List UInt8) :
    (framing.split bytes).1.map Entry.canonical = (framing.split bytes).1 := by
  have hfront := framing.fst_split_front bytes
  rwa [split_of_encode (framing.encode_split bytes)] at hfront

theorem front_append_of_whole {bytes : List UInt8} (h : framing.Whole bytes)
    (rest : List UInt8) : framing.front (bytes ++ rest) = bytes ++ framing.front rest := by
  have hfront : framing.front bytes = bytes := front_eq_self (whole_iff_split_eq_nil.mp h)
  rw [front, split_append_of_whole h, List.flatMap_append]
  exact congrArg (· ++ framing.front rest) hfront

/-! ## Prefixes -/

/-- A prefix of the buffer of some entries that ends where an entry ends is the buffer of the
entries before its end. -/
theorem split_of_isPrefix {bytes front : List UInt8} (h : framing.Whole bytes)
    (hinit : front <+: bytes) {k : Nat}
    (hlength : front.length = (((framing.split bytes).1.take k).flatMap framing.octets).length) :
    framing.split front = ((framing.split bytes).1.take k, []) := by
  have htake : ((framing.split bytes).1.take k).flatMap framing.octets <+: bytes := by
    refine ⟨((framing.split bytes).1.drop k).flatMap framing.octets, ?_⟩
    rw [← List.flatMap_append, List.take_append_drop]
    exact front_eq_self (whole_iff_split_eq_nil.mp h)
  have hfront : front = ((framing.split bytes).1.take k).flatMap framing.octets := by
    rw [List.prefix_iff_eq_take.mp hinit, List.prefix_iff_eq_take.mp htake, hlength]
  have hframed : ∀ e ∈ (framing.split bytes).1.take k, e.Framed :=
    fun e he => framed_of_mem_split e (List.mem_of_mem_take he)
  rw [hfront, split_flatMap_octets hframed, List.map_take, map_canonical_fst_split]

/-- The prefixes that can be written end where an entry ends. -/
theorem whole_iff_of_isPrefix {bytes front : List UInt8} (h : framing.Whole bytes)
    (hinit : front <+: bytes) :
    framing.Whole front ↔
      ∃ k, front.length = (((framing.split bytes).1.take k).flatMap framing.octets).length := by
  constructor
  · intro hwhole
    obtain ⟨rest, rfl⟩ := hinit
    refine ⟨(framing.split front).1.length, ?_⟩
    rw [split_append_of_whole hwhole, List.take_left]
    exact congrArg List.length (front_eq_self (whole_iff_split_eq_nil.mp hwhole)).symm
  · rintro ⟨k, hlength⟩
    rw [whole_iff_split_eq_nil, split_of_isPrefix h hinit hlength]

/-! ## The longest prefix -/

/-- The lengths of the prefixes of a buffer that can be written. -/
def wholeLengths (framing : Framing) (buffer : List UInt8) : Set Nat :=
  {n | n ≤ buffer.length ∧ framing.Whole (buffer.take n)}

theorem take_length_front (framing : Framing) (buffer : List UInt8) :
    buffer.take (framing.front buffer).length = framing.front buffer :=
  (List.prefix_iff_eq_take.mp ⟨_, framing.front_append_split buffer⟩).symm

/-- The entries that begin a buffer take up the longest prefix that can be written. -/
theorem isGreatest_wholeLengths (framing : Framing) (buffer : List UInt8) :
    IsGreatest (framing.wholeLengths buffer) (framing.front buffer).length := by
  constructor
  · refine ⟨?_, ?_⟩
    · have hlength := congrArg List.length (framing.front_append_split buffer)
      rw [List.length_append] at hlength
      omega
    · rw [take_length_front]
      exact ⟨_, framing.encode_split buffer⟩
  · rintro n ⟨hn, hwhole⟩
    -- The entries of a prefix that can be written are the first ones of the whole buffer.
    have hfront := front_append_of_whole hwhole (buffer.drop n)
    rw [List.take_append_drop] at hfront
    rw [hfront, List.length_append, List.length_take_of_le hn]
    exact Nat.le_add_right n _

end Framing

end BootTlv
