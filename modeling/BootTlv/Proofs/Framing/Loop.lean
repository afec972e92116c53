import BootTlv.Proofs.Framing.Whole
import Mathlib.Algebra.Ring.Nat
import Mathlib.Data.Nat.PSub

/-!
# Loops over a buffer

A loop goes over a buffer turn by turn. It keeps a place in the buffer and what it has gathered so
far, and its accesses to the buffer are partial: an octet, a part or a difference that is out of
range is nothing, and then the whole turn is (`slice?`, `Loop.turn`).

A loop that reads entries in a framing (`Reads`) goes on behind each entry that begins at its place
and ends where none does. Its places are where the entries of the split end (`Reads.passed`). So no
turn fails, the place never leaves the buffer, there are no more turns than headers in the buffer
(`Reads.safe`), and the loop ends with what is made of the split (`Reads.returns_iff`).
-/

namespace BootTlv

/-! ## Parts of a buffer -/

/-- The octets from one place to another, if the places are in order and in the buffer. -/
def slice? (bytes : List UInt8) (start stop : Nat) : Option (List UInt8) :=
  if start ≤ stop ∧ stop ≤ bytes.length then some ((bytes.take stop).drop start) else none

theorem slice?_eq_some {bytes : List UInt8} {start length : Nat}
    (h : start + length ≤ bytes.length) :
    slice? bytes start (start + length) = some ((bytes.drop start).take length) := by
  rw [slice?, if_pos ⟨Nat.le_add_right start length, h⟩, List.drop_take, Nat.add_sub_cancel_left]

/-! ## Loops -/

/-- What a turn of a loop comes to. -/
inductive Turn (σ ρ : Type) where
  | again (state : σ)
  | done (result : ρ)

/-- A loop: where it starts, and its turn, which is nothing if an access in it is out of range. -/
structure Loop (σ ρ : Type) where
  start : σ
  turn : σ → Option (Turn σ ρ)

namespace Loop

variable {σ ρ : Type}

/-- The loop is at its head in the state after so many turns. -/
inductive After (loop : Loop σ ρ) : Nat → σ → Prop where
  | start : After loop 0 loop.start
  | again {n : Nat} {s s' : σ} (h : After loop n s) (hturn : loop.turn s = some (.again s')) :
      After loop (n + 1) s'

/-- The loop ends, and this is its result. -/
def Returns (loop : Loop σ ρ) (result : ρ) : Prop :=
  ∃ n s, loop.After n s ∧ loop.turn s = some (.done result)

end Loop

/-- A place in a buffer, and what was gathered before it. -/
structure Cursor (α : Type) where
  offset : Nat
  gathered : α

/-- A loop over a buffer is safe: no access in it is out of range. At its head the place is in the
buffer and counts the octets of the entries so far, a header of fixed size and a value for each;
every turn that goes on moves it by a header at least and adds one entry, so the loop makes no more
turns than there is room for headers. -/
structure Loop.Safe {α ρ : Type} (loop : Loop (Cursor α) ρ) (buffer : List UInt8)
    (headerSize : Nat) (entries : α → List Entry) : Prop where
  turn_ne_none : ∀ n s, loop.After n s → loop.turn s ≠ none
  offset_le : ∀ n s, loop.After n s → s.offset ≤ buffer.length
  offset_eq : ∀ n s, loop.After n s →
    s.offset = ((entries s.gathered).map fun e => headerSize + e.value.length).sum
  offset_again : ∀ n s s', loop.After n s → loop.turn s = some (.again s') →
    s.offset + headerSize ≤ s'.offset
  length_entries : ∀ n s, loop.After n s → (entries s.gathered).length = n
  turns_le : ∀ n s, loop.After n s → n ≤ buffer.length / headerSize

/-- The loop ends before its place is at the end of the buffer, with a result that discards what was
gathered. -/
def Loop.StopsShort {α ρ : Type} (loop : Loop (Cursor α) ρ) (buffer : List UInt8)
    (discards : ρ → Prop) : Prop :=
  ∃ n s result, loop.After n s ∧ loop.turn s = some (.done result) ∧
    s.offset < buffer.length ∧ discards result

namespace Framing

/-! ## Entries up to a place -/

section Passed

variable {framing : Framing} {buffer : List UInt8} {entries : List Entry} {offset : Nat}

/-- The entries are those of the split that end at the place or before it, and it is where the last
of them ends. -/
structure Passed (framing : Framing) (buffer : List UInt8) (entries : List Entry) (offset : Nat) :
    Prop where
  offset_le : offset ≤ buffer.length
  offset_eq : offset = (entries.flatMap framing.octets).length
  split_eq : framing.split buffer =
    (entries ++ (framing.split (buffer.drop offset)).1, (framing.split (buffer.drop offset)).2)

theorem passed_nil : Passed framing buffer [] 0 := ⟨Nat.zero_le _, rfl, rfl⟩

/-- An entry that can be read at the place is the next one of the split. -/
theorem Passed.next {entry : Entry} {rest : List UInt8} (h : Passed framing buffer entries offset)
    (hread : framing.readEntry offset (buffer.drop offset) = .ok (entry, rest)) :
    Passed framing buffer (entries ++ [entry])
      (offset + framing.headerSize + entry.value.length) := by
  obtain ⟨hbytes, hframed⟩ := eq_octets_append_of_readEntry hread
  have hcanonical : entry.canonical = entry := by
    rw [hbytes, framing.readEntry_octets_append offset hframed] at hread
    exact congrArg Prod.fst (Except.ok.inj hread)
  have hoffset : offset + framing.headerSize + entry.value.length =
      offset + (framing.octets entry).length := by
    rw [framing.length_octets, Nat.add_assoc]
  have hrest : buffer.drop (offset + (framing.octets entry).length) = rest := by
    rw [← List.drop_drop, hbytes, List.drop_left]
  have hlength := congrArg List.length hbytes
  rw [List.length_drop, List.length_append] at hlength
  have hle := h.offset_le
  rw [hoffset]
  constructor
  case offset_le => omega
  case offset_eq =>
    rw [List.flatMap_append, List.length_append, ← h.offset_eq, List.flatMap_singleton]
  case split_eq =>
    rw [h.split_eq, hbytes, split_octets_append hframed, hrest, hcanonical, List.append_assoc]
    rfl

/-- Where no entry can be read, all entries of the split have been passed. -/
theorem Passed.last (h : Passed framing buffer entries offset)
    (hbroken : framing.Broken (buffer.drop offset)) :
    framing.split buffer = (entries, buffer.drop offset) := by
  rw [h.split_eq, split_of_broken hbroken, List.append_nil]

theorem Passed.offset_eq_sum (h : Passed framing buffer entries offset) :
    offset = (entries.map fun e => framing.headerSize + e.value.length).sum := by
  rw [h.offset_eq, List.length_flatMap]
  exact congrArg List.sum (List.map_congr_left fun e _ => framing.length_octets e)

/-- There is room for a header of each entry. -/
theorem Passed.length_le (h : Passed framing buffer entries offset) :
    entries.length ≤ buffer.length / framing.headerSize := by
  have hle := h.offset_le
  rw [h.offset_eq, length_flatMap_octets] at hle
  rw [Nat.le_div_iff_mul_le framing.headerSize_pos, Nat.mul_comm]
  exact Nat.le_of_add_right_le hle

/-- All entries of the split end before what it leaves over. -/
theorem passed_split (framing : Framing) (buffer : List UInt8) :
    Passed framing buffer (framing.split buffer).1 (framing.front buffer).length := by
  refine ⟨(framing.isGreatest_wholeLengths buffer).1.1, rfl, ?_⟩
  rw [framing.drop_length_front, split_of_broken (framing.broken_split buffer), List.append_nil]

end Passed

/-! ## Loops that read entries -/

variable {α ρ : Type}

/-- The loop reads the entries of a buffer. A turn at the end of the buffer finishes, a turn at
octets that cannot be read fails, and any other turn accepts the entry at its place and goes on
behind it. -/
structure Reads (framing : Framing) (buffer : List UInt8) (loop : Loop (Cursor α) ρ)
    (accept : α → Entry → α) (fail : α → Fault → ρ) (finish : α → ρ) : Prop where
  start : loop.start.offset = 0
  turn_end : ∀ s, s.offset = buffer.length → loop.turn s = some (.done (finish s.gathered))
  turn_error : ∀ s fault, s.offset < buffer.length →
    framing.readEntry s.offset (buffer.drop s.offset) = .error fault →
    loop.turn s = some (.done (fail s.gathered fault))
  turn_ok : ∀ s entry rest, s.offset < buffer.length →
    framing.readEntry s.offset (buffer.drop s.offset) = .ok (entry, rest) →
    loop.turn s = some (.again
      ⟨s.offset + framing.headerSize + entry.value.length, accept s.gathered entry⟩)

/-- How a loop ends: with the fault of octets that cannot be read, or without one. -/
def ending (fail : α → Fault → ρ) (finish : α → ρ) (gathered : α) : Option Fault → ρ
  | some fault => fail gathered fault
  | none => finish gathered

/-- What is made of a buffer: the entries of the split are accepted, and what is left decides how
the loop ends. -/
def outcome (framing : Framing) (buffer : List UInt8) (start : α) (accept : α → Entry → α)
    (fail : α → Fault → ρ) (finish : α → ρ) : ρ :=
  ending fail finish ((framing.split buffer).1.foldl accept start)
    (framing.stop? (framing.front buffer).length (framing.split buffer).2)

namespace Reads

variable {framing : Framing} {buffer : List UInt8} {loop : Loop (Cursor α) ρ}
  {accept : α → Entry → α} {fail : α → Fault → ρ} {finish : α → ρ} {n : Nat} {s s' : Cursor α}

/-- All that a turn can be: it ends the loop where no entry begins, or it reads one. -/
theorem turn_cases (h : Reads framing buffer loop accept fail finish)
    (hle : s.offset ≤ buffer.length) :
    (framing.Broken (buffer.drop s.offset) ∧
      loop.turn s = some (.done
        (ending fail finish s.gathered (framing.stop? s.offset (buffer.drop s.offset))))) ∨
    ∃ entry rest, framing.readEntry s.offset (buffer.drop s.offset) = .ok (entry, rest) ∧
      loop.turn s = some (.again
        ⟨s.offset + framing.headerSize + entry.value.length, accept s.gathered entry⟩) := by
  rcases Nat.eq_or_lt_of_le hle with hend | hlt
  · have hnil : buffer.drop s.offset = [] := by rw [hend, List.drop_length]
    rw [hnil, stop?_nil]
    exact .inl ⟨broken_nil, h.turn_end s hend⟩
  · have hne : buffer.drop s.offset ≠ [] := by
      rw [ne_eq, List.drop_eq_nil_iff]
      omega
    cases hread : framing.readEntry s.offset (buffer.drop s.offset) with
    | error fault =>
        rw [(stop?_eq_some_iff hne).mpr hread]
        exact .inl ⟨broken_of_readEntry hread, h.turn_error s fault hlt hread⟩
    | ok read => exact .inr ⟨read.1, read.2, rfl, h.turn_ok s read.1 read.2 hlt hread⟩

/-- A turn that goes on has read an entry. -/
theorem exists_of_again (h : Reads framing buffer loop accept fail finish)
    (hle : s.offset ≤ buffer.length) (hturn : loop.turn s = some (.again s')) :
    ∃ entry rest, framing.readEntry s.offset (buffer.drop s.offset) = .ok (entry, rest) ∧
      s' = ⟨s.offset + framing.headerSize + entry.value.length, accept s.gathered entry⟩ := by
  rcases h.turn_cases hle with ⟨-, heq⟩ | ⟨entry, rest, hread, heq⟩
  · rw [heq] at hturn
    cases hturn
  · rw [heq] at hturn
    cases hturn
    exact ⟨entry, rest, hread, rfl⟩

/-- **What every turn keeps.** The loop has gathered the entries that end before its place, one for
each turn. -/
theorem passed (h : Reads framing buffer loop accept fail finish) (hafter : loop.After n s) :
    ∃ entries, Passed framing buffer entries s.offset ∧ entries.length = n ∧
      s.gathered = entries.foldl accept loop.start.gathered := by
  induction hafter with
  | start =>
      refine ⟨[], ?_, rfl, rfl⟩
      rw [h.start]
      exact passed_nil
  | again _ hturn ih =>
      obtain ⟨entries, hpassed, hlength, hgathered⟩ := ih
      obtain ⟨entry, rest, hread, rfl⟩ := h.exists_of_again hpassed.offset_le hturn
      refine ⟨entries ++ [entry], hpassed.next hread, ?_, ?_⟩
      · rw [List.length_append, hlength, List.length_singleton]
      · rw [List.foldl_append, ← hgathered]
        rfl

theorem turn_ne_none (h : Reads framing buffer loop accept fail finish)
    (hle : s.offset ≤ buffer.length) : loop.turn s ≠ none := by
  rw [Option.ne_none_iff_exists']
  rcases h.turn_cases hle with ⟨-, heq⟩ | ⟨entry, rest, -, heq⟩
  · exact ⟨_, heq⟩
  · exact ⟨_, heq⟩

/-- A loop that reads entries is safe. -/
theorem safe (h : Reads framing buffer loop accept fail finish) {entries : α → List Entry}
    (hentries : ∀ read, entries (read.foldl accept loop.start.gathered) = read) :
    loop.Safe buffer framing.headerSize entries := by
  constructor
  case turn_ne_none =>
    intro n s hafter
    obtain ⟨read, hpassed, -, -⟩ := h.passed hafter
    exact h.turn_ne_none hpassed.offset_le
  case offset_le =>
    intro n s hafter
    obtain ⟨read, hpassed, -, -⟩ := h.passed hafter
    exact hpassed.offset_le
  case offset_eq =>
    intro n s hafter
    obtain ⟨read, hpassed, -, hgathered⟩ := h.passed hafter
    rw [hgathered, hentries]
    exact hpassed.offset_eq_sum
  case offset_again =>
    intro n s s' hafter hturn
    obtain ⟨read, hpassed, -, -⟩ := h.passed hafter
    obtain ⟨entry, rest, -, rfl⟩ := h.exists_of_again hpassed.offset_le hturn
    exact Nat.le_add_right _ entry.value.length
  case length_entries =>
    intro n s hafter
    obtain ⟨read, -, hlength, hgathered⟩ := h.passed hafter
    rw [hgathered, hentries, hlength]
  case turns_le =>
    intro n s hafter
    obtain ⟨read, hpassed, hlength, -⟩ := h.passed hafter
    rw [← hlength]
    exact hpassed.length_le

/-! ## The result -/

/-- From any head the loop goes on to its end, because each turn leaves fewer octets to read. -/
theorem exists_done (h : Reads framing buffer loop accept fail finish)
    (hafter : loop.After n s) : ∃ result, loop.Returns result := by
  obtain ⟨entries, hpassed, -, -⟩ := h.passed hafter
  induction hleft : buffer.length - s.offset using Nat.strongRecOn generalizing n s entries with
  | _ left ih =>
      obtain ⟨turn, hturn⟩ := Option.ne_none_iff_exists'.mp (h.turn_ne_none hpassed.offset_le)
      cases turn with
      | done result => exact ⟨result, n, s, hafter, hturn⟩
      | again s' =>
          have hafter' := hafter.again hturn
          obtain ⟨entries', hpassed', -, -⟩ := h.passed hafter'
          obtain ⟨entry, rest, -, rfl⟩ := h.exists_of_again hpassed.offset_le hturn
          have hpos := framing.headerSize_pos
          have hle := hpassed'.offset_le
          simp only at hle
          exact ih _ (by simp only; omega) hafter' entries' hpassed' rfl

/-- A turn that ends the loop is made where all entries of the split have been passed, and what is
left there decides how it ends. -/
theorem of_done (h : Reads framing buffer loop accept fail finish) {result : ρ}
    (hafter : loop.After n s) (hturn : loop.turn s = some (.done result)) :
    (framing.split buffer).2 = buffer.drop s.offset ∧
      outcome framing buffer loop.start.gathered accept fail finish = result := by
  obtain ⟨entries, hpassed, -, hgathered⟩ := h.passed hafter
  rcases h.turn_cases hpassed.offset_le with ⟨hbroken, heq⟩ | ⟨entry, rest, -, heq⟩
  · have hsplit := hpassed.last hbroken
    have hfront : (framing.front buffer).length = s.offset := by
      rw [front, hsplit, ← hpassed.offset_eq]
    rw [outcome, hfront, hsplit, ← hgathered]
    rw [heq] at hturn
    cases hturn
    exact ⟨rfl, rfl⟩
  · rw [heq] at hturn
    cases hturn

/-- **The loop ends**, and there is one result with which it does. -/
theorem returns_iff (h : Reads framing buffer loop accept fail finish) {result : ρ} :
    loop.Returns result ↔
      outcome framing buffer loop.start.gathered accept fail finish = result := by
  constructor
  · rintro ⟨n, s, hafter, hturn⟩
    exact (h.of_done hafter hturn).2
  · rintro rfl
    obtain ⟨result, n, s, hafter, hturn⟩ := h.exists_done .start
    rw [(h.of_done hafter hturn).2]
    exact ⟨n, s, hafter, hturn⟩

/-- The last turn is made before the end of the buffer exactly when the split leaves something
over. -/
theorem stopsShort_iff (h : Reads framing buffer loop accept fail finish) {result : ρ}
    (hresult : loop.Returns result) {discards : ρ → Prop} :
    loop.StopsShort buffer discards ↔ (framing.split buffer).2 ≠ [] ∧ discards result := by
  obtain ⟨n, s, hafter, hturn⟩ := hresult
  obtain ⟨hleft, houtcome⟩ := h.of_done hafter hturn
  rw [hleft, ne_eq, List.drop_eq_nil_iff, Nat.not_le]
  constructor
  · rintro ⟨n', s', result', hafter', hturn', hlt, hdiscards⟩
    obtain ⟨hleft', houtcome'⟩ := h.of_done hafter' hturn'
    have hne : (framing.split buffer).2 ≠ [] := by
      rw [hleft', ne_eq, List.drop_eq_nil_iff, Nat.not_le]
      exact hlt
    rw [hleft, ne_eq, List.drop_eq_nil_iff, Nat.not_le] at hne
    rw [← houtcome, houtcome']
    exact ⟨hne, hdiscards⟩
  · rintro ⟨hlt, hdiscards⟩
    exact ⟨n, s, result, hafter, hturn, hlt, hdiscards⟩

end Reads

end Framing

end BootTlv
