import BootTlv.Proofs.Framing.Entry

/-!
# Splitting octets into entries

In either framing any octets are, in one way, entries followed by octets that no entry begins:
`split` finds the entries and what is left over. It looks at the octets only, neither at a catalog
nor at where in a buffer they stand, so it is what reading a buffer is measured against.

`octets_induction` is the induction over that form. Nothing is lost or read twice
(`front_append_split`), and `stop?` is the fault, if any, that reading ends with at what is left.
-/

namespace BootTlv.Framing

variable {framing : Framing}

/-! ## Octets that no entry begins -/

/-- No entry begins the octets. -/
def Broken (framing : Framing) (bytes : List UInt8) : Prop :=
  ∀ entry rest, entry.Framed → bytes ≠ framing.octets entry ++ rest

theorem broken_nil : framing.Broken [] := by
  intro entry rest _ heq
  have hlength := congrArg List.length heq
  have hpos := framing.headerSize_pos
  rw [List.length_append, length_octets, List.length_nil] at hlength
  omega

theorem readEntry_of_broken {bytes : List UInt8} (h : framing.Broken bytes) (offset : Nat) :
    ∃ fault, framing.readEntry offset bytes = .error fault := by
  cases hread : framing.readEntry offset bytes with
  | error fault => exact ⟨fault, rfl⟩
  | ok read =>
      obtain ⟨hbytes, hframed⟩ := eq_octets_append_of_readEntry hread
      exact absurd hbytes (h read.1 read.2 hframed)

theorem broken_of_readEntry {offset : Nat} {bytes : List UInt8} {fault : Fault}
    (h : framing.readEntry offset bytes = .error fault) : framing.Broken bytes := by
  rintro entry rest hframed rfl
  rw [readEntry_octets_append framing offset hframed] at h
  cases h

/-- **Induction over entries.** What holds of octets that no entry begins and is kept when an entry
is put before octets holds of all octets. -/
@[elab_as_elim]
theorem octets_induction (framing : Framing) {motive : List UInt8 → Prop}
    (broken : ∀ bytes, framing.Broken bytes → motive bytes)
    (entry : ∀ entry rest, entry.Framed → motive rest → motive (framing.octets entry ++ rest))
    (bytes : List UInt8) : motive bytes := by
  -- An entry takes at least its header, so what follows it is shorter.
  induction hlen : bytes.length using Nat.strongRecOn generalizing bytes with
  | _ n ih =>
      cases hread : framing.readEntry 0 bytes with
      | error fault => exact broken bytes (broken_of_readEntry hread)
      | ok read =>
          obtain ⟨e, rest⟩ := read
          have hlt := length_lt_of_readEntry hread
          obtain ⟨rfl, hframed⟩ := eq_octets_append_of_readEntry hread
          rw [hlen] at hlt
          exact entry e rest hframed (ih rest.length hlt rest rfl)

/-! ## The split -/

/-- The entries that begin the octets, one after the other, and what is left after them. -/
def split (framing : Framing) (bytes : List UInt8) : List Entry × List UInt8 :=
  match h : framing.readEntry 0 bytes with
  | .error _ => ([], bytes)
  | .ok (entry, rest) =>
    have : rest.length < bytes.length := length_lt_of_readEntry h
    (entry :: (framing.split rest).1, (framing.split rest).2)
termination_by bytes.length

theorem split_of_broken {bytes : List UInt8} (h : framing.Broken bytes) :
    framing.split bytes = ([], bytes) := by
  obtain ⟨fault, hread⟩ := readEntry_of_broken h 0
  rw [split]
  split
  · rfl
  · next heq =>
      rw [hread] at heq
      cases heq

theorem split_octets_append {entry : Entry} (h : entry.Framed) (rest : List UInt8) :
    framing.split (framing.octets entry ++ rest) =
      (entry.canonical :: (framing.split rest).1, (framing.split rest).2) := by
  rw [split]
  split
  · next heq =>
      rw [readEntry_octets_append framing 0 h] at heq
      cases heq
  · next heq =>
      rw [readEntry_octets_append framing 0 h] at heq
      cases heq
      rfl

@[simp] theorem split_nil : framing.split [] = ([], []) := split_of_broken broken_nil

/-- The split begins anew after entries, whatever follows them. -/
theorem split_flatMap_octets_append (framing : Framing) {entries : List Entry}
    (h : ∀ e ∈ entries, e.Framed) (rest : List UInt8) :
    framing.split (entries.flatMap framing.octets ++ rest) =
      (entries.map Entry.canonical ++ (framing.split rest).1, (framing.split rest).2) := by
  induction entries with
  | nil => rfl
  | cons e entries ih =>
      rw [List.flatMap_cons, List.append_assoc,
        split_octets_append (h e List.mem_cons_self),
        ih (fun e he => h e (List.mem_cons_of_mem _ he))]
      rfl

theorem split_flatMap_octets {entries : List Entry} (h : ∀ e ∈ entries, e.Framed) :
    framing.split (entries.flatMap framing.octets) = (entries.map Entry.canonical, []) := by
  have hsplit := framing.split_flatMap_octets_append h []
  rwa [List.append_nil, split_nil, List.append_nil] at hsplit

/-- The octets that the split takes up with entries. -/
def front (framing : Framing) (bytes : List UInt8) : List UInt8 :=
  (framing.split bytes).1.flatMap framing.octets

/-- The split loses no octet and reads none twice. -/
theorem front_append_split (framing : Framing) (bytes : List UInt8) :
    framing.front bytes ++ (framing.split bytes).2 = bytes := by
  unfold front
  induction bytes using octets_induction framing with
  | broken bytes h =>
      rw [split_of_broken h]
      rfl
  | entry e rest hframed ih =>
      rw [split_octets_append hframed, List.flatMap_cons, octets_canonical, List.append_assoc, ih]

theorem drop_length_front (framing : Framing) (bytes : List UInt8) :
    bytes.drop (framing.front bytes).length = (framing.split bytes).2 :=
  calc bytes.drop (framing.front bytes).length
      = (framing.front bytes ++ (framing.split bytes).2).drop (framing.front bytes).length := by
        rw [front_append_split]
    _ = (framing.split bytes).2 := List.drop_left

theorem framed_of_mem_split {bytes : List UInt8} :
    ∀ e ∈ (framing.split bytes).1, e.Framed := by
  induction bytes using octets_induction framing with
  | broken bytes h =>
      rw [split_of_broken h]
      exact fun e he => absurd he List.not_mem_nil
  | entry e rest hframed ih =>
      rw [split_octets_append hframed]
      intro e' he'
      rcases List.mem_cons.mp he' with rfl | he'
      · exact hframed
      · exact ih e' he'

/-- No entry begins what the split leaves over. -/
theorem broken_split (framing : Framing) (bytes : List UInt8) :
    framing.Broken (framing.split bytes).2 := by
  induction bytes using octets_induction framing with
  | broken bytes h => rwa [split_of_broken h]
  | entry e rest hframed ih => rwa [split_octets_append hframed]

theorem front_eq_self {bytes : List UInt8} (h : (framing.split bytes).2 = []) :
    framing.front bytes = bytes := by
  have happend := framing.front_append_split bytes
  rwa [h, List.append_nil] at happend

theorem fst_split_ne_nil {bytes : List UInt8} (h : (framing.split bytes).2 = [])
    (hne : bytes ≠ []) : (framing.split bytes).1 ≠ [] := by
  intro hnil
  refine hne ?_
  rw [← front_eq_self h, front, hnil]
  rfl

/-! ## The end of the reading -/

/-- The fault that reading ends with at octets that no entry begins. The end of the buffer is no
fault. -/
def stop? (framing : Framing) (offset : Nat) (bytes : List UInt8) : Option Fault :=
  if bytes = [] then none
  else
    match framing.readEntry offset bytes with
    | .error fault => some fault
    | .ok _ => none

@[simp] theorem stop?_nil (offset : Nat) : framing.stop? offset [] = none := if_pos rfl

theorem stop?_eq_some_iff {offset : Nat} {bytes : List UInt8} (hne : bytes ≠ []) {fault : Fault} :
    framing.stop? offset bytes = some fault ↔ framing.readEntry offset bytes = .error fault := by
  rw [stop?, if_neg hne]
  cases framing.readEntry offset bytes <;> simp

end BootTlv.Framing
