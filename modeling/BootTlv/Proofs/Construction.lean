import BootTlv.Entry
import BootTlv.Proofs.Result
import BootTlv.Proofs.Text.Utf8

/-!
# Built entries

An entry that was built has the tag it was built with (`tag_of_build`), and its reader gives back
the value it was built from; only a text loses a NUL at its end (`text_of_ofText`).

A list of constructions builds a list of entries one by one (`Built`), so what is found by its tag
among the entries is what is built by the construction found by that tag (`Built.find?`).
-/

namespace BootTlv.Entry

/-! ## Reading what was built -/

theorem make_eq_ok_iff {tag : Tag} {value : List UInt8} {entry : Entry} :
    make tag value = .ok entry ↔
      value.length ≤ maxLength ∧ entry = ⟨tag, UInt8.ofNat value.length, value⟩ := by
  unfold make
  split
  · next hlong =>
      refine iff_of_false ?_ ?_
      · intro h
        cases h
      · rintro ⟨hlength, -⟩
        exact absurd hlength (Nat.not_le.mpr hlong)
  · next hlength =>
      rw [Except.ok.injEq, eq_comm]
      exact (and_iff_right (Nat.not_lt.mp hlength)).symm

theorem word_ofWord (tag : Tag) (w : UInt16) : (ofWord tag w).word = .ok w := by
  rw [word, ofWord]
  exact congrArg Except.ok (LittleEndian.word_wordBytes w)

theorem flag_ofFlag (tag : Tag) (flag : Bool) : (ofFlag tag flag).flag = .ok flag := by
  cases flag <;> rfl

theorem verifyMethod_ofVerifyMethod (method : VerifyMethod) :
    (ofVerifyMethod method).verifyMethod = .ok method := by
  simp only [verifyMethod, ofVerifyMethod, word_ofWord, VerifyMethod.ofCode?_code]

/-- A text is read back without a NUL at its end. -/
theorem text_of_ofText {tag : Tag} {text : String} {entry : Entry}
    (h : ofText tag text = .ok entry) :
    entry.text = String.ofList (Utf8.dropNul text.toList) := by
  obtain ⟨-, rfl⟩ := make_eq_ok_iff.mp h
  rw [Entry.text, Utf8.unterminated_encode, Utf8.lossy_encode]

namespace Construction

/-! ## Tags -/

/-- The tag that an entry is built with. -/
def tag : Construction → Tag
  | octets tag _ | word tag _ | flag tag _ | text tag _ => tag
  | octetsOfCode code _ => Tag.ofCode code
  | verifyMethod _ => .serverNameVerifyMethod

theorem tag_of_build {construction : Construction} {entry : Entry}
    (h : construction.build = .ok entry) : entry.tag = construction.tag := by
  cases construction with
  | octets | octetsOfCode | text =>
      obtain ⟨-, rfl⟩ := make_eq_ok_iff.mp h
      rfl
  | word | flag | verifyMethod =>
      cases h
      rfl

/-! ## Lengths -/

/-- Whatever is built has the length that its length octet says. -/
theorem framed_of_build {construction : Construction} {entry : Entry}
    (h : construction.build = .ok entry) : entry.Framed := by
  cases construction with
  | octets | octetsOfCode | text => exact framed_of_make h
  | word tag w =>
      cases h
      exact framed_ofWord tag w
  | flag tag value =>
      cases h
      exact framed_ofFlag tag value
  | verifyMethod method =>
      cases h
      exact framed_ofWord _ method.code

/-- Why an entry is not built, if it is not. -/
def refusal? (construction : Construction) : Option Fault :=
  match construction.build with
  | .ok _ => none
  | .error fault => some fault

theorem refusal?_text (tag : Tag) (text : String) :
    refusal? (.text tag text) =
      if 255 < text.utf8ByteSize then some (.valueTooLong tag text.utf8ByteSize) else none := by
  rw [refusal?, build, ofText, make, Utf8.length_encode, maxLength]
  split_ifs <;> rfl

theorem refusal?_word (tag : Tag) (w : UInt16) : refusal? (.word tag w) = none := rfl

theorem refusal?_flag (tag : Tag) (value : Bool) : refusal? (.flag tag value) = none := rfl

theorem refusal?_verifyMethod (method : VerifyMethod) : refusal? (.verifyMethod method) = none :=
  rfl

/-! ## Lists -/

/-- Entries are built one after the other, up to the first one that is not. -/
theorem mapM_build (constructions : List Construction) :
    match constructions.findSome? refusal? with
    | some fault => constructions.mapM build = .error fault
    | none => ∃ entries, constructions.mapM build = .ok entries := by
  induction constructions with
  | nil => exact ⟨[], rfl⟩
  | cons construction constructions ih =>
      rw [List.findSome?_cons, List.mapM_cons]
      cases hbuild : construction.build with
      | error fault =>
          have hrefusal : construction.refusal? = some fault := by rw [refusal?, hbuild]
          rw [hrefusal]
          rfl
      | ok entry =>
          have hrefusal : construction.refusal? = none := by rw [refusal?, hbuild]
          rw [hrefusal]
          cases hlater : constructions.findSome? refusal? with
          | some fault =>
              rw [hlater] at ih
              dsimp only at ih ⊢
              rw [ih]
              rfl
          | none =>
              rw [hlater] at ih
              obtain ⟨entries, hentries⟩ := ih
              refine ⟨entry :: entries, ?_⟩
              rw [hentries]
              rfl

/-- The entries are built by the constructions, one by one. -/
def Built : List Construction → List Entry → Prop :=
  List.Forall₂ fun construction entry => construction.build = .ok entry

theorem built_of_mapM {constructions : List Construction} {entries : List Entry}
    (h : constructions.mapM build = .ok entries) : Built constructions entries := by
  induction constructions generalizing entries with
  | nil =>
      cases h
      exact .nil
  | cons construction constructions ih =>
      rw [List.mapM_cons] at h
      obtain ⟨entry, hentry, h⟩ := Except.bind_eq_ok_iff.mp h
      obtain ⟨rest, hentries, h⟩ := Except.bind_eq_ok_iff.mp h
      cases h
      exact .cons hentry (ih hentries)

theorem Built.map_tag {constructions : List Construction} {entries : List Entry}
    (h : Built constructions entries) : entries.map Entry.tag = constructions.map tag := by
  induction h with
  | nil => rfl
  | cons hentry _ ih => rw [List.map_cons, List.map_cons, tag_of_build hentry, ih]

theorem Built.framed {constructions : List Construction} {entries : List Entry}
    (h : Built constructions entries) : ∀ e ∈ entries, e.Framed := by
  intro e he
  obtain ⟨_, -, hbuild⟩ := h.exists_of_mem he
  exact framed_of_build hbuild

theorem Built.filterMap {β : Type} {constructions : List Construction} {entries : List Entry}
    (h : Built constructions entries) {f : Entry → Option β} {g : Construction → Option β}
    (hfg : ∀ c ∈ constructions, ∀ e, c.build = .ok e → f e = g c) :
    entries.filterMap f = constructions.filterMap g := by
  induction h with
  | nil => rfl
  | @cons construction entry _ _ hbuild _ ih =>
      rw [List.filterMap_cons, List.filterMap_cons, hfg _ List.mem_cons_self _ hbuild,
        ih fun c hc => hfg c (List.mem_cons_of_mem _ hc)]

/-- The first entry with a tag is built by the first construction with it. -/
theorem Built.find? {constructions : List Construction} {entries : List Entry}
    (h : Built constructions entries) (t : Tag) :
    (entries.find? (·.tag == t)).map Except.ok =
      (constructions.find? (·.tag == t)).map build := by
  induction h with
  | nil => rfl
  | @cons construction entry _ _ hentry _ ih =>
      rw [List.find?_cons, List.find?_cons, tag_of_build hentry]
      cases construction.tag == t with
      | true => exact congrArg some hentry.symm
      | false => exact ih

end Construction

end BootTlv.Entry
