import BootTlv.Inspector
import BootTlv.Proofs.Catalog.Rows
import BootTlv.Proofs.Spelling
import BootTlv.Proofs.Text.Words
import Mathlib.Data.List.Forall2
import Mathlib.Data.List.Nodup

/-!
# Messages are unambiguous

A message says what fault it is about, but for the spelling of tags (`message_exact`). Its words are
of two sorts. Those without a digit or an underscore say of which kind the fault is, once the words
`parameter type` are left out, which stand before the code of a tag that has no name. The others say
in order what the fault is about: a tag by its name or its code, and numbers. The two octets that the
message about a flag allows are counted among these and are always the same.

No word has a semicolon in it, so messages are found again in a list of messages.
-/

namespace BootTlv

open Text (isWord isMark isFixed isWord_decimal isWord_hexOctet isWord_hexWord isMark_decimal
  isMark_hexOctet isMark_hexWord)

/-! ## Labels -/

/-- A name is one word with an underscore in it, and it begins as no numeral does. -/
theorem Catalog.name_of_lookup {c : UInt8} {row : Row} (h : builtin.lookup c = some row) :
    isWord row.name = true ∧ isMark row.name = true ∧ row.name.toList.head? = some 'O' := by
  have hnames : ∀ row ∈ builtinRows,
      isWord row.name = true ∧ isMark row.name = true ∧ row.name.toList.head? = some 'O' := by
    decide +kernel
  exact hnames row (mem_builtinRows_of_lookup h)

namespace Tag

/-- The word of a label that tells the tag. -/
def mark (tag : Tag) : String :=
  match Catalog.builtin.lookup tag.code with
  | some row => row.name
  | none => Text.hexOctet tag.code

/-- The words of a label. -/
def words (tag : Tag) : List String :=
  match Catalog.builtin.lookup tag.code with
  | some _ => [tag.mark]
  | none => ["parameter", "type", tag.mark]

theorem words_ne_nil (tag : Tag) : tag.words ≠ [] := by
  rw [words]
  split <;> exact List.cons_ne_nil _ _

theorem label_eq (tag : Tag) : tag.label = " ".intercalate tag.words := by
  rw [label, words, mark]
  cases Catalog.builtin.lookup tag.code with
  | some row => rfl
  | none =>
      apply String.toList_inj.mp
      simp

theorem isWord_mark (tag : Tag) : isWord tag.mark = true := by
  rw [mark]
  split
  · next row hrow => exact (Catalog.name_of_lookup hrow).1
  · exact isWord_hexOctet tag.code

theorem isMark_mark (tag : Tag) : isMark tag.mark = true := by
  rw [mark]
  split
  · next row hrow => exact (Catalog.name_of_lookup hrow).2.1
  · exact isMark_hexOctet tag.code

theorem all_isWord_words (tag : Tag) : tag.words.all isWord = true := by
  rw [words]
  split <;> simp +decide [tag.isWord_mark]

theorem filter_isMark_words (tag : Tag) : tag.words.filter isMark = [tag.mark] := by
  rw [words]
  split <;> simp +decide [tag.isMark_mark]

theorem filter_isFixed_words (tag : Tag) : tag.words.filter isFixed = [] := by
  rw [words]
  split <;> simp [isFixed, tag.isMark_mark]

/-- The mark of a tag says what code it has: the names are different and none is a numeral. -/
theorem mark_inj {a b : Tag} : a.mark = b.mark ↔ a.canonical = b.canonical := by
  have hnodup : (Catalog.builtinRows.map Row.name).Nodup := by
    simp [Catalog.builtinRows]
  have hnumeral : ∀ {c : UInt8} {row : Row}, Catalog.builtin.lookup c = some row →
      ∀ d, row.name ≠ Text.hexOctet d := by
    intro c row hrow d heq
    have hhead := (Catalog.name_of_lookup hrow).2.2
    rw [heq, Text.toList_hexOctet] at hhead
    cases hhead
  rw [canonical_eq_iff]
  constructor
  · intro h
    rw [mark, mark] at h
    split at h
    · next row hrow =>
        split at h
        · next row' hrow' =>
            obtain rfl := List.inj_on_of_nodup_map hnodup
              (Catalog.mem_builtinRows_of_lookup hrow) (Catalog.mem_builtinRows_of_lookup hrow') h
            rw [← Catalog.builtin.code_of_lookup hrow, Catalog.builtin.code_of_lookup hrow']
        · exact absurd h (hnumeral hrow _)
    · split at h
      · next row' hrow' => exact absurd h.symm (hnumeral hrow' _)
      · exact Text.hexOctet_inj.mp h
  · intro h
    rw [mark, mark, h]

end Tag

namespace Fault

/-! ## The words of a message -/

/-- The words of a message. -/
def words : Fault → List String
  | unknownTag code => ["Unknown", "parameter", "type", Text.hexOctet code]
  | tooLarge tag length limit =>
    tag.words ++ ["is", Text.decimal length, "bytes,", "limit", "is", Text.decimal limit]
  | badFlag tag => tag.words ++ ["must", "be", "a", "single", "0x00", "or", "0x01", "byte"]
  | badVerifyMethod tag =>
    tag.words ++ ["does", "not", "hold", "a", "supported", "verify", "method"]
  | wrongSize tag expected actual =>
    tag.words ++ ["must", "be", Text.decimal expected, "bytes,", "got", Text.decimal actual]
  | badUri tag => tag.words ++ ["is", "not", "a", "valid", "URI"]
  | unsupported tag => tag.words ++ ["is", "not", "supported"]
  | headerCut offset =>
    ["Incomplete", "TLV", "header", "at", "offset", Text.decimal offset]
  | valueCut offset declared available =>
    ["Entry", "at", "offset", Text.decimal offset, "declares", Text.decimal declared, "value",
      "bytes,", Text.decimal available, "remain"]
  | missingMandatory tag => ["Missing", "mandatory", "parameter"] ++ tag.words
  | missingDependency tag needs => tag.words ++ "requires" :: needs.words
  | lengthMismatch tag declared actual =>
    tag.words ++ ["declares", Text.decimal declared, "bytes", "but", "carries",
      Text.decimal actual]
  | valueTooLong tag length =>
    tag.words ++ ["value", "of", Text.decimal length, "bytes", "does", "not", "fit", "a", "TLV",
      "entry"]
  | foreignVendor id => ["Unexpected", "vendor", "ID", Text.hexWord id]
  | tagOutOfRange field => ["Parameter", "type", Text.hexWord field, "is", "out", "of", "range"]

theorem words_ne_nil (fault : Fault) : fault.words ≠ [] := by
  cases fault <;> simp [words]

theorem message_eq (fault : Fault) : fault.message = " ".intercalate fault.words := by
  have hbefore (word : String) (tag : Tag) :
      " ".intercalate (word :: tag.words) = word ++ " " ++ tag.label := by
    rw [String.intercalate_cons_of_ne_nil tag.words_ne_nil, tag.label_eq]
  have hbehind (tag : Tag) (word : String) (words : List String) :
      " ".intercalate (tag.words ++ word :: words) =
        tag.label ++ " " ++ " ".intercalate (word :: words) := by
    rw [String.intercalate_append_of_ne_nil tag.words_ne_nil (List.cons_ne_nil _ _), tag.label_eq]
  apply String.toList_inj.mp
  cases fault <;> simp [message, pieces, words, hbefore, hbehind]

theorem all_isWord_words (fault : Fault) : fault.words.all isWord = true := by
  cases fault <;>
    simp +decide [words, Tag.all_isWord_words, isWord_decimal, isWord_hexOctet, isWord_hexWord]

/-! ## The two sorts of words -/

/-- The words that stand in every message of a kind. -/
def Kind.fixedWords : Kind → List String
  | unknownTag => ["Unknown"]
  | tooLarge => ["is", "bytes,", "limit", "is"]
  | badFlag => ["must", "be", "a", "single", "or", "byte"]
  | badVerifyMethod => ["does", "not", "hold", "a", "supported", "verify", "method"]
  | wrongSize => ["must", "be", "bytes,", "got"]
  | badUri => ["is", "not", "a", "valid", "URI"]
  | unsupported => ["is", "not", "supported"]
  | headerCut => ["Incomplete", "TLV", "header", "at", "offset"]
  | valueCut => ["Entry", "at", "offset", "declares", "value", "bytes,", "remain"]
  | missingMandatory => ["Missing", "mandatory"]
  | missingDependency => ["requires"]
  | lengthMismatch => ["declares", "bytes", "but", "carries"]
  | valueTooLong => ["value", "of", "bytes", "does", "not", "fit", "a", "TLV", "entry"]
  | foreignVendor => ["Unexpected", "vendor", "ID"]
  | tagOutOfRange => ["Parameter", "is", "out", "of", "range"]

theorem Kind.fixedWords_inj {a b : Kind} (h : a.fixedWords = b.fixedWords) : a = b := by
  revert h
  cases a <;> cases b <;> decide

theorem filter_isFixed_words (fault : Fault) :
    fault.words.filter isFixed = fault.kind.fixedWords := by
  cases fault <;>
    simp +decide [words, kind, Kind.fixedWords, Tag.filter_isFixed_words, isFixed, isMark_decimal,
      isMark_hexOctet, isMark_hexWord]

/-- Faults of one kind that are about the same things are the same. -/
theorem canonical_eq_of_filter_isMark {a b : Fault} (hkind : a.kind = b.kind)
    (hmarks : a.words.filter isMark = b.words.filter isMark) : a.canonical = b.canonical := by
  -- Faults of two kinds are ruled out first; of one kind the marks are compared one by one.
  cases a <;> cases b <;> first
    | exact Kind.noConfusion hkind
    | simpa +decide [words, canonical, isMark_decimal, isMark_hexOctet, isMark_hexWord,
        Tag.filter_isMark_words, Tag.mark_inj, Text.decimal_inj, Text.hexOctet_inj,
        Text.hexWord_inj] using hmarks

/-! ## Messages -/

theorem toList_message (fault : Fault) :
    fault.message.toList = List.intercalate [' '] (fault.words.map String.toList) := by
  rw [message_eq, String.toList_intercalate]
  rfl

theorem words_eq_of_message {a b : Fault} (h : a.message = b.message) : a.words = b.words := by
  have hspace (fault : Fault) : ∀ word ∈ fault.words.map String.toList, ' ' ∉ word := by
    rw [List.forall_mem_map]
    intro word hword
    exact (Text.isWord_iff.mp (List.all_eq_true.mp fault.all_isWord_words word hword)).1
  have hne (fault : Fault) : fault.words.map String.toList ≠ [] := by
    rw [ne_eq, List.map_eq_nil_iff]
    exact fault.words_ne_nil
  rw [← String.toList_inj, toList_message, toList_message,
    Text.intercalate_inj (hspace a) (hspace b) (hne a) (hne b)] at h
  exact List.map_injective_iff.mpr (fun _ _ => String.toList_inj.mp) h

theorem message_inj {a b : Fault} : a.message = b.message ↔ a.canonical = b.canonical := by
  constructor
  · intro h
    have hwords := words_eq_of_message h
    have hkind : a.kind = b.kind := by
      apply Kind.fixedWords_inj
      rw [← filter_isFixed_words, ← filter_isFixed_words, hwords]
    exact canonical_eq_of_filter_isMark hkind (by rw [hwords])
  · intro h
    rw [← message_canonical, h, message_canonical]

/-! ## Lists of messages -/

theorem semicolon_notMem_message (fault : Fault) : ';' ∉ fault.message.toList := by
  rw [toList_message]
  intro h
  rcases Text.mem_or_exists_of_mem_intercalate h with h | ⟨_, hmem, h⟩
  · cases List.mem_singleton.mp h
  · obtain ⟨word, hword, rfl⟩ := List.mem_map.mp hmem
    exact (Text.isWord_iff.mp (List.all_eq_true.mp fault.all_isWord_words word hword)).2 h

theorem message_ne_empty (fault : Fault) : fault.message ≠ "" := by
  rw [ne_eq, ← String.toList_inj]
  cases fault <;> simp [message, pieces]

theorem messages_ne_empty (fault : Fault) (faults : List Fault) :
    messages (fault :: faults) ≠ "" := by
  rw [messages, List.map_cons]
  cases faults with
  | nil => exact fault.message_ne_empty
  | cons next faults =>
      rw [ne_eq, ← String.toList_inj, List.map_cons, String.intercalate_cons_cons]
      simp

/-- The messages of a list that has any, with the space after each semicolon counted to the message
behind it. -/
theorem toList_messages_cons (fault : Fault) (faults : List Fault) :
    (messages (fault :: faults)).toList =
      List.intercalate [';']
        (fault.message.toList :: (faults.map message).map (' ' :: ·.toList)) := by
  rw [messages, String.toList_intercalate, List.map_cons, List.map_cons]
  refine (Text.intercalate_cons_mark ';' [' '] _ _).trans ?_
  rw [List.map_map]
  rfl

theorem map_message_inj {as bs : List Fault} :
    as.map message = bs.map message ↔ as.map canonical = bs.map canonical := by
  have hsame : (fun a b : Fault => a.message = b.message) = fun a b => a.canonical = b.canonical :=
    funext fun a => funext fun b => propext message_inj
  rw [← List.forall₂_eq_eq_eq, ← List.forall₂_eq_eq_eq, List.forall₂_map_left_iff,
    List.forall₂_map_right_iff, List.forall₂_map_left_iff, List.forall₂_map_right_iff, hsame]

theorem map_message_eq_of_messages {as bs : List Fault} (h : messages as = messages bs) :
    as.map message = bs.map message := by
  cases as with
  | nil =>
      cases bs with
      | nil => rfl
      | cons b bs => exact absurd h.symm (messages_ne_empty b bs)
  | cons a as =>
      cases bs with
      | nil => exact absurd h (messages_ne_empty a as)
      | cons b bs =>
          have hfree (fault : Fault) (faults : List Fault) :
              ∀ piece ∈ fault.message.toList :: (faults.map message).map (' ' :: ·.toList),
                ';' ∉ piece := by
            rw [List.map_map, List.forall_mem_cons, List.forall_mem_map]
            refine ⟨fault.semicolon_notMem_message, fun next _ hc => ?_⟩
            rcases List.mem_cons.mp hc with hc | hc
            · cases hc
            · exact next.semicolon_notMem_message hc
          rw [← String.toList_inj, toList_messages_cons, toList_messages_cons,
            Text.intercalate_inj (hfree a as) (hfree b bs) (List.cons_ne_nil _ _)
              (List.cons_ne_nil _ _)] at h
          obtain ⟨hhead, htail⟩ := List.cons.inj h
          have hspaced : Function.Injective fun text : String => ' ' :: text.toList :=
            fun _ _ heq => String.toList_inj.mp (List.cons.inj heq).2
          rw [List.map_cons, List.map_cons, String.toList_inj.mp hhead,
            List.map_injective_iff.mpr hspaced htail]

theorem messages_inj {as bs : List Fault} :
    messages as = messages bs ↔ as.map canonical = bs.map canonical := by
  rw [← map_message_inj]
  constructor
  · exact map_message_eq_of_messages
  · intro h
    rw [messages, messages, h]

end Fault

/-- **A message says what it is about.** Two faults have the same message only when they are the same
with tags compared by code. No message has a semicolon in it, so the message of a rejected request
says which faults were found, and in which order. -/
theorem Fault.message_exact :
    (∀ a b : Fault, a.message = b.message ↔ a.canonical = b.canonical) ∧
    (∀ fault : Fault, ';' ∉ fault.message.toList) ∧
    ∀ as bs : List Fault,
      (Inspector.Failure.rejected as).message = (Inspector.Failure.rejected bs).message ↔
        as.map canonical = bs.map canonical := by
  refine ⟨fun _ _ => message_inj, semicolon_notMem_message, fun as bs => ?_⟩
  have hmessage (faults : List Fault) :
      (Inspector.Failure.rejected faults).message = "boot request rejected: " ++ messages faults := by
    simp [Inspector.Failure.message, Inspector.Failure.pieces, String.join]
  rw [hmessage, hmessage, String.append_right_inj, messages_inj]

end BootTlv
