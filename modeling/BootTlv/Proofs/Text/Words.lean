import BootTlv.LittleEndian
import BootTlv.Text.Numeral
import Mathlib.Data.List.Basic

/-!
# Words of a message

A message is words with spaces between them, and no word has a space or a semicolon in it. Some words
are the same in every message of a kind; the others stand for what the message is about and are told
from them by their looks: a numeral has a digit in it and the name of a parameter an underscore
(`isMark`).

Numerals say which number they stand for (`decimal_inj`, `hexOctet_inj`, `hexWord_inj`), and words
are found again in the text that they are put together to (`intercalate_inj`).
-/

namespace BootTlv.Text

/-! ## Words -/

/-- A word has neither spaces nor semicolons. -/
def isWord (word : String) : Bool := word.toList.all fun c => c ≠ ' ' && c ≠ ';'

theorem isWord_iff {word : String} : isWord word = true ↔ ' ' ∉ word.toList ∧ ';' ∉ word.toList := by
  simp only [isWord, List.all_eq_true, Bool.and_eq_true, decide_eq_true_eq]
  constructor
  · intro h
    exact ⟨fun hc => (h ' ' hc).1 rfl, fun hc => (h ';' hc).2 rfl⟩
  · rintro ⟨hspace, hsemicolon⟩ c hc
    constructor <;> rintro rfl
    · exact hspace hc
    · exact hsemicolon hc

/-- The word has a digit or an underscore in it. -/
def isMark (word : String) : Bool := word.toList.any fun c => c.isDigit || c = '_'

/-- The word is neither a mark nor one of the two that stand before a code without a name. -/
def isFixed (word : String) : Bool := !isMark word && word ≠ "parameter" && word ≠ "type"

/-! ## Numerals -/

theorem isDigit_of_mem_decimal {n : Nat} {c : Char} (h : c ∈ (decimal n).toList) :
    c.isDigit = true := by
  rw [decimal, String.toList_ofList] at h
  exact Nat.isDigit_of_mem_toDigits (by decide) (by decide) h

theorem isWord_decimal (n : Nat) : isWord (decimal n) = true := by
  rw [isWord_iff]
  constructor <;> intro hc <;> cases isDigit_of_mem_decimal hc

theorem isMark_decimal (n : Nat) : isMark (decimal n) = true := by
  obtain ⟨c, rest, hdigits⟩ := List.exists_cons_of_ne_nil (Nat.toDigits_ne_nil (n := n) (b := 10))
  have hlist : (decimal n).toList = c :: rest := by
    rw [decimal, String.toList_ofList, hdigits]
  have hc : c.isDigit = true := isDigit_of_mem_decimal (hlist ▸ List.mem_cons_self)
  rw [isMark, hlist, List.any_cons, hc, Bool.true_or, Bool.true_or]

theorem decimal_inj {n m : Nat} : decimal n = decimal m ↔ n = m := by
  rw [decimal, decimal, String.ofList_inj, toDigits_inj]

theorem toList_hexOctet (b : UInt8) : (hexOctet b).toList = '0' :: 'x' :: Hex.encode [b] := by
  simp [hexOctet, Hex.encode]

theorem toList_hexWord (w : UInt16) :
    (hexWord w).toList =
      '0' :: 'x' :: Hex.encode [UInt8.ofNat (w.toNat / 256), UInt8.ofNat (w.toNat % 256)] := by
  simp [hexWord, Hex.word, Hex.encode]

theorem isWord_of_hexadecimal {word : String} {bytes : List UInt8}
    (h : word.toList = '0' :: 'x' :: Hex.encode bytes) : isWord word = true := by
  have hdigit : ∀ k : Fin 16, (Nat.digitChar k ≠ ' ' && Nat.digitChar k ≠ ';') = true := by decide
  rw [isWord, h, List.all_cons, List.all_cons]
  show (Hex.encode bytes).all _ = true
  rw [List.all_eq_true]
  intro c hc
  obtain ⟨k, rfl⟩ := Hex.exists_digit_of_mem_encode hc
  exact hdigit k

theorem isWord_hexOctet (b : UInt8) : isWord (hexOctet b) = true :=
  isWord_of_hexadecimal (toList_hexOctet b)

theorem isWord_hexWord (w : UInt16) : isWord (hexWord w) = true :=
  isWord_of_hexadecimal (toList_hexWord w)

theorem isMark_hexOctet (b : UInt8) : isMark (hexOctet b) = true := by
  rw [isMark, toList_hexOctet]
  rfl

theorem isMark_hexWord (w : UInt16) : isMark (hexWord w) = true := by
  rw [isMark, toList_hexWord]
  rfl

theorem hexOctet_inj {a b : UInt8} : hexOctet a = hexOctet b ↔ a = b := by
  rw [← String.toList_inj, toList_hexOctet, toList_hexOctet]
  simp [Hex.encode_inj]

theorem hexWord_inj {a b : UInt16} : hexWord a = hexWord b ↔ a = b := by
  constructor
  · intro h
    rw [← String.toList_inj, toList_hexWord, toList_hexWord] at h
    simp only [List.cons.injEq, true_and, and_true, Hex.encode_inj] at h
    rw [← LittleEndian.word_wordBytes a, h.1, h.2, LittleEndian.word_wordBytes]
  · rintro rfl
    rfl

/-! ## Texts of words -/

theorem mem_or_exists_of_mem_intercalate {c : Char} {mark : List Char} {pieces : List (List Char)}
    (h : c ∈ List.intercalate mark pieces) : c ∈ mark ∨ ∃ piece ∈ pieces, c ∈ piece := by
  induction pieces with
  | nil => cases h
  | cons piece pieces ih =>
      cases pieces with
      | nil =>
          rw [List.intercalate_singleton] at h
          exact .inr ⟨piece, List.mem_cons_self, h⟩
      | cons next pieces =>
          rw [List.intercalate_cons_cons, List.mem_append, List.mem_append] at h
          rcases h with (h | h) | h
          · exact .inr ⟨piece, List.mem_cons_self, h⟩
          · exact .inl h
          · rcases ih h with h | ⟨later, hlater, hc⟩
            · exact .inl h
            · exact .inr ⟨later, List.mem_cons_of_mem _ hlater, hc⟩

/-- The rest of a mark may be counted to the pieces behind it. -/
theorem intercalate_cons_mark (c : Char) (mark : List Char) (piece : List Char)
    (pieces : List (List Char)) :
    List.intercalate (c :: mark) (piece :: pieces) =
      List.intercalate [c] (piece :: pieces.map (mark ++ ·)) := by
  induction pieces generalizing piece with
  | nil => rfl
  | cons next pieces ih =>
      rw [List.intercalate_cons_cons, ih next, List.map_cons, List.intercalate_cons_cons]
      cases pieces with
      | nil => simp
      | cons _ _ => simp [List.intercalate_cons_cons]

/-- Pieces without the character are found again between its places. -/
theorem intercalate_inj {c : Char} {xs ys : List (List Char)} (hxs : ∀ x ∈ xs, c ∉ x)
    (hys : ∀ y ∈ ys, c ∉ y) (hx : xs ≠ []) (hy : ys ≠ []) :
    List.intercalate [c] xs = List.intercalate [c] ys ↔ xs = ys := by
  constructor
  · intro h
    rw [← List.splitOn_intercalate c hxs hx, h, List.splitOn_intercalate c hys hy]
  · rintro rfl
    rfl

end BootTlv.Text
