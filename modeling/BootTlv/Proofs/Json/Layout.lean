import BootTlv.Json
import BootTlv.Text.Numeral
import BootTlv.Text.Split
import Mathlib.Data.List.Basic

/-!
# Layouts are read in one way

No two values have the same layout, whatever follows them in a text (`separable_layout`). The first
character says what sort of value it is, a number ends where no digit follows, and the lines of a
list or an object end where no comma follows. Behind every value that is laid out stands a comma, a
line end or the end of the text, so neither a digit nor a line is read that belongs to something
else.

A key is written without escapes, so values are told apart when no key holds a quotation mark
(`Plain`).
-/

namespace BootTlv.Json

/-- No key of the value holds a quotation mark. -/
inductive Plain : Json → Prop where
  | flag (value : Bool) : Plain (.flag value)
  | number (value : Nat) : Plain (.number value)
  | list {items : List Json} (h : ∀ item ∈ items, Plain item) : Plain (.list items)
  | object {fields : List (String × Json)} (hkey : ∀ field ∈ fields, '"' ∉ field.1.toList)
    (hvalue : ∀ field ∈ fields, Plain field.2) : Plain (.object fields)

/-! ## What follows a value -/

/-- The text does not go on with a digit. -/
def Stops (text : List Char) : Prop := ∀ c ∈ text.head?, c.isDigit = false

theorem stops_nil : Stops [] := by
  rintro c ⟨⟩

theorem stops_cons {c : Char} (h : c.isDigit = false) (text : List Char) : Stops (c :: text) := by
  rintro _ ⟨⟩
  exact h

/-- Two things are told apart by their texts, whatever follows these. -/
def Separable {α : Type} (write : α → List Char) (x y : α) : Prop :=
  ∀ ⦃s t : List Char⦄, Stops s → Stops t → write x ++ s = write y ++ t → x = y ∧ s = t

/-! ## Numbers -/

theorem takeWhile_toDigits (n : Nat) {s : List Char} (hs : Stops s) :
    (Nat.toDigits 10 n ++ s).takeWhile Char.isDigit = Nat.toDigits 10 n := by
  have hdigits : ∀ c ∈ Nat.toDigits 10 n, c.isDigit = true := fun c hc =>
    Nat.isDigit_of_mem_toDigits (by decide) (by decide) hc
  have hnil : s.takeWhile Char.isDigit = [] := by
    cases s with
    | nil => rfl
    | cons c s => rw [List.takeWhile_cons_of_neg (by simpa using hs c rfl)]
  rw [List.takeWhile_append_of_pos hdigits, hnil, List.append_nil]

theorem separable_toDigits (n m : Nat) : Separable (Nat.toDigits 10) n m := by
  intro s t hs ht h
  have hdigits : Nat.toDigits 10 n = Nat.toDigits 10 m := by
    rw [← takeWhile_toDigits n hs, h, takeWhile_toDigits m ht]
  rw [hdigits] at h
  exact ⟨Text.toDigits_inj.mp hdigits, List.append_cancel_left h⟩

/-! ## Lines between brackets -/

section Enclosed

variable {α : Type} {write : α → List Char} {indent : Nat}

/-- The text of a thing on a line of its own. -/
def line (indent : Nat) (write : α → List Char) (x : α) : List Char := newline indent ++ write x

/-- Further lines, with a comma before each. -/
def moreLines (indent : Nat) (write : α → List Char) (xs : List α) : List Char :=
  xs.flatMap fun x => ',' :: line indent write x

/-- Things between brackets: nothing between them, or each thing on a line of its own. -/
def enclosed (opening closing : Char) (indent : Nat) (write : α → List Char) :
    List α → List Char
  | [] => [opening, closing]
  | x :: xs =>
    opening :: line (indent + 2) write x ++ moreLines (indent + 2) write xs ++ newline indent ++
      [closing]

theorem enclosed_cons_append (opening closing : Char) (indent : Nat) (x : α) (xs : List α)
    (s : List Char) :
    enclosed opening closing indent write (x :: xs) ++ s =
      opening :: (line (indent + 2) write x ++ (moreLines (indent + 2) write xs ++
        '\n' :: (List.replicate indent ' ' ++ closing :: s))) := by
  simp [enclosed, newline]

theorem separable_line {x y : α} (h : Separable write x y) (indent : Nat) :
    Separable (line indent write) x y := by
  intro s t hs ht heq
  rw [line, line, List.append_assoc, List.append_assoc] at heq
  exact h hs ht (List.append_cancel_left heq)

/-- Behind a line stands a comma or a line end. -/
theorem stops_moreLines (indent : Nat) (xs : List α) (s : List Char) :
    Stops (moreLines indent write xs ++ '\n' :: s) := by
  cases xs with
  | nil => exact stops_cons rfl s
  | cons x xs => exact stops_cons rfl _

theorem moreLines_inj {indent : Nat} {xs ys : List α}
    (h : ∀ x ∈ xs, ∀ y ∈ ys, Separable write x y) {s t : List Char}
    (heq : moreLines indent write xs ++ '\n' :: s = moreLines indent write ys ++ '\n' :: t) :
    xs = ys ∧ s = t := by
  induction xs generalizing ys with
  | nil =>
      cases ys with
      | nil => exact ⟨rfl, (List.cons.inj heq).2⟩
      | cons y ys => cases heq
  | cons x xs ih =>
      cases ys with
      | nil => cases heq
      | cons y ys =>
          rw [moreLines, moreLines, List.flatMap_cons, List.flatMap_cons, List.append_assoc,
            List.append_assoc] at heq
          have hline := separable_line (h x List.mem_cons_self y List.mem_cons_self) indent
          obtain ⟨rfl, hrest⟩ := hline (stops_moreLines indent xs s) (stops_moreLines indent ys t)
            (List.cons.inj heq).2
          obtain ⟨rfl, hfollow⟩ := ih (fun x hx y hy =>
            h x (List.mem_cons_of_mem _ hx) y (List.mem_cons_of_mem _ hy)) hrest
          exact ⟨rfl, hfollow⟩

/-- What stands between brackets can be told apart when the single things can. -/
theorem separable_enclosed {opening closing : Char} (hclosing : closing ≠ '\n') (indent : Nat)
    {xs ys : List α} (h : ∀ x ∈ xs, ∀ y ∈ ys, Separable write x y) :
    Separable (enclosed opening closing indent write) xs ys := by
  intro s t _ _ heq
  cases xs with
  | nil =>
      cases ys with
      | nil => exact ⟨rfl, List.append_cancel_left heq⟩
      | cons y ys => exact absurd (List.cons.inj (List.cons.inj heq).2).1 hclosing
  | cons x xs =>
      cases ys with
      | nil => exact absurd (List.cons.inj (List.cons.inj heq).2).1.symm hclosing
      | cons y ys =>
          rw [enclosed_cons_append, enclosed_cons_append] at heq
          -- With a comma in place of the bracket the first line is like the others.
          have hlines := congrArg (',' :: ·) (List.cons.inj heq).2
          obtain ⟨hall, hrest⟩ : x :: xs = y :: ys ∧
              List.replicate indent ' ' ++ closing :: s =
                List.replicate indent ' ' ++ closing :: t := by
            apply moreLines_inj h
            rw [moreLines, moreLines, List.flatMap_cons, List.flatMap_cons, List.append_assoc,
              List.append_assoc]
            exact hlines
          exact ⟨hall, (List.cons.inj (List.append_cancel_left hrest)).2⟩

end Enclosed

/-! ## Lists and objects -/

/-- The text of a field. -/
def field (indent : Nat) (field : String × Json) : List Char :=
  key field.1 ++ layout indent field.2

theorem layoutItems_eq (indent : Nat) (items : List Json) :
    layoutItems indent items = moreLines indent (layout indent) items := by
  induction items with
  | nil => rfl
  | cons item items ih => rw [layoutItems, ih]; rfl

theorem layoutFields_eq (indent : Nat) (fields : List (String × Json)) :
    layoutFields indent fields = moreLines indent (field indent) fields := by
  induction fields with
  | nil => rfl
  | cons f fields ih =>
      obtain ⟨name, value⟩ := f
      rw [layoutFields, ih]
      simp [moreLines, line, field]

theorem layout_list (indent : Nat) (items : List Json) :
    layout indent (.list items) = enclosed '[' ']' indent (layout (indent + 2)) items := by
  cases items with
  | nil => rfl
  | cons item items => rw [layout, layoutItems_eq]; rfl

theorem layout_object (indent : Nat) (fields : List (String × Json)) :
    layout indent (.object fields) =
      enclosed '\x7b' '\x7d' indent (field (indent + 2)) fields := by
  cases fields with
  | nil => rfl
  | cons f fields =>
      obtain ⟨name, value⟩ := f
      rw [layout, layoutFields_eq]
      simp [enclosed, line, field]

theorem key_inj {a b : String} (ha : '"' ∉ a.toList) (hb : '"' ∉ b.toList) {s t : List Char}
    (h : key a ++ s = key b ++ t) : a = b ∧ s = t := by
  have hcut : ∀ {name : String} (rest : List Char), '"' ∉ name.toList →
      Text.splitFirst '"' (name.toList ++ '"' :: ([':', ' '] ++ rest)) =
        some (name.toList, [':', ' '] ++ rest) :=
    fun rest hname => Text.splitFirst_eq_some_iff.mpr ⟨rfl, hname⟩
  have hrest : a.toList ++ '"' :: ([':', ' '] ++ s) = b.toList ++ '"' :: ([':', ' '] ++ t) := by
    simpa [key] using h
  have hpair := (hcut s ha).symm.trans (hrest ▸ hcut t hb)
  simp only [Option.some.injEq, Prod.mk.injEq, String.toList_inj] at hpair
  exact ⟨hpair.1, List.append_cancel_left hpair.2⟩

theorem separable_field {indent : Nat} {f g : String × Json} (hf : '"' ∉ f.1.toList)
    (hg : '"' ∉ g.1.toList) (h : Separable (layout indent) f.2 g.2) :
    Separable (field indent) f g := by
  intro s t hs ht heq
  rw [field, field, List.append_assoc, List.append_assoc] at heq
  obtain ⟨hkey, hrest⟩ := key_inj hf hg heq
  obtain ⟨hvalue, hfollow⟩ := h hs ht hrest
  exact ⟨Prod.ext hkey hvalue, hfollow⟩

/-! ## Values -/

/-- The sorts of values. -/
inductive Shape where
  | flag
  | number
  | list
  | object

/-- The sort of a value. -/
def shape : Json → Shape
  | .flag _ => .flag
  | .number _ => .number
  | .list _ => .list
  | .object _ => .object

/-- The sort of value that begins with a character. -/
def Shape.ofChar (c : Char) : Shape :=
  if c = '[' then .list else if c = '\x7b' then .object else if c.isDigit then .number else .flag

/-- The first character of a layout says what sort of value it is. -/
theorem shape_layout (indent : Nat) (a : Json) :
    ∃ c rest, layout indent a = c :: rest ∧ Shape.ofChar c = a.shape := by
  cases a with
  | flag value => cases value <;> exact ⟨_, _, rfl, rfl⟩
  | number n =>
      obtain ⟨c, rest, hdigits⟩ := List.exists_cons_of_ne_nil (Nat.toDigits_ne_nil (n := n) (b := 10))
      have hc : c.isDigit = true := by
        apply Nat.isDigit_of_mem_toDigits (b := 10) (n := n) (by decide) (by decide)
        rw [hdigits]
        exact List.mem_cons_self
      have hbracket : c ≠ '[' := by
        rintro rfl
        cases hc
      have hbrace : c ≠ '\x7b' := by
        rintro rfl
        cases hc
      refine ⟨c, rest, hdigits, ?_⟩
      rw [Shape.ofChar, if_neg hbracket, if_neg hbrace, if_pos hc]
      rfl
  | list items => cases items <;> exact ⟨_, _, rfl, rfl⟩
  | object fields => cases fields <;> exact ⟨_, _, rfl, rfl⟩

theorem shape_eq_of_layout {indent : Nat} {a b : Json} {s t : List Char}
    (h : layout indent a ++ s = layout indent b ++ t) : a.shape = b.shape := by
  obtain ⟨c, rest, ha, hac⟩ := shape_layout indent a
  obtain ⟨d, rest', hb, hbd⟩ := shape_layout indent b
  rw [ha, hb] at h
  rw [← hac, ← hbd, (List.cons.inj h).1]

theorem separable_flag {indent : Nat} {v w : Bool} :
    Separable (fun v => layout indent (.flag v)) v w := by
  intro s t _ _ h
  cases v <;> cases w
  · exact ⟨rfl, List.append_cancel_left h⟩
  · cases h
  · cases h
  · exact ⟨rfl, List.append_cancel_left h⟩

/-- **A layout is read in one way.** Values are told apart by their layouts, whatever follows them. -/
theorem separable_layout {a : Json} (ha : a.Plain) :
    ∀ {b : Json}, b.Plain → ∀ indent, Separable (layout indent) a b := by
  induction ha with
  | flag v =>
      intro b hb indent s t hs ht h
      have hshape := shape_eq_of_layout h
      cases hb with
      | flag w =>
          obtain ⟨rfl, hfollow⟩ := separable_flag hs ht h
          exact ⟨rfl, hfollow⟩
      | _ => cases hshape
  | number n =>
      intro b hb indent s t hs ht h
      have hshape := shape_eq_of_layout h
      cases hb with
      | number m =>
          obtain ⟨rfl, hfollow⟩ := separable_toDigits n m hs ht h
          exact ⟨rfl, hfollow⟩
      | _ => cases hshape
  | list _ ih =>
      intro b hb indent s t hs ht h
      have hshape := shape_eq_of_layout h
      cases hb with
      | list hitems =>
          rw [layout_list, layout_list] at h
          obtain ⟨rfl, hfollow⟩ := separable_enclosed (by decide) indent
            (fun x hx y hy => ih x hx (hitems y hy) (indent + 2)) hs ht h
          exact ⟨rfl, hfollow⟩
      | _ => cases hshape
  | object hkey _ ih =>
      intro b hb indent s t hs ht h
      have hshape := shape_eq_of_layout h
      cases hb with
      | object hkey' hvalue =>
          rw [layout_object, layout_object] at h
          obtain ⟨rfl, hfollow⟩ := separable_enclosed (by decide) indent
            (fun f hf g hg => separable_field (hkey f hf) (hkey' g hg)
              (ih f hf (hvalue g hg) (indent + 2))) hs ht h
          exact ⟨rfl, hfollow⟩
      | _ => cases hshape

/-- Values without quotation marks in their keys are the same when their texts are. -/
theorem pretty_inj {a b : Json} (ha : a.Plain) (hb : b.Plain) : a.pretty = b.pretty ↔ a = b := by
  constructor
  · intro h
    have hlayout : layout 0 a ++ [] = layout 0 b ++ [] := by
      rw [List.append_nil, List.append_nil]
      exact String.ofList_injective h
    exact (separable_layout ha hb 0 stops_nil stops_nil hlayout).1
  · rintro rfl
    rfl

end BootTlv.Json
