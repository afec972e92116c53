/-!
# Scanning text

A scanner reads the beginning of a text: it gives what it read and the rest of the text, or fails.
A scanner that fails has read nothing, so another one can be tried at the same place.

`many` reads one item after another. An item that reads nothing ends it, and so every repetition
ends.
-/

namespace BootTlv.Toml

/-- A scanner of texts. -/
abbrev Scanner := StateT (List Char) Option

namespace Scanner

/-! ## Characters -/

/-- One character of a class. -/
def one (p : Char → Bool) : Scanner Char := fun s =>
  match s with
  | c :: rest => if p c then some (c, rest) else none
  | [] => none

/-- One given character. -/
def char (c : Char) : Scanner Unit := do
  let _ ← one (· == c)

/-- The characters of a mark, one after another. -/
def mark (m : List Char) : Scanner Unit := fun s =>
  if m.isPrefixOf s then some ((), s.drop m.length) else none

/-- The longest run of characters of a class, which may be empty. -/
def run (p : Char → Bool) : Scanner (List Char) := fun s => some (s.takeWhile p, s.dropWhile p)

/-- The longest run of characters of a class, of which there is at least one. -/
def run1 (p : Char → Bool) : Scanner (List Char) := do
  let c ← one p
  let cs ← run p
  pure (c :: cs)

/-- Succeeds where a character of a class comes next, and reads nothing. -/
def ahead (p : Char → Bool) : Scanner Unit := fun s => if s.head?.any p then some ((), s) else none

/-- Succeeds at the end of the text. -/
def atEnd : Scanner Unit := fun s => if s.isEmpty then some ((), s) else none

/-! ## Repetition -/

variable {α : Type}

/-- The items that can be read one after another, and the rest. -/
def manyFrom (item : Scanner α) (s : List Char) : List α × List Char :=
  match item s with
  | some (a, rest) =>
    if rest.length < s.length then
      let (as, rest) := manyFrom item rest
      (a :: as, rest)
    else ([], s)
  | none => ([], s)
termination_by s.length

/-- The items that can be read one after another. -/
def many (item : Scanner α) : Scanner (List α) := fun s => some (manyFrom item s)

/-- The item, if it can be read. -/
def maybe (item : Scanner α) : Scanner (Option α) := fun s =>
  match item s with
  | some (a, rest) => some (some a, rest)
  | none => some (none, s)

/-- What a scanner reads from a whole text. -/
def readAll? (scanner : Scanner α) (s : List Char) : Option α :=
  match scanner s with
  | some (a, []) => some a
  | _ => none

end Scanner

end BootTlv.Toml
