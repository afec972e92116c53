import BootTlv.Number.Integer
import BootTlv.Toml.Scanner

/-!
# Lexemes of TOML

Blanks, line ends, comments, the four kinds of strings, and keys. A line end inside a string reads
as a line feed however it is written. No kind of string and no comment holds a control character
other than the tab.
-/

namespace BootTlv.Toml.Scanner

/-! ## Space between lexemes -/

/-- A character that separates lexemes of one line. -/
def isSpace (c : Char) : Bool := c == ' ' || c == '\t'

/-- A character that may stand in a comment: any but the controls, with the tab. -/
def isCommentary (c : Char) : Bool := c == '\t' || (0x20 ≤ c.toNat && c.toNat ≠ 0x7F)

/-- Blanks, possibly none. -/
def blanks : Scanner Unit := do
  let _ ← run isSpace

/-- A line end. -/
def newline : Scanner Unit := char '\n' <|> mark ['\r', '\n']

/-- A comment without its line end. -/
def comment : Scanner Unit := do
  char '#'
  let _ ← run isCommentary

/-- The rest of a line after its last lexeme. -/
def lineEnd : Scanner Unit := do
  blanks
  let _ ← maybe comment
  newline <|> atEnd

/-- Blanks, line ends and whole comments, possibly none. -/
def gap : Scanner Unit := do
  let _ ← many ((do let _ ← run1 isSpace) <|> newline <|> (do comment; newline))

/-! ## Characters of strings -/

/-- A character that stands for itself in a string of one line between two marks. -/
def isVerbatim (delimiter c : Char) : Bool := isCommentary c && c != delimiter

/-- A hexadecimal digit in either case. -/
def isHexDigit (c : Char) : Bool :=
  c.isDigit || ('a' ≤ c && c ≤ 'f') || ('A' ≤ c && c ≤ 'F')

/-- A number of hexadecimal digits, read as their value. -/
def hexDigits : Nat → Nat → Scanner Nat
  | 0, value => pure value
  | count + 1, value => do
    let c ← one isHexDigit
    hexDigits count (16 * value + Number.digitValue c)

/-- A code point in hexadecimal. -/
def codePoint (count : Nat) : Scanner Char := do
  let n ← hexDigits count 0
  if h : n.isValidChar then pure (Char.ofNatAux n h) else failure

/-- A character that is written after a backslash. -/
def escaped : Scanner Char := do
  char '\\'
  let c ← one fun _ => true
  match c with
  | 'b' => pure '\x08'
  | 't' => pure '\t'
  | 'n' => pure '\n'
  | 'f' => pure '\x0C'
  | 'r' => pure '\r'
  | '"' => pure '"'
  | '\\' => pure '\\'
  | 'u' => codePoint 4
  | 'U' => codePoint 8
  | _ => failure

/-- A piece of a string with escapes: characters that stand for themselves, or one escape. -/
def basicPiece : Scanner (List Char) :=
  run1 (fun c => isVerbatim '"' c && c != '\\') <|> (do return [← escaped])

/-- A backslash at the end of a line, with the space up to the next character. -/
def continuation : Scanner Unit := do
  char '\\'
  blanks
  newline
  let _ ← many ((do let _ ← run1 isSpace) <|> newline)

/-! ## Strings -/

/-- One or two delimiters inside a string of several lines. -/
def innerDelimiters (delimiter : Char) : Scanner (List Char) :=
  (do char delimiter; ahead (· != delimiter); pure [delimiter]) <|>
    (do mark [delimiter, delimiter]; ahead (· != delimiter); pure [delimiter, delimiter])

/-- The three delimiters at the end of a string of several lines, after at most two more that
belong to the string. -/
def closingDelimiters (delimiter : Char) : Scanner (List Char) :=
  (do mark (List.replicate 5 delimiter); pure [delimiter, delimiter]) <|>
    (do mark (List.replicate 4 delimiter); pure [delimiter]) <|>
    (do mark (List.replicate 3 delimiter); pure [])

/-- A string of several lines made of pieces. -/
def multiLine (delimiter : Char) (piece : Scanner (List Char)) : Scanner String := do
  mark (List.replicate 3 delimiter)
  let _ ← maybe newline
  let pieces ← many (piece <|> innerDelimiters delimiter)
  let last ← closingDelimiters delimiter
  pure (String.ofList (pieces.flatten ++ last))

/-- A string in double quotes. -/
def basicString : Scanner String := do
  char '"'
  let pieces ← many basicPiece
  char '"'
  pure (String.ofList pieces.flatten)

/-- A string in single quotes, which has no escapes. -/
def literalString : Scanner String := do
  char '\''
  let cs ← run (isVerbatim '\'')
  char '\''
  pure (String.ofList cs)

/-- A string in three double quotes. -/
def multiLineBasicString : Scanner String :=
  multiLine '"' <|
    (do continuation; pure []) <|> (do newline; pure ['\n']) <|> basicPiece

/-- A string in three single quotes. -/
def multiLineLiteralString : Scanner String :=
  multiLine '\'' <| (do newline; pure ['\n']) <|> run1 (isVerbatim '\'')

/-- Any string. -/
def string : Scanner String :=
  multiLineBasicString <|> multiLineLiteralString <|> basicString <|> literalString

/-! ## Keys -/

/-- A character of a key without quotes. -/
def isBare (c : Char) : Bool := c.isAlphanum || c == '_' || c == '-'

/-- A key without quotes. -/
def bareKey : Scanner String := do return String.ofList (← run1 isBare)

/-- One part of a key, with the blanks around it. -/
def keyPart : Scanner String := do
  blanks
  let key ← bareKey <|> basicString <|> literalString
  blanks
  pure key

/-- Nothing is nested this deeply, and no key has so many parts. -/
def depthLimit : Nat := 80

/-- The parts of a key, the first of them apart. -/
def key : Scanner (String × List String) := do
  let first ← keyPart
  let others ← many (do char '.'; keyPart)
  if others.length + 1 < depthLimit then pure (first, others) else failure

end BootTlv.Toml.Scanner
