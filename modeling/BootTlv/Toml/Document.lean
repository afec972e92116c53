import BootTlv.Toml.Scalar
import BootTlv.Toml.Table

/-!
# TOML documents

A document is a sequence of lines, each with a key and its value, a header, or nothing. Lists may go
over several lines and end with a comma; tables in braces may not. `Document.fields?` reads a whole
document and gives its fields, or nothing if the document is at fault anywhere.
-/

namespace BootTlv.Toml

namespace Scanner

/-! ## Values -/

/-- A list in brackets. -/
def list (item : Scanner Value) : Scanner (List Value) := do
  char '['
  gap
  let items ← do
    match ← maybe item with
    | none => pure []
    | some first =>
      gap
      let others ← many do
        char ','
        gap
        let next ← item
        gap
        pure next
      let _ ← maybe (char ',')
      pure (first :: others)
  gap
  char ']'
  pure items

/-- A key, the equals sign and a value. -/
def pair (item : Scanner Value) : Scanner ((String × List String) × Value) := do
  let parts ← key
  char '='
  blanks
  let value ← item
  pure (parts, value)

/-- The path and the last key of a dotted key. -/
def splitKey : String × List String → List String × String
  | (first, []) => ([], first)
  | (first, second :: others) =>
    let (path, last) := splitKey (second, others)
    (first :: path, last)

/-- A table in braces. -/
def braces (item : Scanner Value) : Scanner Fields := do
  char '\x7b'
  let pairs ← do
    match ← maybe (pair item) with
    | none => pure []
    | some first =>
      blanks
      let others ← many do
        char ','
        let next ← pair item
        blanks
        pure next
      pure (first :: others)
  blanks
  char '\x7d'
  let assign (fields : List (String × Node)) (p : (String × List String) × Value) :
      Scanner (List (String × Node)) :=
    let (path, last) := splitKey p.1
    liftM (Node.assign path last p.2 .stated fields)
  let fields ← pairs.foldlM assign []
  pure (Node.values fields)

/-- A value that nests no deeper than a limit. -/
def value : Nat → Scanner Value
  | 0 => scalar
  | depth + 1 =>
    scalar <|> Value.list <$> list (value depth) <|> Value.table <$> braces (value depth)

end Scanner

/-! ## Lines -/

/-- What a line of a document says. -/
inductive Line where
  | blank
  | pair (path : List String) (last : String) (value : Value)
  | header (path : List String) (last : String)
  | itemHeader (path : List String) (last : String)

namespace Scanner

/-- A key with its value. -/
def pairLine : Scanner Line := do
  let (parts, v) ← pair (value (depthLimit - 1))
  let (path, last) := splitKey parts
  pure (.pair path last v)

/-- The header of a table. -/
def headerLine : Scanner Line := do
  char '['
  let parts ← key
  char ']'
  let (path, last) := splitKey parts
  pure (.header path last)

/-- The header of one more table of a list. -/
def itemHeaderLine : Scanner Line := do
  mark ['[', '[']
  let parts ← key
  mark [']', ']']
  let (path, last) := splitKey parts
  pure (.itemHeader path last)

/-- A line with its end. -/
def line : Scanner Line := do
  blanks
  let content ← maybe (itemHeaderLine <|> headerLine <|> pairLine)
  lineEnd
  pure (content.getD .blank)

end Scanner

/-! ## Documents -/

/-- A document that is being read: its fields and the path of the open table. -/
structure Document where
  fields : List (String × Node) := []
  place : List String := []

namespace Document

/-- The document after one more line. -/
def add (document : Document) : Line → Option Document
  | .blank => some document
  | .pair path last value => do
    let fields ←
      Node.within .passed (Node.assign path last value) document.place .stated document.fields
    return { document with fields }
  | .header path last => do
    return ⟨← Node.openTable path last .stated document.fields, path ++ [last]⟩
  | .itemHeader path last => do
    return ⟨← Node.openItem path last .stated document.fields, path ++ [last]⟩

/-- The text without a byte order mark at its start. -/
def dropByteOrderMark : List Char → List Char
  | '\uFEFF' :: text => text
  | text => text

/-- The fields of a document. -/
def fields? (text : String) : Option Fields := do
  let lines ← (Scanner.many Scanner.line).readAll? (dropByteOrderMark text.toList)
  let document ← lines.foldlM add {}
  return Node.values document.fields

end Document

end BootTlv.Toml
