import BootTlv.Text.Blank
import BootTlv.Text.GraphemeBase
import BootTlv.Text.Split
import BootTlv.Text.Terminated
import BootTlv.Text.Utf8

/-!
# URIs of network device paths

Firmware relies on the shape of a URI only: a scheme, `://`, and an authority with a host. What
follows the authority is opaque. The text may carry a terminator and holds no white space and no
control character.
-/

namespace BootTlv.Uri

/-- A letter, then letters, digits and the characters `+`, `-` and `.`. -/
def isScheme : List Char → Bool
  | [] => false
  | c :: rest =>
    c.isAlpha && rest.all fun c => c.isAlphanum || c == '+' || c == '-' || c == '.'

/-- Decimal digits, possibly none. -/
def isPort (text : List Char) : Bool := text.all Char.isDigit

/-- Whether a character ends the authority. -/
def endsAuthority (c : Char) : Bool := c == '/' || c == '?' || c == '#'

/-- What stands between the scheme's mark and the path, query or fragment. -/
def authority (afterMark : List Char) : List Char := afterMark.takeWhile (!endsAuthority ·)

/-- The authority without the user information before its last `@`. -/
def hostPort (authority : List Char) : List Char :=
  match Text.splitLast '@' authority with
  | some (_, after) => after
  | none => authority

/-- The host of an authority without user information: a literal in brackets or a text before the
last colon, followed by a port that may be absent or empty. -/
def host? : List Char → Option (List Char)
  | '[' :: rest =>
    match Text.splitFirst ']' rest with
    | some (host, []) => some host
    | some (host, ':' :: port) => if isPort port then some host else none
    | _ => none
  | text =>
    match Text.splitLast ':' text with
    | some (host, port) => if isPort port then some host else none
    | none => some text

/-- Whether a text is a URI with a host. -/
def isUri (text : List Char) : Bool :=
  match Text.splitMark [':', '/', '/'] text with
  | none => false
  | some (scheme, rest) =>
    isScheme scheme &&
      match host? (hostPort (authority rest)) with
      | some host => !host.isEmpty
      | none => false

/-- Whether a character may stand in the text of a URI. -/
def isPlain (c : Char) : Bool := !Text.isBlank c && !Text.isControl c

/-- Whether the value of an entry is a URI with a host. -/
def accepts (value : List UInt8) : Bool :=
  match Utf8.decode? (Text.unterminated value) with
  | some text => text.all isPlain && isUri text
  | none => false

end BootTlv.Uri
