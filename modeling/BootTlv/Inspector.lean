import BootTlv.Files
import BootTlv.Hex
import BootTlv.Request
import BootTlv.Settings

/-!
# The inspector

Reads a buffer from a file and reports on it, and writes the buffer of a request. The decoder has no
bound on what it reads, so a file and then its buffer are held to the size in the settings before
anything is decoded.
-/

namespace BootTlv

namespace Inspector

/-! ## Failures -/

/-- Why there is no answer. -/
inductive Failure where
  | unreadable (path : String) (cause : Files.Fault)
  | badHex (fault : Hex.Fault)
  | inputTooLarge (length limit : Nat)
  | badRequest
  | rejected (faults : List Fault)
  | unwritable (fault : Fault)

/-- The pieces of the words for text that is no hexadecimal text. -/
def hexPieces : Hex.Fault → List String
  | .oddLength => ["Odd number of digits"]
  | .badDigit octet position =>
    ["Invalid character ", String.ofList (Text.quoted '\'' [Char.ofNat octet.toNat]),
      " at position ", Text.decimal position]

/-- The pieces of the message, in order. -/
def Failure.pieces : Failure → List String
  | .unreadable path cause => ["failed to read ", path, ": ", cause.message]
  | .badHex fault => "invalid hex input: " :: hexPieces fault
  | .inputTooLarge length limit =>
    ["input is ", Text.decimal length, " bytes, limit is ", Text.decimal limit]
  | .badRequest => ["invalid boot request"]
  | .rejected faults => ["boot request rejected: ", Fault.messages faults]
  | .unwritable fault => ["TLV error: ", fault.message]

/-- The failure in one line. -/
def Failure.message (failure : Failure) : String := String.join failure.pieces

/-! ## Reading buffers -/

/-- A number of octets within a limit. -/
def within (length limit : Nat) : Except Failure Unit :=
  if limit < length then .error (.inputTooLarge length limit) else .ok ()

/-- Whether an octet is white space in hexadecimal text. -/
def isHexSpace (b : UInt8) : Bool :=
  b == 0x09 || b == 0x0A || b == 0x0C || b == 0x0D || b == 0x20

/-- The buffer that the content of a file stands for. -/
def decodeInput (settings : Settings) (raw : List UInt8) : Except Failure (List UInt8) := do
  let limit := settings.maxLength.toNat
  match settings.inputFormat with
  | .binary =>
    within raw.length limit
    return raw
  | .hex =>
    let digits := raw.filter (!isHexSpace ·)
    within (digits.length / 2) limit
    (Hex.decode digits).mapError .badHex

/-- The largest file that is read: in hexadecimal, four characters for each octet of the buffer. -/
def maxFileLength (settings : Settings) : Nat :=
  match settings.inputFormat with
  | .binary => settings.maxLength.toNat
  | .hex => min (4 * settings.maxLength.toNat) Number.maxUnsigned

/-- The buffer of the content of a file, which is held to the size of files first. -/
def accept (settings : Settings) (raw : List UInt8) : Except Failure (List UInt8) := do
  within raw.length (maxFileLength settings)
  decodeInput settings raw

/-- The buffer of a file. -/
def readBuffer (settings : Settings) (files : Files) (path : String) :
    Except Failure (List UInt8) := do
  let raw ← (files path).mapError (.unreadable path)
  accept settings raw

/-! ## Reports -/

/-- A verdict with its report. -/
structure Inspection where
  verdict : Verdict
  report : String

/-- The inspection of a buffer. -/
def inspect (settings : Settings) (buffer : List UInt8) : Inspection :=
  let verdict := settings.framing.inspect buffer
  ⟨verdict, Report.render settings.output verdict⟩

/-- The inspection of the buffer of a file. -/
def inspectFile (settings : Settings) (files : Files) (path : String) :
    Except Failure Inspection :=
  (readBuffer settings files path).map (inspect settings)

/-! ## Requests -/

/-- The failure of a request that has no buffer. -/
def Failure.ofRefusal : Request.Refusal → Failure
  | .unwritable fault => .unwritable fault
  | .invalid faults => .rejected faults

/-- The hexadecimal text of the buffer of the request in a file. -/
def encodeFile (settings : Settings) (files : Files) (path : String) : Except Failure String := do
  let text ← (files.readText path).mapError (.unreadable path)
  match Request.ofText? text with
  | none => .error .badRequest
  | some request =>
    let buffer ← (request.encode settings.framing).mapError .ofRefusal
    return String.ofList (Hex.encode buffer)

end Inspector

end BootTlv
