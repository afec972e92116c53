import BootTlv.Framing
import BootTlv.Toml.Document

/-!
# Boot requests

A boot request says in a TOML document where to boot from and how to check the source. It becomes a
list of entries in the order of their codes, one for each field that is given, and then a buffer if
the entries are valid as a set.
-/

namespace BootTlv

/-- What to boot from and how to check it; every part may be left out. -/
structure Request where
  networkDevicePath : Option String := none
  fileDevicePath : Option String := none
  devicePathLength : Option UInt16 := none
  syncRootCa : Option Bool := none
  serverName : Option String := none
  verifyMethod : Option VerifyMethod := none
  requestTimeoutSecs : Option UInt16 := none
deriving DecidableEq

/-- The verify method of a word in a request. -/
def VerifyMethod.ofWord? : String → Option VerifyMethod
  | "full_name" => some fullName
  | "domain_suffix" => some domainSuffix
  | "other" => some other
  | _ => none

namespace Request

/-! ## Reading -/

/-- The keys of a request. -/
def keys : List String :=
  ["network_device_path", "file_device_path", "device_path_length", "sync_root_ca", "server_name",
    "verify_method", "request_timeout_secs"]

/-- A number of 16 bits in a document. -/
def word? (value : Toml.Value) : Option UInt16 := (value.natural? 65535).map UInt16.ofNat

/-- The request of the fields of a document. A key that is no key of a request is refused. -/
def ofToml? (fields : Toml.Fields) : Option Request := do
  if fields.any fun f => !keys.contains f.1 then none
  let field {α : Type} (key : String) (read : Toml.Value → Option α) : Option (Option α) :=
    match fields.lookup key with
    | some value => (read value).map some
    | none => some none
  return {
    networkDevicePath := ← field "network_device_path" Toml.Value.text?
    fileDevicePath := ← field "file_device_path" Toml.Value.text?
    devicePathLength := ← field "device_path_length" word?
    syncRootCa := ← field "sync_root_ca" Toml.Value.flag?
    serverName := ← field "server_name" Toml.Value.text?
    verifyMethod := ← field "verify_method" fun v => v.word? >>= VerifyMethod.ofWord?
    requestTimeoutSecs := ← field "request_timeout_secs" word? }

/-- The request of the text of a document. -/
def ofText? (text : String) : Option Request := (Toml.Document.fields? text).bind ofToml?

/-! ## Entries -/

/-- How the entries of the fields that are given are built, in the order of their codes. -/
def constructions (request : Request) : List Entry.Construction :=
  [request.networkDevicePath.map (.text .networkDevicePath),
    request.fileDevicePath.map (.text .fileDevicePath),
    request.devicePathLength.map (.word .devicePathLength),
    request.syncRootCa.map (.flag .certSyncRootCa),
    request.serverName.map (.text .certServerName),
    request.verifyMethod.map .verifyMethod,
    request.requestTimeoutSecs.map (.word .requestTimeout)].filterMap id

/-- The entries of a request, or the fault of the first text that is too long. -/
def entries (request : Request) : Except Fault (List Entry) :=
  request.constructions.mapM Entry.Construction.build

/-! ## Buffers -/

/-- Why a request has no buffer. -/
inductive Refusal where
  /-- An entry cannot be written. -/
  | unwritable (fault : Fault)
  /-- The entries are not valid as a set. -/
  | invalid (faults : List Fault)

/-- The buffer of a request. -/
def encode (request : Request) (framing : Framing) : Except Refusal (List UInt8) := do
  let entries ← request.entries.mapError .unwritable
  let (valid, faults) := Catalog.builtin.review entries
  if valid then (framing.encode entries).mapError .unwritable else .error (.invalid faults)

end Request

end BootTlv
