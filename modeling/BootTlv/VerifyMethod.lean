/-!
# Verify methods

How the server name of an HTTPS boot source is compared with its certificate. On the wire a method
is a little-endian 16-bit word from 1 to 3.
-/

namespace BootTlv

/-- How a server name is compared with the certificate. -/
inductive VerifyMethod where
  | fullName
  | domainSuffix
  | other
deriving DecidableEq

namespace VerifyMethod

/-- The word that stands for the method. -/
def code : VerifyMethod → UInt16
  | fullName => 1
  | domainSuffix => 2
  | other => 3

/-- The method of a word, if it stands for one. -/
def ofCode? (w : UInt16) : Option VerifyMethod :=
  match w.toNat with
  | 1 => some fullName
  | 2 => some domainSuffix
  | 3 => some other
  | _ => none

@[simp] theorem ofCode?_code (m : VerifyMethod) : ofCode? m.code = some m := by
  cases m <;> rfl

/-- The method's name in a report. -/
def label : VerifyMethod → String
  | fullName => "FullName"
  | domainSuffix => "DomainSuffix"
  | other => "Other"

end VerifyMethod

end BootTlv
