/-!
# Tags of boot parameters

Every entry of a boot option buffer begins with a one-octet code that says what the entry is. Some
codes have a name; a buffer from an untrusted sender may carry any of the others, so reading a code
never fails.

A tag is its code. A tag may be spelled `other c` even where `c` has a name: the two spellings
compare equal, order equally and read back as the same tag. `canonical` picks the named spelling.
-/

namespace BootTlv

/-- What a boot parameter is about. -/
inductive Tag where
  | networkDevicePath
  | fileDevicePath
  | fullDevicePath
  | devicePathLength
  | bootOptionalData
  | bootOptionalDataLength
  | certSyncRootCa
  | certServerName
  | serverNameVerifyMethod
  | certHashSha256
  | certHashSha384
  | certHashSha512
  | requestTimeout
  | userName
  | password
  | other (code : UInt8)

namespace Tag

/-! ## Codes -/

/-- The octet that stands for the tag on the wire. -/
def code : Tag → UInt8
  | networkDevicePath => 1
  | fileDevicePath => 2
  | fullDevicePath => 3
  | devicePathLength => 4
  | bootOptionalData => 5
  | bootOptionalDataLength => 6
  | certSyncRootCa => 20
  | certServerName => 21
  | serverNameVerifyMethod => 22
  | certHashSha256 => 23
  | certHashSha384 => 24
  | certHashSha512 => 25
  | requestTimeout => 26
  | userName => 27
  | password => 28
  | other c => c

/-- The tag of a code: the named one where there is a name. -/
def ofCode (c : UInt8) : Tag :=
  match c.toNat with
  | 1 => networkDevicePath
  | 2 => fileDevicePath
  | 3 => fullDevicePath
  | 4 => devicePathLength
  | 5 => bootOptionalData
  | 6 => bootOptionalDataLength
  | 20 => certSyncRootCa
  | 21 => certServerName
  | 22 => serverNameVerifyMethod
  | 23 => certHashSha256
  | 24 => certHashSha384
  | 25 => certHashSha512
  | 26 => requestTimeout
  | 27 => userName
  | 28 => password
  | _ => other c

/-- Reading a code loses nothing. -/
@[simp] theorem code_ofCode (c : UInt8) : (ofCode c).code = c := by
  unfold ofCode
  split
  case h_16 => rfl
  all_goals next h => exact UInt8.toNat_inj.1 (by rw [h]; rfl)

/-! ## Spelling -/

/-- The named spelling of a tag where there is one. -/
def canonical (t : Tag) : Tag := ofCode t.code

@[simp] theorem code_canonical (t : Tag) : t.canonical.code = t.code := code_ofCode _

/-- Whether the tag has a name of its own. -/
def recognized (t : Tag) : Bool :=
  match t.canonical with
  | other _ => false
  | _ => true

/-- Two tags are the same when their codes are. -/
instance : BEq Tag := ⟨fun a b => a.code == b.code⟩

/-- Tags are ordered by code. -/
instance : Ord Tag := ⟨fun a b => compare a.code b.code⟩

@[simp] theorem beq_iff_code_eq (a b : Tag) : (a == b) = true ↔ a.code = b.code := by
  simp [BEq.beq]

/-! ## Lists of tags -/

/-- The tags in ascending order of code; tags with one code keep their order. -/
def sort (tags : List Tag) : List Tag := tags.mergeSort fun a b => a.code ≤ b.code

/-- The codes of the tags, ascending and each once. -/
def distinctCodes (tags : List Tag) : List UInt8 :=
  ((List.range 256).map UInt8.ofNat).filter fun c => tags.any (·.code == c)

theorem mem_distinctCodes {tags : List Tag} {c : UInt8} :
    c ∈ distinctCodes tags ↔ ∃ t ∈ tags, t.code = c := by
  have : c ∈ (List.range 256).map UInt8.ofNat :=
    List.mem_map.2 ⟨c.toNat, List.mem_range.2 c.toNat_lt, UInt8.ofNat_toNat⟩
  simp only [distinctCodes, List.mem_filter, this, true_and, List.any_eq_true, beq_iff_eq]

end Tag

end BootTlv
