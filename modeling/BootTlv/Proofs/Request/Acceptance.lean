import BootTlv.Proofs.Request.RoundTrip

/-!
# Which requests are accepted

A request is accepted when its texts fit an entry, its network path is there and is a URI, and its
file path comes with a length. That is `Acceptable`, said of the fields alone. A request that is not
accepted is refused for the first text that is too long, if there is one (`overlong?`), and
otherwise for everything that is wrong with it (`defects`).

The entries of a request are checked under the built-in catalog, where only the network path is
mandatory and only the file path needs another parameter. No other field can be built in a way that
its row refuses (`fault?_of_field`), and entries that were built can be written, so the framing has
no say in any of it (`encode_exact`).
-/

namespace BootTlv.Request

open Entry (Construction)

variable {request : Request} {framing : Framing} {entries : List Entry}

/-! ## What is asked of a request -/

/-- The texts fit an entry, the network path is there and is a URI, and a file path has a length. -/
structure Acceptable (request : Request) : Prop where
  short : ∀ text, request.networkDevicePath = some text ∨ request.fileDevicePath = some text ∨
    request.serverName = some text → text.utf8ByteSize ≤ 255
  path : ∃ path, request.networkDevicePath = some path ∧
    Uri.accepts (Utf8.encode path.toList) = true
  counted : request.fileDevicePath.isSome → request.devicePathLength.isSome

/-- The fault of the first text that does not fit an entry. -/
def overlong? (request : Request) : Option Fault :=
  [(Tag.networkDevicePath, request.networkDevicePath), (.fileDevicePath, request.fileDevicePath),
    (.certServerName, request.serverName)].findSome? fun (tag, text?) =>
      text?.bind fun text =>
        if 255 < text.utf8ByteSize then some (.valueTooLong tag text.utf8ByteSize) else none

/-- What is wrong with the network path, if it fits an entry. -/
def pathDefects (request : Request) : List Fault :=
  match request.networkDevicePath with
  | none => [.missingMandatory .networkDevicePath]
  | some path =>
    if Uri.accepts (Utf8.encode path.toList) then [] else [.badUri .networkDevicePath]

/-- Everything that is wrong with a request whose texts fit. -/
def defects (request : Request) : List Fault :=
  request.pathDefects ++
    if request.fileDevicePath.isSome ∧ request.devicePathLength.isNone then
      [.missingDependency .fileDevicePath .devicePathLength]
    else []

/-- The tags of the fields that are given, in the order of the fields. -/
def given (request : Request) : List Tag :=
  [(Tag.networkDevicePath, request.networkDevicePath.isSome),
    (.fileDevicePath, request.fileDevicePath.isSome),
    (.devicePathLength, request.devicePathLength.isSome),
    (.certSyncRootCa, request.syncRootCa.isSome),
    (.certServerName, request.serverName.isSome),
    (.serverNameVerifyMethod, request.verifyMethod.isSome),
    (.requestTimeout, request.requestTimeoutSecs.isSome)].filterMap fun (tag, isGiven) =>
      if isGiven then some tag else none

theorem overlong?_eq_none_iff :
    request.overlong? = none ↔
      ∀ text, request.networkDevicePath = some text ∨ request.fileDevicePath = some text ∨
        request.serverName = some text → text.utf8ByteSize ≤ 255 := by
  simp only [overlong?, List.findSome?_eq_none_iff, List.forall_mem_cons, Option.bind_eq_none_iff,
    ite_eq_right_iff, reduceCtorEq, imp_false, Nat.not_lt, or_imp, forall_and, List.not_mem_nil,
    false_imp_iff, implies_true, and_true]

theorem pathDefects_eq_nil_iff :
    request.pathDefects = [] ↔ ∃ path, request.networkDevicePath = some path ∧
      Uri.accepts (Utf8.encode path.toList) = true := by
  unfold pathDefects
  cases request.networkDevicePath <;> simp

theorem acceptable_iff : request.Acceptable ↔ request.overlong? = none ∧ request.defects = [] := by
  have hcounted : (request.fileDevicePath.isSome → request.devicePathLength.isSome) ↔
      ¬ (request.fileDevicePath.isSome ∧ request.devicePathLength.isNone) := by
    cases request.devicePathLength <;> simp
  rw [defects, List.append_eq_nil_iff, pathDefects_eq_nil_iff, overlong?_eq_none_iff,
    ite_eq_right_iff]
  simp only [List.cons_ne_nil, imp_false, ← hcounted]
  constructor
  · rintro ⟨hshort, hpath, hcounted⟩
    exact ⟨hshort, hpath, hcounted⟩
  · rintro ⟨hshort, hpath, hcounted⟩
    exact ⟨hshort, hpath, hcounted⟩

/-! ## Building the entries -/

/-- Of the fields only texts can be refused. -/
theorem findSome?_refusal?_constructions (request : Request) :
    request.constructions.findSome? Construction.refusal? = request.overlong? := by
  rw [constructions_eq, ← List.head?_filterMap, List.filterMap_filterMap, List.head?_filterMap]
  simp only [tags, field, overlong?, List.findSome?_cons, List.findSome?_nil, Option.bind_map,
    Function.comp_def, Construction.refusal?_text, Construction.refusal?_word,
    Construction.refusal?_flag, Construction.refusal?_verifyMethod, Option.bind_fun_none]

theorem entries_of_overlong {fault : Fault} (h : request.overlong? = some fault) :
    request.entries = .error fault := by
  have hbuild := Construction.mapM_build request.constructions
  rw [findSome?_refusal?_constructions, h] at hbuild
  exact hbuild

theorem exists_entries (h : request.overlong? = none) :
    ∃ entries, request.entries = .ok entries := by
  have hbuild := Construction.mapM_build request.constructions
  rw [findSome?_refusal?_constructions, h] at hbuild
  exact hbuild

theorem given_eq (request : Request) :
    request.given = tags.filterMap fun t => (request.field t).map Construction.tag := by
  have hlist : request.given = (tags.map fun t => (t, (request.field t).isSome)).filterMap
      fun (tag, isGiven) => if isGiven then some tag else none := by
    simp only [given, tags, field, List.map_cons, List.map_nil, Option.isSome_map]
  rw [hlist, List.filterMap_map]
  congr 1
  funext t
  cases hfield : request.field t with
  | none => simp [hfield]
  | some construction => simp [hfield, tag_of_field hfield]

theorem map_tag_entries (h : request.entries = .ok entries) :
    entries.map Entry.tag = request.given := by
  rw [(built_of_entries h).map_tag, List.map_filterMap, given_eq]

/-- The entries ascend, so no field has two. -/
theorem pairwise_code_entries (h : request.entries = .ok entries) :
    (entries.map (·.tag.code)).Pairwise (· < ·) := by
  have htags : (tags.map Tag.code).Pairwise (· < ·) := by decide
  have hsublist := (sublist_tags h).map Tag.code
  rw [List.map_map] at hsublist
  exact htags.sublist hsublist

theorem exists_code_iff (h : request.entries = .ok entries) {t : Tag} (ht : t ∈ tags) :
    (∃ e ∈ entries, e.tag.code = t.code) ↔ (request.field t).isSome = true := by
  constructor
  · rintro ⟨e, he, hcode⟩
    obtain ⟨hmem, construction, hfield, -⟩ := exists_field_of_mem h he
    have htag : e.tag = t := by
      rw [← canonical_of_mem_tags hmem, ← canonical_of_mem_tags ht]
      exact Tag.canonical_eq_iff.mpr hcode
    rw [← htag, hfield]
    rfl
  · intro hgiven
    obtain ⟨construction, hfield⟩ := Option.isSome_iff_exists.mp hgiven
    have hfind := (built_of_entries h).find? t
    rw [find?_filterMap_field request (by decide) ht, hfield] at hfind
    obtain ⟨e, he, -⟩ := Option.map_eq_some_iff.mp hfind
    have htag := List.find?_some he
    rw [Tag.beq_iff_code_eq] at htag
    exact ⟨e, List.mem_of_find?_eq_some he, htag⟩

theorem forall_code_ne_iff (h : request.entries = .ok entries) {t : Tag} (ht : t ∈ tags) :
    (∀ e ∈ entries, e.tag.code ≠ t.code) ↔ request.field t = none := by
  rw [← Option.not_isSome_iff_eq_none, ← exists_code_iff h ht]
  simp only [ne_eq, not_exists, not_and]

/-! ## Reviewing the entries -/

/-- The fault of the entry of a field: only a network path may have one. -/
def pathFault? : Construction → Option Fault
  | .text .networkDevicePath path =>
    if Uri.accepts (Utf8.encode path.toList) then none else some (.badUri .networkDevicePath)
  | _ => none

theorem fault?_of_field {t : Tag} {construction : Construction} {entry : Entry}
    (hfield : request.field t = some construction) (hbuild : construction.build = .ok entry) :
    Catalog.builtin.fault? entry = pathFault? construction := by
  have hframed := Construction.framed_of_build hbuild
  unfold field at hfield
  split at hfield
  case h_8 => cases hfield
  case h_1 | h_2 | h_5 =>
    obtain ⟨text, -, rfl⟩ := Option.map_eq_some_iff.mp hfield
    obtain ⟨hlength, rfl⟩ := Entry.make_eq_ok_iff.mp hbuild
    have hrow row hrow := @Catalog.fault?_of_framed Catalog.builtin _ row hrow hframed
    exact hrow _ rfl hlength
  case h_3 | h_7 =>
    obtain ⟨w, -, rfl⟩ := Option.map_eq_some_iff.mp hfield
    cases hbuild
    rfl
  case h_4 =>
    obtain ⟨value, -, rfl⟩ := Option.map_eq_some_iff.mp hfield
    cases hbuild
    cases value <;> rfl
  case h_6 =>
    obtain ⟨method, -, rfl⟩ := Option.map_eq_some_iff.mp hfield
    cases hbuild
    cases method <;> rfl

theorem filterMap_fault?_entries (h : request.entries = .ok entries) :
    entries.filterMap Catalog.builtin.fault? =
      match request.networkDevicePath with
      | none => []
      | some path =>
        if Uri.accepts (Utf8.encode path.toList) then [] else [.badUri .networkDevicePath] := by
  have hfault : ∀ construction ∈ tags.filterMap request.field, ∀ entry,
      construction.build = .ok entry →
        Catalog.builtin.fault? entry = pathFault? construction := by
    intro construction hmem entry hbuild
    obtain ⟨t, -, hfield⟩ := List.mem_filterMap.mp hmem
    exact fault?_of_field hfield hbuild
  rw [(built_of_entries h).filterMap hfault, List.filterMap_filterMap]
  simp only [tags, field, pathFault?, Option.bind_map, Function.comp_def, Option.bind_fun_none,
    List.filterMap_cons, List.filterMap_nil]
  cases request.networkDevicePath with
  | none => rfl
  | some path =>
      simp only [Option.bind_some]
      cases Uri.accepts (Utf8.encode path.toList) <;> rfl

theorem mandatory_builtin_iff {c : UInt8} : Catalog.builtin.Mandatory c ↔ c = 1 := by
  rw [← Catalog.mem_map_code_mandatoryRows_iff, Catalog.map_code_mandatoryRows_builtin,
    List.mem_singleton]

theorem missing_entries (h : request.entries = .ok entries) :
    Catalog.builtin.missing entries =
      if request.networkDevicePath.isNone then [.missingMandatory .networkDevicePath] else [] := by
  obtain ⟨absent, habsent, hmissing⟩ := Catalog.builtin.missing_spec entries
  have hpath := forall_code_ne_iff h (show Tag.networkDevicePath ∈ tags by simp [tags])
  have hlist : absent = if request.networkDevicePath.isNone then [1] else [] := by
    refine habsent.eq_ite fun c => ?_
    rw [mandatory_builtin_iff, and_comm]
    refine and_congr_left ?_
    rintro rfl
    rw [Option.isNone_iff_eq_none, ← Option.map_eq_none_iff]
    exact hpath
  rw [hmissing, hlist]
  split <;> rfl

/-- The file path is the only field that needs another one. -/
theorem dependency?_of_mem_tags {t : Tag} (ht : t ∈ tags) {d : UInt8}
    (hd : Catalog.builtin.dependency? t.code = some d) :
    t = .fileDevicePath ∧ d = Tag.devicePathLength.code := by
  simp only [tags, List.mem_cons, List.not_mem_nil, or_false] at ht
  rcases ht with rfl | rfl | rfl | rfl | rfl | rfl | rfl <;> cases hd
  exact ⟨rfl, rfl⟩

theorem unmet_entries (h : request.entries = .ok entries) :
    Catalog.builtin.unmet entries [] entries =
      if request.fileDevicePath.isSome ∧ request.devicePathLength.isNone then
        [.missingDependency .fileDevicePath .devicePathLength]
      else [] := by
  obtain ⟨needing, hneeding, hfaults⟩ := Catalog.builtin.unmet_nil_spec entries
  have hfile := exists_code_iff h (show Tag.fileDevicePath ∈ tags by simp [tags])
  have hlength := forall_code_ne_iff h (show Tag.devicePathLength ∈ tags by simp [tags])
  have hlist : needing =
      if request.fileDevicePath.isSome ∧ request.devicePathLength.isNone then [2] else [] := by
    refine hneeding.eq_ite fun c => ?_
    rw [and_assoc, Option.isNone_iff_eq_none, ← Option.map_eq_none_iff]
    constructor
    · rintro ⟨⟨e, he, rfl⟩, d, hd, habsent⟩
      obtain ⟨htag, rfl⟩ := dependency?_of_mem_tags (exists_field_of_mem h he).1 hd
      rw [htag]
      refine ⟨?_, hlength.mp habsent, rfl⟩
      rw [← Option.isSome_map]
      exact hfile.mp ⟨e, he, congrArg Tag.code htag⟩
    · rintro ⟨hgiven, habsent, rfl⟩
      rw [← Option.isSome_map] at hgiven
      exact ⟨hfile.mpr hgiven, _, rfl, hlength.mpr habsent⟩
  rw [hlist] at hfaults
  split at hfaults
  next hneeds =>
    obtain ⟨fault, _, ⟨e, d, hfind, ⟨hd, -⟩, rfl⟩, hnil, hunmet⟩ :=
      List.forall₂_cons_left_iff.mp hfaults
    obtain rfl := List.forall₂_nil_left_iff.mp hnil
    have hmem := (exists_field_of_mem h (List.mem_of_find?_eq_some hfind)).1
    have hcode := List.find?_some hfind
    rw [beq_iff_eq] at hcode
    rw [← hcode] at hd
    obtain ⟨htag, rfl⟩ := dependency?_of_mem_tags hmem hd
    rw [if_pos hneeds, hunmet, htag]
    rfl
  next hneeds =>
    rw [if_neg hneeds]
    exact List.forall₂_nil_left_iff.mp hfaults

/-- A review finds exactly the defects of the request. -/
theorem faults_review_entries (h : request.entries = .ok entries) :
    (Catalog.builtin.review entries).2 = request.defects := by
  rw [Catalog.review, Catalog.absences, filterMap_fault?_entries h, missing_entries h,
    unmet_entries h, defects, pathDefects, ← List.append_assoc]
  cases request.networkDevicePath with
  | none => rfl
  | some path => simp

/-! ## Encoding -/

theorem encode_of_overlong {fault : Fault} (h : request.overlong? = some fault) :
    request.encode framing = .error (.unwritable fault) := by
  rw [encode, entries_of_overlong h]
  rfl

theorem encode_of_defects (hshort : request.overlong? = none) (hdefects : request.defects ≠ []) :
    request.encode framing = .error (.invalid request.defects) := by
  obtain ⟨entries, hentries⟩ := exists_entries hshort
  have hfaults := faults_review_entries hentries
  rw [encode_of_entries framing hentries, if_neg, hfaults]
  rwa [Catalog.valid_review_iff, hfaults]

theorem exists_encode (hshort : request.overlong? = none) (hdefects : request.defects = []) :
    ∃ buffer, request.encode framing = .ok buffer := by
  obtain ⟨entries, hentries⟩ := exists_entries hshort
  have hvalid : (Catalog.builtin.review entries).1 = true := by
    rw [Catalog.valid_review_iff, faults_review_entries hentries, hdefects]
  -- The entries were built, so no encoder can refuse one of them.
  have hframed : ∀ e ∈ entries, e.Framed := (built_of_entries hentries).framed
  exact ⟨_, encode_eq_ok_iff.mpr
    ⟨entries, hentries, hvalid, Framing.encode_eq_ok_iff.mpr ⟨hframed, rfl⟩⟩⟩

/-- **A request is accepted exactly when it should be, in either framing.** It has a buffer exactly
when it is acceptable. Otherwise the refusal names the first text that is too long, or, where every
text fits, each defect and no other. Its entries are one for each field that is given and none for
any other field, and their codes ascend. -/
theorem encode_exact (request : Request) (framing : Framing) :
    ((∃ buffer, request.encode framing = .ok buffer) ↔ request.Acceptable) ∧
    (∀ fault, request.overlong? = some fault →
      request.encode framing = .error (.unwritable fault)) ∧
    (request.overlong? = none → ¬ request.Acceptable →
      request.encode framing = .error (.invalid request.defects)) ∧
    ∀ entries, request.entries = .ok entries →
      entries.map Entry.tag = request.given ∧ (entries.map (·.tag.code)).Pairwise (· < ·) := by
  rw [acceptable_iff]
  refine ⟨⟨?_, ?_⟩, fun fault => encode_of_overlong, ?_, ?_⟩
  · rintro ⟨buffer, hbuffer⟩
    obtain ⟨entries, hentries, hvalid, -⟩ := encode_eq_ok_iff.mp hbuffer
    constructor
    · cases hlong : request.overlong? with
      | none => rfl
      | some fault =>
          rw [entries_of_overlong hlong] at hentries
          cases hentries
    · rwa [← faults_review_entries hentries, ← Catalog.valid_review_iff]
  · rintro ⟨hshort, hdefects⟩
    exact exists_encode hshort hdefects
  · intro hshort hnot
    exact encode_of_defects hshort fun hdefects => hnot ⟨hshort, hdefects⟩
  · intro entries hentries
    exact ⟨map_tag_entries hentries, pairwise_code_entries hentries⟩

/-- A request whose two paths are both refused. -/
def pathsRefused : Request := { networkDevicePath := some "no uri", fileDevicePath := some "/é" }

theorem encode_exact_pathsRefused :
    pathsRefused.overlong? = none ∧ ¬ pathsRefused.Acceptable ∧
      ∀ framing, pathsRefused.encode framing =
        .error (.invalid [.badUri .networkDevicePath,
          .missingDependency .fileDevicePath .devicePathLength]) := by
  have hshort : pathsRefused.overlong? = none := by decide +kernel
  have hdefects : pathsRefused.defects =
      [.badUri .networkDevicePath, .missingDependency .fileDevicePath .devicePathLength] := by
    have huri : Uri.accepts (Utf8.encode "no uri".toList) = false := by decide +kernel
    rw [defects, pathDefects]
    simp only [pathsRefused, huri]
    rfl
  have hnot : ¬ pathsRefused.Acceptable := by
    rw [acceptable_iff, hdefects]
    exact fun h => List.cons_ne_nil _ _ h.2
  refine ⟨hshort, hnot, fun framing => ?_⟩
  rw [← hdefects]
  exact (encode_exact pathsRefused framing).2.2.1 hshort hnot

end BootTlv.Request
