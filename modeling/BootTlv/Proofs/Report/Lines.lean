import BootTlv.Proofs.Catalog.Rows
import BootTlv.Proofs.Text.Lines
import BootTlv.Report

/-!
# The lines of a text report

A value comes from an untrusted sender, and still it cannot add a line to a report, end one early or
tell the terminal to do anything: labels, messages and values are all without control characters, so
the lines of a report are the ones that its verdict has (`text_lines`).
-/

namespace BootTlv

open Text (ControlFree)

/-! ## Labels and messages -/

theorem Tag.controlFree_label (tag : Tag) : ControlFree tag.label := by
  have hrows : ∀ row ∈ Catalog.builtinRows, ControlFree row.name := by decide
  rw [label]
  split
  · next row hrow => exact hrows row (Catalog.mem_builtinRows_of_lookup hrow)
  · exact Text.controlFree_append (by decide) (Text.controlFree_hexOctet _)

theorem Fault.controlFree_pieces (fault : Fault) : ∀ s ∈ fault.pieces, ControlFree s := by
  cases fault <;>
    simp +decide [pieces, Tag.controlFree_label, Text.controlFree_decimal,
      Text.controlFree_hexOctet, Text.controlFree_hexWord]

theorem Fault.controlFree_message (fault : Fault) : ControlFree fault.message :=
  Text.controlFree_join fault.controlFree_pieces

theorem VerifyMethod.controlFree_label (method : VerifyMethod) : ControlFree method.label := by
  cases method <;> decide

namespace Report

/-! ## Values -/

theorem controlFree_flag (value : Bool) : ControlFree (flag value) := by
  cases value <;> decide

/-- A value that is shown as its kind reads it is a word, a numeral or quoted. -/
theorem controlFree_of_value? {entry : Entry} {shown : String} (h : value? entry = some shown) :
    ControlFree shown := by
  unfold value? at h
  split at h
  · obtain ⟨value, -, rfl⟩ := Option.map_eq_some_iff.mp h
    exact controlFree_flag value
  · obtain ⟨w, -, rfl⟩ := Option.map_eq_some_iff.mp h
    exact Text.controlFree_decimal w.toNat
  · obtain ⟨method, -, rfl⟩ := Option.map_eq_some_iff.mp h
    exact method.controlFree_label
  · cases h
    exact Text.controlFree_quoted (by decide) _
  · cases h
    exact Text.controlFree_quoted (by decide) _
  · cases h
  · cases h

theorem controlFree_value (entry : Entry) : ControlFree (value entry) := by
  rw [value]
  cases h : value? entry with
  | none => exact Text.controlFree_hexOctets entry.value
  | some shown => exact controlFree_of_value? h

/-! ## Lines -/

theorem controlFree_entryLine (position : Nat) (entry : Entry) :
    ControlFree (entryLine position entry) := by
  refine Text.controlFree_join ?_
  simp +decide [Text.controlFree_decimal, Tag.controlFree_label, Text.controlFree_hexOctet,
    controlFree_value]

theorem controlFree_of_mem_lines {verdict : Verdict} {line : String} (h : line ∈ lines verdict) :
    ControlFree line := by
  rw [lines, List.mem_append, List.mem_append, List.mem_append] at h
  rcases h with ((h | h) | h) | h
  · rcases List.mem_cons.mp h with rfl | h
    · exact Text.controlFree_join (by simp +decide [controlFree_flag])
    · rw [List.mem_singleton.mp h]
      exact Text.controlFree_join (by simp +decide [Text.controlFree_decimal])
  · obtain ⟨i, hi, rfl⟩ := List.mem_mapIdx.mp h
    exact controlFree_entryLine i verdict.entries[i]
  · rw [List.mem_singleton.mp h]
    exact Text.controlFree_join (by simp +decide [Text.controlFree_decimal])
  · obtain ⟨fault, -, rfl⟩ := List.mem_map.mp h
    exact Text.controlFree_join (by simp +decide [Fault.controlFree_message])

/-- The lines of a report on a verdict: the flag, the number of entries, each entry under its
position and its label, the number of faults and each fault in words. -/
structure IsReport (verdict : Verdict) (lines : List String) : Prop where
  length : lines.length = 3 + verdict.entries.length + verdict.faults.length
  valid : lines[0]? = some ("valid: " ++ flag verdict.valid)
  entryCount : lines[1]? = some ("parameters: " ++ Text.decimal verdict.entries.length)
  entry : ∀ (i : Nat) (entry : Entry), verdict.entries[i]? = some entry →
    ∃ rest, lines[2 + i]? = some ("  [" ++ Text.decimal i ++ "] " ++ entry.tag.label ++ rest)
  faultCount : lines[2 + verdict.entries.length]? =
    some ("errors: " ++ Text.decimal verdict.faults.length)
  fault : ∀ (j : Nat) (fault : Fault), verdict.faults[j]? = some fault →
    lines[3 + verdict.entries.length + j]? = some ("  - " ++ fault.message)

/-- The line of an entry begins with its position and its label. -/
theorem exists_entryLine (position : Nat) (entry : Entry) :
    ∃ rest, entryLine position entry =
      "  [" ++ Text.decimal position ++ "] " ++ entry.tag.label ++ rest := by
  refine ⟨String.join [" (", Text.hexOctet entry.tag.code, ") len=",
    Text.decimal entry.length.toNat, " ", value entry], ?_⟩
  simp [entryLine, String.append_assoc]

theorem lines_eq (verdict : Verdict) :
    lines verdict =
      ("valid: " ++ flag verdict.valid) ::
        ("parameters: " ++ Text.decimal verdict.entries.length) ::
          (verdict.entries.mapIdx entryLine ++
            ("errors: " ++ Text.decimal verdict.faults.length) :: verdict.faults.map faultLine) := by
  simp [lines]

theorem getElem?_lines {verdict : Verdict} {i : Nat} {entry : Entry}
    (h : verdict.entries[i]? = some entry) :
    (lines verdict)[2 + i]? = some (entryLine i entry) := by
  have hline : (verdict.entries.mapIdx entryLine)[i]? = some (entryLine i entry) := by
    rw [List.getElem?_mapIdx, h]
    rfl
  rw [lines_eq, Nat.add_comm 2 i, List.getElem?_cons_succ, List.getElem?_cons_succ,
    List.getElem?_append_left (List.getElem?_eq_some_iff.mp hline).1, hline]

theorem isReport_lines (verdict : Verdict) : IsReport verdict (lines verdict) := by
  have hcount : (verdict.entries.mapIdx entryLine).length = verdict.entries.length :=
    List.length_mapIdx
  rw [lines_eq]
  constructor
  case length =>
    simp only [List.length_cons, List.length_append, List.length_map, hcount]
    omega
  case valid => rfl
  case entryCount => rfl
  case entry =>
    intro i entry hentry
    rw [← lines_eq, getElem?_lines hentry]
    exact (exists_entryLine i entry).imp fun rest hrest => congrArg some hrest
  case faultCount =>
    rw [Nat.add_comm 2, List.getElem?_cons_succ, List.getElem?_cons_succ,
      List.getElem?_append_right (Nat.le_of_eq hcount), hcount, Nat.sub_self]
    rfl
  case fault =>
    intro j fault hfault
    rw [show 3 + verdict.entries.length + j = verdict.entries.length + (j + 1) + 1 + 1 by omega,
      List.getElem?_cons_succ, List.getElem?_cons_succ,
      List.getElem?_append_right (by omega), hcount, Nat.add_sub_cancel_left,
      List.getElem?_cons_succ, List.getElem?_map, hfault]
    simp [faultLine]

/-- **A value cannot forge a report.** A text report is the lines that its verdict has, each with a
line end, and no line has a control character, whatever the tags, the length octets, the values and
the faults are. -/
theorem text_lines (verdict : Verdict) :
    ∃ lines, Text.splitAll '\n' (text verdict).toList = lines.map String.toList ++ [[]] ∧
      IsReport verdict lines ∧ ∀ line ∈ lines, ControlFree line := by
  have hfree : ∀ line ∈ lines verdict, ControlFree line := fun _ h => controlFree_of_mem_lines h
  have htext : (text verdict).toList =
      ((lines verdict).map String.toList).flatMap (· ++ ['\n']) := by
    simp [text, String.toList_join, List.flatMap_map]
  refine ⟨lines verdict, ?_, isReport_lines verdict, hfree⟩
  rw [htext]
  refine Text.splitAll_lines ?_
  intro l hl hnewline
  obtain ⟨line, hline, rfl⟩ := List.mem_map.mp hl
  have hcontrol := hfree line hline '\n' hnewline
  revert hcontrol
  decide

/-- A line end and an escape in a server name. -/
example :
    value ⟨.certServerName, 3, [0x0A, 0x1B, 0x5B]⟩ = "\"\\n\\u\x7b1b\x7d[\"" := by
  decide +kernel

end Report

end BootTlv
