import BootTlv.Proofs.Json.Layout
import BootTlv.Proofs.Report.Spelling

/-!
# JSON reports lose nothing

A verdict is read back from the value it is written as, with its tags in their named spelling
(`Verdict.ofJson?_toJson`). The value in turn is the only one with its layout, so the text of a report
says what the verdict was: two reports are the same text exactly when the verdicts are the same with
tags compared by code (`render_json_exact`).
-/

namespace BootTlv

/-! ## Numbers and lists -/

namespace Json

theorem octet?_toNat (b : UInt8) : (number b.toNat).octet? = some b := by
  rw [octet?, if_pos b.toNat_lt, UInt8.ofNat_toNat]

theorem word?_toNat (w : UInt16) : (number w.toNat).word? = some w := by
  rw [word?, if_pos w.toNat_lt, UInt16.ofNat_toNat]

/-- A list is read item by item. -/
theorem mapM_map_of_read {α β : Type} {write : α → Json} {read? : Json → Option β} {f : α → β}
    (h : ∀ x, read? (write x) = some (f x)) (xs : List α) :
    (xs.map write).mapM read? = some (xs.map f) := by
  induction xs with
  | nil => rfl
  | cons x xs ih =>
      rw [List.map_cons, List.mapM_cons, h x, ih]
      rfl

end Json

/-! ## Reading back -/

theorem Tag.ofJson?_toJson (tag : Tag) : ofJson? tag.toJson = some tag.canonical := by
  rw [ofJson?, toJson, Json.octet?_toNat]
  rfl

theorem Entry.ofJson?_toJson (entry : Entry) : ofJson? entry.toJson = some entry.canonical := by
  have hvalue : (entry.value.map fun b => Json.number b.toNat).mapM Json.octet? =
      some entry.value := by
    rw [Json.mapM_map_of_read Json.octet?_toNat, List.map_id']
  simp [ofJson?, toJson, Json.field?, Json.items?, Tag.ofJson?_toJson, Json.octet?_toNat, hvalue,
    canonical]

namespace Fault

theorem Kind.ofName?_name (kind : Kind) : ofName? kind.name = some kind := by
  cases kind <;> rfl

theorem ofContent?_content (fault : Fault) :
    ofContent? fault.content fault.kind = some fault.canonical := by
  cases fault <;>
    simp [ofContent?, ofContent?.tag, ofContent?.number, content, kind, canonical, Json.field?,
      Json.number?, Json.octet?_toNat, Json.word?_toNat, Tag.ofJson?_toJson]

theorem ofJson?_toJson (fault : Fault) : ofJson? fault.toJson = some fault.canonical := by
  rw [toJson, ofJson?, Kind.ofName?_name]
  exact fault.ofContent?_content

end Fault

theorem Verdict.ofJson?_toJson (verdict : Verdict) :
    ofJson? verdict.toJson = some verdict.canonical := by
  have hentries := Json.mapM_map_of_read Entry.ofJson?_toJson verdict.entries
  have hfaults := Json.mapM_map_of_read Fault.ofJson?_toJson verdict.faults
  simp [ofJson?, toJson, Json.field?, Json.flag?, Json.items?, hentries, hfaults, canonical]

/-! ## Keys -/

namespace Json

theorem plain_nil : Plain (.object []) := .object (by simp) (by simp)

theorem Plain.cons {name : String} {value : Json} {fields : List (String × Json)}
    (hname : '"' ∉ name.toList) (hvalue : value.Plain) (hfields : Plain (.object fields)) :
    Plain (.object ((name, value) :: fields)) := by
  cases hfields with
  | object hkeys hvalues =>
      exact .object (List.forall_mem_cons.mpr ⟨hname, hkeys⟩)
        (List.forall_mem_cons.mpr ⟨hvalue, hvalues⟩)

theorem Plain.map {α : Type} {write : α → Json} (h : ∀ x, (write x).Plain) (xs : List α) :
    Plain (.list (xs.map write)) := by
  apply Plain.list
  rw [List.forall_mem_map]
  exact fun x _ => h x

end Json

open Json (plain_nil)

theorem Entry.plain_toJson (entry : Entry) : entry.toJson.Plain :=
  .cons (by decide) (.number _) (.cons (by decide) (.number _)
    (.cons (by decide) (.map (fun b => .number b.toNat) entry.value) plain_nil))

namespace Fault

theorem plain_content (fault : Fault) : fault.content.Plain := by
  cases fault with
  | headerCut => exact .cons (by decide) (.number _) plain_nil
  | missingDependency | valueTooLong =>
      exact .cons (by decide) (.number _) (.cons (by decide) (.number _) plain_nil)
  | tooLarge | wrongSize | valueCut | lengthMismatch =>
      exact .cons (by decide) (.number _) (.cons (by decide) (.number _)
        (.cons (by decide) (.number _) plain_nil))
  | _ => exact .number _

theorem plain_toJson (fault : Fault) : fault.toJson.Plain := by
  have hname : '"' ∉ fault.kind.name.toList := by
    cases fault.kind <;> decide
  exact .cons hname fault.plain_content plain_nil

end Fault

theorem Verdict.plain_toJson (verdict : Verdict) : verdict.toJson.Plain :=
  .cons (by decide) (.flag _) (.cons (by decide) (.map Entry.plain_toJson _)
    (.cons (by decide) (.map Fault.plain_toJson _) plain_nil))

/-! ## The report -/

/-- **A JSON report loses nothing.** Two verdicts have the same report exactly when they are the same
with tags compared by code. The text of a report is the layout of one value only, and what is read
from this value is the verdict. -/
theorem Report.render_json_exact :
    (∀ v w : Verdict, render .json v = render .json w ↔ v.Same w) ∧
    ∀ v : Verdict, v.toJson.Plain ∧ v.toJson.pretty = render .json v ∧
      ∀ json : Json, json.Plain → json.pretty = render .json v →
        ∃ w, Verdict.ofJson? json = some w ∧ w.Same v := by
  have hread : ∀ (v : Verdict) (json : Json), json.Plain → json.pretty = render .json v →
      Verdict.ofJson? json = some v.canonical := by
    intro v json hplain hpretty
    rw [(Json.pretty_inj hplain v.plain_toJson).mp hpretty]
    exact v.ofJson?_toJson
  constructor
  · intro v w
    constructor
    · intro h
      have hv := hread w v.toJson v.plain_toJson h
      rw [v.ofJson?_toJson] at hv
      exact Verdict.same_iff_canonical_eq.mpr (Option.some.inj hv)
    · intro h
      exact render_eq_of_same h .json
  · intro v
    refine ⟨v.plain_toJson, rfl, fun json hplain hpretty => ?_⟩
    exact ⟨v.canonical, hread v json hplain hpretty, v.same_canonical⟩

end BootTlv
