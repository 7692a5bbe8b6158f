import Assay.Proofs.Analysis.Stages
import Assay.Proofs.Rendering.RoundTrip

/-!
# What interchange documents tell

A document is looked at from outside, as a tool that takes it in would.

* `Sarif.resultsOf`, `Sarif.ruleIdsOf`, `Sarif.regionOf?`: its results, the ids of its rules, and
  where a result is;
* `Sarif.Told`, `Sarif.told?`: what a result tells of an issue, and reading it;
* `Report.AgreesWith`: the results of a document are about the issues of a report, and its rules are
  those that the results name;
* `Report.sarif_integrity`: so it is with the document about any report; that of a report that was
  built tells every issue apart, and whole but for its wording.
-/

namespace Assay

namespace Sarif

/-! ## Taking a document in -/

/-- The runs of a document. -/
def runsOf (document : Json) : List Json :=
  (document.field "runs").items

/-- The results of a document, in order. -/
def resultsOf (document : Json) : List Json :=
  (runsOf document).flatMap fun run => (run.field "results").items

/-- The ids of the rules of a document, in order. -/
def ruleIdsOf (document : Json) : List Json :=
  ((runsOf document).flatMap fun run =>
    (((run.field "tool").field "driver").field "rules").items).map fun rule => rule.field "id"

/-- The place of a result. -/
def placeOf (result : Json) : Json :=
  ((result.field "locations").items.head?.getD .null).field "physicalLocation"

/-- The region of a result, if it has one. -/
def regionOf? (result : Json) : Option Json :=
  (placeOf result).field? "region"

/-- What tells a result apart. -/
def fingerprintOf (result : Json) : Json :=
  (result.field "fingerprints").field "codeqaIssueId"

/-- The kind of issues that break a rule. -/
def kindOfRule? (id : String) : Option IssueKind :=
  IssueKind.all.find? fun k => ruleId k == id

/-- The remedy of a result; a result without fixes has none. -/
def remedyOf (result : Json) : String :=
  match (result.field "fixes").items with
  | [] => ""
  | fix :: _ => (((fix.field "description").field "text").asString?).getD ""

/-- What a result tells of an issue. -/
structure Told where
  id : String
  kind : IssueKind
  severity : Severity
  file : String
  line : Option Int
  impact : String
  suggestion : String
  effort : Effort
  deriving DecidableEq

/-- Reads what a result tells. -/
def told? (result : Json) : Option Told := do
  let properties := result.field "properties"
  let id ← (fingerprintOf result).asString?
  let kind ← (result.field "ruleId").asString?.bind kindOfRule?
  let severity ← (properties.field "severity").asString?.bind Severity.ofName?
  let file ← (((placeOf result).field "artifactLocation").field "uri").asString?
  let impact ← (properties.field "impact").asString?
  let effort ← (properties.field "effort").asString?.bind Effort.ofName?
  return { id, kind, severity, file, line := (regionOf? result).bind fun r =>
             (r.field "startLine").asInt?, impact, suggestion := remedyOf result, effort }

end Sarif

/-- What there is to tell of an issue. -/
def Issue.told (i : Issue) : Sarif.Told :=
  { i with }

namespace Sarif

/-! ## Results -/

variable (i : Issue)

theorem placeOf_result : placeOf (result i) = locationOf i := rfl

/-- A result has a region exactly if the issue has a line other than zero. -/
theorem regionOf?_result :
    regionOf? (result i) = i.shownLine.map fun n => .obj [("startLine", .int n)] := by
  rw [regionOf?, placeOf_result, locationOf]
  cases i.shownLine <;> rfl

theorem remedyOf_result : remedyOf (result i) = i.suggestion := by
  by_cases hempty : i.suggestion.isEmpty = true
  · have hfixes : (result i).field "fixes" = .null := by
      rw [result, if_pos hempty]
      rfl
    rw [remedyOf, hfixes]
    exact (String.isEmpty_iff.mp hempty).symm
  · have hfixes : (result i).field "fixes" =
        .arr [.obj [("description", textObject i.suggestion)]] := by
      rw [result, if_neg hempty]
      rfl
    rw [remedyOf, hfixes]
    rfl

theorem kindOfRule?_ruleId (k : IssueKind) : kindOfRule? (ruleId k) = some k := by
  cases k <;> decide

/-- A result tells all that there is to tell, but for a line that is zero. -/
theorem told?_result : told? (result i) = some { i.told with line := i.shownLine } := by
  have hid : (fingerprintOf (result i)).asString? = some i.id := rfl
  have hkind : ((result i).field "ruleId").asString?.bind kindOfRule? = some i.kind :=
    kindOfRule?_ruleId i.kind
  have hseverity : ((((result i).field "properties").field "severity").asString?).bind
      Severity.ofName? = some i.severity := Issue.ofName?_severity i.severity
  have hfile : (((placeOf (result i)).field "artifactLocation").field "uri").asString? =
      some i.file := rfl
  have himpact : (((result i).field "properties").field "impact").asString? = some i.impact := rfl
  have heffort : ((((result i).field "properties").field "effort").asString?).bind
      Effort.ofName? = some i.effort := Issue.ofName?_effort i.effort
  have hline : ((regionOf? (result i)).bind fun r => (r.field "startLine").asInt?) =
      i.shownLine := by
    rw [regionOf?_result]
    cases i.shownLine <;> rfl
  unfold told?
  simp only [hid, hkind, hseverity, hfile, himpact, heffort, hline, remedyOf_result,
    Option.bind_eq_bind, Option.bind_some]
  rfl

/-! ## Rules -/

theorem mem_kindsOf {r : Report} {k : IssueKind} :
    k ∈ kindsOf r ↔ ∃ i ∈ r.issues, i.kind = k := by
  have hall : k ∈ kindsByName := by cases k <;> decide
  simp [kindsOf, Report.mentions, hall]

theorem kindsOf_sorted (r : Report) : ((kindsOf r).map IssueKind.name).Pairwise (· < ·) := by
  have hsorted : (kindsByName.map IssueKind.name).Pairwise (· < ·) := by decide
  exact hsorted.sublist (List.filter_sublist.map _)

theorem ruleId_injective {k l : IssueKind} (h : ruleId k = ruleId l) : k = l := by
  have hkind := kindOfRule?_ruleId k
  rw [h, kindOfRule?_ruleId l] at hkind
  exact (Option.some.inj hkind).symm

theorem resultsOf_sarif (r : Report) : resultsOf r.sarif = r.issues.map result := by
  change r.issues.map result ++ [] = _
  rw [List.append_nil]

theorem ruleIdsOf_sarif (r : Report) :
    ruleIdsOf r.sarif = (kindsOf r).map fun k => .str (ruleId k) := by
  change ((kindsOf r).map rule ++ []).map (fun x : Json => x.field "id") = _
  rw [List.append_nil, List.map_map]
  rfl

end Sarif

/-! ## Documents about reports -/

open Sarif

/-- A result is about an issue. -/
structure Issue.ToldBy (i : Issue) (result : Json) : Prop where
  told : told? result = some { i.told with line := i.shownLine }
  /-- There is a region exactly if there is a line other than zero. -/
  region : (regionOf? result).isSome ↔ ∃ n, i.line = some n ∧ n ≠ 0
  /-- It starts at that line. -/
  startLine : ∀ region ∈ regionOf? result, ∃ n, i.line = some n ∧ region.field "startLine" = .int n

theorem Issue.toldBy_result (i : Issue) : i.ToldBy (result i) where
  told := told?_result i
  region := by
    rw [regionOf?_result, Option.isSome_map, Option.isSome_iff_exists]
    simp [Issue.shownLine, Option.filter_eq_some_iff]
  startLine := by
    intro region hregion
    rw [regionOf?_result] at hregion
    obtain ⟨n, hn, rfl⟩ := Option.map_eq_some_iff.mp hregion
    exact ⟨n, (Option.filter_eq_some_iff.mp hn).1, rfl⟩

/-- A document agrees with a report: its results are about the issues, one for each and in order,
and its rules are those that the results name, each once and in the order of their names. -/
structure Report.AgreesWith (r : Report) (document : Json) : Prop where
  results : List.Forall₂ Issue.ToldBy r.issues (resultsOf document)
  rules_nodup : (ruleIdsOf document).Nodup
  rules_sorted : ∃ kinds : List IssueKind, (kinds.map IssueKind.name).Pairwise (· < ·) ∧
    ruleIdsOf document = kinds.map fun k => .str (ruleId k)
  rules_used : ∀ id, id ∈ ruleIdsOf document ↔
    ∃ result ∈ resultsOf document, result.field "ruleId" = id

namespace Report

theorem sarif_agrees (r : Report) : r.AgreesWith r.sarif where
  results := by
    rw [resultsOf_sarif, List.forall₂_map_right_iff]
    exact List.forall₂_same.mpr fun i _ => i.toldBy_result
  rules_nodup := by
    rw [ruleIdsOf_sarif]
    refine List.Nodup.map (fun k l h => ruleId_injective (Json.str.inj h)) ?_
    exact (by decide : kindsByName.Nodup).filter _
  rules_sorted := ⟨kindsOf r, kindsOf_sorted r, ruleIdsOf_sarif r⟩
  rules_used := by
    intro id
    rw [ruleIdsOf_sarif, resultsOf_sarif]
    constructor
    · intro hid
      obtain ⟨k, hk, rfl⟩ := List.mem_map.mp hid
      obtain ⟨i, hi, rfl⟩ := mem_kindsOf.mp hk
      exact ⟨result i, List.mem_map_of_mem hi, rfl⟩
    · rintro ⟨o, ho, rfl⟩
      obtain ⟨i, hi, rfl⟩ := List.mem_map.mp ho
      exact List.mem_map.mpr ⟨i.kind, mem_kindsOf.mpr ⟨i, hi, rfl⟩, rfl⟩

/-- A report that was built describes its issues. -/
theorem build_describes {units : List SourceUnit} {issues : List Issue} {timestamp : String}
    {r : Report} (h : build units issues timestamp = .ok r) : r.Describes units issues := by
  have hunits : units ≠ [] := (build_made h).1
  have hplaced : ∀ i ∈ issues, i.Placed units := by
    by_contra hn
    obtain ⟨before, i, after, hissues, hbefore, hi⟩ := exists_first_not _ _ hn
    rw [build_foreign timestamp hunits hissues hbefore hi] at h
    cases h
  obtain ⟨r', hr', hdescribes⟩ := build_ok timestamp hunits hplaced
  obtain rfl : r = r' := Except.ok.inj (h.symm.trans hr')
  exact hdescribes

/-- Lines that count from one are all shown. -/
theorem shownLine_eq {units : List SourceUnit} {issues : List Issue} {timestamp : String}
    {r : Report} (h : build units issues timestamp = .ok r)
    (hlines : ∀ i ∈ issues, ∀ n ∈ i.line, 1 ≤ n) {i : Issue} (hi : i ∈ r.issues) :
    i.shownLine = i.line := by
  obtain ⟨j, hj, hsame⟩ := (build_describes h).exists_same hi
  have hline : i.line = j.line := by rw [hsame]
  unfold Issue.shownLine
  cases hn : i.line with
  | none => rfl
  | some n =>
    have hpos := hlines j hj n (hline ▸ hn)
    simp [show n ≠ 0 by omega]

/-- **Interchange documents keep what refers to something.** The document about a report agrees with
it. If the report was built from issues whose lines count from one, no two of its results have one
fingerprint, and each tells its issue whole but for the wording. -/
theorem sarif_integrity (r : Report) :
    r.AgreesWith r.sarif ∧
      ∀ units issues timestamp, build units issues timestamp = .ok r →
        (∀ i ∈ issues, ∀ n ∈ i.line, 1 ≤ n) →
          ((resultsOf r.sarif).map fingerprintOf).Nodup ∧
            (resultsOf r.sarif).map told? = r.issues.map fun i => some i.told := by
  refine ⟨r.sarif_agrees, fun units issues timestamp h hlines => ?_⟩
  rw [resultsOf_sarif, List.map_map, List.map_map]
  constructor
  · have hprints : r.issues.map (fingerprintOf ∘ result) =
        (r.issues.map (·.id)).map Json.str := by
      rw [List.map_map]
      rfl
    rw [hprints]
    exact (build_describes h).nodup.map fun _ _ => Json.str.inj
  · refine List.map_congr_left fun i hi => ?_
    rw [Function.comp_apply, told?_result, shownLine_eq h hlines hi]
    rfl

/-- Two issues of one id are told apart. -/
theorem sarif_integrity_renamed :
    let u := SourceUnit.mk "a.js" "x" .javascript (.bytes 1)
    let i : Issue := ⟨"x", .security, .high, "T", "", "a.js", some 2, "", "I", .low⟩
    (∀ j ∈ [i, i], ∀ n ∈ j.line, 1 ≤ n) ∧
      ∃ r, build [u] [i, i] "now" = .ok r ∧ r.AgreesWith r.sarif ∧
        ((resultsOf r.sarif).map fingerprintOf).Nodup ∧
        (resultsOf r.sarif).map told? = r.issues.map fun i => some i.told := by
  intro u i
  have hplaced : ∀ j ∈ [i, i], j.Placed [u] := by
    intro j hj
    obtain rfl : j = i := by simpa using hj
    exact Or.inr ⟨u, by simp, rfl⟩
  have hlines : ∀ j ∈ [i, i], ∀ n ∈ j.line, 1 ≤ n := by
    intro j hj n hn
    obtain rfl : j = i := by simpa using hj
    obtain rfl := Option.some.inj hn
    decide
  obtain ⟨r, hr, _⟩ := build_ok "now" (List.cons_ne_nil u []) hplaced
  obtain ⟨hagrees, hbuilt⟩ := sarif_integrity r
  exact ⟨hlines, r, hr, hagrees, hbuilt [u] [i, i] "now" hr hlines⟩

end Report

end Assay
