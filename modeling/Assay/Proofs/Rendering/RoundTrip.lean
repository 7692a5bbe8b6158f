import Assay.Proofs.Json.Kept
import Assay.Proofs.Review.RoundTrip
import Assay.Rendering.Export

/-!
# Rendered reports read back

* `Report.Writable`: a report whose integers have no more digits than may be, whose texts are whole
  and whose breakdown is a table;
* `Issue.ofJson_toJson`: an issue is read from its written fields;
* `Report.toJson_kept`, `Report.sarif_kept`: the two documents about such a report come back as
  they were;
* `Report.render_round_trip`: so rendering loses nothing.
-/

namespace Assay

open Json (Kept Whole)

/-! ## Whole texts -/

namespace Json

theorem isHalfCode_whole {c : Char} (h : Text.half? c = none) :
    Text.isHalfCode (Text.codeOf c) = false := by
  rw [Text.codeOf, h]
  exact Text.isHalfCode_toNat c

theorem join?_left {c : Char} (h : Text.half? c = none) (d : Char) : join? c d = none := by
  cases hhigh : isHighSurrogate (Text.codeOf c) with
  | false => simp [join?, hhigh]
  | true =>
    have hhalf := isHalfCode_whole h
    rw [isHalfCode_of_high hhigh] at hhalf
    cases hhalf

theorem join?_right {c : Char} (h : Text.half? c = none) (b : Char) : join? b c = none := by
  cases hlow : isLowSurrogate (Text.codeOf c) with
  | false => simp [join?, hlow]
  | true =>
    have hhalf := isHalfCode_whole h
    rw [isHalfCode_of_low hlow] at hhalf
    cases hhalf

/-- A text without halves is whole. -/
theorem whole_of_no_half {s : List Char} (h : ∀ c ∈ s, Text.half? c = none) : Whole s := by
  match s with
  | [] | [_] => trivial
  | a :: b :: s =>
    rw [List.forall_mem_cons] at h
    exact ⟨join?_left h.1 b, whole_of_no_half h.2⟩

/-- Whole texts stay whole with a character between them that is no half. -/
theorem whole_append {a b : List Char} {c : Char} (ha : Whole a) (hc : Text.half? c = none)
    (hb : Whole b) : Whole (a ++ c :: b) := by
  induction a with
  | nil =>
    cases b with
    | nil => trivial
    | cons d b => exact ⟨join?_left hc d, hb⟩
  | cons x a ih =>
    cases a with
    | nil => exact ⟨join?_right hc x, ih trivial⟩
    | cons y a => exact ⟨ha.1, ih ha.2⟩

end Json

/-! ## Issues -/

namespace Issue

theorem requiredMember_of {α : Type} {j : Json} {key s : String} (kind : String)
    {ofName? : String → Option α} {a : α} (hfield : j.field? key = some (.str s))
    (hname : ofName? s = some a) : requiredMember j key kind ofName? = .ok a := by
  have hvalue : ((Json.str s).asString?.bind ofName?) = some a := hname
  simp only [requiredMember, required, hfield, ok_bind, hvalue]
  rfl

theorem ofName?_kind (k : IssueKind) : IssueKind.ofName? k.name = some k := by
  cases k <;> decide

theorem ofName?_severity (v : Severity) : Severity.ofName? v.name = some v := by
  cases v <;> decide

theorem ofName?_effort (e : Effort) : Effort.ofName? e.name = some e := by
  cases e <;> decide

/-- An issue is read from its written fields. -/
theorem ofJson_toJson (i : Issue) : ofJson i.toJson = .ok i := by
  have htext (key s : String) (h : i.toJson.field? key = some (.str s)) :
      requiredText i.toJson key = .ok s := by
    rw [requiredText, required, h]
    rfl
  have hkind : requiredMember i.toJson "type" "IssueType" IssueKind.ofName? = .ok i.kind :=
    requiredMember_of _ rfl (ofName?_kind i.kind)
  have hseverity : requiredMember i.toJson "severity" "Severity" Severity.ofName? =
      .ok i.severity :=
    requiredMember_of _ rfl (ofName?_severity i.severity)
  have heffort : requiredMember i.toJson "effort" "Effort" Effort.ofName? = .ok i.effort :=
    requiredMember_of _ rfl (ofName?_effort i.effort)
  have hline : (i.toJson.field "line").asInt? = i.line := by
    change (Json.ofInt? i.line).asInt? = i.line
    cases i.line <;> rfl
  unfold ofJson
  rw [htext "id" i.id rfl, hkind, hseverity, htext "title" i.title rfl,
    htext "description" i.description rfl, htext "file" i.file rfl,
    htext "suggestion" i.suggestion rfl, htext "impact" i.impact rfl, heffort, hline]
  rfl

/-- A written issue comes back as it was. -/
theorem toJson_kept {ascii : Bool} (depth : Nat) {i : Issue}
    (hline : ∀ n ∈ i.line, n.natAbs < 10 ^ Json.maxDigits)
    (hwhole : ascii = true → ∀ s ∈ i.id :: i.texts, Whole s.toList) :
    Kept ascii (depth + 1) i.toJson := by
  have htext {s : String} (hs : s ∈ i.id :: i.texts) : Kept ascii depth (.str s) :=
    .str depth fun ha => hwhole ha s hs
  refine Kept.record Review.issueKeys rfl (by decide) ?_
  simp only [List.forall_mem_cons]
  refine ⟨htext (by simp), .str depth fun _ => Review.whole_kind i.kind,
    .str depth fun _ => Review.whole_severity i.severity, htext (by simp [texts]),
    htext (by simp [texts]), htext (by simp [texts]), .ofInt? depth hline,
    htext (by simp [texts]), htext (by simp [texts]),
    .str depth fun _ => Review.whole_effort i.effort, by simp⟩

end Issue

/-! ## Reports -/

namespace Report

/-- The integers of a report. -/
def integers (r : Report) : List Int :=
  [r.summary.totalFiles, r.summary.totalLines, r.summary.issueCount, r.metrics.codeComplexity,
    r.metrics.testCoverage, r.metrics.duplicationPercentage, r.metrics.maintainabilityIndex] ++
    r.summary.breakdown.map Prod.snd ++ r.issues.filterMap (·.line)

/-- The texts of a report. -/
def texts (r : Report) : List String :=
  r.timestamp :: r.summary.languages ++ r.summary.breakdown.map Prod.fst ++ r.recommendations ++
    r.issues.flatMap fun i => i.id :: i.texts

/-- A report that can be written: its integers have no more digits than may be, no two halves of a
character stand side by side in its texts, and no severity is counted twice. -/
structure Writable (r : Report) : Prop where
  digits : ∀ n ∈ r.integers, n.natAbs < 10 ^ Json.maxDigits
  whole : ∀ s ∈ r.texts, Whole s.toList
  severities : (r.summary.breakdown.map Prod.fst).Nodup

namespace Writable

variable {r : Report} {i : Issue}

theorem line (h : r.Writable) (hi : i ∈ r.issues) :
    ∀ n ∈ i.line, n.natAbs < 10 ^ Json.maxDigits := by
  intro n hn
  refine h.digits n (List.mem_append_right _ ?_)
  exact List.mem_filterMap.mpr ⟨i, hi, hn⟩

theorem issueText (h : r.Writable) (hi : i ∈ r.issues) :
    ∀ s ∈ i.id :: i.texts, Whole s.toList := by
  intro s hs
  refine h.whole s (List.mem_append_right _ ?_)
  exact List.mem_flatMap.mpr ⟨i, hi, hs⟩

/-- The metrics come back as they were. -/
theorem metrics_kept (h : r.Writable) (ascii : Bool) (depth : Nat) :
    Kept ascii (depth + 1) r.metrics.toJson := by
  have hint {n : Int} (hn : n ∈ r.integers) : Kept ascii depth (.int n) :=
    .int depth (h.digits n hn)
  refine Kept.record ["code_complexity", "test_coverage", "duplication_percentage",
    "maintainability_index"] rfl (by decide) ?_
  simp only [List.forall_mem_cons]
  refine ⟨hint ?_, hint ?_, hint ?_, hint ?_, by simp⟩
  all_goals simp [Report.integers]

/-- The summary comes back as it was. -/
theorem summary_kept (h : r.Writable) (ascii : Bool) (depth : Nat) :
    Kept ascii (depth + 2) r.summary.toJson := by
  have hint {n : Int} (hn : n ∈ r.integers) : Kept ascii (depth + 1) (.int n) :=
    .int (depth + 1) (h.digits n hn)
  have hkeys : (r.summary.breakdown.map fun f => (f.1, Json.int f.2)).map Prod.fst =
      r.summary.breakdown.map Prod.fst := by simp
  have hbreakdown : Kept ascii (depth + 1)
      (.obj (r.summary.breakdown.map fun f => (f.1, Json.int f.2))) := by
    refine .obj (hkeys ▸ h.severities) (fun _ k hk => ?_) fun f hf => ?_
    · rw [hkeys] at hk
      exact h.whole k (by simp [Report.texts, hk])
    · obtain ⟨⟨k, n⟩, hn, rfl⟩ := List.mem_map.mp hf
      refine .int depth (h.digits n (List.mem_append_left _ (List.mem_append_right _ ?_)))
      exact List.mem_map_of_mem hn
  refine Kept.record ["total_files", "total_lines", "languages", "issue_count",
    "severity_breakdown"] rfl (by decide) ?_
  simp only [List.forall_mem_cons]
  refine ⟨hint ?_, hint ?_, Kept.strings fun _ s hs => ?_, hint ?_, hbreakdown, by simp⟩
  case refine_3 => exact h.whole s (by simp [Report.texts, hs])
  all_goals simp [Report.integers]

end Writable

/-- The document about a report comes back as it was. -/
theorem toJson_kept {r : Report} (h : r.Writable) (ascii : Bool) (depth : Nat) :
    Kept ascii (depth + 3) r.toJson := by
  have hissues : Kept ascii (depth + 2) (.arr (r.issues.map Issue.toJson)) := by
    refine .arr fun x hx => ?_
    obtain ⟨i, hi, rfl⟩ := List.mem_map.mp hx
    exact Issue.toJson_kept _ (h.line hi) fun _ => h.issueText hi
  refine Kept.record ["summary", "issues", "metrics", "recommendations", "timestamp"] rfl
    (by decide) ?_
  simp only [List.forall_mem_cons]
  refine ⟨h.summary_kept ascii _, hissues, h.metrics_kept ascii _,
    Kept.strings fun _ s hs => h.whole s (by simp [Report.texts, hs]),
    .str _ fun _ => h.whole _ (by simp [Report.texts]), by simp⟩

end Report

/-! ## The interchange format -/

namespace Sarif

theorem kept_text {ascii : Bool} (depth : Nat) {s : String}
    (h : ascii = true → Whole s.toList) : Kept ascii (depth + 1) (textObject s) :=
  .single (by decide) (.str depth h)

theorem whole_ruleId (k : IssueKind) : Whole (ruleId k).toList := by
  cases k <;> exact Json.whole_of_basic (by decide)

theorem kept_rule (ascii : Bool) (depth : Nat) (k : IssueKind) :
    Kept ascii (depth + 2) (rule k) := by
  have hname : Whole (Text.capitalized k.name).toList := by
    cases k <;> exact Json.whole_of_basic (by decide)
  have hshort : Whole s!"{Text.capitalized k.name} issue".toList := by
    cases k <;> exact Json.whole_of_basic (by decide)
  have hlevel : Kept ascii (depth + 1) (.obj [("level", .str "warning")]) :=
    .single (by decide) (.str depth fun _ => Json.whole_of_basic (by decide))
  refine Kept.record ["id", "name", "shortDescription", "defaultConfiguration"] rfl (by decide) ?_
  simp only [List.forall_mem_cons]
  exact ⟨.str _ fun _ => whole_ruleId k, .str _ fun _ => hname, kept_text depth fun _ => hshort,
    hlevel, by simp⟩

theorem whole_messageOf {i : Issue} (htitle : Whole i.title.toList)
    (hdescription : Whole i.description.toList) : Whole (messageOf i).toList := by
  unfold messageOf
  split
  · exact htitle
  · have hmessage : s!"{i.title}: {i.description}".toList =
        i.title.toList ++ ':' :: ([] ++ ' ' :: i.description.toList) := by
      simp [toString]
    rw [hmessage]
    exact Json.whole_append htitle (by decide)
      (Json.whole_append (a := []) trivial (by decide) hdescription)

/-- A written place comes back as it was. -/
theorem kept_location {ascii : Bool} (depth : Nat) {i : Issue}
    (hline : ∀ n ∈ i.line, n.natAbs < 10 ^ Json.maxDigits)
    (hfile : ascii = true → Whole i.file.toList) : Kept ascii (depth + 2) (locationOf i) := by
  have hartifact : Kept ascii (depth + 1)
      (.obj [("uri", .str i.file), ("uriBaseId", .str "%SRCROOT%")]) := by
    refine Kept.record ["uri", "uriBaseId"] rfl (by decide) ?_
    simp only [List.forall_mem_cons]
    exact ⟨.str _ hfile, .str _ fun _ => Json.whole_of_basic (by decide), by simp⟩
  unfold locationOf
  cases hshown : i.shownLine with
  | none =>
    exact .single (by decide) hartifact
  | some n =>
    have hn : n ∈ i.line := (Option.filter_eq_some_iff.mp hshown).1
    have hregion : Kept ascii (depth + 1) (.obj [("startLine", .int n)]) :=
      .single (by decide) (.int depth (hline n hn))
    refine Kept.record ["artifactLocation", "region"] rfl (by decide) ?_
    simp only [List.cons_append, List.nil_append, List.forall_mem_cons]
    exact ⟨hartifact, hregion, by simp⟩

/-- A written result comes back as it was. -/
theorem kept_result {ascii : Bool} (depth : Nat) {i : Issue}
    (hline : ∀ n ∈ i.line, n.natAbs < 10 ^ Json.maxDigits)
    (hwhole : ascii = true → ∀ s ∈ i.id :: i.texts, Whole s.toList) :
    Kept ascii (depth + 5) (result i) := by
  have htext (d : Nat) {s : String} (hs : s ∈ i.id :: i.texts) : Kept ascii d (.str s) :=
    .str d fun ha => hwhole ha s hs
  have hlevel : Whole (level i.severity).toList := by
    cases i.severity <;> exact Json.whole_of_basic (by decide)
  have hmessage : ascii = true → Whole (messageOf i).toList := fun ha =>
    whole_messageOf (hwhole ha _ (by simp [Issue.texts])) (hwhole ha _ (by simp [Issue.texts]))
  have hplace : Kept ascii (depth + 3) (.obj [("physicalLocation", locationOf i)]) :=
    .single (by decide)
      (kept_location depth hline fun ha => hwhole ha _ (by simp [Issue.texts]))
  have hprint : Kept ascii (depth + 4) (.obj [("codeqaIssueId", .str i.id)]) :=
    .single (by decide) (htext _ (by simp))
  have hproperties : Kept ascii (depth + 4) (.obj [("severity", .str i.severity.name),
      ("effort", .str i.effort.name), ("impact", .str i.impact)]) := by
    refine Kept.record ["severity", "effort", "impact"] rfl (by decide) ?_
    simp only [List.forall_mem_cons]
    exact ⟨.str _ fun _ => Review.whole_severity i.severity,
      .str _ fun _ => Review.whole_effort i.effort, htext _ (by simp [Issue.texts]), by simp⟩
  have hfix : Kept ascii (depth + 3) (.obj [("description", textObject i.suggestion)]) :=
    .single (by decide) (kept_text _ fun ha => hwhole ha _ (by simp [Issue.texts]))
  have hrule : Kept ascii (depth + 4) (.str (ruleId i.kind)) := .str _ fun _ => whole_ruleId i.kind
  have hlocations : Kept ascii (depth + 4) (.arr [.obj [("physicalLocation", locationOf i)]]) :=
    .arr (by simpa using hplace)
  have hfixes : Kept ascii (depth + 4)
      (.arr [.obj [("description", textObject i.suggestion)]]) := .arr (by simpa using hfix)
  unfold result
  split
  · refine Kept.record ["ruleId", "level", "message", "locations", "fingerprints", "properties"]
      rfl (by decide) ?_
    simp only [List.append_nil, List.forall_mem_cons]
    exact ⟨hrule, .str _ fun _ => hlevel, kept_text _ hmessage, hlocations, hprint, hproperties,
      by simp⟩
  · refine Kept.record ["ruleId", "level", "message", "locations", "fingerprints", "properties",
      "fixes"] rfl (by decide) ?_
    simp only [List.cons_append, List.nil_append, List.forall_mem_cons]
    exact ⟨hrule, .str _ fun _ => hlevel, kept_text _ hmessage, hlocations, hprint, hproperties,
      hfixes, by simp⟩

end Sarif

open Sarif in
/-- The interchange document about a report comes back as it was. -/
theorem Report.sarif_kept {r : Report} (h : r.Writable) (ascii : Bool) (depth : Nat) :
    Kept ascii (depth + 9) r.sarif := by
  have hplain {s : String} (hs : (s.toList.all fun c => c.toNat < 0x10000) = true) (depth : Nat) :
      Kept ascii depth (.str s) := .str depth fun _ => Json.whole_of_basic hs
  have hrules : Kept ascii (depth + 4) (.arr ((kindsOf r).map rule)) := by
    refine .arr fun x hx => ?_
    obtain ⟨k, _, rfl⟩ := List.mem_map.mp hx
    exact kept_rule ascii _ k
  have hdriver : Kept ascii (depth + 5) (.obj [("name", .str toolName),
      ("version", .str toolVersion), ("rules", .arr ((kindsOf r).map rule))]) := by
    refine Kept.record ["name", "version", "rules"] rfl (by decide) ?_
    simp only [List.forall_mem_cons]
    exact ⟨hplain (by decide) _, hplain (by decide) _, hrules, by simp⟩
  have hresults : Kept ascii (depth + 6) (.arr (r.issues.map result)) := by
    refine .arr fun x hx => ?_
    obtain ⟨i, hi, rfl⟩ := List.mem_map.mp hx
    exact kept_result _ (h.line hi) fun _ => h.issueText hi
  have hproperties : Kept ascii (depth + 6)
      (.obj [("metrics", r.metrics.toJson), ("timestamp", .str r.timestamp)]) := by
    refine Kept.record ["metrics", "timestamp"] rfl (by decide) ?_
    simp only [List.forall_mem_cons]
    exact ⟨h.metrics_kept ascii _, .str _ fun _ => h.whole _ (by simp [Report.texts]), by simp⟩
  refine Kept.record ["version", "$schema", "runs"] rfl (by decide) ?_
  simp only [List.forall_mem_cons]
  refine ⟨hplain (by decide) _, hplain (by decide) _, .arr fun run hrun => ?_, by simp⟩
  obtain rfl := List.mem_singleton.mp hrun
  refine Kept.record ["tool", "results", "properties"] rfl (by decide) ?_
  simp only [List.forall_mem_cons]
  exact ⟨.single (by decide) hdriver, hresults, hproperties, by simp⟩

/-! ## Rendering -/

namespace Report

/-- The issues are read from the document about a report. -/
theorem issues_ofJson (r : Report) :
    (r.toJson.field "issues").items.mapM Issue.ofJson = .ok r.issues := by
  change (r.issues.map Issue.toJson).mapM Issue.ofJson = .ok r.issues
  induction r.issues with
  | nil => rfl
  | cons i issues ih =>
    rw [List.map_cons, List.mapM_cons, Issue.ofJson_toJson, ok_bind, ih]
    rfl

/-- **Rendering a report loses nothing.** The document that is written about it is read back as it
was, with all characters as they are as well as in ASCII; and the issues are read from it. -/
theorem render_round_trip {r : Report} (h : r.Writable) :
    Json.read (ExportFormat.json.render r).toList = .ok r.toJson ∧
      (r.toJson.field "issues").items.mapM Issue.ofJson = .ok r.issues ∧
      Json.read (ExportFormat.sarif.render r).toList = .ok r.sarif :=
  ⟨Json.read_render (r.toJson_kept h false 992), r.issues_ofJson,
    Json.read_render (l := ⟨.indented, true⟩) (r.sarif_kept h true 986)⟩

/-- Quotes, controls, characters beyond the basic ones, lines below one and lists without items are
no exceptions. -/
theorem render_round_trip_odd :
    let i : Issue :=
      ⟨"x", .security, .high, "Say \x22\\\n\x22", "🔍 \x7f\x01", "ä.js", some (-3), "", "É",
        .low⟩
    let r : Report :=
      ⟨⟨1, 0, [], 1, [("high", 1), ("", -2)]⟩, [i, { i with line := none }], ⟨0, 100, 0, 100⟩,
        [], "now"⟩
    r.Writable ∧ Json.read (ExportFormat.json.render r).toList = .ok r.toJson ∧
      (r.toJson.field "issues").items.mapM Issue.ofJson = .ok r.issues ∧
      Json.read (ExportFormat.sarif.render r).toList = .ok r.sarif := by
  intro i r
  have hdigits : (r.integers.all fun n => n.natAbs < 10 ^ 3) = true := by decide
  have htexts : (r.texts.all fun s => s.toList.all fun c => (Text.half? c).isNone) = true := by
    decide
  have hwritable : r.Writable := by
    refine ⟨fun n hn => ?_, fun s hs => ?_, by decide⟩
    · have hn := of_decide_eq_true (List.all_eq_true.mp hdigits n hn)
      exact Nat.lt_of_lt_of_le hn (Nat.pow_le_pow_right (by decide) (by decide))
    · refine Json.whole_of_no_half fun c hc => ?_
      have hc := List.all_eq_true.mp (List.all_eq_true.mp htexts s hs) c hc
      simpa using hc
  exact ⟨hwritable, render_round_trip hwritable⟩

end Report

end Assay
