import Mathlib.Data.List.Forall2
import Assay.Detection.Detector

/-!
# Scanning by rules

A rule looks at one line at a time. So the hits in a text are those in its lines, wherever the text
is cut in two, and only a guard looks further.

* `Rule.scan_join`: the hits in two texts, one below the other;
* `Rule.IsReported`: the issues of one rule in a file;
* `Detector.rules`, `Detector.ownFindings`: what a detector finds by rules, and before them;
* `Detector.issues_by_rule`: the issues of a detector, rule by rule and numbered throughout.
-/

namespace Assay

/-- The lines of two texts with a newline between them. -/
theorem Text.lines_join (a b : List Char) : lines (a ++ '\n' :: b) = lines a ++ lines b :=
  List.splitOn_append_cons_self a b

/-! ## Hits -/

namespace Rule

variable {r : Rule}

/-- A hit, some number of lines further down. -/
def below (count : Nat) (hit : Nat × Pattern) : Nat × Pattern :=
  (hit.1 + count, hit.2)

theorem scanFrom_append (r : Rule) (first : Nat) (above below : List (List Char)) :
    r.scanFrom first (above ++ below) =
      r.scanFrom first above ++ r.scanFrom (first + above.length) below := by
  unfold scanFrom
  rw [List.zipIdx_append, List.flatMap_append, Nat.add_comm first]

theorem scanFrom_add (r : Rule) (first count : Nat) (lines : List (List Char)) :
    r.scanFrom (first + count) lines = (r.scanFrom first lines).map (below count) := by
  unfold scanFrom
  induction lines generalizing first with
  | nil => rfl
  | cons line rest ih =>
    have hnext := ih (first + 1)
    rw [Nat.add_right_comm] at hnext
    rw [List.zipIdx_cons, List.zipIdx_cons, List.flatMap_cons, List.flatMap_cons,
      List.map_append, hnext, List.map_map]
    rfl

/-- The hits in two texts, one below the other, are the hits in each of them. -/
theorem scan_join (r : Rule) (a b : List Char) : r.scan (a ++ '\n' :: b) =
    r.scan a ++ (r.scan b).map (below (Text.lines a).length) := by
  unfold scan
  rw [Text.lines_join, scanFrom_append, scanFrom_add]

end Rule

/-! ## Issues -/

namespace Finding

variable {kind : IssueKind} {path : String}

/-- Findings as issues, numbered from a number on. -/
def toIssuesFrom (kind : IssueKind) (path : String) (n : Nat) (fs : List Finding) : List Issue :=
  (fs.zipIdx n).map fun (f, k) => f.toIssue kind path k

theorem toIssuesFrom_append (n : Nat) (fs gs : List Finding) :
    toIssuesFrom kind path n (fs ++ gs) =
      toIssuesFrom kind path n fs ++ toIssuesFrom kind path (n + fs.length) gs := by
  unfold toIssuesFrom
  rw [List.zipIdx_append, List.map_append, Nat.add_comm n]

theorem getElem?_toIssues {fs : List Finding} {k : Nat} {i : Issue}
    (h : (toIssues kind path fs)[k]? = some i) : ∃ f : Finding, i = f.toIssue kind path k := by
  unfold toIssues at h
  rw [List.getElem?_map, List.getElem?_zipIdx, Nat.zero_add, Option.map_map] at h
  obtain ⟨f, _, rfl⟩ := Option.map_eq_some_iff.mp h
  exact ⟨f, rfl⟩

end Finding

namespace Rule

variable {r : Rule} {kind : IssueKind} {u : SourceUnit}

/-- An issue says of a hit, under some number, what the rule remarks. -/
def Reports (r : Rule) (kind : IssueKind) (path : String) (hit : Nat × Pattern) (i : Issue) :
    Prop :=
  ∃ n, i = Finding.toIssue kind path ⟨r.remark, hit.1⟩ n

/-- The issues of a rule in a file: one for every hit, in the order of the hits, and none at all if
the guard of the rule occurs anywhere in the file. -/
structure IsReported (r : Rule) (kind : IssueKind) (u : SourceUnit) (issues : List Issue) :
    Prop where
  silenced : (∃ guard ∈ r.guard, guard.occursIn u.text = true) → issues = []
  heard : (¬ ∃ guard ∈ r.guard, guard.occursIn u.text = true) →
    List.Forall₂ (r.Reports kind u.path) (r.scan u.text) issues

theorem silencedBy_iff {text : List Char} :
    r.silencedBy text = true ↔ ∃ guard ∈ r.guard, guard.occursIn text = true := by
  unfold silencedBy
  cases r.guard with
  | none => simp
  | some guard => simp

theorem reports_hits (r : Rule) (kind : IssueKind) (path : String) (n : Nat)
    (hits : List (Nat × Pattern)) : List.Forall₂ (r.Reports kind path) hits
      (Finding.toIssuesFrom kind path n (hits.map fun hit => ⟨r.remark, hit.1⟩)) := by
  induction hits generalizing n with
  | nil => exact .nil
  | cons hit hits ih => exact .cons ⟨n, rfl⟩ (ih (n + 1))

theorem isReported_findings (r : Rule) (kind : IssueKind) (u : SourceUnit) (n : Nat) :
    r.IsReported kind u (Finding.toIssuesFrom kind u.path n (r.findings u.text)) where
  silenced h := by
    rw [findings, if_pos (silencedBy_iff.mpr h)]
    rfl
  heard h := by
    rw [findings, if_neg fun hsilenced => h (silencedBy_iff.mp hsilenced)]
    exact reports_hits r kind u.path n (r.scan u.text)

/-- What the rules of a table find makes one group of issues for each of them, in their order. -/
theorem exists_groups (rules : List Rule) (kind : IssueKind) (u : SourceUnit) (n : Nat) :
    ∃ groups : List (List Issue),
      Finding.toIssuesFrom kind u.path n (findingsOfAll rules u.text) = groups.flatten ∧
      List.Forall₂ (fun r issues => r.IsReported kind u issues) rules groups := by
  induction rules generalizing n with
  | nil => exact ⟨[], rfl, .nil⟩
  | cons r rules ih =>
    obtain ⟨groups, hflat, hgroups⟩ := ih (n + (r.findings u.text).length)
    refine ⟨_ :: groups, ?_, .cons (isReported_findings r kind u n) hgroups⟩
    rw [List.flatten_cons, ← hflat, ← Finding.toIssuesFrom_append]
    rfl

end Rule

namespace Detector

/-- The rules of a detector. -/
def rules : Detector → List Rule
  | security => Security.rules
  | performance => Performance.rules
  | complexity => []

/-- What a detector finds before it turns to its rules. -/
def ownFindings : Detector → SourceUnit → List Finding
  | security, _ => []
  | performance, u => Performance.nestedLoops u.text
  | complexity, u => complexity.findings u

theorem findings_eq (d : Detector) (u : SourceUnit) :
    d.findings u = d.ownFindings u ++ Rule.findingsOfAll d.rules u.text := by
  cases d with
  | security | performance => rfl
  | complexity => exact (List.append_nil _).symm

/-- **Rules look at one line at a time.** The hits of a rule in two texts with a newline between
them are its hits in the first, and then those in the second, as many lines further down as the
first has. The issues of a detector are those of its own searches and then those of its rules, in
the order of the table: one for every hit of a rule, in the order of its hits, unless the guard of
the rule occurs anywhere in the file. They are numbered throughout, from zero. -/
theorem issues_by_rule :
    (∀ (r : Rule) (a b : List Char), r.scan (a ++ '\n' :: b) =
      r.scan a ++ (r.scan b).map (Rule.below (Text.lines a).length)) ∧
    ∀ (d : Detector) (u : SourceUnit),
      (∃ groups : List (List Issue),
        d.issues u = Finding.toIssues d.kind u.path (d.ownFindings u) ++ groups.flatten ∧
        List.Forall₂ (fun r issues => r.IsReported d.kind u issues) d.rules groups) ∧
      ∀ k i, (d.issues u)[k]? = some i → ∃ f : Finding, i = f.toIssue d.kind u.path k := by
  refine ⟨Rule.scan_join, fun d u => ⟨?_, fun k i => Finding.getElem?_toIssues⟩⟩
  obtain ⟨groups, hflat, hgroups⟩ :=
    Rule.exists_groups d.rules d.kind u (0 + (d.ownFindings u).length)
  refine ⟨groups, ?_, hgroups⟩
  have hall : Finding.toIssuesFrom d.kind u.path 0
      (d.ownFindings u ++ Rule.findingsOfAll d.rules u.text) = _ :=
    Finding.toIssuesFrom_append 0 (d.ownFindings u) (Rule.findingsOfAll d.rules u.text)
  rw [hflat, ← findings_eq] at hall
  exact hall

/-- The first issue of the rules comes after the loops and has the next number. -/
theorem issues_by_rule_timer :
    let u : SourceUnit := ⟨"a.js", "for x\nfor y\nfor z\nsetInterval(f)", .javascript, .unstated⟩
    let i := Finding.toIssue .performance "a.js" ⟨Performance.timer.remark, 4⟩ 1
    (performance.issues u).map (·.id) = ["nested-loops:a.js:3:0", "timer-leak:a.js:4:1"] ∧
      (performance.issues u)[1]? = some i ∧
      ∃ f : Finding, i = f.toIssue .performance "a.js" 1 := by
  intro u i
  have hids : (performance.issues u).map (·.id) =
      ["nested-loops:a.js:3:0", "timer-leak:a.js:4:1"] := by decide +kernel
  have hi : (performance.issues u)[1]? = some i := by decide +kernel
  obtain ⟨_, hissues⟩ := issues_by_rule
  exact ⟨hids, hi, (hissues performance u).2 1 i hi⟩

end Detector

end Assay
