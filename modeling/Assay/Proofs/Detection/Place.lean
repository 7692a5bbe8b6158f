import Assay.Project.Documentation
import Assay.Proofs.Detection.Accounting
import Assay.Proofs.Structure.Repetition
import Assay.Structure.FileMetrics

/-!
# Where findings stand

Whatever is found in a file stands on one of its lines.

* `Rule.findings_line`, `Performance.nestedLoops_line`, `functionSpans_start`,
  `Complexity.nestingFindings_line`, `Complexity.parameterFindings_line`: one search each, from
  what it keeps true from one line to the next;
* `Detector.findings_line`: every detector;
* `DuplicateBlock.inLines_start`, `undocumented_lt`: repeated blocks, and declarations without
  documentation;
* `Issue.Within`: what comes of it for an issue, which names the file and one of its lines.
-/

namespace Assay

/-! ## Rules -/

namespace Rule

theorem scanFrom_line {r : Rule} {first : Nat} {lines : List (List Char)} {x : Nat × Pattern}
    (h : x ∈ r.scanFrom first lines) : first ≤ x.1 ∧ x.1 < first + lines.length := by
  obtain ⟨⟨line, n⟩, hline, hx⟩ := List.mem_flatMap.mp h
  obtain ⟨p, _, rfl⟩ := List.mem_map.mp hx
  obtain ⟨hlow, hhigh, _⟩ := List.mem_zipIdx hline
  exact ⟨hlow, hhigh⟩

theorem findings_line {r : Rule} {text : List Char} {f : Finding} (h : f ∈ r.findings text) :
    1 ≤ f.line ∧ f.line ≤ (Text.lines text).length := by
  unfold findings at h
  split at h
  · simp at h
  · obtain ⟨x, hx, rfl⟩ := List.mem_map.mp h
    have hbounds := scanFrom_line hx
    dsimp only
    omega

theorem findingsOfAll_line {rules : List Rule} {text : List Char} {f : Finding}
    (h : f ∈ findingsOfAll rules text) : 1 ≤ f.line ∧ f.line ≤ (Text.lines text).length := by
  obtain ⟨r, _, hf⟩ := List.mem_flatMap.mp h
  exact findings_line hf

end Rule

/-! ## Nested loops -/

namespace Performance

theorem loopsFrom_line {s : Loops} {n : Nat} {lines : List (List Char)} {f : Finding}
    (h : f ∈ loopsFrom s n lines) : n ≤ f.line ∧ f.line < n + lines.length := by
  induction lines generalizing s n with
  | nil => simp [loopsFrom] at h
  | cons line rest ih =>
    rw [loopsFrom] at h
    rw [List.length_cons]
    rcases List.mem_append.mp h with hhere | hlater
    · split at hhere
      · rw [List.mem_singleton.mp hhere]
        dsimp only
        omega
      · simp at hhere
    · have := ih hlater
      omega

theorem nestedLoops_line {text : List Char} {f : Finding} (h : f ∈ nestedLoops text) :
    1 ≤ f.line ∧ f.line ≤ (Text.lines text).length := by
  have := loopsFrom_line h
  omega

end Performance

/-! ## Functions -/

theorem functionSpans_start {l : Language} {lines : List (List Char)} {span : FunctionSpan}
    (h : span ∈ functionSpans l lines) : span.start < lines.length := by
  obtain ⟨stops, hrule, hfound⟩ := exists_rule l lines
  obtain ⟨hpos, hle⟩ := (hfound.accounted hrule).inside span h
  omega

namespace Complexity

theorem functionFindings_line {span : FunctionSpan} {f : Finding}
    (h : f ∈ functionFindings span) : f.line = span.start + 1 := by
  unfold functionFindings at h
  rcases List.mem_append.mp h with h | h
  · split at h
    · rw [List.mem_singleton.mp h]
    · simp at h
  · split at h
    · rw [List.mem_singleton.mp h]
    · simp at h

/-! ## Nesting -/

/-- The deepest line comes before a line, if any line opens a level at all. -/
def Nesting.Before (s : Nesting) (n : Nat) : Prop :=
  0 < s.deepest → s.line < n

theorem Nesting.Before.next {s : Nesting} {n : Nat} (h : s.Before n) (line : List Char) :
    ((s.enter n line).leave line).Before (n + 1) := by
  have henter : (s.enter n line).Before (n + 1) := by
    unfold enter
    split
    · split
      · exact fun _ => Nat.lt_succ_self n
      · exact fun hs => Nat.lt_succ_of_lt (h hs)
    · exact fun hs => Nat.lt_succ_of_lt (h hs)
  unfold leave
  split
  · exact henter
  · exact henter

theorem Nesting.Before.through {s : Nesting} {n : Nat} (h : s.Before n)
    (lines : List (List Char)) : (s.through n lines).Before (n + lines.length) := by
  induction lines generalizing s n with
  | nil => exact h
  | cons line rest ih =>
    rw [List.length_cons, Nat.add_comm rest.length, ← Nat.add_assoc]
    exact ih (h.next line)

theorem nestingFindings_line {lines : List (List Char)} {f : Finding}
    (h : f ∈ nestingFindings lines) : 1 ≤ f.line ∧ f.line ≤ lines.length := by
  have hbefore : (nesting lines).Before lines.length := by
    have hstart : Nesting.Before {} 0 := fun h => absurd h (Nat.lt_irrefl 0)
    have hthrough := hstart.through lines
    rwa [Nat.zero_add] at hthrough
  unfold nestingFindings at h
  dsimp only at h
  split at h
  · rename_i hdeep
    have hline := hbefore (by omega)
    rw [List.mem_singleton.mp h]
    dsimp only
    omega
  · simp at h

theorem parameterFindings_line {lines : List (List Char)} {f : Finding}
    (h : f ∈ parameterFindings lines) : 1 ≤ f.line ∧ f.line ≤ lines.length := by
  obtain ⟨⟨line, n⟩, hline, hf⟩ := List.mem_filterMap.mp h
  obtain ⟨remark, _, rfl⟩ := Option.map_eq_some_iff.mp hf
  obtain ⟨hlow, hhigh, _⟩ := List.mem_zipIdx hline
  dsimp only
  omega

end Complexity

/-- Every finding of a detector stands on a line of the file. -/
theorem Detector.findings_line {d : Detector} {u : SourceUnit} {f : Finding}
    (h : f ∈ d.findings u) : 1 ≤ f.line ∧ f.line ≤ u.lines.length := by
  cases d with
  | security => exact Rule.findingsOfAll_line h
  | performance =>
    rcases List.mem_append.mp h with h | h
    · exact Performance.nestedLoops_line h
    · exact Rule.findingsOfAll_line h
  | complexity =>
    rcases List.mem_append.mp h with h | h
    · rcases List.mem_append.mp h with h | h
      · obtain ⟨span, hspan, hf⟩ := List.mem_flatMap.mp h
        have hstart := functionSpans_start hspan
        rw [Complexity.functionFindings_line hf]
        omega
      · exact Complexity.nestingFindings_line h
    · exact Complexity.parameterFindings_line h

/-! ## Repeated blocks -/

namespace DuplicateBlock

/-- A block starts on a line, if windows have a line at least. -/
theorem inLines_start {window minChars : Int} (hwindow : 1 ≤ window) {lines : List (List Char)}
    {b : DuplicateBlock} (h : b ∈ inLines window minChars lines) :
    ∃ i < lines.length, b.startLine = i + 1 := by
  obtain ⟨w, rfl⟩ := Int.eq_ofNat_of_zero_le (Int.le_trans (by decide) hwindow)
  rw [inLines_eq] at h
  obtain ⟨⟨i, j⟩, hmem, rfl⟩ := List.mem_map.mp h
  have hrepeats := mem_repeatStarts.mp hmem
  have hapart := hrepeats.apart
  have hinside := hrepeats.inside
  exact ⟨i, by omega, rfl⟩

end DuplicateBlock

/-! ## Documentation -/

theorem undocumentedFrom_lt {above lines : List (List Char)} {n k : Nat}
    (h : k ∈ undocumentedFrom above n lines) : k < n + lines.length := by
  induction lines generalizing above n with
  | nil => simp [undocumentedFrom] at h
  | cons line rest ih =>
    rw [undocumentedFrom] at h
    rw [List.length_cons]
    rcases List.mem_append.mp h with h | h
    · split at h
      · rw [List.mem_singleton.mp h]
        omega
      · simp at h
    · have := ih h
      omega

theorem undocumented_lt {lines : List (List Char)} {k : Nat} (h : k ∈ undocumented lines) :
    k < lines.length := by
  simpa using undocumentedFrom_lt h

/-! ## Issues -/

/-- An issue is about a file and stands on one of its lines. -/
def Issue.Within (u : SourceUnit) (i : Issue) : Prop :=
  i.file = u.path ∧ ∃ n : Nat, i.line = some (n : Int) ∧ 1 ≤ n ∧ n ≤ u.lines.length

theorem Detector.issues_within {d : Detector} {u : SourceUnit} {i : Issue}
    (h : i ∈ d.issues u) : i.Within u := by
  obtain ⟨⟨f, n⟩, hf, rfl⟩ := List.mem_map.mp h
  have hline := Detector.findings_line (List.fst_mem_of_mem_zipIdx hf)
  exact ⟨rfl, f.line, rfl, hline⟩

theorem DuplicateBlock.issues_within {u : SourceUnit} {i : Issue}
    (h : i ∈ issues u.path (FileMetrics.ofUnit u).duplicateBlocks) : i.Within u := by
  obtain ⟨⟨b, n⟩, hb, rfl⟩ := List.mem_map.mp h
  obtain ⟨k, hk, hstart⟩ :=
    inLines_start (by decide : 1 ≤ defaultWindow) (List.fst_mem_of_mem_zipIdx hb)
  refine ⟨rfl, k + 1, ?_, by omega, by omega⟩
  change some b.startLine = _
  rw [hstart]
  rfl

theorem Documentation.ofUnit_within {u : SourceUnit} {i : Issue} (h : i ∈ ofUnit u) :
    i.Within u := by
  unfold ofUnit at h
  split at h
  · simp at h
  · rename_i n ns hlist
    have hn : n < u.lines.length := undocumented_lt (by rw [hlist]; simp)
    rw [List.mem_singleton.mp h]
    exact ⟨rfl, n + 1, rfl, by omega, by omega⟩

end Assay
