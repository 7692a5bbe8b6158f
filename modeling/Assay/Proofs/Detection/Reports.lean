import Assay.Detection.Detector

/-!
# What a file is told

The issues of a detector tell what its findings say. Those of complexity are told apart by their
titles.

* `told`, `told_toIssues`: what the issues of one title tell is what the findings of it say;
* `Complexity.remark_of_functionFindings`, `Complexity.remark_of_nestingFindings`,
  `Complexity.remark_of_parameterFindings`: what each search remarks;
* `told_functions`: a file is told once of each function that makes a finding.
-/

namespace Assay

/-- What the issues of one title tell: where, how severe, and in what words. -/
def told (title : String) (issues : List Issue) : List (Option Int × Severity × String) :=
  (issues.filter fun i => i.title == title).map fun i => (i.line, i.severity, i.description)

theorem told_toIssues (title : String) (kind : IssueKind) (path : String) (fs : List Finding) :
    told title (Finding.toIssues kind path fs) = (fs.filter fun f => f.remark.title == title).map
      fun f => (some (f.line : Int), f.remark.severity, f.remark.description) := by
  unfold told Finding.toIssues
  generalize 0 = k
  induction fs generalizing k with
  | nil => rfl
  | cons f fs ih =>
    have htitle : ∀ n, (f.toIssue kind path n).title = f.remark.title := fun _ => rfl
    rw [List.zipIdx_cons, List.map_cons, List.filter_cons, List.filter_cons, htitle]
    split
    · exact congrArg (_ :: ·) (ih (k + 1))
    · exact ih (k + 1)

namespace Complexity

variable {title : String} {f : Finding} {lines : List (List Char)}

/-! ## Remarks -/

theorem remark_of_functionFindings {span : FunctionSpan} (hf : f ∈ functionFindings span) :
    f.remark = longRemark span.name span.lineCount ∨
      f.remark = complexRemark span.name span.complexity := by
  unfold functionFindings at hf
  rcases List.mem_append.mp hf with hf | hf
  · split at hf
    · obtain rfl := List.mem_singleton.mp hf
      exact Or.inl rfl
    · cases hf
  · split at hf
    · obtain rfl := List.mem_singleton.mp hf
      exact Or.inr rfl
    · cases hf

theorem remark_of_nestingFindings (hf : f ∈ nestingFindings lines) :
    ∃ depth, f.remark = nestingRemark depth := by
  unfold nestingFindings at hf
  dsimp only at hf
  split at hf
  · obtain rfl := List.mem_singleton.mp hf
    exact ⟨_, rfl⟩
  · cases hf

theorem remark_of_parameterFindings (hf : f ∈ parameterFindings lines) :
    ∃ name count, f.remark = parameterRemark name count := by
  obtain ⟨⟨line, n⟩, _, hf⟩ := List.mem_filterMap.mp hf
  obtain ⟨remark, hremark, rfl⟩ := Option.map_eq_some_iff.mp hf
  obtain ⟨found, _, hfound⟩ := Option.bind_eq_some_iff.mp hremark
  dsimp only at hfound
  split at hfound
  · obtain rfl := Option.some.inj hfound
    exact ⟨_, _, rfl⟩
  · cases hfound

/-! ## Findings of other titles -/

theorem functionFindings_untitled (hlong : title ≠ "Long Function")
    (hcomplex : title ≠ "High Cyclomatic Complexity") (spans : List FunctionSpan) :
    (spans.flatMap functionFindings).filter (fun f => f.remark.title == title) = [] := by
  apply List.filter_eq_nil_iff.mpr
  intro f hf heq
  obtain ⟨span, _, hf⟩ := List.mem_flatMap.mp hf
  rcases remark_of_functionFindings hf with hremark | hremark
  · rw [hremark] at heq
    exact hlong (eq_of_beq heq).symm
  · rw [hremark] at heq
    exact hcomplex (eq_of_beq heq).symm

theorem nestingFindings_untitled (htitle : title ≠ "Deep Nesting") (lines : List (List Char)) :
    (nestingFindings lines).filter (fun f => f.remark.title == title) = [] := by
  apply List.filter_eq_nil_iff.mpr
  intro f hf heq
  obtain ⟨depth, hremark⟩ := remark_of_nestingFindings hf
  rw [hremark] at heq
  exact htitle (eq_of_beq heq).symm

theorem parameterFindings_untitled (htitle : title ≠ "Too Many Parameters")
    (lines : List (List Char)) :
    (parameterFindings lines).filter (fun f => f.remark.title == title) = [] := by
  apply List.filter_eq_nil_iff.mpr
  intro f hf heq
  obtain ⟨name, count, hremark⟩ := remark_of_parameterFindings hf
  rw [hremark] at heq
  exact htitle (eq_of_beq heq).symm

/-! ## Findings of one title -/

theorem nestingFindings_titled (lines : List (List Char)) :
    (nestingFindings lines).filter (fun f => f.remark.title == "Deep Nesting") =
      nestingFindings lines := by
  apply List.filter_eq_self.mpr
  intro f hf
  obtain ⟨depth, hremark⟩ := remark_of_nestingFindings hf
  rw [hremark]
  rfl

theorem parameterFindings_titled (lines : List (List Char)) :
    (parameterFindings lines).filter (fun f => f.remark.title == "Too Many Parameters") =
      parameterFindings lines := by
  apply List.filter_eq_self.mpr
  intro f hf
  obtain ⟨name, count, hremark⟩ := remark_of_parameterFindings hf
  rw [hremark]
  rfl

theorem functionFindings_long (s : FunctionSpan) :
    (functionFindings s).filter (fun f => f.remark.title == "Long Function") =
      if 50 < s.lineCount then [⟨longRemark s.name s.lineCount, s.start + 1⟩] else [] := by
  by_cases hlong : 50 < s.lineCount <;> by_cases hcomplex : 10 < s.complexity <;>
    simp [functionFindings, longRemark, complexRemark, hlong, hcomplex]

theorem functionFindings_complex (s : FunctionSpan) :
    (functionFindings s).filter (fun f => f.remark.title == "High Cyclomatic Complexity") =
      if 10 < s.complexity then [⟨complexRemark s.name s.complexity, s.start + 1⟩] else [] := by
  by_cases hlong : 50 < s.lineCount <;> by_cases hcomplex : 10 < s.complexity <;>
    simp [functionFindings, longRemark, complexRemark, hlong, hcomplex]

/-- What makes one finding of a function makes one of each in a file. -/
theorem functionFindings_titled {p : FunctionSpan → Prop} [DecidablePred p]
    {finding : FunctionSpan → Finding}
    (h : ∀ s, (functionFindings s).filter (fun f => f.remark.title == title) =
      if p s then [finding s] else []) (spans : List FunctionSpan) :
    (spans.flatMap functionFindings).filter (fun f => f.remark.title == title) =
      (spans.filter fun s => p s).map finding := by
  induction spans with
  | nil => rfl
  | cons s rest ih =>
    rw [List.flatMap_cons, List.filter_append, ih, h, List.filter_cons]
    by_cases hp : p s <;> simp [hp]

end Complexity

/-- A file is told once of each function that makes a finding of a title, and of nothing else under
that title. -/
theorem told_functions {title : String} (hnesting : title ≠ "Deep Nesting")
    (hparameters : title ≠ "Too Many Parameters") {p : FunctionSpan → Prop} [DecidablePred p]
    {finding : FunctionSpan → Finding}
    (h : ∀ s, (Complexity.functionFindings s).filter (fun f => f.remark.title == title) =
      if p s then [finding s] else []) (u : SourceUnit) :
    told title (Detector.complexity.issues u) =
      ((functionSpans u.language u.lines).filter fun s => p s).map fun s =>
        (some ((finding s).line : Int), (finding s).remark.severity,
          (finding s).remark.description) := by
  rw [Detector.issues, told_toIssues, Detector.findings, List.filter_append, List.filter_append,
    Complexity.functionFindings_titled h, Complexity.nestingFindings_untitled hnesting,
    Complexity.parameterFindings_untitled hparameters, List.append_nil, List.append_nil,
    List.map_map]
  rfl

end Assay
