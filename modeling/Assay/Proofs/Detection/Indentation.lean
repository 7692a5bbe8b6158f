import Assay.Proofs.Detection.Extent
import Assay.Proofs.Detection.Reports
import Assay.Proofs.Pattern.Absence
import Assay.Proofs.Text.Trim

/-!
# Functions by indentation

A function that is indented stops before the first line that is indented no deeper than its
declaration; where that line is an `end`, it is the last line of the function.

* `StopsIndented`: the rule;
* `decisionCount_end`: the line of an `end` has no decisions;
* `indented_delimits`: the functions that are found are those by the rule;
* `indented_functions`: these and their reports, for a file.
-/

namespace Assay

variable {l : Language} {lines : List (List Char)} {start : Nat}

/-- A line below the declaration is not blank and indented no deeper. -/
def Dedents (lines : List (List Char)) (start e : Nat) : Prop :=
  start < e ∧ ∃ declaration line, lines[start]? = some declaration ∧ lines[e]? = some line ∧
    Text.strip line ≠ [] ∧ indentOf line ≤ indentOf declaration

/-- A line holds the word `end` and nothing else. -/
def IsEndLine (lines : List (List Char)) (e : Nat) : Prop :=
  ∃ line, lines[e]? = some line ∧ Text.strip line = "end".toList

/-- Where an indented function stops: after an `end`, before any other line that is indented no
deeper, or with the file. -/
inductive StopsIndented (lines : List (List Char)) (start : Nat) : Nat → Prop
  | after {e : Nat} (hfirst : IsLeast {e | Dedents lines start e} e) (hend : IsEndLine lines e) :
      StopsIndented lines start (e + 1)
  | before {e : Nat} (hfirst : IsLeast {e | Dedents lines start e} e)
      (hother : ¬ IsEndLine lines e) : StopsIndented lines start e
  | endOfFile (hlt : start < lines.length) (hnone : ∀ e, ¬ Dedents lines start e) :
      StopsIndented lines start lines.length

theorem Dedents.lt_length {e : Nat} (h : Dedents lines start e) : e < lines.length := by
  obtain ⟨_, _, line, _, hline, _⟩ := h
  exact (List.getElem?_eq_some_iff.mp hline).1

theorem isStopRule_stopsIndented (lines : List (List Char)) :
    IsStopRule lines (StopsIndented lines) where
  unique := by
    intro start stop stop' h h'
    cases h with
    | after hfirst hend =>
      cases h' with
      | after hfirst' _ => rw [hfirst.unique hfirst']
      | before hfirst' hother =>
        obtain rfl := hfirst.unique hfirst'
        exact absurd hend hother
      | endOfFile _ hnone => exact absurd hfirst.1 (hnone _)
    | before hfirst hother =>
      cases h' with
      | after hfirst' hend =>
        obtain rfl := hfirst.unique hfirst'
        exact absurd hend hother
      | before hfirst' _ => exact hfirst.unique hfirst'
      | endOfFile _ hnone => exact absurd hfirst.1 (hnone _)
    | endOfFile _ hnone =>
      cases h' with
      | after hfirst _ => exact absurd hfirst.1 (hnone _)
      | before hfirst _ => exact absurd hfirst.1 (hnone _)
      | endOfFile _ _ => rfl
  lt := by
    rintro start _ (⟨hfirst, _⟩ | ⟨hfirst, _⟩ | ⟨hlt, _⟩)
    · exact Nat.lt_succ_of_lt hfirst.1.1
    · exact hfirst.1.1
    · exact hlt
  le_length := by
    rintro start _ (⟨hfirst, _⟩ | ⟨hfirst, _⟩ | _)
    · exact hfirst.1.lt_length
    · exact Nat.le_of_lt hfirst.1.lt_length
    · exact Nat.le_refl _

/-- The line of an `end` has no decisions: each takes a letter or a sign that is not in it. -/
theorem decisionCount_end (hl : l.blockStyle = .indent) {line : List Char}
    (h : Text.strip line = "end".toList) : l.decisionCount line = 0 := by
  obtain ⟨before, after, hcut, hbefore, hafter⟩ := (Text.trims_strip line).cut
  have hallowed : ∀ c ∈ line, (Text.isBlank c || "end".toList.contains c) = true := by
    intro c hc
    rw [hcut, h, List.mem_append, List.mem_append] at hc
    rcases hc with (hc | hc) | hc
    · rw [hbefore c hc, Bool.true_or]
    · rw [List.contains_iff_mem.mpr hc, Bool.or_true]
    · rw [hafter c hc, Bool.true_or]
  cases l with
  | python => exact Pattern.count_eq_zero (by decide) hallowed
  | ruby => exact Pattern.count_eq_zero (by decide) hallowed
  | _ => cases hl

/-! ## The search -/

namespace OpenFunction

/-- What is known of the indentation of an open function before line `n`. -/
structure Indents (lines : List (List Char)) (f : OpenFunction) (n : Nat) : Prop where
  lt : f.start < n
  indent : ∃ declaration, lines[f.start]? = some declaration ∧ f.indent = indentOf declaration
  inside : ∀ e, e < n → ¬ Dedents lines f.start e

variable {f : OpenFunction} {n : Nat} {line : List Char}

/-- A function is found ended by a line exactly if the line is indented no deeper. -/
theorem isEndedBy_iff (h : f.Indents lines n) (hline : lines[n]? = some line) :
    f.isEndedBy line = true ↔ Dedents lines f.start n := by
  obtain ⟨declaration, hdeclaration, hindent⟩ := h.indent
  rw [isEndedBy, Bool.and_eq_true, decide_eq_true_eq, Bool.not_eq_true', List.isEmpty_eq_false_iff,
    hindent]
  constructor
  · rintro ⟨hne, hle⟩
    exact ⟨h.lt, declaration, line, hdeclaration, hline, hne, hle⟩
  · rintro ⟨_, declaration', line', hdeclaration', hline', hne, hle⟩
    obtain rfl := Option.some.inj (hdeclaration.symm.trans hdeclaration')
    obtain rfl := Option.some.inj (hline.symm.trans hline')
    exact ⟨hne, hle⟩

theorem Indents.next (h : f.Indents lines n) (hnot : ¬ Dedents lines f.start n) :
    (f.absorb l line).Indents lines (n + 1) where
  lt := Nat.lt_succ_of_lt h.lt
  indent := h.indent
  inside := by
    intro e he
    rcases Nat.lt_or_eq_of_le (Nat.le_of_lt_succ he) with hlt | rfl
    · exact h.inside e hlt
    · exact hnot

end OpenFunction

theorem indents_openFunction? {n : Nat} {line : List Char} (hline : lines[n]? = some line)
    {f : OpenFunction} (h : openFunction? n line = some f) :
    (f.absorb l line).Indents lines (n + 1) := by
  obtain ⟨name, _, rfl⟩ := Option.map_eq_some_iff.mp h
  constructor
  · exact Nat.lt_succ_self n
  · exact ⟨line, hline, rfl⟩
  · intro e he hdedents
    exact absurd hdedents.1 (Nat.not_lt_of_le (Nat.le_of_lt_succ he))

namespace FunctionSpan

variable {n : Nat} {line : List Char} {rest : List (List Char)}

/-- One line more where no function is open: it starts one, or leaves the search to the rest. -/
theorem indented_look (hline : lines[n]? = some line)
    (hclosed : Delimits l lines (StopsIndented lines) (n + 1) (indented l (n + 1) none rest))
    (hopen : ∀ g : OpenFunction, g.Tracks l lines (n + 1) → g.Indents lines (n + 1) →
      Ends l lines (StopsIndented lines) g.name g.start (indented l (n + 1) (some g) rest)) :
    Delimits l lines (StopsIndented lines) n (indented l n none (line :: rest)) := by
  rw [indented]
  cases hdeclared : openFunction? n line with
  | none => exact hclosed.skip (declaredAt?_eq_none hline hdeclared)
  | some f =>
    obtain rfl := openFunction?_start hdeclared
    have htracks := tracks_openFunction? (l := l) hline hdeclared
    have hends := hopen _ (htracks.absorb hline) (indents_openFunction? hline hdeclared)
    exact hends.delimits (.here htracks.declared)

/-- One line more of an open function: it ends it, or leaves it open for the rest. -/
theorem indented_step (hl : l.blockStyle = .indent) {f : OpenFunction}
    (htracks : f.Tracks l lines n) (hindents : f.Indents lines n) (hline : lines[n]? = some line)
    (hhere : Delimits l lines (StopsIndented lines) n (indented l n none (line :: rest)))
    (hclosed : Delimits l lines (StopsIndented lines) (n + 1) (indented l (n + 1) none rest))
    (hopen : ∀ g : OpenFunction, g.Tracks l lines (n + 1) → g.Indents lines (n + 1) →
      Ends l lines (StopsIndented lines) g.name g.start (indented l (n + 1) (some g) rest)) :
    Ends l lines (StopsIndented lines) f.name f.start (indented l n (some f) (line :: rest)) := by
  have hended := OpenFunction.isEndedBy_iff hindents hline
  rw [indented]
  split
  · rename_i h
    have hfirst : IsLeast {e | Dedents lines f.start e} n :=
      isLeast_of_unmet (hended.mp h) hindents.inside
    split
    · rename_i hend
      have hstrip := eq_of_beq hend
      have hspan := (htracks.absorb hline).span
      have hcount : (f.absorb l line).toSpan = { f.toSpan with lineCount := f.lineCount + 1 } := by
        simp only [OpenFunction.absorb, OpenFunction.toSpan, decisionCount_end hl hstrip,
          Nat.add_zero]
      rw [hcount] at hspan
      exact .inl ⟨n + 1, _, .after hfirst ⟨line, hline, hstrip⟩, congrArg (· :: _) hspan, hclosed⟩
    · rename_i hend
      have hother : ¬ IsEndLine lines n := by
        rintro ⟨line', hline', hstrip⟩
        obtain rfl := Option.some.inj (hline.symm.trans hline')
        exact hend (beq_iff_eq.mpr hstrip)
      exact .inl ⟨n, _, .before hfirst hother, congrArg (· :: _) htracks.span, hhere⟩
  · rename_i h
    have hnot : ¬ Dedents lines f.start n := by
      intro hdedents
      exact h (hended.mpr hdedents)
    exact hopen _ (htracks.absorb hline) (hindents.next hnot)

/-- The rest of the file brings the end of an open function and the functions after it, and all
of them where none is open. -/
theorem indented_ends (hl : l.blockStyle = .indent) (hle : n ≤ lines.length)
    (hrest : lines.drop n = rest) :
    Delimits l lines (StopsIndented lines) n (indented l n none rest) ∧
      ∀ f : OpenFunction, f.Tracks l lines n → f.Indents lines n →
        Ends l lines (StopsIndented lines) f.name f.start (indented l n (some f) rest) := by
  induction rest generalizing n with
  | nil =>
    obtain rfl : n = lines.length := Nat.le_antisymm hle (List.drop_eq_nil_iff.mp hrest)
    have hnothing : Delimits l lines (StopsIndented lines) lines.length [] :=
      .undeclared fun _ => declaredAt?_of_le
    refine ⟨hnothing, ?_⟩
    intro f htracks hindents
    have hnone : ∀ e, ¬ Dedents lines f.start e := by
      intro e he
      exact hindents.inside e he.lt_length he
    exact .inl ⟨_, [], .endOfFile hindents.lt hnone, congrArg (· :: []) htracks.span, hnothing⟩
  | cons line rest ih =>
    obtain ⟨hline, hdrop⟩ := drop_eq_cons hrest
    have hlt : n < lines.length := (List.getElem?_eq_some_iff.mp hline).1
    obtain ⟨hclosed, hopen⟩ := ih hlt hdrop
    have hhere := indented_look hline hclosed hopen
    refine ⟨hhere, ?_⟩
    intro f htracks hindents
    exact indented_step hl htracks hindents hline hhere hclosed hopen

end FunctionSpan

/-- The functions that are found by indentation are those by the rule. -/
theorem indented_delimits (hl : l.blockStyle = .indent) (lines : List (List Char)) :
    Delimits l lines (StopsIndented lines) 0 (functionSpans l lines) := by
  rw [functionSpans, hl]
  exact (FunctionSpan.indented_ends hl (Nat.zero_le _) rfl).1

/-! ## A file -/

/-- **Functions by indentation.** In Python and Ruby the functions of a file are delimited by
indentation: the next declaration starts one, and the first line below that is not blank and no
deeper stops it, as its last line if it is an `end`, and as a line to look at again otherwise. Each
is found once. Those of more than fifty lines are reported as long, and those of more than ten
decisions as complex, where one is counted for the function itself. -/
theorem indented_functions {u : SourceUnit} (hu : u.language = .python ∨ u.language = .ruby) :
    (∀ spans, Delimits u.language u.lines (StopsIndented u.lines) 0 spans ↔
        spans = functionSpans u.language u.lines) ∧
      ((functionSpans u.language u.lines).map (·.start)).Nodup ∧
      told "Long Function" (Detector.complexity.issues u) =
        ((functionSpans u.language u.lines).filter fun f => 50 < f.lineCount).map (fun f =>
          (some ((f.start + 1 : Nat) : Int), if 100 < f.lineCount then .high else .medium,
            s!"Function '{f.name}' is {f.lineCount} lines long.")) ∧
      told "High Cyclomatic Complexity" (Detector.complexity.issues u) =
        ((functionSpans u.language u.lines).filter fun f => 10 < f.complexity).map (fun f =>
          (some ((f.start + 1 : Nat) : Int), if 20 < f.complexity then .high else .medium,
            s!"Function '{f.name}' has cyclomatic complexity of {f.complexity}.")) := by
  have hl : u.language.blockStyle = .indent := by
    rcases hu with hu | hu
    · rw [hu]
      rfl
    · rw [hu]
      rfl
  have hfound := indented_delimits hl u.lines
  have hrule := isStopRule_stopsIndented u.lines
  exact ⟨hfound.iff_eq hrule, hfound.nodup_start hrule,
    told_functions (by decide) (by decide) Complexity.functionFindings_long u,
    told_functions (by decide) (by decide) Complexity.functionFindings_complex u⟩

/-- A function that ends with its `end`, one that the next declaration ends, and one that the file
ends. -/
theorem indented_functions_ruby :
    let u : SourceUnit := ⟨"a.rb", "def one\n  1 if x\n\nend\ndef two\n  2\ndef three\n  3", .ruby,
      .bytes 47⟩
    (u.language = .python ∨ u.language = .ruby) ∧
      Delimits u.language u.lines (StopsIndented u.lines) 0
        [⟨"one", 0, 4, 2⟩, ⟨"two", 4, 2, 1⟩, ⟨"three", 6, 2, 1⟩] ∧
      told "Long Function" (Detector.complexity.issues u) = [] := by
  intro u
  have hu : u.language = .python ∨ u.language = .ruby := .inr rfl
  have hspans : functionSpans u.language u.lines =
      [⟨"one", 0, 4, 2⟩, ⟨"two", 4, 2, 1⟩, ⟨"three", 6, 2, 1⟩] := by
    decide
  obtain ⟨hfound, _, hlong, _⟩ := indented_functions hu
  refine ⟨hu, (hfound _).mpr hspans.symm, ?_⟩
  rw [hlong, hspans]
  rfl

end Assay
