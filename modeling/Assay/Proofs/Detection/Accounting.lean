import Assay.Proofs.Detection.Braces
import Assay.Proofs.Detection.Indentation

/-!
# Functions and their lines

However a language delimits its functions, those of a file have their lines and their decisions to
themselves.

* `Accounted`: what that is;
* `Delimits.accounted`: it holds by every rule of where functions stop;
* `functionSpans_accounted`: it holds of what is found.
-/

namespace Assay

variable {l : Language} {lines : List (List Char)}

/-- A line is one of a function. -/
def FunctionSpan.covers (f : FunctionSpan) (n : Nat) : Bool :=
  f.start ≤ n && n < f.start + f.lineCount

theorem FunctionSpan.covers_iff {f : FunctionSpan} {n : Nat} :
    f.covers n = true ↔ f.start ≤ n ∧ n < f.start + f.lineCount := by
  rw [covers, Bool.and_eq_true, decide_eq_true_eq, decide_eq_true_eq]

/-- Of functions that stand one after the other one at most has a given line. -/
theorem countP_covers_le_one {spans : List FunctionSpan}
    (h : spans.Pairwise fun f g => f.start + f.lineCount ≤ g.start) (n : Nat) :
    (spans.countP fun f => f.covers n) ≤ 1 := by
  induction spans with
  | nil => exact Nat.zero_le 1
  | cons f rest ih =>
    obtain ⟨hlater, hrest⟩ := List.pairwise_cons.mp h
    rw [List.countP_cons]
    split
    · rename_i hcovers
      obtain ⟨_, hlt⟩ := FunctionSpan.covers_iff.mp hcovers
      have hnone : (rest.countP fun g => g.covers n) = 0 := by
        refine List.countP_eq_zero.mpr fun g hg hn => ?_
        obtain ⟨hle, _⟩ := FunctionSpan.covers_iff.mp hn
        have := hlater g hg
        omega
      rw [hnone]
    · exact ih hrest

/-- Functions have their lines and decisions to themselves: they stand one after the other within
the file, each starts with a declaration, no line is part of two of them, and each has one decision
more than its lines. -/
structure Accounted (l : Language) (lines : List (List Char)) (spans : List FunctionSpan) :
    Prop where
  apart : spans.Pairwise fun f g => f.start + f.lineCount ≤ g.start
  inside : ∀ f ∈ spans, 0 < f.lineCount ∧ f.start + f.lineCount ≤ lines.length
  declared : ∀ f ∈ spans, declaredAt? lines f.start = some f.name
  once : ∀ n, (spans.countP fun f => f.covers n) ≤ 1
  complexity : ∀ f ∈ spans, f.complexity =
    1 + ((linesUpTo lines f.start (f.start + f.lineCount)).map l.decisionCount).sum

/-- Functions by a rule have their lines and decisions to themselves. -/
theorem Delimits.accounted {stops : Nat → Nat → Prop} {n : Nat} {spans : List FunctionSpan}
    (hrule : IsStopRule lines stops) (h : Delimits l lines stops n spans) :
    Accounted l lines spans where
  apart := h.pairwise hrule
  inside f hf := by
    obtain ⟨_, _, hstops, _⟩ := h.mem hrule hf
    have hlt := hrule.lt hstops
    exact ⟨by omega, hrule.le_length hstops⟩
  declared f hf := (h.mem hrule hf).2.1
  once := countP_covers_le_one (h.pairwise hrule)
  complexity f hf := by
    obtain ⟨_, _, _, heq⟩ := h.mem hrule hf
    exact congrArg FunctionSpan.complexity heq

/-- The functions of a file are delimited by some rule. -/
theorem exists_rule (l : Language) (lines : List (List Char)) :
    ∃ stops, IsStopRule lines stops ∧ Delimits l lines stops 0 (functionSpans l lines) := by
  cases hl : l.blockStyle with
  | braces => exact ⟨_, isStopRule_stopsBraced OpenedAtEnd lines, braced_delimits hl lines⟩
  | indent => exact ⟨_, isStopRule_stopsIndented lines, indented_delimits hl lines⟩

/-- **Functions have their lines to themselves.** In every language the functions of a file stand
one after the other within it, each starts with the declaration of its name, no line is part of two
of them, and a function counts one decision more than its lines have. -/
theorem functionSpans_accounted (l : Language) (lines : List (List Char)) :
    Accounted l lines (functionSpans l lines) := by
  obtain ⟨stops, hrule, hfound⟩ := exists_rule l lines
  exact hfound.accounted hrule

end Assay
