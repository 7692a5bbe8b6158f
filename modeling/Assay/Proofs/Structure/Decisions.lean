import Mathlib.Algebra.Order.BigOperators.Group.List
import Mathlib.Algebra.Order.Group.Nat
import Assay.Proofs.Detection.Accounting
import Assay.Proofs.Pattern.Count
import Assay.Structure.FileMetrics

/-!
# Decisions of lines and of files

The decisions of a file are counted twice: all of them for its metrics, and line by line for its
functions. A question mark between blanks may have one of its blanks in another line, so a file may
have more decisions than its lines. In the languages that count no such sign there are no more.

* `Pattern.orderly_of_standApart`: words that stand on their own and signs beside them;
* `Language.decisions_orderly`: the decisions of every language are such;
* `Language.decisionCount_lines`: decisions of lines, of files and of functions.
-/

namespace Assay

namespace Pattern

variable {before : Option Char} {w rest : List Char} {words : List String} {signs : List Pattern}

/-- A whole word is one of its words, and it is over where it stops. -/
theorem takes_wholeWord (h : (wholeWord words).Takes before w rest) :
    (∃ text ∈ words, w = text.toList) ∧
      (⟨0, w.getLast?.or before, rest⟩ : Cursor).atBoundary = true := by
  obtain ⟨start, stop, rfl, hstart, hstop⟩ := takes_append_iff.mp h
  obtain ⟨rfl, hboundary⟩ := hstop
  obtain ⟨lead, word, rfl, hlead, hword⟩ := takes_append_iff.mp hstart
  obtain ⟨rfl, _⟩ := hlead
  obtain ⟨p, hp, hword⟩ := takes_anyOf_iff.mp hword
  obtain ⟨text, htext, rfl⟩ := List.mem_map.mp hp
  constructor
  · exact ⟨text, htext, by simpa using takes_lit_iff.mp hword⟩
  · simpa using hboundary

/-- No whole word stands inside another one that goes on after it: there it would not be over. -/
theorem wholeWord_standsClear (hsome : (wholeWord words).takesOther (fun _ => false) = true)
    (hletters : ∀ text ∈ words, ∀ c ∈ text.toList, Text.isWord c = true) :
    StandsClear (wholeWord words) (wholeWord words) := by
  intro before u v z rest hwhole hpart
  obtain ⟨⟨text, htext, hcut⟩, _⟩ := takes_wholeWord hwhole
  obtain ⟨_, hover⟩ := takes_wholeWord hpart
  have hword : ∀ c ∈ u ++ v ++ z, Text.isWord c = true := by
    rw [hcut]
    exact hletters text htext
  have hne : v ≠ [] := by
    obtain ⟨x, hx, _⟩ := hpart.exists_other hsome
    exact List.ne_nil_of_mem hx
  cases z with
  | nil => rfl
  | cons c z =>
    have hlast := hword (v.getLast hne) (by simp)
    have hnext := hword c (by simp)
    rw [List.getLast?_eq_some_getLast hne] at hover
    simp [Cursor.atBoundary, hlast, hnext] at hover

/-- The words are of letters, and they and the signs have characters or lengths that keep each from
standing inside another. -/
def standApart (words : List String) (signs : List Pattern) : Bool :=
  let all := wholeWord words :: signs
  words.all (fun text => text.toList.all Text.isWord) &&
    all.all (fun p => p.takesOther fun _ => false) &&
    signs.all fun sign => (wholeWord words).isClearOf sign && all.all fun p => sign.isClearOf p

theorem orderly_of_standApart (h : standApart words signs = true) :
    (anyOf (wholeWord words :: signs)).Orderly := by
  simp only [standApart, Bool.and_eq_true, List.all_eq_true] at h
  obtain ⟨⟨hletters, hsome⟩, hclear⟩ := h
  refine orderly_anyOf hsome fun p hp q hq => ?_
  rcases List.mem_cons.mp hp with rfl | hp
  · rcases List.mem_cons.mp hq with rfl | hq
    · exact wholeWord_standsClear (hsome _ hp) hletters
    · exact standsClear_of_isClearOf (hclear q hq).1
  · exact standsClear_of_isClearOf ((hclear p hp).2 q hq)

end Pattern

namespace Language

open Pattern

/-- The decisions of every language are words that stand on their own and signs beside them. -/
theorem decisions_standApart (l : Language) :
    ∃ words signs, l.decisions = anyOf (wholeWord words :: signs) ∧
      standApart words signs = true := by
  cases l with
  | python =>
    refine ⟨_, [], rfl, ?_⟩
    decide +kernel
  | _ =>
    refine ⟨_, _, rfl, ?_⟩
    decide +kernel

theorem decisions_orderly (l : Language) : l.decisions.Orderly := by
  obtain ⟨words, signs, heq, happart⟩ := decisions_standApart l
  rw [heq]
  exact orderly_of_standApart happart

theorem decisions_asksForWords (l : Language) : l.decisions.asksForWords = true := by
  cases l <;> decide

/-- Whether the language has no decisions that may take a newline. -/
def decidesInLine : Language → Bool
  | python | ruby | rust | kotlin => true
  | _ => false

theorem decisions_inLine {l : Language} (hl : l.decidesInLine = true) {before : Option Char}
    {w rest : List Char} (h : l.decisions.Takes before w rest) : '\n' ∉ w := by
  have hclasses : ∀ s ∈ l.decisions.classes, s.mem '\n' = false := by
    cases l with
    | python | ruby | rust | kotlin => decide
    | _ => cases hl
  intro hnewline
  obtain ⟨s, hs, hmem⟩ := h.exists_class hnewline
  rw [hclasses s hs] at hmem
  cases hmem

theorem sum_decisionCount_le (l : Language) (lines : List (List Char)) :
    (lines.map l.decisionCount).sum ≤ l.decisionCount (['\n'].intercalate lines) :=
  sum_count_le (decisions_orderly l) (decisions_asksForWords l) lines

theorem decisionCount_intercalate {l : Language} (hl : l.decidesInLine = true)
    (lines : List (List Char)) :
    l.decisionCount (['\n'].intercalate lines) = (lines.map l.decisionCount).sum :=
  count_intercalate (decisions_orderly l) (decisions_asksForWords l) (decisions_inLine hl) lines

end Language

/-! ## Functions -/

namespace FunctionSpan

variable {u : SourceUnit} {f : FunctionSpan}

theorem intercalate_lines (u : SourceUnit) : ['\n'].intercalate u.lines = u.text :=
  List.intercalate_splitOn '\n'

/-- No function has more decisions than its file. -/
theorem complexity_le (hf : f ∈ functionSpans u.language u.lines) :
    f.complexity ≤ (FileMetrics.ofUnit u).cyclomaticComplexity := by
  have hlines : ((linesUpTo u.lines f.start (f.start + f.lineCount)).map
      u.language.decisionCount).sum ≤ (u.lines.map u.language.decisionCount).sum := by
    apply List.Sublist.sum_le_sum
    · apply List.Sublist.map
      exact (List.drop_sublist _ _).trans (List.take_sublist _ _)
    · intro n _
      exact Nat.zero_le n
  have htext := Language.sum_decisionCount_le u.language u.lines
  rw [intercalate_lines] at htext
  rw [(functionSpans_accounted u.language u.lines).complexity f hf]
  change _ ≤ u.language.decisionCount u.text + 1
  omega

/-- A function that is the whole file has its decisions, where they stand in lines. -/
theorem complexity_eq (hl : u.language.decidesInLine = true)
    (hf : f ∈ functionSpans u.language u.lines) (hstart : f.start = 0)
    (hall : f.lineCount = u.lines.length) :
    f.complexity = (FileMetrics.ofUnit u).cyclomaticComplexity := by
  have hlines : linesUpTo u.lines f.start (f.start + f.lineCount) = u.lines := by
    rw [hstart, hall, Nat.zero_add]
    exact List.take_length
  have htext := Language.decisionCount_intercalate hl u.lines
  rw [intercalate_lines] at htext
  rw [(functionSpans_accounted u.language u.lines).complexity f hf, hlines, ← htext]
  exact Nat.add_comm 1 _

end FunctionSpan

namespace Language

/-- **Decisions of lines and of files.** In every language a text has no fewer decisions than its
lines together; so the complexity of a file is no less than that of any function in it, also if the
function is all of the file. In the languages whose decisions stand in lines the text has exactly
those of its lines, and a function that is all of a file is as complex as the file. -/
theorem decisionCount_lines (l : Language) :
    (∀ lines : List (List Char),
      (lines.map l.decisionCount).sum ≤ l.decisionCount (['\n'].intercalate lines) ∧
        (l ∈ [python, ruby, rust, kotlin] →
          l.decisionCount (['\n'].intercalate lines) = (lines.map l.decisionCount).sum)) ∧
      ∀ u : SourceUnit, u.language = l → ∀ f ∈ functionSpans u.language u.lines,
        f.complexity ≤ (FileMetrics.ofUnit u).cyclomaticComplexity ∧
          (l ∈ [python, ruby, rust, kotlin] → f.start = 0 → f.lineCount = u.lines.length →
            f.complexity = (FileMetrics.ofUnit u).cyclomaticComplexity) := by
  have hinLine : l ∈ [python, ruby, rust, kotlin] → l.decidesInLine = true := by
    cases l <;> decide
  constructor
  · intro lines
    constructor
    · exact sum_decisionCount_le l lines
    · intro hl
      exact decisionCount_intercalate (hinLine hl) lines
  · rintro u rfl f hf
    constructor
    · exact FunctionSpan.complexity_le hf
    · intro hl hstart hall
      exact FunctionSpan.complexity_eq (hinLine hl) hf hstart hall

/-- A question mark whose second blank is the newline, and a function that is all of its file. -/
theorem decisionCount_lines_file :
    let lines := ["if a ?", "b : c"].map String.toList
    let u : SourceUnit := ⟨"a.py", "def f(a):\n  return a if a else 0", .python, .bytes 31⟩
    let f : FunctionSpan := ⟨"f", 0, 2, 3⟩
    (lines.map javascript.decisionCount).sum = 1 ∧
      1 ≤ javascript.decisionCount (['\n'].intercalate lines) ∧
      javascript.decisionCount (['\n'].intercalate lines) = 2 ∧
      f ∈ functionSpans u.language u.lines ∧ u.language ∈ [python, ruby, rust, kotlin] ∧
      f.start = 0 ∧ f.lineCount = u.lines.length ∧
      3 = (FileMetrics.ofUnit u).cyclomaticComplexity := by
  intro lines u f
  have hsum : (lines.map javascript.decisionCount).sum = 1 := by decide +kernel
  have hf : f ∈ functionSpans u.language u.lines := by decide +kernel
  have hl : u.language ∈ [python, ruby, rust, kotlin] := by decide
  have hall : f.lineCount = u.lines.length := by decide +kernel
  obtain ⟨hscript, _⟩ := decisionCount_lines javascript
  obtain ⟨_, hfile⟩ := decisionCount_lines python
  refine ⟨hsum, hsum ▸ (hscript lines).1, by decide +kernel, hf, hl, rfl, hall, ?_⟩
  exact (hfile u rfl f hf).2 hl rfl hall

end Language

end Assay
