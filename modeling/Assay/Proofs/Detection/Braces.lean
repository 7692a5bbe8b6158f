import Mathlib.Data.List.Infix
import Assay.Proofs.Detection.Extent

/-!
# Functions in braces

A function in braces stops after the first line at whose end its braces are closed again. They are
looked at where lines end, so braces that open and close on one line have not been open.

* `StopsBraced`: the rule, for any reading of what it is to have been open;
* `braced_delimits`: the functions that are found are those by the ends of lines;
* `braced_agrees_iff`: they are those by single characters exactly if each of these is open where
  some line ends.
-/

namespace Assay

variable {l : Language} {lines : List (List Char)} {start : Nat}

/-- How many more braces a text opens than it closes. -/
def braceBalance (s : List Char) : Int :=
  s.count '\x7b' - s.count '\x7d'

theorem braceBalance_append (s t : List Char) :
    braceBalance (s ++ t) = braceBalance s + braceBalance t := by
  simp only [braceBalance, List.count_append]
  omega

/-- The text of a function from its declaration to the end of a line. -/
def bodyTo (lines : List (List Char)) (start e : Nat) : List Char :=
  (linesUpTo lines start (e + 1)).flatten

theorem bodyTo_eq {e : Nat} {line : List Char} (hle : start ≤ e) (hline : lines[e]? = some line) :
    bodyTo lines start e = (linesUpTo lines start e).flatten ++ line := by
  simp [bodyTo, linesUpTo_succ hle hline]

theorem bodyTo_prefix {m e : Nat} (h : m ≤ e) : bodyTo lines start m <+: bodyTo lines start e := by
  have htake : lines.take (m + 1) <+: lines.take (e + 1) :=
    List.take_prefix_take_left (Nat.succ_le_succ h)
  exact (htake.drop start).flatten

/-- By the end of a line a brace of the function has been open at some character. -/
def OpenedWithin (lines : List (List Char)) (start e : Nat) : Prop :=
  ∃ p, p <+: bodyTo lines start e ∧ 0 < braceBalance p

/-- By the end of a line a brace of the function has been open where some line ended. -/
def OpenedAtEnd (lines : List (List Char)) (start e : Nat) : Prop :=
  ∃ m, start ≤ m ∧ m ≤ e ∧ 0 < braceBalance (bodyTo lines start m)

theorem OpenedAtEnd.within {e : Nat} (h : OpenedAtEnd lines start e) :
    OpenedWithin lines start e := by
  obtain ⟨m, _, hle, hopen⟩ := h
  exact ⟨_, bodyTo_prefix hle, hopen⟩

/-- At the end of a line the braces of a function have been opened and are closed again. -/
structure Closes (opened : List (List Char) → Nat → Nat → Prop) (lines : List (List Char))
    (start e : Nat) : Prop where
  le : start ≤ e
  lt : e < lines.length
  opened : opened lines start e
  closed : braceBalance (bodyTo lines start e) ≤ 0

/-- A function in braces stops after the first line that closes it. -/
def StopsBraced (opened : List (List Char) → Nat → Nat → Prop) (lines : List (List Char))
    (start stop : Nat) : Prop :=
  ∃ e, IsLeast {e | Closes opened lines start e} e ∧ stop = e + 1

theorem isStopRule_stopsBraced (opened : List (List Char) → Nat → Nat → Prop)
    (lines : List (List Char)) : IsStopRule lines (StopsBraced opened lines) where
  unique := by
    rintro start _ _ ⟨e, he, rfl⟩ ⟨e', he', rfl⟩
    rw [he.unique he']
  lt := by
    rintro start _ ⟨e, he, rfl⟩
    exact Nat.lt_succ_of_le he.1.le
  le_length := by
    rintro start _ ⟨e, he, rfl⟩
    exact he.1.lt

/-- A function never stops if no line closes it. -/
theorem not_stopsBraced {opened : List (List Char) → Nat → Nat → Prop}
    (h : ∀ e, ¬ Closes opened lines start e) (stop : Nat) :
    ¬ StopsBraced opened lines start stop := by
  rintro ⟨e, he, _⟩
  exact h e he.1

theorem exists_stopsBraced {opened : List (List Char) → Nat → Nat → Prop} {e : Nat}
    (h : Closes opened lines start e) : ∃ stop, StopsBraced opened lines start stop := by
  classical
  have hex : ∃ e, Closes opened lines start e := ⟨e, h⟩
  have hleast : IsLeast {e | Closes opened lines start e} (Nat.find hex) :=
    isLeast_of_unmet (Nat.find_spec hex) fun _ => Nat.find_min hex
  exact ⟨_, _, hleast, rfl⟩

/-! ## The search -/

namespace OpenFunction

/-- What is known of the braces of an open function before line `n`. -/
structure Weighs (lines : List (List Char)) (f : OpenFunction) (n : Nat) : Prop where
  balance : f.balance = braceBalance (linesUpTo lines f.start n).flatten
  opened : f.opened = true ↔
    ∃ m, f.start ≤ m ∧ m < n ∧ 0 < braceBalance (bodyTo lines f.start m)
  unclosed : ∀ e, e < n → ¬ Closes OpenedAtEnd lines f.start e

variable {f : OpenFunction} {n : Nat} {line : List Char}

theorem balance_weigh (h : f.Weighs lines n) (hle : f.start ≤ n) (hline : lines[n]? = some line) :
    ((f.absorb l line).weigh line).balance = braceBalance (bodyTo lines f.start n) := by
  change f.balance + line.count '\x7b' - line.count '\x7d' = _
  rw [bodyTo_eq hle hline, braceBalance_append, h.balance, braceBalance, braceBalance]
  omega

theorem opened_weigh (h : f.Weighs lines n) (hle : f.start ≤ n) (hline : lines[n]? = some line) :
    ((f.absorb l line).weigh line).opened = true ↔ OpenedAtEnd lines f.start n := by
  have hopened : ((f.absorb l line).weigh line).opened =
      (f.opened || decide (0 < ((f.absorb l line).weigh line).balance)) := rfl
  rw [hopened, balance_weigh h hle hline, Bool.or_eq_true, decide_eq_true_eq, h.opened]
  constructor
  · rintro (⟨m, hm, hlt, hopen⟩ | hopen)
    · exact ⟨m, hm, Nat.le_of_lt hlt, hopen⟩
    · exact ⟨n, hle, Nat.le_refl n, hopen⟩
  · rintro ⟨m, hm, hmn, hopen⟩
    rcases Nat.lt_or_eq_of_le hmn with hlt | rfl
    · exact .inl ⟨m, hm, hlt, hopen⟩
    · exact .inr hopen

/-- A function is found balanced after a line exactly if the line closes it. -/
theorem isBalanced_iff (h : f.Weighs lines n) (hle : f.start ≤ n) (hline : lines[n]? = some line) :
    ((f.absorb l line).weigh line).isBalanced = true ↔ Closes OpenedAtEnd lines f.start n := by
  rw [isBalanced, Bool.and_eq_true, decide_eq_true_eq, opened_weigh h hle hline,
    balance_weigh h hle hline]
  constructor
  · rintro ⟨hopened, hclosed⟩
    exact ⟨hle, (List.getElem?_eq_some_iff.mp hline).1, hopened, hclosed⟩
  · intro hcloses
    exact ⟨hcloses.opened, hcloses.closed⟩

/-- What is known of the braces is known after a line that does not close them. -/
theorem Weighs.next (h : f.Weighs lines n) (hle : f.start ≤ n) (hline : lines[n]? = some line)
    (hnot : ¬ Closes OpenedAtEnd lines f.start n) :
    ((f.absorb l line).weigh line).Weighs lines (n + 1) where
  balance := balance_weigh h hle hline
  opened := by
    rw [opened_weigh h hle hline]
    simp only [OpenedAtEnd, Nat.lt_succ_iff]
    rfl
  unclosed := by
    intro e he
    rcases Nat.lt_or_eq_of_le (Nat.le_of_lt_succ he) with hlt | rfl
    · exact h.unclosed e hlt
    · exact hnot

end OpenFunction

theorem weighs_openFunction? {n : Nat} {line : List Char} {f : OpenFunction}
    (h : openFunction? n line = some f) : f.Weighs lines n := by
  obtain ⟨name, _, rfl⟩ := Option.map_eq_some_iff.mp h
  constructor
  · simp [linesUpTo_self, braceBalance]
  · simp only [Bool.false_eq_true, false_iff]
    rintro ⟨m, hm, hlt, _⟩
    omega
  · intro e he hcloses
    exact absurd hcloses.le (Nat.not_le_of_lt he)

namespace FunctionSpan

variable {n : Nat} {line : List Char} {rest : List (List Char)}

/-- One line more of an open function: it closes it, or leaves it open for the rest. -/
theorem braced_step {f : OpenFunction} (htracks : f.Tracks l lines n) (hweighs : f.Weighs lines n)
    (hline : lines[n]? = some line)
    (hclosed : Delimits l lines (StopsBraced OpenedAtEnd lines) (n + 1)
      (braced l (n + 1) none rest))
    (hopen : ∀ g : OpenFunction, g.Tracks l lines (n + 1) → g.Weighs lines (n + 1) →
      Ends l lines (StopsBraced OpenedAtEnd lines) g.name g.start
        (braced l (n + 1) (some g) rest)) :
    Ends l lines (StopsBraced OpenedAtEnd lines) f.name f.start
      (braced l n (some f) (line :: rest)) := by
  have hle := htracks.le
  have hnext := (htracks.absorb hline).weigh line
  have hbalanced := OpenFunction.isBalanced_iff (l := l) hweighs hle hline
  change Ends l lines _ _ _ (if ((f.absorb l line).weigh line).isBalanced then _ else _)
  split
  · rename_i h
    have hleast : IsLeast {e | Closes OpenedAtEnd lines f.start e} n :=
      isLeast_of_unmet (hbalanced.mp h) hweighs.unclosed
    exact .inl ⟨n + 1, _, ⟨n, hleast, rfl⟩, congrArg (· :: _) hnext.span, hclosed⟩
  · rename_i h
    have hnot : ¬ Closes OpenedAtEnd lines f.start n := by
      intro hcloses
      exact h (hbalanced.mpr hcloses)
    exact hopen _ hnext (hweighs.next hle hline hnot)

/-- The rest of the file brings the end of an open function and the functions after it, and all
of them where none is open. -/
theorem braced_ends (hrest : lines.drop n = rest) :
    Delimits l lines (StopsBraced OpenedAtEnd lines) n (braced l n none rest) ∧
      ∀ f : OpenFunction, f.Tracks l lines n → f.Weighs lines n →
        Ends l lines (StopsBraced OpenedAtEnd lines) f.name f.start (braced l n (some f) rest) := by
  induction rest generalizing n with
  | nil =>
    have hlength : lines.length ≤ n := List.drop_eq_nil_iff.mp hrest
    constructor
    · apply Delimits.undeclared
      intro m hm
      exact declaredAt?_of_le (hlength.trans hm)
    · intro f _ hweighs
      have hnever : ∀ e, ¬ Closes OpenedAtEnd lines f.start e := by
        intro e he
        exact hweighs.unclosed e (Nat.lt_of_lt_of_le he.lt hlength) he
      exact .inr ⟨not_stopsBraced hnever, rfl⟩
  | cons line rest ih =>
    obtain ⟨hline, hdrop⟩ := drop_eq_cons hrest
    obtain ⟨hclosed, hopen⟩ := ih hdrop
    refine ⟨?_, fun f htracks hweighs => braced_step htracks hweighs hline hclosed hopen⟩
    cases hdeclared : openFunction? n line with
    | none =>
      have heq : braced l n none (line :: rest) = braced l (n + 1) none rest := by
        rw [braced, Option.orElse, hdeclared]
      rw [heq]
      exact hclosed.skip (declaredAt?_eq_none hline hdeclared)
    | some f =>
      have heq : braced l n none (line :: rest) = braced l n (some f) (line :: rest) := by
        rw [braced, braced, Option.orElse, hdeclared]
        rfl
      rw [heq]
      obtain rfl := openFunction?_start hdeclared
      have htracks := tracks_openFunction? (l := l) hline hdeclared
      have hends := braced_step htracks (weighs_openFunction? hdeclared) hline hclosed hopen
      exact hends.delimits (.here htracks.declared)

end FunctionSpan

/-- The functions that are found in braces are those by the ends of lines. -/
theorem braced_delimits (hl : l.blockStyle = .braces) (lines : List (List Char)) :
    Delimits l lines (StopsBraced OpenedAtEnd lines) 0 (functionSpans l lines) := by
  rw [functionSpans, hl]
  exact (FunctionSpan.braced_ends rfl).1

/-! ## Single characters -/

theorem Closes.within {e : Nat} (h : Closes OpenedAtEnd lines start e) :
    Closes OpenedWithin lines start e :=
  ⟨h.le, h.lt, h.opened.within, h.closed⟩

/-- The two readings stop a function at one place if it is open where a line before that ends. -/
theorem StopsBraced.atEnd {stop m : Nat} (h : StopsBraced OpenedWithin lines start stop)
    (hm : start ≤ m) (hlt : m < stop) (hopen : 0 < braceBalance (bodyTo lines start m)) :
    StopsBraced OpenedAtEnd lines start stop := by
  obtain ⟨e, ⟨hcloses, hleast⟩, rfl⟩ := h
  have hopened : OpenedAtEnd lines start e := ⟨m, hm, Nat.le_of_lt_succ hlt, hopen⟩
  refine ⟨e, ⟨⟨hcloses.le, hcloses.lt, hopened, hcloses.closed⟩, ?_⟩, rfl⟩
  intro k hk
  exact hleast hk.within

/-- A function that never stops by single characters never stops by the ends of lines. -/
theorem not_stopsBraced_atEnd (h : ∀ stop, ¬ StopsBraced OpenedWithin lines start stop) :
    ∀ stop, ¬ StopsBraced OpenedAtEnd lines start stop := by
  apply not_stopsBraced
  intro e he
  obtain ⟨stop, hstop⟩ := exists_stopsBraced he.within
  exact h stop hstop

/-- **Functions in braces.** What is found in a language with braces is delimited by its braces as
they stand where lines end: a function goes from its declaration to the first line at whose end
they are closed, after they were open at the end of a line. That is what single characters delimit
exactly if each function that these delimit is open where some line of it ends. -/
theorem braced_agrees_iff (hl : l.blockStyle = .braces) (lines : List (List Char)) :
    (∀ spans, Delimits l lines (StopsBraced OpenedAtEnd lines) 0 spans ↔
        spans = functionSpans l lines) ∧
      ∃ spans, (∀ spans', Delimits l lines (StopsBraced OpenedWithin lines) 0 spans' ↔
          spans' = spans) ∧
        (functionSpans l lines = spans ↔ ∀ f ∈ spans, ∃ m, f.start ≤ m ∧
          m < f.start + f.lineCount ∧ 0 < braceBalance (bodyTo lines f.start m)) := by
  have hfound := braced_delimits hl lines
  have hends := isStopRule_stopsBraced OpenedAtEnd lines
  have hwithin := isStopRule_stopsBraced OpenedWithin lines
  obtain ⟨spans, hspans⟩ := exists_delimits hwithin l 0
  refine ⟨hfound.iff_eq hends, spans, hspans.iff_eq hwithin, ?_⟩
  constructor
  · rintro rfl f hf
    obtain ⟨_, _, ⟨e, ⟨hcloses, _⟩, hstop⟩, _⟩ := hfound.mem hends hf
    obtain ⟨m, hm, hle, hopen⟩ := hcloses.opened
    exact ⟨m, hm, by omega, hopen⟩
  · intro hopen
    have hsame : ∀ f ∈ spans, StopsBraced OpenedAtEnd lines f.start (f.start + f.lineCount) := by
      intro f hf
      obtain ⟨_, _, hstops, _⟩ := hspans.mem hwithin hf
      obtain ⟨m, hm, hlt, hbalance⟩ := hopen f hf
      exact hstops.atEnd hm hlt hbalance
    exact hfound.eq hends (hspans.congr hwithin hsame fun _ => not_stopsBraced_atEnd)

/-! A function on one line, and one that is to be found after it. -/

def oneLine : List (List Char) :=
  ["function one() \x7b return 1; \x7d".toList,
    "function two() \x7b".toList,
    "  return a && b && c && d && e && f && g && h && i && j && k;".toList,
    "\x7d".toList]

theorem stops_one : StopsBraced OpenedWithin oneLine 0 1 := by
  have hopened : OpenedWithin oneLine 0 0 :=
    ⟨"function one() \x7b".toList, by decide, by decide⟩
  exact ⟨0, ⟨⟨Nat.le_refl 0, by decide, hopened, by decide⟩, fun _ _ => Nat.zero_le _⟩, rfl⟩

theorem stops_two : StopsBraced OpenedWithin oneLine 1 4 := by
  have hopened : OpenedWithin oneLine 1 3 :=
    ⟨"function two() \x7b".toList, by decide, by decide⟩
  have hbefore : ∀ e, e < 3 → ¬ Closes OpenedWithin oneLine 1 e := by
    intro e he hcloses
    have hle := hcloses.le
    obtain rfl | rfl : e = 1 ∨ e = 2 := by omega
    · exact absurd hcloses.closed (by decide)
    · exact absurd hcloses.closed (by decide)
  exact ⟨3, isLeast_of_unmet ⟨by decide, by decide, hopened, by decide⟩ hbefore, rfl⟩

theorem oneLine_delimits : Delimits .javascript oneLine (StopsBraced OpenedWithin oneLine) 0
    [⟨"one", 0, 1, 1⟩, ⟨"two", 1, 3, 11⟩] := by
  have hone : IsNextDeclaration oneLine 0 0 "one" := .here (by decide)
  have htwo : IsNextDeclaration oneLine 1 1 "two" := .here (by decide)
  have hrest : ∀ m, 4 ≤ m → declaredAt? oneLine m = none := by
    intro m hm
    exact declaredAt?_of_le (show oneLine.length ≤ m from hm)
  exact .function hone stops_one (.function htwo stops_two (.undeclared hrest))

/-- The function on the first line takes in the one after it. -/
theorem oneLine_absorbs :
    Delimits .javascript oneLine (StopsBraced OpenedWithin oneLine) 0
        [⟨"one", 0, 1, 1⟩, ⟨"two", 1, 3, 11⟩] ∧
      functionSpans .javascript oneLine = [⟨"one", 0, 4, 11⟩] :=
  ⟨oneLine_delimits, by decide⟩

theorem braced_agrees_iff_oneLine : Language.blockStyle .javascript = .braces ∧
    ∃ spans, (∀ spans', Delimits .javascript oneLine (StopsBraced OpenedWithin oneLine) 0 spans' ↔
        spans' = spans) ∧
      ¬ (functionSpans .javascript oneLine = spans) := by
  obtain ⟨_, spans, hspans, hiff⟩ := braced_agrees_iff (l := .javascript) rfl oneLine
  refine ⟨rfl, spans, hspans, fun heq => ?_⟩
  obtain rfl := (hspans _).mp oneLine_delimits
  -- The first function has the first line alone, where its braces are closed at the end.
  obtain ⟨m, _, hlt, hopen⟩ := hiff.mp heq ⟨"one", 0, 1, 1⟩ (by decide)
  obtain rfl : m = 0 := Nat.lt_one_iff.mp hlt
  exact absurd hopen (by decide)

end Assay
