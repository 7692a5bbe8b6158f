import Mathlib.Order.Bounds.Basic
import Assay.Proofs.Detection.Extent
import Assay.Proofs.Detection.Reports

/-!
# How deep a file nests

The depth never falls below zero, and a line opens its level before it closes one. So the depth at a
line is no plain balance: it is the greatest balance of all runs of lines that end there.

* `levelBalance`, `rise`: the balance of a run of lines, before and at its last line;
* `depthAt`: the depth at a line, once it has opened its level;
* `depthAt_isGreatest`: what it is, told by the lines alone;
* `Nesting.Records`, `nesting_records`: the greatest depth is kept with the line that first has it;
* `told_nesting`: what a file is told of its nesting.
-/

namespace Assay.Complexity

variable {lines : List (List Char)} {n : Nat} {line : List Char}

/-! ## Balances -/

/-- How many lines from `a` up to `b` open a level, less those that close one. -/
def levelBalance (lines : List (List Char)) (a b : Nat) : Int :=
  (linesUpTo lines a b).countP opensLevel - (linesUpTo lines a b).countP closesLevel

/-- How many lines from `a` to `b` open a level, `b` among them, less those before `b` that close
one. -/
def rise (lines : List (List Char)) (a b : Nat) : Int :=
  (linesUpTo lines a (b + 1)).countP opensLevel - (linesUpTo lines a b).countP closesLevel

theorem levelBalance_self (lines : List (List Char)) (n : Nat) : levelBalance lines n n = 0 := by
  simp [levelBalance, linesUpTo_self]

theorem rise_eq {a : Nat} (hle : a ≤ n) (hline : lines[n]? = some line) :
    rise lines a n = levelBalance lines a n + (opensLevel line).toNat := by
  rw [rise, levelBalance, countP_linesUpTo_succ _ hle hline]
  omega

theorem levelBalance_succ {a : Nat} (hle : a ≤ n) (hline : lines[n]? = some line) :
    levelBalance lines a (n + 1) = rise lines a n - (closesLevel line).toNat := by
  rw [rise, levelBalance, countP_linesUpTo_succ closesLevel hle hline]
  omega

/-! ## One line -/

namespace Nesting

theorem enter_depth (s : Nesting) (n : Nat) (line : List Char) :
    (s.enter n line).depth = s.depth + (opensLevel line).toNat := by
  unfold enter
  cases opensLevel line with
  | true =>
    rw [if_pos rfl]
    split
    · rfl
    · rfl
  | false => rfl

theorem enter_deepest {s : Nesting} (h : s.depth ≤ s.deepest) (n : Nat) (line : List Char) :
    (s.enter n line).deepest = max s.deepest (s.enter n line).depth := by
  unfold enter
  split
  · split
    · exact (Nat.max_eq_right (by dsimp only; omega)).symm
    · exact (Nat.max_eq_left (by dsimp only; omega)).symm
  · exact (Nat.max_eq_left h).symm

theorem enter_line {s : Nesting} (h : s.depth ≤ s.deepest) (n : Nat) (line : List Char) :
    (s.enter n line).line = if s.deepest < (s.enter n line).depth then n else s.line := by
  unfold enter
  split
  · by_cases hdeeper : s.deepest < s.depth + 1
    · simp [hdeeper]
    · simp [hdeeper]
  · exact (if_neg (by omega)).symm

theorem leave_depth (s : Nesting) (line : List Char) :
    (s.leave line).depth = s.depth - (closesLevel line).toNat := by
  unfold leave
  cases closesLevel line with
  | true => rfl
  | false => rfl

theorem leave_deepest (s : Nesting) (line : List Char) :
    (s.leave line).deepest = s.deepest := by
  unfold leave
  split
  · rfl
  · rfl

theorem leave_line (s : Nesting) (line : List Char) : (s.leave line).line = s.line := by
  unfold leave
  split
  · rfl
  · rfl

theorem through_append (s : Nesting) (n : Nat) (above below : List (List Char)) :
    s.through n (above ++ below) = (s.through n above).through (n + above.length) below := by
  induction above generalizing s n with
  | nil => rfl
  | cons line above ih =>
    rw [List.cons_append, through, ih, List.length_cons, Nat.add_comm above.length, ← Nat.add_assoc]
    rfl

end Nesting

/-- The nesting before a line and after it. -/
theorem nesting_take_succ (hline : lines[n]? = some line) :
    nesting (lines.take (n + 1)) = ((nesting (lines.take n)).enter n line).leave line := by
  have hlt : n < lines.length := (List.getElem?_eq_some_iff.mp hline).1
  rw [List.take_add_one, hline, nesting, Nesting.through_append, List.length_take_of_le hlt.le,
    Nat.zero_add]
  rfl

/-! ## The depth at a line -/

/-- The depth at a line, once it has opened its level. -/
def depthAt (lines : List (List Char)) (n : Nat) : Nat :=
  ((nesting (lines.take n)).enter n (lines.getD n [])).depth

theorem depthAt_eq (hline : lines[n]? = some line) :
    depthAt lines n = (nesting (lines.take n)).depth + (opensLevel line).toNat := by
  rw [depthAt, Nesting.enter_depth, List.getD_eq_getElem?_getD, hline, Option.getD_some]

/-- What a line adds to the greatest balance before it, it adds to the balance of every run. -/
theorem isGreatest_rise (hline : lines[n]? = some line)
    (h : IsGreatest {w : Int | ∃ a ≤ n, w = levelBalance lines a n}
      (nesting (lines.take n)).depth) :
    IsGreatest {w : Int | ∃ a ≤ n, w = rise lines a n} (depthAt lines n) := by
  obtain ⟨⟨a, ha, hbalance⟩, hupper⟩ := h
  rw [depthAt_eq hline]
  push_cast
  constructor
  · refine ⟨a, ha, ?_⟩
    rw [rise_eq ha hline, hbalance]
  · rintro w ⟨a', ha', rfl⟩
    have hle := hupper ⟨a', ha', rfl⟩
    rw [rise_eq ha' hline]
    omega

/-- The depth before a line is the greatest balance of the lines before it; that of no line at all
is zero. -/
theorem isGreatest_levelBalance (hn : n ≤ lines.length) :
    IsGreatest {w : Int | ∃ a ≤ n, w = levelBalance lines a n} (nesting (lines.take n)).depth := by
  induction n with
  | zero =>
    constructor
    · exact ⟨0, Nat.le_refl 0, (levelBalance_self lines 0).symm⟩
    · rintro w ⟨a, ha, rfl⟩
      rw [Nat.le_zero.mp ha, levelBalance_self]
      exact Int.natCast_nonneg _
  | succ n ih =>
    have hline : lines[n]? = some lines[n] := List.getElem?_eq_getElem hn
    obtain ⟨⟨a, ha, hrise⟩, hupper⟩ := isGreatest_rise hline (ih (Nat.le_of_lt hn))
    have hdepth : (nesting (lines.take (n + 1))).depth =
        depthAt lines n - (closesLevel lines[n]).toNat := by
      rw [nesting_take_succ hline, Nesting.leave_depth, Nesting.enter_depth, depthAt_eq hline]
    rw [hdepth]
    constructor
    · -- Where the depth is kept from falling below zero, the run of no lines has the balance.
      by_cases hclamped : depthAt lines n < (closesLevel lines[n]).toNat
      · refine ⟨n + 1, Nat.le_refl _, ?_⟩
        rw [levelBalance_self]
        omega
      · refine ⟨a, Nat.le_succ_of_le ha, ?_⟩
        rw [levelBalance_succ ha hline, ← hrise]
        omega
    · rintro w ⟨a', ha', rfl⟩
      by_cases hlast : a' = n + 1
      · rw [hlast, levelBalance_self]
        exact Int.natCast_nonneg _
      · have ha' : a' ≤ n := by omega
        have hle := hupper ⟨a', ha', rfl⟩
        rw [levelBalance_succ ha' hline]
        omega

/-- The depth at a line is the greatest rise of all runs of lines that end there. -/
theorem depthAt_isGreatest (hn : n < lines.length) :
    IsGreatest {w : Int | ∃ a ≤ n, w = rise lines a n} (depthAt lines n) :=
  isGreatest_rise (List.getElem?_eq_getElem hn) (isGreatest_levelBalance (Nat.le_of_lt hn))

/-! ## The greatest depth -/

/-- The greatest depth at the lines before `n`, with the first line that has it. -/
structure Nesting.Records (lines : List (List Char)) (n : Nat) (s : Nesting) : Prop where
  le : s.depth ≤ s.deepest
  deepest : IsGreatest {d | d = 0 ∨ ∃ b < n, d = depthAt lines b} s.deepest
  line : 0 < s.deepest → IsLeast {b | b < n ∧ depthAt lines b = s.deepest} s.line

theorem Nesting.Records.depthAt_le {s : Nesting} (h : s.Records lines n) {b : Nat} (hb : b < n) :
    depthAt lines b ≤ s.deepest :=
  h.deepest.2 (Or.inr ⟨b, hb, rfl⟩)

theorem Nesting.Records.enter {s : Nesting} (h : s.Records lines n)
    (hdepth : (s.enter n line).depth = depthAt lines n) :
    (s.enter n line).Records lines (n + 1) := by
  have hdeepest := enter_deepest h.le n line
  have hline := enter_line h.le n line
  rw [hdepth] at hdeepest hline
  refine ⟨?_, ?_, ?_⟩
  · rw [hdepth, hdeepest]
    exact Nat.le_max_right _ _
  · rw [hdeepest]
    constructor
    · rcases Nat.le_total (depthAt lines n) s.deepest with hle | hle
      · rw [Nat.max_eq_left hle]
        exact h.deepest.1.imp_right fun ⟨b, hb, hd⟩ => ⟨b, Nat.lt_succ_of_lt hb, hd⟩
      · rw [Nat.max_eq_right hle]
        exact Or.inr ⟨n, Nat.lt_succ_self n, rfl⟩
    · rintro d (rfl | ⟨b, hb, rfl⟩)
      · exact Nat.zero_le _
      · by_cases hlast : b = n
        · rw [hlast]
          exact Nat.le_max_right _ _
        · exact Nat.le_trans (h.depthAt_le (by omega)) (Nat.le_max_left _ _)
  · intro hpos
    rw [hdeepest] at hpos ⊢
    rw [hline]
    by_cases hdeeper : s.deepest < depthAt lines n
    · rw [if_pos hdeeper, Nat.max_eq_right (Nat.le_of_lt hdeeper)]
      refine ⟨⟨Nat.lt_succ_self n, rfl⟩, ?_⟩
      rintro b ⟨_, hb⟩
      by_contra hlt
      have hbefore := h.depthAt_le (b := b) (by omega)
      omega
    · have hkept : max s.deepest (depthAt lines n) = s.deepest := Nat.max_eq_left (by omega)
      rw [hkept] at hpos ⊢
      rw [if_neg hdeeper]
      obtain ⟨⟨hlt, hat⟩, hfirst⟩ := h.line hpos
      refine ⟨⟨Nat.lt_succ_of_lt hlt, hat⟩, ?_⟩
      rintro b ⟨hb, hd⟩
      by_cases hlast : b = n
      · omega
      · exact hfirst ⟨by omega, hd⟩

theorem Nesting.Records.leave {s : Nesting} (h : s.Records lines n) (line : List Char) :
    (s.leave line).Records lines n := by
  have hdepth := s.leave_depth line
  refine ⟨?_, ?_, ?_⟩
  · have := h.le
    rw [leave_deepest]
    omega
  · rw [leave_deepest]
    exact h.deepest
  · rw [leave_deepest, leave_line]
    exact h.line

theorem nesting_records (hn : n ≤ lines.length) : (nesting (lines.take n)).Records lines n := by
  induction n with
  | zero =>
    refine ⟨Nat.le_refl 0, ⟨Or.inl rfl, ?_⟩, fun h => absurd h (Nat.lt_irrefl 0)⟩
    rintro d (rfl | ⟨b, hb, _⟩)
    · exact Nat.le_refl 0
    · exact absurd hb (Nat.not_lt_zero b)
  | succ n ih =>
    have hline : lines[n]? = some lines[n] := List.getElem?_eq_getElem hn
    rw [nesting_take_succ hline]
    refine ((ih (Nat.le_of_lt hn)).enter ?_).leave _
    rw [Nesting.enter_depth, depthAt_eq hline]

/-- The greatest depth of a file is the greatest rise of all runs of lines, or zero. -/
theorem nesting_isGreatest (lines : List (List Char)) :
    IsGreatest {w : Int | w = 0 ∨ ∃ a b, a ≤ b ∧ b < lines.length ∧ w = rise lines a b}
      (nesting lines).deepest := by
  have hrecords := (nesting_records (Nat.le_refl lines.length)).deepest
  rw [List.take_length] at hrecords
  obtain ⟨hmem, hupper⟩ := hrecords
  constructor
  · rcases hmem with hzero | ⟨b, hb, hd⟩
    · exact Or.inl (by rw [hzero]; rfl)
    · obtain ⟨a, ha, hrise⟩ := (depthAt_isGreatest hb).1
      exact Or.inr ⟨a, b, ha, hb, by rw [hd, hrise]⟩
  · rintro w (rfl | ⟨a, b, ha, hb, rfl⟩)
    · exact Int.natCast_nonneg _
    · have hrise := (depthAt_isGreatest hb).2 ⟨a, ha, rfl⟩
      have hdepth : depthAt lines b ≤ (nesting lines).deepest := hupper (Or.inr ⟨b, hb, rfl⟩)
      omega

/-! ## What is told -/

/-- **How deep a file nests.** The greatest depth `m` is the greatest number by which the lines of a
run that open a level exceed those before its last that close one, or zero. A file is told of it
exactly if it is more than four, and then once: at the first line whose depth is the greatest, as
severe if it is more than six. The depth at a line is the greatest number of that kind for a run that
ends there. -/
theorem told_nesting (u : SourceUnit) :
    ∃ m n : Nat,
      IsGreatest {w : Int | w = 0 ∨ ∃ a b, a ≤ b ∧ b < u.lines.length ∧ w = rise u.lines a b} m ∧
      (nesting u.lines).deepest = m ∧
      (∀ b < u.lines.length,
        IsGreatest {w : Int | ∃ a ≤ b, w = rise u.lines a b} (depthAt u.lines b)) ∧
      (4 < m → IsLeast {b | b < u.lines.length ∧ depthAt u.lines b = m} n) ∧
      told "Deep Nesting" (Detector.complexity.issues u) =
        if 4 < m then
          [(some ((n : Int) + 1), if 6 < m then .high else .medium,
            s!"Maximum nesting depth of {m} detected.")]
        else [] := by
  refine ⟨(nesting u.lines).deepest, (nesting u.lines).line, nesting_isGreatest u.lines, rfl,
    fun b hb => depthAt_isGreatest hb, ?_, ?_⟩
  · intro hdeep
    have hrecords := (nesting_records (Nat.le_refl u.lines.length)).line
    rw [List.take_length] at hrecords
    exact hrecords (by omega)
  · rw [Detector.issues, told_toIssues, Detector.findings, List.filter_append, List.filter_append,
      functionFindings_untitled (by decide) (by decide), nestingFindings_titled,
      parameterFindings_untitled (by decide), List.append_nil, List.nil_append, nestingFindings]
    split
    · simp [nestingRemark, severityAbove]
    · rfl

end Assay.Complexity
