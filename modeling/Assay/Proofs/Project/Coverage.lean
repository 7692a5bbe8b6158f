import Mathlib.Data.List.Infix
import Assay.Project.Coverage
import Assay.Proofs.Binary64

/-!
# Few tests or enough

The ratio of tests to other files, the threshold and the percentage are floats, and three tenths is
none. For less than `2 ^ 40` other files that does not show: a ratio that is no three tenths is too
far off to be taken for it, and a percentage that is off by more than a half is off by too much more
for rounding errors to be the cause.

* `isTestFile_iff`: a path that speaks of tests;
* `threshold_le_iff`: the cut is made at three tenths;
* `percent_off`: the percentage is a half off at most;
* `issues_exact`: what a project is told of its tests.
-/

namespace Assay

theorem Text.occursIn_iff_infix {part s : List Char} : occursIn part s = true ↔ part <:+: s := by
  induction s with
  | nil => simp [occursIn]
  | cons c rest ih =>
    rw [occursIn, Bool.or_eq_true, List.isPrefixOf_iff_prefix, ih, List.infix_cons_iff]

/-- One of two words stands in a path, in capitals or not. -/
def SpeaksOfTests (path : String) : Prop :=
  "test".toList <:+: Text.lower path.toList ∨ "spec".toList <:+: Text.lower path.toList

instance (path : String) : Decidable (SpeaksOfTests path) :=
  inferInstanceAs (Decidable (_ ∨ _))

theorem isTestFile_iff {path : String} : isTestFile path = true ↔ SpeaksOfTests path := by
  rw [isTestFile, Bool.or_eq_true, pathMentions, pathMentions, Text.occursIn_iff_infix,
    Text.occursIn_iff_infix, SpeaksOfTests]

namespace Coverage

open Binary64

/-- How many files speak of tests. -/
def testCount (units : List SourceUnit) : ℕ :=
  units.countP fun u => SpeaksOfTests u.path

/-- How many files do not. -/
def otherCount (units : List SourceUnit) : ℕ :=
  units.countP fun u => ¬ SpeaksOfTests u.path

theorem issues_eq (units : List SourceUnit) :
    issues units = (judge (testCount units) (otherCount units)).issues := by
  have htests : (units.countP fun u => isTestFile u.path) = testCount units :=
    List.countP_congr fun u _ => by rw [isTestFile_iff, decide_eq_true_eq]
  have hothers : (units.countP fun u => !isTestFile u.path) = otherCount units :=
    List.countP_congr fun u _ => by
      rw [Bool.not_eq_true', ← Bool.not_eq_true, isTestFile_iff, decide_eq_true_eq]
  rw [issues, htests, hothers]

section

variable {tests sources : ℕ}

/-! ## The ratio -/

/-- A ratio is none of the smallest numbers. -/
theorem twoPow_le_ratio (ht : 0 < tests) (hs : 0 < sources) (hsmall : sources < 2 ^ 40) :
    twoPow (-1022) ≤ (tests / sources : ℚ) := by
  have hpos : (0 : ℚ) < sources := by exact_mod_cast hs
  have hone : (1 : ℚ) ≤ tests := by exact_mod_cast ht
  have hsize : (sources : ℚ) ≤ 2 ^ 40 := by exact_mod_cast hsmall.le
  calc twoPow (-1022) ≤ twoPow (-40) := (twoPow_lt_iff.mpr (by norm_num)).le
    _ = 1 / 2 ^ 40 := by norm_num [twoPow_eq]
    _ ≤ 1 / sources := one_div_le_one_div_of_le hpos hsize
    _ ≤ tests / sources := div_le_div_of_nonneg_right hone hpos.le

theorem divide_natCast (tests sources : ℕ) :
    divide tests sources = nearest (tests / sources) := by
  rw [divide_eq, Int.cast_natCast, Int.cast_natCast]

theorem ratio_off (ht : 0 < tests) (hs : 0 < sources) (hsmall : sources < 2 ^ 40) :
    |divide tests sources - tests / sources| ≤ (tests / sources : ℚ) / 2 ^ 53 := by
  rw [divide_natCast]
  exact abs_nearest_sub_le (twoPow_le_ratio ht hs hsmall)

theorem threshold_off : |threshold - 3 / 10| ≤ 3 / 10 / 2 ^ 53 := by
  apply abs_nearest_sub_le
  calc twoPow (-1022) ≤ twoPow (-2) := (twoPow_lt_iff.mpr (by norm_num)).le
    _ ≤ 3 / 10 := by norm_num [twoPow_eq]

/-- A ratio below three tenths is so by a tenth of what its denominator divides at least. -/
theorem ratio_le_of_lt (hs : 0 < sources) (hsmall : sources < 2 ^ 40)
    (h : 10 * tests < 3 * sources) : (tests / sources : ℚ) ≤ 3 / 10 - 1 / (10 * 2 ^ 40) := by
  have hpos : (0 : ℚ) < sources := by exact_mod_cast hs
  have hsize : (sources : ℚ) ≤ 2 ^ 40 := by exact_mod_cast hsmall.le
  have hlt : (10 * tests + 1 : ℚ) ≤ 3 * sources := by exact_mod_cast h
  rw [div_le_iff₀ hpos]
  linarith

/-- **The cut is made at three tenths.** -/
theorem threshold_le_iff (ht : 0 < tests) (hs : 0 < sources) (hsmall : sources < 2 ^ 40) :
    threshold ≤ divide tests sources ↔ 3 * sources ≤ 10 * tests := by
  constructor
  · intro hle
    by_contra hfew
    have hratio := ratio_le_of_lt hs hsmall (Nat.lt_of_not_le hfew)
    obtain ⟨_, hhigh⟩ := abs_le.mp (ratio_off ht hs hsmall)
    obtain ⟨hlow, _⟩ := abs_le.mp threshold_off
    linarith
  · intro hmany
    have hpos : (0 : ℚ) < sources := by exact_mod_cast hs
    have hmany : (3 * sources : ℚ) ≤ 10 * tests := by exact_mod_cast hmany
    have hratio : (3 / 10 : ℚ) ≤ tests / sources := by
      rw [le_div_iff₀ hpos]
      linarith
    rw [divide_natCast]
    exact nearest_mono hratio

/-! ## The percentage -/

/-- An integer that is hardly more than a half off from a quotient is no more than a half off. -/
theorem abs_sub_le_half {p a : ℤ} (hs : 0 < sources) (hsmall : sources < 2 ^ 40)
    (h : |(p : ℚ) - a / sources| < 1 / 2 + 1 / 2 ^ 41) : |(p : ℚ) - a / sources| ≤ 1 / 2 := by
  have hpos : (0 : ℚ) < sources := by exact_mod_cast hs
  have hsize : (sources : ℚ) ≤ 2 ^ 40 := by exact_mod_cast hsmall.le
  have hdiv : |(p : ℚ) - a / sources| = (|p * sources - a| : ℤ) / sources := by
    push_cast
    rw [← abs_of_pos hpos, ← abs_div, abs_of_pos hpos, sub_div, mul_div_cancel_right₀ _ hpos.ne']
  rw [hdiv] at h ⊢
  rw [div_lt_iff₀ hpos] at h
  have hlt : (2 * |p * sources - a| : ℤ) < sources + 1 := by
    have : (2 * (|p * sources - a| : ℤ) : ℚ) < sources + 1 := by linarith
    exact_mod_cast this
  have hle : ((2 * |p * sources - a| : ℤ) : ℚ) ≤ sources := by
    exact_mod_cast Int.le_of_lt_add_one hlt
  rw [div_le_iff₀ hpos]
  push_cast at hle ⊢
  linarith

/-- The percentage is rounded three times and still no more than a half off. -/
theorem percent_off (ht : 0 < tests) (hfew : 10 * tests < 3 * sources)
    (hsmall : sources < 2 ^ 40) :
    |(percent (divide tests sources) : ℚ) - 100 * tests / sources| ≤ 1 / 2 := by
  have hs : 0 < sources := by omega
  have hratio := ratio_le_of_lt hs hsmall hfew
  have hnormal := twoPow_le_ratio ht hs hsmall
  obtain ⟨hlow, hhigh⟩ := abs_le.mp (ratio_off ht hs hsmall)
  have hscaled : twoPow (-1022) ≤ divide tests sources * 100 := by
    have := twoPow_pos (-1022)
    linarith
  obtain ⟨hlow', hhigh'⟩ := abs_le.mp (abs_nearest_sub_le hscaled)
  obtain ⟨hlow'', hhigh''⟩ := abs_le.mp (abs_halfEven_sub_le (nearest (divide tests sources * 100)))
  have hexact : (100 * tests / sources : ℚ) = 100 * (tests / sources) := mul_div_assoc _ _ _
  have hnear : |(percent (divide tests sources) : ℚ) - (100 * tests : ℤ) / sources| <
      1 / 2 + 1 / 2 ^ 41 := by
    push_cast
    rw [hexact, percent, abs_lt]
    constructor <;> linarith
  have hhalf := abs_sub_le_half hs hsmall hnear
  push_cast at hhalf
  exact hhalf

/-- So it is none below zero and at most thirty. -/
theorem percent_mem (ht : 0 < tests) (hfew : 10 * tests < 3 * sources)
    (hsmall : sources < 2 ^ 40) :
    0 ≤ percent (divide tests sources) ∧ percent (divide tests sources) ≤ 30 := by
  have hpos : (0 : ℚ) < sources := by
    have : 0 < sources := by omega
    exact_mod_cast this
  have hfewer : (10 * tests : ℚ) < 3 * sources := by exact_mod_cast hfew
  have hzero : (0 : ℚ) ≤ 100 * tests / sources := by positivity
  have hthirty : (100 * tests / sources : ℚ) < 30 := by
    rw [div_lt_iff₀ hpos]
    linarith
  obtain ⟨hlow, hhigh⟩ := abs_le.mp (percent_off ht hfew hsmall)
  constructor
  · have : (-1 : ℚ) < percent (divide tests sources) := by linarith
    have : -1 < percent (divide tests sources) := by exact_mod_cast this
    omega
  · have : (percent (divide tests sources) : ℚ) < 31 := by linarith
    have : percent (divide tests sources) < 31 := by exact_mod_cast this
    omega

/-! ## The verdict -/

theorem judge_of_many (ht : 0 < tests) (hmany : sources = 0 ∨ 3 * sources ≤ 10 * tests)
    (hsmall : sources < 2 ^ 40) : judge tests sources = .enough := by
  rw [judge, if_neg ht.ne']
  by_cases hs : sources = 0
  · exact if_pos hs
  · rw [if_neg hs]
    exact if_pos ((threshold_le_iff ht (Nat.pos_of_ne_zero hs) hsmall).mpr (by omega))

theorem judge_of_few (ht : 0 < tests) (hfew : 10 * tests < 3 * sources)
    (hsmall : sources < 2 ^ 40) :
    judge tests sources = .low (percent (divide tests sources)) := by
  have hs : 0 < sources := by omega
  have hcut : ¬ threshold ≤ divide tests sources := by
    rw [threshold_le_iff ht hs hsmall]
    omega
  rw [judge, if_neg ht.ne', if_neg hs.ne']
  exact if_neg hcut

end

/-- **Few tests or enough.** A project is told that it has no tests exactly if no path speaks of
them, and nothing exactly if there are tests and no less than three for ten other files. Otherwise
it is told of a percentage, which is a half off at most and from zero to thirty. -/
theorem issues_exact (units : List SourceUnit) (hsmall : otherCount units < 2 ^ 40) :
    (issues units = [noTestsIssue] ↔ testCount units = 0) ∧
    (issues units = [] ↔ 0 < testCount units ∧
      (otherCount units = 0 ∨ 3 * otherCount units ≤ 10 * testCount units)) ∧
    (0 < testCount units → 10 * testCount units < 3 * otherCount units →
      ∃ p : ℤ, issues units = [lowIssue p] ∧
        (lowIssue p).description = s!"Only {p}% of source files have corresponding tests." ∧
        |(p : ℚ) - 100 * testCount units / otherCount units| ≤ 1 / 2 ∧ 0 ≤ p ∧ p ≤ 30) := by
  rw [issues_eq]
  rcases Nat.eq_zero_or_pos (testCount units) with hnone | ht
  · have hjudge : judge (testCount units) (otherCount units) = .noTests := by
      rw [judge, if_pos hnone]
    rw [hjudge]
    exact ⟨iff_of_true rfl hnone, iff_of_false (by simp [Verdict.issues]) (by omega), by omega⟩
  · by_cases hmany : otherCount units = 0 ∨ 3 * otherCount units ≤ 10 * testCount units
    · rw [judge_of_many ht hmany hsmall]
      exact ⟨iff_of_false (by simp [Verdict.issues]) ht.ne', iff_of_true rfl ⟨ht, hmany⟩, by omega⟩
    · have hfew : 10 * testCount units < 3 * otherCount units := by omega
      rw [judge_of_few ht hfew hsmall]
      refine ⟨iff_of_false (by simp [Verdict.issues, lowIssue, noTestsIssue]) ht.ne',
        iff_of_false (by simp [Verdict.issues]) fun h => hmany h.2, fun _ _ => ?_⟩
      exact ⟨_, rfl, rfl, percent_off ht hfew hsmall, percent_mem ht hfew hsmall⟩

/-- One file of nine speaks of tests: that is twelve and a half for a hundred others, and the even
neighbour is told. -/
theorem issues_exact_tie :
    let units := ("a.Test.js" :: List.replicate 8 "b.js").map fun path =>
      SourceUnit.mk path "x" .javascript (.bytes 1)
    otherCount units < 2 ^ 40 ∧ issues units = [lowIssue 12] ∧
      ∃ p : ℤ, issues units = [lowIssue p] ∧
        |(p : ℚ) - 100 * testCount units / otherCount units| ≤ 1 / 2 ∧ 0 ≤ p ∧ p ≤ 30 := by
  intro units
  have hsmall : otherCount units < 2 ^ 40 := by decide
  obtain ⟨_, _, hlow⟩ := issues_exact units hsmall
  obtain ⟨p, hp, _, hoff⟩ := hlow (by decide) (by decide)
  exact ⟨hsmall, by decide +kernel, p, hp, hoff⟩

end Coverage

end Assay
