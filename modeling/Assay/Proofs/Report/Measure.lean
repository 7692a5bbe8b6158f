import Assay.Proofs.Binary64
import Assay.Report.Measure

/-!
# The ranges of the headline metrics

Every metric is worked out in floats and kept in its range at one end only; rounding keeps it in
its range at the other.
-/

namespace Assay

open Binary64

/-- Every metric is in its range. -/
structure Metrics.InRange (m : Metrics) : Prop where
  complexity : 0 ≤ m.codeComplexity ∧ m.codeComplexity ≤ 10
  coverage : 0 ≤ m.testCoverage ∧ m.testCoverage ≤ 100
  duplication : 0 ≤ m.duplicationPercentage ∧ m.duplicationPercentage ≤ 50
  maintainability : 0 ≤ m.maintainabilityIndex ∧ m.maintainabilityIndex ≤ 100

theorem roundHalfUp_nonneg {q : ℚ} (h : 0 ≤ q) : 0 ≤ roundHalfUp q :=
  Rat.le_floor_iff.mpr (by exact_mod_cast nearest_nonneg (by linarith))

/-- Rounding never crosses an integer that floats can hold with a binary place to spare. -/
theorem roundHalfUp_le {q : ℚ} {m : ℤ} (hm : 0 ≤ m) (hsize : m < 2 ^ 51) (h : q ≤ m) :
    roundHalfUp q ≤ m := by
  have hs : (m : ℚ) < 2 ^ 51 := by exact_mod_cast hsize
  have hle : nearest (q + 1 / 2) ≤ ((2 * m + 1 : ℤ) : ℚ) / 2 ^ 1 := by
    apply nearest_le (by omega) (by omega)
    · push_cast
      linarith
    · rw [twoPow_eq]
      norm_num
      linarith
  have hlt : nearest (q + 1 / 2) < ((m + 1 : ℤ) : ℚ) := by
    push_cast at hle ⊢
    linarith
  have := Rat.floor_lt_iff.mpr hlt
  unfold roundHalfUp
  omega

theorem divide_nonneg {a b : ℤ} (ha : 0 ≤ a) (hb : 0 < b) : 0 ≤ divide a b := by
  apply nearest_nonneg
  rw [Rat.mkRat_one, Rat.mkRat_one]
  exact div_nonneg (by exact_mod_cast ha) (by exact_mod_cast hb.le)

theorem nearest_le_hundred {q : ℚ} (h : q ≤ 100) : nearest q ≤ 100 := by
  have hle : nearest q ≤ ((100 : ℤ) : ℚ) / 2 ^ 0 := by
    apply nearest_le (by norm_num) (by norm_num)
    · simpa using h
    · rw [twoPow_eq]
      norm_num
      linarith
  simpa using hle

theorem Metrics.ofCounts_inRange {files : ℤ} (hf : 0 < files) (count : IssueKind → Nat)
    (total : Nat) : (Metrics.ofCounts files count total).InRange := by
  have hc : 0 ≤ roundHalfUp (divide (10 * count .complexity) files) :=
    roundHalfUp_nonneg (divide_nonneg (by omega) hf)
  have ht : roundHalfUp (ofInteger (100 - 20 * count .testing)) ≤ 100 := by
    apply roundHalfUp_le (by norm_num) (by norm_num)
    apply nearest_le_hundred
    push_cast
    have : (0 : ℚ) ≤ count .testing := by positivity
    linarith
  have hd : 0 ≤ roundHalfUp (ofInteger (5 * count .duplication)) :=
    roundHalfUp_nonneg (nearest_nonneg (by positivity))
  have hm : roundHalfUp (nearest (100 - divide (10 * total) files)) ≤ 100 := by
    apply roundHalfUp_le (by norm_num) (by norm_num)
    apply nearest_le_hundred
    have : 0 ≤ divide (10 * total) files := divide_nonneg (by omega) hf
    linarith
  exact ⟨⟨le_min (by norm_num) hc, min_le_left _ _⟩, ⟨le_max_left _ _, max_le (by norm_num) ht⟩,
    ⟨le_min (by norm_num) hd, min_le_left _ _⟩, ⟨le_max_left _ _, max_le (by norm_num) hm⟩⟩

/-- Files have metrics, without a division by zero, and they are in range. -/
theorem Metrics.ofIssues_ok {files : ℤ} (hf : 0 < files) (issues : List Issue) :
    ∃ m, Metrics.ofIssues files issues = .ok m ∧ m.InRange := by
  unfold Metrics.ofIssues
  rw [if_neg hf.ne']
  exact ⟨_, rfl, Metrics.ofCounts_inRange hf _ _⟩

end Assay
