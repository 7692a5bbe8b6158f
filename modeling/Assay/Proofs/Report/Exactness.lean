import Assay.Proofs.Report.Measure
import Assay.Proofs.Report.Stability

/-!
# Metrics without rounding errors

The metrics and the score are worked out in floats, in different orders, and rounded to integers at
the end. As long as the counts have 32 bits at most, each comes out as if nothing had been rounded
before: what the last step gives depends only on where a quotient lies among the halves of odd
integers, and a quotient that is not on one of them is too far off to be carried there.

* `KeepsHalves`: a number that lies among the halves as an exact one does;
* `KeepsHalves.nearest`, `KeepsHalves.complement`: what the steps of a formula keep of that;
* `KeepsHalves.le_roundHalfUp_iff`: in the end both give the same integer;
* `keepsHalves_divide`, `keepsHalves_tenfold`: the quotients that metrics and score start from;
* `Report.metrics_exact`: the metrics by their formulas, and the score of a report.
-/

namespace Assay

open Binary64

/-! ## Quotients among the halves -/

section

variable {a f k : ℤ}

/-- A quotient below a half stays below it by half of what its denominator divides at least. -/
theorem quotient_below_half (hf : 0 < f) (hsmall : f < 2 ^ 32) (h : (a / f : ℚ) < k + 1 / 2) :
    (a / f : ℚ) ≤ k + 1 / 2 - 1 / 2 ^ 33 := by
  have hpos : (0 : ℚ) < f := by exact_mod_cast hf
  have hsmall : (f : ℚ) < 2 ^ 32 := by exact_mod_cast hsmall
  have hlt : 2 * a < (2 * k + 1) * f := by
    rw [div_lt_iff₀ hpos] at h
    have : (2 * a : ℚ) < (2 * k + 1) * f := by linarith
    exact_mod_cast this
  have hle : (2 * a + 1 : ℚ) ≤ (2 * k + 1) * f := by exact_mod_cast hlt
  rw [div_le_iff₀ hpos]
  have : (f : ℚ) / 2 ^ 33 ≤ 1 / 2 := by
    rw [div_le_iff₀ (by norm_num)]
    linarith
  linarith

theorem half_below_quotient (hf : 0 < f) (hsmall : f < 2 ^ 32) (h : (k + 1 / 2 : ℚ) < a / f) :
    (k + 1 / 2 + 1 / 2 ^ 33 : ℚ) ≤ a / f := by
  have hneg : ((-a : ℤ) / f : ℚ) < (-k - 1 : ℤ) + 1 / 2 := by
    push_cast
    rw [neg_div]
    linarith
  have hle := quotient_below_half hf hsmall hneg
  push_cast at hle
  rw [neg_div] at hle
  linarith

end

/-! ## Rounding near a half -/

section

variable {k : ℤ} {q : ℚ}

theorem nearest_half (hk : |k| < 2 ^ 51) : nearest (k + 1 / 2) = k + 1 / 2 := by
  have hsize : |2 * k + 1| < 2 ^ 53 := by
    rw [abs_lt] at hk ⊢
    omega
  have h := nearest_dyadic (j := 1) hsize (by omega)
  push_cast at h
  have heq : (2 * (k : ℚ) + 1) / 2 ^ 1 = k + 1 / 2 := by ring
  rwa [heq] at h

/-- There is a float just below a half. -/
theorem nearest_below_half (hk : 0 ≤ k) (hhigh : k < 100) (h : q ≤ k + 1 / 2 - 1 / 2 ^ 34) :
    nearest q ≤ k + 1 / 2 - 1 / 2 ^ 34 := by
  have hfloat : (k + 1 / 2 - 1 / 2 ^ 34 : ℚ) = ((2 * k + 1) * 2 ^ 33 - 1 : ℤ) / 2 ^ 34 := by
    push_cast
    ring
  have hmono := nearest_mono h
  rw [hfloat] at hmono ⊢
  rwa [nearest_dyadic (by rw [abs_lt]; omega) (by omega)] at hmono

theorem nearest_above_half (hk : 0 ≤ k) (hhigh : k < 100) (h : k + 1 / 2 + 1 / 2 ^ 34 ≤ q) :
    k + 1 / 2 + 1 / 2 ^ 34 ≤ nearest q := by
  have hfloat : (k + 1 / 2 + 1 / 2 ^ 34 : ℚ) = ((2 * k + 1) * 2 ^ 33 + 1 : ℤ) / 2 ^ 34 := by
    push_cast
    ring
  have hmono := nearest_mono h
  rw [hfloat] at hmono ⊢
  rwa [nearest_dyadic (by rw [abs_lt]; omega) (by omega)] at hmono

end

/-! ## Numbers among the halves -/

/-- A number lies among the halves between zero and a hundred as an exact one does: on a half if
that one is on it, and otherwise on the same side, at some distance. -/
structure KeepsHalves (exact q : ℚ) : Prop where
  at_half : ∀ k : ℤ, 0 ≤ k → k < 100 → exact = k + 1 / 2 → q = k + 1 / 2
  below : ∀ k : ℤ, 0 ≤ k → k < 100 → exact < k + 1 / 2 → q ≤ k + 1 / 2 - 1 / 2 ^ 34
  above : ∀ k : ℤ, 0 ≤ k → k < 100 → k + 1 / 2 < exact → k + 1 / 2 + 1 / 2 ^ 34 ≤ q

namespace KeepsHalves

variable {exact q : ℚ}

/-- Rounding keeps a number where it is among the halves. -/
theorem nearest (h : KeepsHalves exact q) : KeepsHalves exact (nearest q) where
  at_half k hk hhigh heq := by
    rw [h.at_half k hk hhigh heq]
    exact nearest_half (by rw [abs_lt]; omega)
  below k hk hhigh hlt := nearest_below_half hk hhigh (h.below k hk hhigh hlt)
  above k hk hhigh hlt := nearest_above_half hk hhigh (h.above k hk hhigh hlt)

/-- What is left of a hundred lies among the halves as well. -/
theorem complement (h : KeepsHalves exact q) : KeepsHalves (100 - exact) (100 - q) where
  at_half k hk hhigh heq := by
    have hq := h.at_half (99 - k) (by omega) (by omega) (by push_cast; linarith)
    push_cast at hq
    linarith
  below k hk hhigh hlt := by
    have hq := h.above (99 - k) (by omega) (by omega) (by push_cast; linarith)
    push_cast at hq
    linarith
  above k hk hhigh hlt := by
    have hq := h.below (99 - k) (by omega) (by omega) (by push_cast; linarith)
    push_cast at hq
    linarith

theorem half_le (h : KeepsHalves exact q) {k : ℤ} (hk : 0 ≤ k) (hhigh : k < 100)
    (hle : k + 1 / 2 ≤ exact) : k + 1 / 2 ≤ q := by
  rcases lt_or_eq_of_le hle with hlt | heq
  · have := h.above k hk hhigh hlt
    linarith
  · exact (h.at_half k hk hhigh heq.symm).ge

/-- Rounded to an integer, a number among the halves becomes what the exact one does. -/
theorem le_roundHalfUp_iff (h : KeepsHalves exact q) {k : ℤ} (hk : 0 < k) (hhigh : k ≤ 100) :
    k ≤ roundHalfUp q ↔ k ≤ ⌊exact + 1 / 2⌋ := by
  rw [Int.le_floor, roundHalfUp, Rat.le_floor_iff]
  have hlow : (0 : ℚ) < k := by exact_mod_cast hk
  have hhundred : (k : ℚ) ≤ 100 := by exact_mod_cast hhigh
  constructor
  · intro hround
    by_contra hexact
    have hbelow := h.below (k - 1) (by omega) (by omega) (by push_cast; linarith)
    push_cast at hbelow
    have hle : Binary64.nearest (q + 1 / 2) ≤ k - 1 / 2 ^ 35 := by
      apply nearest_le_of_gap
      · rw [abs_le]
        constructor <;> linarith
      · linarith
    linarith
  · intro hexact
    have hhalf := h.half_le (k := k - 1) (by omega) (by omega) (by push_cast; linarith)
    push_cast at hhalf
    have hmono := nearest_mono (show ((k : ℤ) : ℚ) ≤ q + 1 / 2 by linarith)
    rwa [nearest_intCast (by rw [abs_lt]; omega)] at hmono

end KeepsHalves

/-! ## The quotients of metrics and score -/

section

variable {a f : ℤ}

theorem keepsHalves_divide (a : ℤ) (hf : 0 < f) (hsmall : f < 2 ^ 32) :
    KeepsHalves (a / f) (divide a f) := by
  rw [divide_eq]
  apply KeepsHalves.nearest
  constructor
  · exact fun _ _ _ heq => heq
  · intro k _ _ hlt
    have := quotient_below_half hf hsmall hlt
    linarith
  · intro k _ _ hlt
    have := half_below_quotient hf hsmall hlt
    linarith

/-- A tenth of a half is no float, but ten times the float next to it is rounded to the half. -/
theorem nearest_tenth_half : ∀ k : Fin 100,
    nearest (nearest (mkRat (2 * k + 1) 20) * 10) = mkRat (2 * k + 1) 2 := by
  decide +kernel

theorem keepsHalves_tenfold (a : ℤ) (hf : 0 < f) (hsmall : f < 2 ^ 32) :
    KeepsHalves ((10 * a : ℤ) / f) (nearest (nearest (a / f) * 10)) := by
  have hten : (a / f : ℚ) * 10 = (10 * a : ℤ) / f := by
    push_cast
    ring
  have hbound : ∀ k : ℤ, 0 ≤ k → k < 100 → (0 : ℚ) ≤ k ∧ (k : ℚ) < 100 := by
    intro k hk hhigh
    exact ⟨by exact_mod_cast hk, by exact_mod_cast hhigh⟩
  constructor
  · intro k hk hhigh heq
    obtain ⟨n, rfl⟩ := Int.eq_ofNat_of_zero_le hk
    have htenth := nearest_tenth_half ⟨n, by omega⟩
    rw [← hten] at heq
    rw [Rat.mkRat_eq_div, Rat.mkRat_eq_div] at htenth
    push_cast at htenth heq ⊢
    rw [show (a / f : ℚ) = (2 * n + 1) / 20 by linarith, htenth]
    ring
  · intro k hk hhigh hlt
    obtain ⟨hlow, hhundred⟩ := hbound k hk hhigh
    have hbelow := quotient_below_half hf hsmall hlt
    have htenth : nearest (a / f) ≤ (k + 1 / 2 - 1 / 2 ^ 34) / 10 := by
      apply nearest_le_of_gap
      · rw [abs_le]
        constructor <;> linarith
      · linarith
    exact nearest_below_half hk hhigh (by linarith)
  · intro k hk hhigh hlt
    obtain ⟨hlow, hhundred⟩ := hbound k hk hhigh
    have habove := half_below_quotient hf hsmall hlt
    have htenth : (k + 1 / 2 + 1 / 2 ^ 34) / 10 ≤ nearest (a / f) := by
      apply le_nearest_of_gap
      · rw [abs_le]
        constructor <;> linarith
      · linarith
    exact nearest_above_half hk hhigh (by linarith)

end

/-! ## The last steps -/

/-- Integers that reach the same bounds are the same between them. -/
theorem clamp_eq {m n x y : ℤ} (h : ∀ k, m < k → k ≤ n → (k ≤ x ↔ k ≤ y)) :
    max m (min n x) = max m (min n y) := by
  apply le_antisymm
  · by_cases hlow : min n x ≤ m
    · omega
    · have := (h (min n x) (by omega) (by omega)).mp (by omega)
      omega
  · by_cases hlow : min n y ≤ m
    · omega
    · have := (h (min n y) (by omega) (by omega)).mpr (by omega)
      omega

theorem roundHalfUp_ofInteger {n : ℤ} (hn : |n| < 2 ^ 51) : roundHalfUp (ofInteger n) = n := by
  rw [roundHalfUp, ofInteger, nearest_intCast (by omega), nearest_half hn]
  apply le_antisymm
  · have : ((n : ℚ) + 1 / 2).floor < n + 1 := by
      rw [Rat.floor_lt_iff]
      push_cast
      linarith
    omega
  · rw [Rat.le_floor_iff]
    linarith

/-- Toward zero or down, a number is cut to the same integer if it is not below zero. -/
theorem max_truncate (q : ℚ) : max 0 (truncate q) = max 0 q.floor := by
  unfold truncate
  split
  · rfl
  · rename_i hq
    have hneg : 0 ≤ (-q).floor := Rat.le_floor_iff.mpr (by push_cast; linarith)
    have hfloor : q.floor < 0 := Rat.floor_lt_iff.mpr (by push_cast; linarith)
    omega

theorem round_eq_some {q : ℚ} (h : |q| ≤ 2 ^ 52) : Binary64.round q = some (nearest q) := by
  obtain ⟨hlow, hhigh⟩ := abs_le.mp h
  have hfloat : nearest (2 ^ 52) = 2 ^ 52 := by
    have hint := nearest_intCast (n := 2 ^ 52) (by norm_num)
    rwa [Int.cast_pow, Int.cast_ofNat] at hint
  have hover : (2 : ℚ) ^ 52 < overflow := by
    have hpow : twoPow 52 = 2 ^ 52 := twoPow_eq 52
    rw [← hpow]
    exact twoPow_lt_iff.mpr (by norm_num)
  have hle := nearest_mono hhigh
  have hge := nearest_mono hlow
  rw [nearest_neg] at hge
  rw [hfloat] at hle hge
  unfold Binary64.round
  dsimp only
  rw [if_pos]
  constructor
  · linarith
  · linarith

/-! ## The metrics and the score -/

section

variable {files : ℤ}

theorem codeComplexity_exact (hf : 0 < files) (hsmall : files < 2 ^ 32) (n : ℕ) :
    min 10 (roundHalfUp (divide (10 * n) files)) = min 10 ⌊(10 * n / files + 1 / 2 : ℚ)⌋ := by
  have hclamp := clamp_eq (m := 0) (n := 10) fun k hk hhigh =>
    (keepsHalves_divide (10 * n) hf hsmall).le_roundHalfUp_iff hk (by omega)
  have hfloat : 0 ≤ roundHalfUp (divide (10 * n) files) :=
    roundHalfUp_nonneg (divide_nonneg (by omega) hf)
  have hexact : 0 ≤ ⌊(10 * n / files + 1 / 2 : ℚ)⌋ := by
    have : (0 : ℚ) < files := by exact_mod_cast hf
    exact Int.floor_nonneg.mpr (by positivity)
  push_cast at hclamp
  omega

/-- What is left of a hundred comes out the same for every number among the halves. -/
theorem KeepsHalves.left_of_hundred {exact q : ℚ} (h : KeepsHalves exact q) (hexact : 0 ≤ exact)
    (hq : 0 ≤ q) :
    max 0 (roundHalfUp (Binary64.nearest (100 - q))) = max 0 ⌊100 - exact + 1 / 2⌋ := by
  have hclamp := clamp_eq (m := 0) (n := 100) fun k hk hhigh =>
    h.complement.nearest.le_roundHalfUp_iff hk hhigh
  have hround : roundHalfUp (Binary64.nearest (100 - q)) ≤ 100 :=
    roundHalfUp_le (by norm_num) (by norm_num) (nearest_le_hundred (by linarith))
  have hfloor : ⌊100 - exact + 1 / 2⌋ < 101 := Int.floor_lt.mpr (by push_cast; linarith)
  omega

theorem maintainabilityIndex_exact (hf : 0 < files) (hsmall : files < 2 ^ 32) (n : ℕ) :
    max 0 (roundHalfUp (nearest (100 - divide (10 * n) files))) =
      max 0 ⌊(100 - 10 * n / files + 1 / 2 : ℚ)⌋ := by
  have hpos : (0 : ℚ) < files := by exact_mod_cast hf
  have hkeeps := keepsHalves_divide (10 * n) hf hsmall
  push_cast at hkeeps
  exact hkeeps.left_of_hundred (by positivity) (divide_nonneg (by omega) hf)

/-- The score is rounded once more than the index, on its way through a float for the issues of a
file; that does not show. -/
theorem qualityScore_exact (hf : 0 < files) (hsmall : files < 2 ^ 32) {n : ℕ} (hn : n < 2 ^ 32) :
    qualityScore files n = .ok (max 0 ⌊(100 - 10 * n / files + 1 / 2 : ℚ)⌋) := by
  have hpos : (1 : ℚ) ≤ files := by exact_mod_cast hf
  have hsize : (n : ℚ) ≤ 2 ^ 32 := by exact_mod_cast hn.le
  have hquotient : (n / files : ℚ) ≤ 2 ^ 32 := (div_le_self (by positivity) hpos).trans hsize
  have hnonneg : (0 : ℚ) ≤ n / files := by positivity
  have hperFile : Binary64.round (n / files) = some (nearest (n / files)) := by
    apply round_eq_some
    rw [abs_of_nonneg hnonneg]
    linarith
  have hfloat : nearest (n / files) ≤ 2 ^ 32 := by
    have hint := nearest_intCast (n := 2 ^ 32) (by norm_num)
    rw [Int.cast_pow, Int.cast_ofNat] at hint
    exact (nearest_mono hquotient).trans hint.le
  have hfloat_nonneg : 0 ≤ nearest (n / files) := nearest_nonneg hnonneg
  have hten : Binary64.round (nearest (n / files) * 10) =
      some (nearest (nearest (n / files) * 10)) := by
    apply round_eq_some
    rw [abs_of_nonneg (by positivity)]
    linarith
  have hkeeps := keepsHalves_tenfold n hf hsmall
  push_cast at hkeeps
  have hscore := hkeeps.left_of_hundred (by positivity) (nearest_nonneg (by positivity))
  unfold qualityScore
  dsimp only
  rw [if_neg hf.ne', Rat.mkRat_one, Rat.mkRat_one, Int.cast_natCast, hperFile]
  dsimp only
  rw [hten]
  dsimp only
  rw [max_truncate]
  exact congrArg Except.ok hscore

end

theorem Metrics.ofIssues_exact {files : ℕ} {issues : List Issue} (hf : 0 < files)
    (hsmall : files < 2 ^ 32) (hn : issues.length < 2 ^ 32) :
    Metrics.ofIssues files issues = .ok
      { codeComplexity :=
          min 10 ⌊(10 * (issues.countP fun i => i.kind == .complexity) / files + 1 / 2 : ℚ)⌋
        testCoverage := max 0 (100 - 20 * (issues.countP fun i => i.kind == .testing))
        duplicationPercentage := min 50 (5 * (issues.countP fun i => i.kind == .duplication))
        maintainabilityIndex := max 0 ⌊(100 - 10 * issues.length / files + 1 / 2 : ℚ)⌋ } := by
  have hpos : (0 : ℤ) < files := by omega
  have hsmall : (files : ℤ) < 2 ^ 32 := by omega
  have hcount : ∀ k, (issues.countP fun i => i.kind == k) < 2 ^ 32 := fun k =>
    lt_of_le_of_lt List.countP_le_length hn
  have htesting := hcount .testing
  have hduplication := hcount .duplication
  have hcomplexity := codeComplexity_exact hpos hsmall (issues.countP fun i => i.kind == .complexity)
  have hindex := maintainabilityIndex_exact hpos hsmall issues.length
  push_cast at hcomplexity hindex
  unfold Metrics.ofIssues
  rw [if_neg hpos.ne', Metrics.ofCounts, hcomplexity, hindex,
    roundHalfUp_ofInteger (by rw [abs_lt]; omega), roundHalfUp_ofInteger (by rw [abs_lt]; omega)]

namespace Report

variable {units : List SourceUnit} {issues : List Issue} {timestamp : String} {r : Report}

theorem build_metrics (h : build units issues timestamp = .ok r) :
    Metrics.ofIssues units.length r.issues = .ok r.metrics := by
  obtain ⟨_, m, hm, rfl⟩ := build_eq_ok h
  exact hm

theorem build_length (h : build units issues timestamp = .ok r) :
    r.issues.length = issues.length := by
  rw [build_issues h, (prioritize_perm _).length_eq, (uniqueIds_same issues).length_eq]

/-- **Metrics by their formulas.** With less than 2³² files, and at least one, and less than 2³²
issues, the metrics are what exact arithmetic gives: ten points of complexity for every issue about
it and file, and ten points less than a hundred for every issue and file, a half rounded up; twenty
points less of coverage for every issue about tests, and five points of duplication for every issue
about that; each kept in its range. The score of a report is the index of its maintainability. -/
theorem metrics_exact {files : ℕ} {issues : List Issue} (hf : 1 ≤ files) (hsmall : files < 2 ^ 32)
    (hn : issues.length < 2 ^ 32) :
    Metrics.ofIssues files issues = .ok
      { codeComplexity :=
          min 10 ⌊(10 * (issues.countP fun i => i.kind == .complexity) / files + 1 / 2 : ℚ)⌋
        testCoverage := max 0 (100 - 20 * (issues.countP fun i => i.kind == .testing))
        duplicationPercentage := min 50 (5 * (issues.countP fun i => i.kind == .duplication))
        maintainabilityIndex := max 0 ⌊(100 - 10 * issues.length / files + 1 / 2 : ℚ)⌋ } ∧
    ∀ units timestamp r, units.length = files → build units issues timestamp = .ok r →
      r.score = .ok r.metrics.maintainabilityIndex := by
  refine ⟨Metrics.ofIssues_exact hf hsmall hn, ?_⟩
  rintro units timestamp r rfl hr
  have hlength := build_length hr
  obtain ⟨_, hsummary, _⟩ := build_made hr
  have hmetrics := Metrics.ofIssues_exact hf hsmall (hlength ▸ hn)
  have hpos : (0 : Int) < units.length := by omega
  have hbelow : (units.length : Int) < 2 ^ 32 := by omega
  have hscore := qualityScore_exact hpos hbelow (hlength ▸ hn)
  rw [build_metrics hr] at hmetrics
  rw [Except.ok.inj hmetrics, Report.score, hsummary]
  push_cast at hscore
  exact hscore

/-- Halves are rounded up: two and a half to a complexity of three, and what is left of a hundred to
ninety-eight. -/
theorem metrics_exact_halves :
    let u : SourceUnit := ⟨"a.js", "x", .javascript, .bytes 1⟩
    let i : Issue := ⟨"x", .complexity, .low, "", "", "a.js", none, "", "", .low⟩
    1 ≤ 4 ∧ 4 < 2 ^ 32 ∧ [i].length < 2 ^ 32 ∧
      Metrics.ofIssues 4 [i] = .ok ⟨3, 100, 0, 98⟩ ∧
      ∃ r, build (List.replicate 4 u) [i] "T" = .ok r ∧ r.score = .ok 98 := by
  intro u i
  have hfour : 1 ≤ 4 ∧ 4 < 2 ^ 32 := by omega
  have hone : [i].length < 2 ^ 32 := by decide
  obtain ⟨hexact, hscore⟩ := metrics_exact hfour.1 hfour.2 hone
  have hmetrics : Metrics.ofIssues 4 [i] = .ok ⟨3, 100, 0, 98⟩ := by
    refine hexact.trans ?_
    norm_num [i]
    decide
  have hunits : List.replicate 4 u ≠ [] := by simp
  have hplaced : ∀ j ∈ [i], j.Placed (List.replicate 4 u) := by simp [Issue.Placed, i, u]
  obtain ⟨r, hr, _⟩ := build_ok "T" hunits hplaced
  have hissues : r.issues = [i] := by
    rw [build_issues hr, uniqueIds_eq_self (by simp)]
    exact List.mergeSort_singleton i
  have hmade := build_metrics hr
  rw [hissues, List.length_replicate] at hmade
  have hindex : r.metrics = ⟨3, 100, 0, 98⟩ := Except.ok.inj (hmade.symm.trans hmetrics)
  refine ⟨hfour.1, hfour.2, hone, hmetrics, r, hr, ?_⟩
  rw [hscore _ _ r (by simp) hr, hindex]

end Report

end Assay
