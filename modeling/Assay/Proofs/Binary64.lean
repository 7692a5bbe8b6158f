import Mathlib.Algebra.Order.Field.Power
import Mathlib.Data.Rat.Floor
import Mathlib.Tactic.FieldSimp
import Mathlib.Tactic.Linarith
import Mathlib.Tactic.Ring
import Assay.Binary64

/-!
# Bounds on rounded numbers

Rounding to the nearest float never leaves an interval whose ends lie on the grid of floats.

* `halfEven_le`, `le_halfEven`: rounding to an integer stays on the same side of every integer;
* `twoPow_exponent_le`, `lt_twoPow_exponent`: the exponent of a number is that of the powers of two
  around it;
* `nearest_le`: a number that is at most a coarse enough dyadic rounds to at most that;
* `nearest_nonneg`: no sign is lost;
* `nearest_dyadic`: a dyadic of 53 digits is a float itself;
* `nearest_mono`: rounding keeps the order of numbers;
* `le_nearest_of_gap`, `nearest_le_of_gap`: rounding does not bridge a gap;
* `abs_halfEven_sub_le`, `abs_nearest_sub_le`: how far a rounded number is off.
-/

namespace Assay

/-! ## Rounding to an integer -/

/-- It is the integer below or the one above, whichever is no further. -/
theorem halfEven_cases (q : ℚ) :
    (halfEven q = q.floor ∧ q - q.floor ≤ 1 / 2) ∨
      (halfEven q = q.floor + 1 ∧ 1 / 2 ≤ q - q.floor) := by
  unfold halfEven
  dsimp only
  split
  · rename_i hbelow
    exact .inl ⟨rfl, le_of_lt hbelow⟩
  · rename_i hbelow
    split
    · rename_i habove
      exact .inr ⟨rfl, le_of_lt habove⟩
    · -- In the middle it is the even one.
      rename_i habove
      have hmiddle : q - q.floor = 1 / 2 := le_antisymm (not_lt.mp habove) (not_lt.mp hbelow)
      split
      · exact .inl ⟨rfl, le_of_eq hmiddle⟩
      · exact .inr ⟨rfl, ge_of_eq hmiddle⟩

theorem floor_le_halfEven (q : ℚ) : q.floor ≤ halfEven q := by
  rcases halfEven_cases q with ⟨heq, _⟩ | ⟨heq, _⟩
  · exact ge_of_eq heq
  · omega

theorem halfEven_le_floor_add_one (q : ℚ) : halfEven q ≤ q.floor + 1 := by
  rcases halfEven_cases q with ⟨heq, _⟩ | ⟨heq, _⟩
  · omega
  · exact le_of_eq heq

@[simp]
theorem halfEven_intCast (n : ℤ) : halfEven (n : ℚ) = n := by
  simp [halfEven, Rat.floor_intCast]

theorem le_halfEven {q : ℚ} {n : ℤ} (h : (n : ℚ) ≤ q) : n ≤ halfEven q :=
  le_trans (Rat.le_floor_iff.mpr h) (floor_le_halfEven q)

theorem halfEven_le {q : ℚ} {n : ℤ} (h : q ≤ n) : halfEven q ≤ n := by
  rcases eq_or_lt_of_le h with rfl | hlt
  · exact le_of_eq (halfEven_intCast n)
  · have hf := Rat.floor_lt_iff.mpr hlt
    have := halfEven_le_floor_add_one q
    omega

theorem halfEven_mono {p q : ℚ} (h : p ≤ q) : halfEven p ≤ halfEven q := by
  rcases lt_or_eq_of_le (Rat.floor_monotone h) with hlt | heq
  · have hp := halfEven_le_floor_add_one p
    have hq := floor_le_halfEven q
    omega
  · rcases halfEven_cases p with ⟨hp, _⟩ | ⟨hp, hhigh⟩
    · rw [hp, heq]
      exact floor_le_halfEven q
    · rcases halfEven_cases q with ⟨_, hlow⟩ | ⟨hq, _⟩
      · -- Both are in the middle of the same two integers.
        rw [heq] at hhigh
        obtain rfl : p = q := by linarith
        exact le_refl _
      · rw [hp, hq, heq]

/-- The nearest integer is half of one off at most. -/
theorem abs_halfEven_sub_le (q : ℚ) : |(halfEven q : ℚ) - q| ≤ 1 / 2 := by
  have hlow : (q.floor : ℚ) ≤ q := Rat.le_floor_iff.mp (le_refl _)
  have hhigh : q < q.floor + 1 := by
    have := Rat.floor_lt_iff.mp (Int.lt_succ q.floor)
    push_cast at this
    exact this
  rw [abs_le]
  rcases halfEven_cases q with ⟨heq, _⟩ | ⟨heq, _⟩
  · rw [heq]
    constructor <;> linarith
  · rw [heq]
    push_cast
    constructor <;> linarith

namespace Binary64

/-! ## Powers of two -/

theorem twoPow_eq (e : ℤ) : twoPow e = (2 : ℚ) ^ e := by
  unfold twoPow
  split
  · rename_i h
    obtain ⟨n, rfl⟩ := Int.eq_ofNat_of_zero_le h
    simp
  · rename_i h
    obtain ⟨n, hn⟩ := Int.eq_ofNat_of_zero_le (show 0 ≤ -e by omega)
    obtain rfl : e = -n := by omega
    simp

theorem twoPow_pos (e : ℤ) : 0 < twoPow e := by
  rw [twoPow_eq]
  positivity

theorem twoPow_lt_iff {a b : ℤ} : twoPow a < twoPow b ↔ a < b := by
  rw [twoPow_eq, twoPow_eq]
  exact zpow_lt_zpow_iff_right₀ (by norm_num)

/-- The numerator and the denominator of a positive number tell its size up to a factor of two. -/
theorem log2_bounds {q : ℚ} (hq : 0 < q) :
    let e : ℤ := (Nat.log2 q.num.natAbs : ℤ) - (Nat.log2 q.den : ℤ)
    twoPow (e - 1) < q ∧ q < twoPow (e + 1) := by
  have hnum : 0 < q.num := Rat.num_pos.mpr hq
  have hn : q.num.natAbs ≠ 0 := by omega
  have hd : (0 : ℚ) < q.den := by exact_mod_cast q.den_pos
  have hqd : q * q.den = (q.num.natAbs : ℚ) := by
    rw [Rat.mul_den_eq_num, ← Int.cast_natCast, Int.natAbs_of_nonneg hnum.le]
  have hn1 : (2 : ℚ) ^ (q.num.natAbs.log2 : ℤ) ≤ q.num.natAbs := by
    exact_mod_cast Nat.log2_self_le hn
  have hn2 : (q.num.natAbs : ℚ) < 2 ^ (q.num.natAbs.log2 + 1 : ℤ) := by
    exact_mod_cast Nat.lt_log2_self (n := q.num.natAbs)
  have hd1 : (2 : ℚ) ^ (q.den.log2 : ℤ) ≤ q.den := by
    exact_mod_cast Nat.log2_self_le q.den_pos.ne'
  have hd2 : (q.den : ℚ) < 2 ^ (q.den.log2 + 1 : ℤ) := by
    exact_mod_cast Nat.lt_log2_self (n := q.den)
  dsimp only
  generalize (q.num.natAbs.log2 : ℤ) = a at *
  generalize (q.den.log2 : ℤ) = b at *
  rw [twoPow_eq, twoPow_eq]
  constructor
  · refine lt_of_mul_lt_mul_right ?_ hd.le
    calc (2 : ℚ) ^ (a - b - 1) * q.den < 2 ^ (a - b - 1) * 2 ^ (b + 1) := by
          exact mul_lt_mul_of_pos_left hd2 (by positivity)
      _ = 2 ^ a := by rw [← zpow_add₀ (by norm_num)]; congr 1; omega
      _ ≤ q * q.den := by rw [hqd]; exact hn1
  · refine lt_of_mul_lt_mul_right ?_ hd.le
    calc q * q.den < 2 ^ (a + 1) := by rw [hqd]; exact hn2
      _ = 2 ^ (a - b + 1) * 2 ^ b := by rw [← zpow_add₀ (by norm_num)]; congr 1; omega
      _ ≤ 2 ^ (a - b + 1) * q.den := mul_le_mul_of_nonneg_left hd1 (by positivity)

theorem twoPow_exponent_le {q : ℚ} (hq : 0 < q) : twoPow (exponent q) ≤ q := by
  obtain ⟨hlo, _⟩ := log2_bounds hq
  unfold exponent
  dsimp only
  split
  · exact hlo.le
  · exact not_lt.mp ‹_›

theorem lt_twoPow_exponent {q : ℚ} (hq : 0 < q) : q < twoPow (exponent q + 1) := by
  obtain ⟨_, hhi⟩ := log2_bounds hq
  unfold exponent
  dsimp only
  split
  · rwa [sub_add_cancel]
  · exact hhi

theorem ulp_pos (q : ℚ) : 0 < ulp q := twoPow_pos _

/-! ## Rounding to a float -/

theorem roundPos_nonneg {q : ℚ} (h : 0 ≤ q) : 0 ≤ roundPos q := by
  have hn : 0 ≤ halfEven (q / ulp q) :=
    le_halfEven (by simpa using div_nonneg h (ulp_pos q).le)
  exact mul_nonneg (by exact_mod_cast hn) (ulp_pos q).le

/-- Rounding stays below every multiple of the unit in the last place. -/
theorem roundPos_le {q : ℚ} {n : ℤ} (h : q ≤ n * ulp q) : roundPos q ≤ n * ulp q := by
  have hn : halfEven (q / ulp q) ≤ n := halfEven_le ((div_le_iff₀ (ulp_pos q)).mpr h)
  exact mul_le_mul_of_nonneg_right (by exact_mod_cast hn) (ulp_pos q).le

/-- A dyadic is a multiple of the unit in the last place of every number of fewer places. -/
theorem dyadic_eq_mul_ulp {q : ℚ} {j : ℕ} (m : ℤ) (hj : j ≤ 1074) (hq : 0 < q)
    (hsize : q < twoPow (53 - j)) : ∃ n : ℤ, (m / 2 ^ j : ℚ) = n * ulp q := by
  have he : exponent q < 53 - j :=
    twoPow_lt_iff.mp (lt_of_le_of_lt (twoPow_exponent_le hq) hsize)
  obtain ⟨k, hk⟩ := Int.eq_ofNat_of_zero_le
    (show 0 ≤ -j - max (exponent q - 52) (-1074) by omega)
  refine ⟨m * 2 ^ k, ?_⟩
  have hpow : (2 : ℚ) ^ (k : ℤ) * 2 ^ max (exponent q - 52) (-1074) = 2 ^ (-(j : ℤ)) := by
    rw [← zpow_add₀ (by norm_num), show (k : ℤ) + max (exponent q - 52) (-1074) = -j by omega]
  push_cast
  rw [ulp, twoPow_eq, mul_assoc, ← zpow_natCast (2 : ℚ) k, hpow, zpow_neg, zpow_natCast,
    div_eq_mul_inv]

/-- A number that is at most `m / 2 ^ j` rounds to at most that, where floats of its size have `j`
binary places. -/
theorem nearest_le {q : ℚ} {m : ℤ} {j : ℕ} (hm : 0 ≤ m) (hj : j ≤ 1074) (h : q ≤ m / 2 ^ j)
    (hsize : q < twoPow (53 - j)) : nearest q ≤ m / 2 ^ j := by
  unfold nearest
  split
  · rename_i hq
    obtain ⟨n, hn⟩ := dyadic_eq_mul_ulp m hj hq hsize
    rw [hn] at h ⊢
    exact roundPos_le h
  · have hr : (0 : ℚ) ≤ m / 2 ^ j := by positivity
    split
    · rename_i hq
      have := roundPos_nonneg (show 0 ≤ -q by linarith)
      linarith
    · exact hr

theorem nearest_nonneg {q : ℚ} (h : 0 ≤ q) : 0 ≤ nearest q := by
  unfold nearest
  split
  · exact roundPos_nonneg h
  · rw [if_neg (not_lt.mpr h)]

theorem nearest_neg (q : ℚ) : nearest (-q) = -nearest q := by
  unfold nearest
  rcases lt_trichotomy q 0 with hq | rfl | hq
  · rw [if_pos (by linarith), if_neg (by linarith), if_pos hq, neg_neg]
  · simp
  · rw [if_neg (by linarith), if_pos (by linarith), if_pos hq, neg_neg]

/-! ## Numbers that are floats -/

theorem roundPos_eq_self {q : ℚ} {n : ℤ} (h : q = n * ulp q) : roundPos q = q := by
  have hdiv : q / ulp q = n := by
    rw [div_eq_iff (ulp_pos q).ne']
    exact h
  rw [roundPos, hdiv, halfEven_intCast, ← h]

theorem nearest_dyadic_pos {m : ℤ} {j : ℕ} (hm : 0 < m) (hsize : m < 2 ^ 53) (hj : j ≤ 1074) :
    nearest (m / 2 ^ j : ℚ) = m / 2 ^ j := by
  have hpos : (0 : ℚ) < m / 2 ^ j := by
    have : (0 : ℚ) < m := by exact_mod_cast hm
    positivity
  have hlt : (m / 2 ^ j : ℚ) < twoPow (53 - j) := by
    have hsize : (m : ℚ) < 2 ^ 53 := by exact_mod_cast hsize
    rw [twoPow_eq, zpow_sub₀ (by norm_num), zpow_natCast]
    exact div_lt_div_of_pos_right (by exact_mod_cast hsize) (by positivity)
  obtain ⟨n, hn⟩ := dyadic_eq_mul_ulp m hj hpos hlt
  rw [nearest, if_pos hpos]
  exact roundPos_eq_self hn

/-- A dyadic whose numerator has 53 digits at most is a float. -/
theorem nearest_dyadic {m : ℤ} {j : ℕ} (hm : |m| < 2 ^ 53) (hj : j ≤ 1074) :
    nearest (m / 2 ^ j : ℚ) = m / 2 ^ j := by
  obtain ⟨hlow, hhigh⟩ := abs_lt.mp hm
  rcases lt_trichotomy m 0 with hneg | rfl | hpos
  · have h := nearest_dyadic_pos (show 0 < -m by omega) (by omega) hj
    push_cast at h
    rw [neg_div, nearest_neg] at h
    exact neg_inj.mp h
  · simp [nearest]
  · exact nearest_dyadic_pos hpos hhigh hj

theorem nearest_intCast {n : ℤ} (hn : |n| < 2 ^ 53) : nearest (n : ℚ) = n := by
  have h := nearest_dyadic (j := 0) hn (by omega)
  simpa using h

/-! ## Order -/

theorem le_roundPos {q : ℚ} {n : ℤ} (h : n * ulp q ≤ q) : n * ulp q ≤ roundPos q := by
  have hn : n ≤ halfEven (q / ulp q) := le_halfEven ((le_div_iff₀ (ulp_pos q)).mpr h)
  exact mul_le_mul_of_nonneg_right (by exact_mod_cast hn) (ulp_pos q).le

/-- A power of two is a multiple of every unit that is no larger. -/
theorem twoPow_eq_mul_ulp {q : ℚ} {a : ℤ} (h : max (exponent q - 52) (-1074) ≤ a) :
    ∃ n : ℤ, twoPow a = n * ulp q := by
  obtain ⟨k, hk⟩ := Int.eq_ofNat_of_zero_le (sub_nonneg.mpr h)
  refine ⟨2 ^ k, ?_⟩
  push_cast
  rw [ulp, twoPow_eq, twoPow_eq, ← zpow_natCast (2 : ℚ) k, ← zpow_add₀ (by norm_num), ← hk,
    sub_add_cancel]

/-- Numbers with one unit are rounded on one grid; of two with different units, the power of two
that the greater one starts from stands between what they are rounded to. -/
theorem roundPos_mono {p q : ℚ} (hp : 0 < p) (h : p ≤ q) : roundPos p ≤ roundPos q := by
  have hq : 0 < q := lt_of_lt_of_le hp h
  have hexp : exponent p < exponent q + 1 :=
    twoPow_lt_iff.mp (lt_of_le_of_lt (twoPow_exponent_le hp) (lt_of_le_of_lt h
      (lt_twoPow_exponent hq)))
  by_cases hsame : max (exponent p - 52) (-1074) = max (exponent q - 52) (-1074)
  · have hulp : ulp p = ulp q := by rw [ulp, ulp, hsame]
    have hle : p / ulp q ≤ q / ulp q := div_le_div_of_nonneg_right h (ulp_pos q).le
    rw [roundPos, roundPos, hulp]
    exact mul_le_mul_of_nonneg_right (by exact_mod_cast halfEven_mono hle) (ulp_pos q).le
  · obtain ⟨m, hm⟩ := twoPow_eq_mul_ulp (q := p) (a := exponent q) (by omega)
    obtain ⟨n, hn⟩ := twoPow_eq_mul_ulp (q := q) (a := exponent q) (by omega)
    have hbelow : p ≤ twoPow (exponent q) := by
      have hlt := lt_twoPow_exponent hp
      rcases lt_or_eq_of_le (show exponent p + 1 ≤ exponent q by omega) with hlow | heq
      · exact (hlt.trans (twoPow_lt_iff.mpr hlow)).le
      · rw [heq] at hlt
        exact hlt.le
    calc roundPos p ≤ twoPow (exponent q) := by
          rw [hm] at hbelow ⊢
          exact roundPos_le hbelow
      _ ≤ roundPos q := by
          have habove := twoPow_exponent_le hq
          rw [hn] at habove ⊢
          exact le_roundPos habove

theorem nearest_nonpos {q : ℚ} (h : q ≤ 0) : nearest q ≤ 0 := by
  have hneg := nearest_nonneg (show 0 ≤ -q by linarith)
  rw [nearest_neg] at hneg
  linarith

/-- Rounding keeps the order of numbers. -/
theorem nearest_mono {p q : ℚ} (h : p ≤ q) : nearest p ≤ nearest q := by
  rcases lt_or_ge 0 p with hp | hp
  · have hq : 0 < q := lt_of_lt_of_le hp h
    rw [nearest, nearest, if_pos hp, if_pos hq]
    exact roundPos_mono hp h
  · rcases lt_or_ge q 0 with hq | hq
    · have hpos := roundPos_mono (show 0 < -q by linarith) (show -q ≤ -p by linarith)
      have hp : p < 0 := lt_of_le_of_lt h hq
      rw [nearest, nearest, if_neg (by linarith), if_pos hp, if_neg (by linarith), if_pos hq]
      linarith
    · exact (nearest_nonpos hp).trans (nearest_nonneg hq)

/-- A number of moderate size that is well below another stays below what that is rounded to: there
is a float in the gap. -/
theorem le_nearest_of_gap {x q : ℚ} (hx : |x| ≤ 2 ^ 8) (h : x + 1 / 2 ^ 44 ≤ q) :
    x ≤ nearest q := by
  obtain ⟨hlow, hhigh⟩ := abs_le.mp hx
  have hceil := Int.le_ceil (x * 2 ^ 44)
  have hlt := Int.ceil_lt_add_one (x * 2 ^ 44)
  have hsize : |⌈x * 2 ^ 44⌉| < 2 ^ 53 := by
    rw [abs_lt]
    constructor
    · have : (-2 ^ 53 : ℚ) < ⌈x * 2 ^ 44⌉ := by linarith
      exact_mod_cast this
    · have : (⌈x * 2 ^ 44⌉ : ℚ) < 2 ^ 53 := by linarith
      exact_mod_cast this
  calc x ≤ ⌈x * 2 ^ 44⌉ / 2 ^ 44 := by
        rw [le_div_iff₀ (by norm_num)]
        exact hceil
    _ = nearest (⌈x * 2 ^ 44⌉ / 2 ^ 44) := (nearest_dyadic hsize (by omega)).symm
    _ ≤ nearest q := by
        apply nearest_mono
        rw [div_le_iff₀ (by norm_num)]
        linarith

theorem nearest_le_of_gap {x q : ℚ} (hx : |x| ≤ 2 ^ 8) (h : q + 1 / 2 ^ 44 ≤ x) :
    nearest q ≤ x := by
  have hneg := le_nearest_of_gap (x := -x) (q := -q) (by rwa [abs_neg]) (by linarith)
  rw [nearest_neg] at hneg
  linarith

theorem divide_eq (a b : ℤ) : divide a b = nearest (a / b) := by
  rw [divide, Rat.mkRat_one, Rat.mkRat_one]

/-! ## How far a rounded number is off -/

theorem abs_roundPos_sub_le (q : ℚ) : |roundPos q - q| ≤ ulp q / 2 := by
  have hpos := ulp_pos q
  have hscaled : roundPos q - q = (halfEven (q / ulp q) - q / ulp q) * ulp q := by
    rw [roundPos, sub_mul, div_mul_cancel₀ q hpos.ne']
  calc |roundPos q - q| = |(halfEven (q / ulp q) : ℚ) - q / ulp q| * ulp q := by
        rw [hscaled, abs_mul, abs_of_pos hpos]
    _ ≤ 1 / 2 * ulp q := mul_le_mul_of_nonneg_right (abs_halfEven_sub_le _) hpos.le
    _ = ulp q / 2 := by ring

/-- Above the smallest numbers the unit in the last place has 52 digits before it. -/
theorem ulp_le {q : ℚ} (hq : twoPow (-1022) ≤ q) : ulp q ≤ q / 2 ^ 52 := by
  have hpos : 0 < q := lt_of_lt_of_le (twoPow_pos _) hq
  have hexp : -1022 < exponent q + 1 :=
    twoPow_lt_iff.mp (lt_of_le_of_lt hq (lt_twoPow_exponent hpos))
  have hunit : ulp q = twoPow (exponent q) / 2 ^ 52 := by
    rw [ulp, max_eq_left (by omega), twoPow_eq, twoPow_eq, zpow_sub₀ (by norm_num)]
    norm_num
  rw [hunit]
  exact div_le_div_of_nonneg_right (twoPow_exponent_le hpos) (by positivity)

/-- A float is off by one part in `2 ^ 53` at most, above the smallest numbers. -/
theorem abs_nearest_sub_le {q : ℚ} (hq : twoPow (-1022) ≤ q) : |nearest q - q| ≤ q / 2 ^ 53 := by
  have hpos : 0 < q := lt_of_lt_of_le (twoPow_pos _) hq
  rw [nearest, if_pos hpos]
  calc |roundPos q - q| ≤ ulp q / 2 := abs_roundPos_sub_le q
    _ ≤ q / 2 ^ 52 / 2 := div_le_div_of_nonneg_right (ulp_le hq) (by norm_num)
    _ = q / 2 ^ 53 := by ring

end Binary64

end Assay
