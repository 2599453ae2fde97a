import Mathlib.Data.Int.Log
import Mathlib.Data.Rat.Floor
import Mathlib.Tactic.FieldSimp
import Mathlib.Tactic.Linarith
import Mathlib.Tactic.Positivity

/-! Arithmetic in doubles: what is exact is rounded to the nearest of them. The largest double is
not a bound. -/
namespace Binary64

/-- The nearest whole number, and the even one of two. -/
def nearest (x : ℚ) : ℤ :=
  if 2 * (x - ⌊x⌋) < 1 then ⌊x⌋
  else if 1 < 2 * (x - ⌊x⌋) then ⌊x⌋ + 1
  else if ⌊x⌋ % 2 = 0 then ⌊x⌋ else ⌊x⌋ + 1

/-- How far the doubles around `x` are apart. -/
def ulp (x : ℚ) : ℚ := 2 ^ max (Int.log 2 |x| - 52) (-1074)

def toDouble (x : ℚ) : ℚ := nearest (x / ulp x) * ulp x

theorem ulp_pos (x : ℚ) : 0 < ulp x := zpow_pos (by norm_num) _

@[simp] theorem nearest_intCast (n : ℤ) : nearest n = n := by
  unfold nearest
  rw [Int.floor_intCast, sub_self, mul_zero, if_pos one_pos]

theorem abs_nearest_sub_le (x : ℚ) : |(nearest x : ℚ) - x| ≤ 1 / 2 := by
  have hlo := Int.floor_le x
  have hhi := Int.lt_floor_add_one x
  unfold nearest
  split_ifs with hdown hup heven
  · rw [abs_le]
    constructor <;> linarith
  · push_cast
    rw [abs_le]
    constructor <;> linarith
  · rw [abs_le]
    constructor <;> linarith
  · push_cast
    rw [abs_le]
    constructor <;> linarith

/-- A double is half a place away at most. -/
theorem abs_toDouble_sub_le (x : ℚ) : |toDouble x - x| ≤ ulp x / 2 := by
  have hu := ulp_pos x
  have hscale : toDouble x - x = (nearest (x / ulp x) - x / ulp x) * ulp x := by
    unfold toDouble
    rw [sub_mul, div_mul_cancel₀ x hu.ne']
  rw [hscale, abs_mul, abs_of_pos hu]
  have hnear := mul_le_mul_of_nonneg_right (abs_nearest_sub_le (x / ulp x)) hu.le
  linarith

theorem toDouble_zero : toDouble 0 = 0 := by
  have hzero : nearest 0 = 0 := nearest_intCast 0
  simp [toDouble, hzero]

/-- The doubles around a number are `2 ^ 52` times closer to each other than it is to zero, but for
the tiny ones. -/
theorem ulp_le {x : ℚ} (hx : x ≠ 0) : ulp x ≤ |x| / 2 ^ 52 + 2 ^ (-1074 : ℤ) := by
  have hlog : (2 : ℚ) ^ Int.log 2 |x| ≤ |x| := Int.zpow_log_le_self (by norm_num) (abs_pos.mpr hx)
  have hplace : (2 : ℚ) ^ (Int.log 2 |x| - 52) ≤ |x| / 2 ^ 52 := by
    rw [zpow_sub₀ (by norm_num)]
    exact div_le_div_of_nonneg_right hlog (by positivity)
  have hmin : (0 : ℚ) < 2 ^ (-1074 : ℤ) := zpow_pos (by norm_num) _
  have hpart : 0 ≤ |x| / 2 ^ 52 := by positivity
  unfold ulp
  rcases max_choice (Int.log 2 |x| - 52) (-1074) with hmax | hmax
  · rw [hmax]
    linarith
  · rw [hmax]
    linarith

/-- A number changes by a part in `2 ^ 53` of itself at most, but for the tiny ones. -/
theorem abs_toDouble_sub_le_add (x : ℚ) :
    |toDouble x - x| ≤ |x| / 2 ^ 53 + 2 ^ (-1075 : ℤ) := by
  rcases eq_or_ne x 0 with rfl | hx
  · rw [toDouble_zero, sub_zero, abs_zero, zero_div, zero_add]
    exact (zpow_pos (by norm_num) _).le
  · have hhalf : (2 : ℚ) ^ (-1074 : ℤ) / 2 = 2 ^ (-1075 : ℤ) := by
      rw [div_eq_iff (by norm_num), ← zpow_add_one₀ (by norm_num)]
      rfl
    calc |toDouble x - x| ≤ ulp x / 2 := abs_toDouble_sub_le x
      _ ≤ (|x| / 2 ^ 52 + 2 ^ (-1074 : ℤ)) / 2 := by linarith [ulp_le hx]
      _ = |x| / 2 ^ 53 + 2 ^ (-1075 : ℤ) := by
        rw [add_div, hhalf]
        ring

theorem abs_floor_sub_floor_le {x y : ℚ} (hxy : |x - y| < 1) : |⌊x⌋ - ⌊y⌋| ≤ 1 := by
  have hclose := abs_lt.mp hxy
  have hup : ⌊x⌋ < ⌊y⌋ + 2 := by
    have hcast : (⌊x⌋ : ℚ) < ⌊y⌋ + 2 := by linarith [Int.floor_le x, Int.lt_floor_add_one y]
    exact_mod_cast hcast
  have hdown : ⌊y⌋ < ⌊x⌋ + 2 := by
    have hcast : (⌊y⌋ : ℚ) < ⌊x⌋ + 2 := by linarith [Int.floor_le y, Int.lt_floor_add_one x]
    exact_mod_cast hcast
  rw [abs_le]
  omega

/-- Whole numbers below `2 ^ 53` are doubles. -/
theorem toDouble_intCast {n : ℤ} (hn : |n| < 2 ^ 53) : toDouble n = n := by
  rcases eq_or_ne n 0 with rfl | hne
  · exact toDouble_zero
  have hpos : 0 < |(n : ℚ)| := abs_pos.mpr (Int.cast_ne_zero.mpr hne)
  have hlog : Int.log 2 |(n : ℚ)| ≤ 52 := by
    have hlt : |(n : ℚ)| < ((2 : ℕ) : ℚ) ^ (53 : ℤ) := by exact_mod_cast hn
    have hexp := (Int.lt_zpow_iff_log_lt (by norm_num) hpos).mp hlt
    omega
  obtain ⟨k, hk⟩ : ∃ k : ℕ, max (Int.log 2 |(n : ℚ)| - 52) (-1074) = -k := by
    refine ⟨(-max (Int.log 2 |(n : ℚ)| - 52) (-1074)).toNat, ?_⟩
    omega
  have hulp : ulp n = (2 ^ k : ℚ)⁻¹ := by
    unfold ulp
    rw [hk, zpow_neg, zpow_natCast]
  have hscaled : (n : ℚ) / ulp n = ((n * 2 ^ k : ℤ) : ℚ) := by
    rw [hulp, div_inv_eq_mul]
    push_cast
    rfl
  unfold toDouble
  rw [hscaled, nearest_intCast, hulp]
  push_cast
  rw [mul_assoc, mul_inv_cancel₀ (by positivity), mul_one]

end Binary64
