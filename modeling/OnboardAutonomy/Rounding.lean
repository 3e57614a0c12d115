import OnboardAutonomy.Binary64
import Mathlib.Tactic.FieldSimp
import Mathlib.Tactic.Linarith
import Mathlib.Tactic.Positivity

/-! Rounding to nearest: how far it moves a value, and that it leaves the integers of a `double` where they
are. -/

namespace OnboardAutonomy.Binary64

theorem roundHalfEven_intCast (n : ℤ) : roundHalfEven n = n := by
  rw [roundHalfEven, Int.floor_intCast, sub_self, if_pos (by norm_num)]

theorem abs_roundHalfEven_sub_le (x : ℚ) : |(roundHalfEven x : ℚ) - x| ≤ 1 / 2 := by
  have hlow := Int.floor_le x
  have hhigh := Int.lt_floor_add_one x
  rw [abs_le, roundHalfEven]
  split_ifs <;> push_cast <;> constructor <;> linarith

/-- The spacing of the values around this one. -/
def spacing (digits : ℤ) (x : ℚ) : ℚ := 2 ^ (Int.log 2 |x| + 1 - digits)

theorem spacing_pos (digits : ℤ) (x : ℚ) : 0 < spacing digits x := zpow_pos two_pos _

theorem nearestOn_eq {x : ℚ} (hx : x ≠ 0) (digits : ℤ) :
    nearestOn digits x = roundHalfEven (x / spacing digits x) * spacing digits x := if_neg hx

theorem spacing_le {x : ℚ} (hx : x ≠ 0) (digits : ℤ) : spacing digits x ≤ |x| * 2 ^ (1 - digits) := by
  have hlog : (2 : ℚ) ^ Int.log 2 |x| ≤ |x| := by
    exact_mod_cast Int.zpow_log_le_self (b := 2) one_lt_two (abs_pos.mpr hx)
  rw [spacing, add_sub_assoc, zpow_add₀ two_ne_zero]
  exact mul_le_mul_of_nonneg_right hlog (zpow_pos two_pos _).le

/-- A value is moved by half a spacing at most. -/
theorem abs_nearest_sub_le (x : ℚ) : |nearest x - x| ≤ |x| / 2 ^ 53 := by
  by_cases hx : x = 0
  · rw [hx, nearest, nearestOn, if_pos rfl]
    norm_num
  · have hpos := spacing_pos 53 x
    have hround := abs_roundHalfEven_sub_le (x / spacing 53 x)
    have hsplit : nearest x - x =
        (roundHalfEven (x / spacing 53 x) - x / spacing 53 x) * spacing 53 x := by
      rw [nearest, nearestOn_eq hx, sub_mul, div_mul_cancel₀ x hpos.ne']
    calc |nearest x - x|
        = |(roundHalfEven (x / spacing 53 x) : ℚ) - x / spacing 53 x| * spacing 53 x := by
          rw [hsplit, abs_mul, abs_of_pos hpos]
      _ ≤ 1 / 2 * (|x| * 2 ^ (1 - 53 : ℤ)) :=
          mul_le_mul hround (spacing_le hx 53) hpos.le (by norm_num)
      _ = |x| / 2 ^ 53 := by
          norm_num
          ring

/-- An integer of at most 53 bits is a `double`. -/
theorem nearest_natCast {n : ℕ} (h : n < 2 ^ 53) : nearest n = n := by
  by_cases hzero : (n : ℚ) = 0
  · rw [hzero, nearest, nearestOn, if_pos rfl]
  · have hlog : Int.log 2 |(n : ℚ)| < 53 := by
      rw [Nat.abs_cast, Int.log_natCast]
      exact_mod_cast Nat.log_lt_of_lt_pow (by exact_mod_cast hzero) h
    obtain ⟨k, hk⟩ := Int.le.dest (show Int.log 2 |(n : ℚ)| + 1 - 53 ≤ 0 by omega)
    have hspacing : spacing 53 n * 2 ^ k = 1 := by
      rw [spacing, ← zpow_natCast, ← zpow_add₀ two_ne_zero, hk, zpow_zero]
    have hdiv : (n : ℚ) / spacing 53 n = ((n * 2 ^ k : ℤ) : ℚ) := by
      rw [div_eq_iff (spacing_pos 53 _).ne']
      push_cast
      rw [mul_assoc, mul_comm _ (spacing 53 _), hspacing, mul_one]
    rw [nearest, nearestOn_eq hzero, hdiv, roundHalfEven_intCast]
    push_cast
    rw [mul_assoc, mul_comm _ (spacing 53 _), hspacing, mul_one]

end OnboardAutonomy.Binary64
