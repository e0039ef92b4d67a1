import Mathlib.Algebra.Order.Ring.Abs
import Mathlib.Algebra.Order.Ring.Int
import Mathlib.Data.Rat.Cast.Order
import Mathlib.Tactic.FieldSimp
import Mathlib.Tactic.Linarith
import Mathlib.Tactic.Ring
import SlideFill.Number.Rounding

/-!
# Quotients rounded to integers

A rounded quotient is off by at most one half (`Rounding.halfEven_near`), and it is even if that leaves a choice. Nothing
else is (`Rounding.eq_halfEven`), so it does not matter how the quotient is given.
-/

namespace SlideFill

namespace Rounding

variable {num : Int} {den : Nat}

/-- Whether a quotient lies in the middle between two integers. -/
def IsTie (num : Int) (den : Nat) : Prop :=
  ∃ k : Int, 2 * num = (2 * k + 1) * den

/-- What is left of a division lies between zero and the divisor. -/
theorem fmod_bounds (num : Int) (hden : 0 < den) : 0 ≤ num.fmod den ∧ num.fmod den < den :=
  ⟨Int.fmod_nonneg_of_pos num (by omega), Int.fmod_lt_of_pos num (by omega)⟩

/-- A fraction lies in the middle of two whole numbers exactly if a half is left. -/
theorem isTie_iff (hden : 0 < den) : IsTie num den ↔ 2 * num.fmod den = den := by
  obtain ⟨hlo, hhi⟩ := fmod_bounds num hden
  have hdiv : den * num.fdiv den + num.fmod den = num := Int.mul_fdiv_add_fmod num den
  constructor
  · rintro ⟨k, hk⟩
    have hpos : (0 : Int) < den := by omega
    obtain ⟨j, hj⟩ : ∃ j, j = k - num.fdiv den := ⟨_, rfl⟩
    have hrest : 2 * num.fmod den = den + 2 * (den * j) := by
      rw [hj]
      linarith
    have hlow : 0 ≤ j := by
      by_contra hneg
      have hstep : (den : Int) * j ≤ den * -1 := mul_le_mul_of_nonneg_left (by omega) hpos.le
      linarith
    have hhigh : j ≤ 0 := by
      by_contra hbig
      have hstep : (den : Int) * 1 ≤ den * j := mul_le_mul_of_nonneg_left (by omega) hpos.le
      linarith
    rw [hrest, le_antisymm hhigh hlow]
    ring
  · intro h
    exact ⟨num.fdiv den, by linarith⟩

/-- A rounded quotient is off by at most one half. -/
theorem halfEven_near (num : Int) (hden : 0 < den) : |2 * (den * halfEven num den) - 2 * num| ≤ den := by
  obtain ⟨hlo, hhi⟩ := fmod_bounds num hden
  have hdiv : den * num.fdiv den + num.fmod den = num := Int.mul_fdiv_add_fmod num den
  rw [abs_le, halfEven]
  split_ifs with hbelow htie
  · constructor <;> linarith
  · constructor <;> linarith [htie.1]
  · rw [mul_add, mul_one]
    constructor <;> linarith

/-- The distance to a quotient, with and without a fraction. -/
theorem near_iff {n : Int} (hden : 0 < den) :
    |2 * (den * n) - 2 * num| ≤ den ↔ |(n : ℚ) - num / den| ≤ 1 / 2 := by
  have hpos : (0 : ℚ) < den := by exact_mod_cast hden
  have hscaled : ((2 * (den * n) - 2 * num : Int) : ℚ) = 2 * den * (n - num / den) := by
    push_cast
    field_simp
  have habs : |((2 * (den * n) - 2 * num : Int) : ℚ)| = 2 * den * |(n : ℚ) - num / den| := by
    rw [hscaled, abs_mul, abs_of_pos (by linarith)]
  have hcast : |2 * (den * n) - 2 * num| ≤ den ↔ |((2 * (den * n) - 2 * num : Int) : ℚ)| ≤ (den : Int) := by
    exact_mod_cast Iff.rfl
  rw [hcast, habs]
  constructor
  · intro h
    push_cast at h
    nlinarith
  · intro h
    push_cast
    nlinarith

/-- What is not negative is not rounded to a negative number. -/
theorem halfEven_nonneg (hnum : 0 ≤ num) (den : Nat) : 0 ≤ halfEven num den := by
  have hquot : 0 ≤ num.fdiv den := Int.fdiv_nonneg hnum (by omega)
  rw [halfEven]
  split_ifs <;> omega

/-- Of two integers that are equally near, a quotient is rounded to the even one. -/
theorem halfEven_even (hden : 0 < den) (h : IsTie num den) : halfEven num den % 2 = 0 := by
  rw [isTie_iff hden] at h
  rw [halfEven]
  split_ifs with hbelow htie
  · omega
  · exact htie.2
  · omega

/-- An integer that is as near as a rounded quotient is the whole part of the quotient or the next one. -/
theorem eq_of_near {n : Int} (hden : 0 < den) (hnear : |2 * (den * n) - 2 * num| ≤ den) :
    n = num.fdiv den ∧ 2 * num.fmod den ≤ den ∨ n = num.fdiv den + 1 ∧ den ≤ 2 * num.fmod den := by
  obtain ⟨hlo, hhi⟩ := fmod_bounds num hden
  have hpos : (0 : Int) < den := by omega
  obtain ⟨k, rfl⟩ : ∃ k, n = num.fdiv den + k := ⟨n - num.fdiv den, by ring⟩
  have hoff : |2 * (den * k) - 2 * num.fmod den| ≤ den := by
    have hdiv : den * num.fdiv den + num.fmod den = num := Int.mul_fdiv_add_fmod num den
    have hsame : 2 * (den * (num.fdiv den + k)) - 2 * num = 2 * (den * k) - 2 * num.fmod den := by linarith
    rwa [hsame] at hnear
  rw [abs_le] at hoff
  have hlow : 0 ≤ k := by
    by_contra hneg
    have hstep : den * k ≤ den * -1 := mul_le_mul_of_nonneg_left (by omega) hpos.le
    linarith
  have hhigh : k ≤ 1 := by
    by_contra hbig
    have hstep : (den : Int) * 2 ≤ den * k := mul_le_mul_of_nonneg_left (by omega) hpos.le
    linarith
  obtain rfl | rfl : k = 0 ∨ k = 1 := by omega
  · exact .inl ⟨by ring, by linarith⟩
  · exact .inr ⟨rfl, by linarith⟩

/-- Only the rounded quotient is as near to a quotient, and even if there are two integers that are. -/
theorem eq_halfEven {n : Int} (hden : 0 < den) (hnear : |2 * (den * n) - 2 * num| ≤ den)
    (heven : IsTie num den → n % 2 = 0) : n = halfEven num den := by
  have htie : IsTie num den → halfEven num den % 2 = 0 := halfEven_even hden
  rw [isTie_iff hden] at heven htie
  have hn := eq_of_near hden hnear
  have hround := eq_of_near hden (halfEven_near num hden)
  omega

/-- Whole quotients are kept. -/
theorem halfEven_of_whole (n : Int) (hden : 0 < den) : halfEven (n * den) den = n := by
  refine (eq_halfEven hden ?_ fun htie => ?_).symm
  · rw [mul_comm n, sub_self, abs_zero]
    omega
  · obtain ⟨k, hk⟩ := htie
    have hpos : (den : Int) ≠ 0 := by omega
    have hodd : 2 * n = 2 * k + 1 := mul_right_cancel₀ hpos (by linarith)
    omega

/-- What is rounded is the quotient, however it is given. -/
theorem halfEven_congr {num' : Int} {den' : Nat} (hden : 0 < den) (hden' : 0 < den')
    (h : num * den' = num' * den) : halfEven num den = halfEven num' den' := by
  have hpos : (0 : Int) < den := by omega
  have hpos' : (0 : Int) < den' := by omega
  apply eq_halfEven hden'
  · have hnear := halfEven_near num hden
    refine le_of_mul_le_mul_left ?_ hpos
    calc (den : Int) * |2 * (den' * halfEven num den) - 2 * num'|
        = |den * (2 * (den' * halfEven num den) - 2 * num')| := by rw [abs_mul, abs_of_pos hpos]
      _ = |den' * (2 * (den * halfEven num den) - 2 * num)| := by congr 1; linarith
      _ = den' * |2 * (den * halfEven num den) - 2 * num| := by rw [abs_mul, abs_of_pos hpos']
      _ ≤ den' * den := mul_le_mul_of_nonneg_left hnear hpos'.le
      _ = den * den' := mul_comm _ _
  · rintro ⟨k, hk⟩
    refine halfEven_even hden ⟨k, mul_right_cancel₀ hpos'.ne' ?_⟩
    calc 2 * num * den' = 2 * num' * den := by linarith
      _ = (2 * k + 1) * den * den' := by rw [hk]; ring

end Rounding

end SlideFill
