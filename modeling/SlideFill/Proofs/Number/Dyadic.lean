import Mathlib.Algebra.Order.Field.Power
import Mathlib.Data.Rat.Cast.Order
import Mathlib.Tactic.FieldSimp
import Mathlib.Tactic.Linarith
import Mathlib.Tactic.Positivity
import Mathlib.Tactic.Ring
import SlideFill.Number.Dyadic
import SlideFill.Proofs.Number.Rounding

/-!
# Rounded quotients as rational numbers

`Dyadic.value` is the rational number that a floating-point number is. A rounded quotient is off by at most half its last
bit (`rounded_near`), so by a tiny part of it unless it is too small to have all its bits (`rounded_accurate`), and it is
exact for halves (`rounded_of_half`). Products are rounded alike, and comparing rounded quotients tells how the quotients
compare, but for the accuracy (`cross_le`).
-/

namespace SlideFill

namespace Dyadic

/-- The rational number that a floating-point number is. -/
def value (x : Dyadic) : ℚ :=
  x.num / x.den

/-- The denominator of a binary number is a power of two, so it is positive. -/
theorem den_pos (x : Dyadic) : 0 < x.den :=
  Nat.pow_pos (by decide)

/-- A power of two with any exponent as a quotient of powers with natural ones, of which one is 1. -/
theorem two_zpow (e : Int) : (2 : ℚ) ^ e = 2 ^ e.toNat / 2 ^ (-e).toNat := by
  obtain ⟨n, rfl | rfl⟩ := e.eq_nat_or_neg
  · simp
  · simp

/-- The value of a binary number from its two parts. -/
theorem value_eq (x : Dyadic) : x.value = x.magnitude * 2 ^ x.exponent := by
  rw [value, num, den, two_zpow, Nat.pow_eq, Nat.pow_eq]
  push_cast
  ring

/-- The fraction that counts the multiples of a power of two has a positive denominator. -/
theorem multiples_pos {a b : Nat} (hb : 0 < b) (e : Int) : 0 < (multiples a b e).2 :=
  Nat.mul_pos hb (Nat.pow_pos (by decide))

/-- A quotient is so many times a power of two. -/
theorem multiples_eq {a b : Nat} (e : Int) :
    ((multiples a b e).1 : ℚ) / (multiples a b e).2 * 2 ^ e = a / b := by
  have hup : (2 : ℚ) ^ e.toNat ≠ 0 := by positivity
  have hdown : (2 : ℚ) ^ (-e).toNat ≠ 0 := by positivity
  rw [two_zpow, multiples, Nat.pow_eq, Nat.pow_eq]
  push_cast
  field_simp

/-- The bits of the two sides tell the scale of a quotient but for one. -/
theorem scale_bounds (bits a b : Nat) :
    (a.log2 : Int) - b.log2 - bits ≤ scale bits a b ∧ scale bits a b ≤ (a.log2 : Int) - b.log2 - bits + 1 := by
  rw [scale]
  split_ifs <;> omega

/-- At its scale, a quotient has at least so many bits. -/
theorem pow_scale_le {bits a b : Nat} (ha : 0 < a) (hb : 0 < b) :
    (2 : ℚ) ^ (scale bits a b + bits - 1) ≤ a / b := by
  have hb' : (0 : ℚ) < b := by exact_mod_cast hb
  rw [scale]
  split_ifs with hfew
  · have hlow : (2 : ℚ) ^ a.log2 ≤ a := by exact_mod_cast Nat.log2_self_le ha.ne'
    have hhigh : (b : ℚ) ≤ 2 ^ (b.log2 + 1) := by exact_mod_cast Nat.lt_log2_self.le
    rw [le_div_iff₀ hb']
    calc (2 : ℚ) ^ ((a.log2 : Int) - b.log2 - bits + bits - 1) * b
        ≤ 2 ^ ((a.log2 : Int) - b.log2 - bits + bits - 1) * 2 ^ (b.log2 + 1) := by gcongr
      _ = 2 ^ (a.log2 : Int) := by
          rw [← zpow_natCast (2 : ℚ) (b.log2 + 1), ← zpow_add₀ two_ne_zero]
          congr 1
          push_cast
          ring
      _ ≤ a := by rwa [zpow_natCast]
  · set e : Int := (a.log2 : Int) - b.log2 - bits with he
    have hmany : Nat.pow 2 bits * (multiples a b e).2 ≤ (multiples a b e).1 :=
      (Nat.le_div_iff_mul_le (multiples_pos hb e)).mp (not_lt.mp hfew)
    have hpos : (0 : ℚ) < (multiples a b e).2 := by exact_mod_cast multiples_pos (a := a) hb e
    have hbits : (2 : ℚ) ^ (bits : Int) ≤ (multiples a b e).1 / (multiples a b e).2 := by
      rw [le_div_iff₀ hpos, zpow_natCast]
      exact_mod_cast hmany
    rw [← multiples_eq e]
    calc (2 : ℚ) ^ (e + 1 + bits - 1) = 2 ^ (bits : Int) * 2 ^ e := by
          rw [← zpow_add₀ two_ne_zero]
          congr 1
          ring
      _ ≤ _ := by gcongr

/-- The last bit of a rounded quotient. -/
def lastBit (p : Precision) (a b : Nat) : Int :=
  max p.leastExponent (scale p.bits a b)

/-- A rounded quotient is the multiple of its last bit that is nearest. -/
theorem rounded_value {p : Precision} {a b : Nat} (ha : 0 < a) :
    (rounded p a b).value =
      (Rounding.halfEven (multiples a b (lastBit p a b)).1 (multiples a b (lastBit p a b)).2 : ℚ) * 2 ^ lastBit p a b := by
  have hnonneg : 0 ≤ Rounding.halfEven (multiples a b (lastBit p a b)).1 (multiples a b (lastBit p a b)).2 :=
    Rounding.halfEven_nonneg (by omega) _
  rw [value_eq, rounded, if_neg ha.ne']
  congr 1
  exact_mod_cast Int.toNat_of_nonneg hnonneg

/-- A rounded quotient is off by at most half its last bit. -/
theorem rounded_near (p : Precision) {a b : Nat} (ha : 0 < a) (hb : 0 < b) :
    |(rounded p a b).value - a / b| ≤ 2 ^ lastBit p a b / 2 := by
  have hnear := (Rounding.near_iff (multiples_pos (a := a) hb (lastBit p a b))).mp
    (Rounding.halfEven_near (multiples a b (lastBit p a b)).1 (multiples_pos (a := a) hb (lastBit p a b)))
  have hbit : (0 : ℚ) < 2 ^ lastBit p a b := by positivity
  rw [rounded_value ha, ← multiples_eq (lastBit p a b), ← sub_mul, abs_mul, abs_of_pos hbit]
  rw [Int.cast_natCast] at hnear
  nlinarith

/-- Quotients that are not too small have their last bit where their size has it. -/
theorem lastBit_eq {a b k : Nat} (hb : 0 < b) (hk : k ≤ 1021) (h : b ≤ a * 2 ^ k) :
    lastBit .double a b = scale Precision.double.bits a b := by
  have hlog : b.log2 < a.log2 + 1 + k := by
    have hpow : 2 ^ b.log2 < 2 ^ (a.log2 + 1 + k) := by
      calc 2 ^ b.log2 ≤ b := Nat.log2_self_le hb.ne'
        _ ≤ a * 2 ^ k := h
        _ < 2 ^ (a.log2 + 1) * 2 ^ k := Nat.mul_lt_mul_of_pos_right Nat.lt_log2_self (by positivity)
        _ = 2 ^ (a.log2 + 1 + k) := by rw [← pow_add]
    exact (Nat.pow_lt_pow_iff_right (by decide)).mp hpow
  have hscale := (scale_bounds Precision.double.bits a b).1
  rw [lastBit, max_eq_right]
  simp only [Precision.double] at hscale ⊢
  omega

/-- How far a rounded number is off, in proportion: by one in this number at most. -/
def accuracy : ℚ := 2 ^ 53

/-- A rounded quotient is off by a tiny part of it. -/
theorem rounded_accurate {a b k : Nat} (ha : 0 < a) (hb : 0 < b) (hk : k ≤ 1021) (h : b ≤ a * 2 ^ k) :
    |(rounded .double a b).value - a / b| ≤ a / b / accuracy := by
  have hnear := rounded_near .double ha hb
  have hscale : (2 : ℚ) ^ (scale 53 a b + (53 : Nat) - 1) ≤ a / b := pow_scale_le ha hb
  have hbit : (2 : ℚ) ^ (scale 53 a b + (53 : Nat) - 1) = 2 ^ scale 53 a b * 2 ^ 52 := by
    rw [← zpow_natCast, ← zpow_add₀ two_ne_zero]
    congr 1
    push_cast
    ring
  rw [lastBit_eq hb hk h] at hnear
  have hbits : Precision.double.bits = 53 := rfl
  rw [hbits] at hnear
  rw [hbit] at hscale
  rw [accuracy, le_div_iff₀ (by positivity)]
  calc |(rounded .double a b).value - a / b| * 2 ^ 53 ≤ 2 ^ scale 53 a b / 2 * 2 ^ 53 := by gcongr
    _ = 2 ^ scale 53 a b * 2 ^ 52 := by ring
    _ ≤ a / b := hscale

/-- A rounded quotient is at most twice the quotient. -/
theorem rounded_le {a b k : Nat} (ha : 0 < a) (hb : 0 < b) (hk : k ≤ 1021) (h : b ≤ a * 2 ^ k) :
    (rounded .double a b).value ≤ 2 * a / b := by
  have hhigh := (abs_le.mp (rounded_accurate ha hb hk h)).2
  have hpos : (0 : ℚ) ≤ a / b := by positivity
  rw [accuracy] at hhigh
  rw [mul_div_assoc]
  linarith

/-- A rounded quotient is at least half the quotient. -/
theorem le_rounded {a b k : Nat} (ha : 0 < a) (hb : 0 < b) (hk : k ≤ 1021) (h : b ≤ a * 2 ^ k) :
    (a : ℚ) / b ≤ 2 * (rounded .double a b).value := by
  have hlow := (abs_le.mp (rounded_accurate ha hb hk h)).1
  have hpos : (0 : ℚ) ≤ a / b := by positivity
  rw [accuracy] at hlow
  linarith

/-- Whole numbers and halves are kept as long as they have no more bits than a floating-point number. -/
theorem rounded_of_half {a b t : Nat} (ha : 0 < a) (hb : 0 < b) (h : 2 * a = t * b) (ht : t < 2 ^ 53) :
    (rounded .double a b).value = a / b := by
  have hb' : (0 : ℚ) < b := by exact_mod_cast hb
  have hquot : (a : ℚ) / b = t / 2 := by
    rw [div_eq_div_iff hb'.ne' two_ne_zero]
    have hcast : (2 * a : ℚ) = t * b := by exact_mod_cast h
    linarith
  have hpos : 0 < t := by
    by_contra hzero
    simp only [not_lt, Nat.le_zero] at hzero
    simp only [hzero, Nat.zero_mul] at h
    omega
  have hnormal : b ≤ a * 2 ^ 1 := by
    have hb' : b ≤ t * b := Nat.le_mul_of_pos_left b hpos
    omega
  obtain ⟨e, he⟩ : ∃ e, lastBit .double a b = e := ⟨_, rfl⟩
  -- The last bit is at most a half, so the quotient is a whole multiple of it.
  have hsmall : e ≤ -1 := by
    have hscale : (2 : ℚ) ^ (scale 53 a b + (53 : Nat) - 1) ≤ a / b := pow_scale_le ha hb
    have hbits : Precision.double.bits = 53 := rfl
    rw [lastBit_eq hb (by decide) hnormal, hbits] at he
    rw [he, hquot] at hscale
    have htop : (2 : ℚ) ^ (e + (53 : Nat) - 1) < 2 ^ (52 : Int) := by
      have ht' : (t : ℚ) < 2 ^ 53 := by exact_mod_cast ht
      calc (2 : ℚ) ^ (e + (53 : Nat) - 1) ≤ t / 2 := hscale
        _ < 2 ^ 53 / 2 := by linarith
        _ = 2 ^ (52 : Int) := by norm_num
    have hexp := (zpow_lt_zpow_iff_right₀ (by norm_num : (1 : ℚ) < 2)).mp htop
    push_cast at hexp
    omega
  obtain ⟨k, rfl⟩ : ∃ k : Nat, e = -1 - k := ⟨(-1 - e).toNat, by omega⟩
  have hunit : (2 : ℚ) ^ (-1 - (k : Int)) = 1 / (2 * 2 ^ k) := by
    rw [zpow_sub₀ two_ne_zero, zpow_natCast, zpow_neg_one]
    field_simp
  have hwhole : ((multiples a b (-1 - k)).1 : Int) = (t * 2 ^ k : Nat) * (multiples a b (-1 - k)).2 := by
    have hm : ((multiples a b (-1 - k)).2 : ℚ) ≠ 0 := by exact_mod_cast (multiples_pos (a := a) hb _).ne'
    have hmultiples := multiples_eq (a := a) (b := b) (-1 - k)
    rw [hunit, hquot] at hmultiples
    field_simp at hmultiples
    have hrational : ((multiples a b (-1 - k)).1 : ℚ) = t * 2 ^ k * (multiples a b (-1 - k)).2 := by linarith
    exact_mod_cast hrational
  rw [rounded_value ha, he, hwhole, Rounding.halfEven_of_whole _ (multiples_pos hb _), hunit, hquot]
  push_cast
  field_simp

/-! ## Operations -/

/-- The nearest number of a quotient is the quotient rounded to double precision. -/
theorem nearest?_eq {a b : Nat} {x : Dyadic} (h : nearest? a b = some x) : x = rounded .double a b := by
  rw [nearest?] at h
  split at h
  · cases h
  · exact (Option.some.inj h).symm

/-- A quotient that is not too large is in the range. -/
theorem nearest?_of_le {a b k : Nat} (hb : 0 < b) (hk : k ≤ 1000) (h : a ≤ b * 2 ^ k) : ∃ x, nearest? a b = some x := by
  have hb' : (0 : ℚ) < b := by exact_mod_cast hb
  have hexponent : (rounded .double a b).exponent < greatestExponent := by
    by_cases ha : a = 0
    · simp [rounded, ha, ofNat, greatestExponent]
    · have hscale : (2 : ℚ) ^ (scale 53 a b + (53 : Nat) - 1) ≤ 2 ^ (k : Int) := by
        calc (2 : ℚ) ^ (scale 53 a b + (53 : Nat) - 1) ≤ a / b := pow_scale_le (Nat.pos_of_ne_zero ha) hb
          _ ≤ 2 ^ (k : Int) := by
              rw [div_le_iff₀ hb', mul_comm, zpow_natCast]
              exact_mod_cast h
      have hexp := (zpow_le_zpow_iff_right₀ (by norm_num : (1 : ℚ) < 2)).mp hscale
      simp only [rounded, if_neg ha, Precision.double, greatestExponent]
      push_cast at hexp
      omega
  refine ⟨rounded .double a b, ?_⟩
  have hbounded : isBeyond (rounded .double a b) = false := by
    simp only [isBeyond, Bool.or_eq_false_iff, Bool.and_eq_false_iff, decide_eq_false_iff_not]
    exact ⟨by omega, .inl (by omega)⟩
  simp [nearest?, hbounded]

/-- Values are compared by multiplying crosswise. -/
theorem value_le_iff {x y : Dyadic} : x.value ≤ y.value ↔ x.num * y.den ≤ y.num * x.den := by
  have hx : (0 : ℚ) < x.den := by exact_mod_cast x.den_pos
  have hy : (0 : ℚ) < y.den := by exact_mod_cast y.den_pos
  rw [value, value, div_le_div_iff₀ hx hy]
  exact_mod_cast Iff.rfl

/-- A number that compares as greater has no smaller value. -/
theorem compareTo_gt {x y : Dyadic} (h : x.compareTo y = .gt) : y.value ≤ x.value := by
  rw [compareTo, Nat.compare_eq_gt] at h
  exact value_le_iff.mpr h.le

/-- A number that compares as less has no greater value. -/
theorem compareTo_lt {x y : Dyadic} (h : x.compareTo y = .lt) : x.value ≤ y.value := by
  rw [compareTo, Nat.compare_eq_lt] at h
  exact value_le_iff.mpr h.le

/-- Numbers that compare as equal have one value. -/
theorem compareTo_eq {x y : Dyadic} (h : x.compareTo y = .eq) : x.value ≤ y.value ∧ y.value ≤ x.value := by
  rw [compareTo, Nat.compare_eq_eq] at h
  exact ⟨value_le_iff.mpr h.le, value_le_iff.mpr h.ge⟩

/-- Rounding a binary number is rounding the fraction that it stands for. -/
theorem round_cast (x : Dyadic) : (x.round : Int) = Rounding.halfEven x.num x.den :=
  Int.toNat_of_nonneg (Rounding.halfEven_nonneg (by omega) _)

/-- A binary number is rounded by no more than a half. -/
theorem round_near (x : Dyadic) : |(x.round : ℚ) - x.value| ≤ 1 / 2 := by
  have hnear := (Rounding.near_iff x.den_pos).mp (Rounding.halfEven_near x.num x.den_pos)
  rw [← round_cast] at hnear
  simpa only [value, Int.cast_natCast] using hnear

/-- A natural number that is no greater than the value is no greater than its whole part. -/
theorem le_floor {x : Dyadic} {n : Nat} (h : (n : ℚ) ≤ x.value) : n ≤ x.floor := by
  have hx : (0 : ℚ) < x.den := by exact_mod_cast x.den_pos
  rw [value, le_div_iff₀ hx] at h
  exact (Nat.le_div_iff_mul_le x.den_pos).mpr (by exact_mod_cast h)

/-- A floating-point number that is exactly a quotient is rounded as the quotient is. -/
theorem round_of_value {x : Dyadic} {a b : Nat} (hb : 0 < b) (h : x.value = a / b) :
    (x.round : Int) = Rounding.halfEven a b := by
  have hx : (0 : ℚ) < x.den := by exact_mod_cast x.den_pos
  have hb' : (0 : ℚ) < b := by exact_mod_cast hb
  rw [value, div_eq_div_iff hx.ne' hb'.ne'] at h
  rw [round_cast]
  exact Rounding.halfEven_congr x.den_pos hb (by exact_mod_cast h)

/-- Whether a quotient is a floating-point number. -/
def IsFloat (a b : Nat) : Prop :=
  ∃ x, nearest? a b = some x ∧ x.num * b = a * x.den

/-- A quotient that is a floating-point number is its own nearest number. -/
theorem IsFloat.value_eq {a b : Nat} {x : Dyadic} (h : IsFloat a b) (hb : 0 < b) (hx : nearest? a b = some x) :
    x.value = a / b := by
  obtain ⟨x', hx', hexact⟩ := h
  obtain rfl : x = x' := Option.some.inj (hx.symm.trans hx')
  have hden : (0 : ℚ) < x.den := by exact_mod_cast x.den_pos
  have hb' : (0 : ℚ) < b := by exact_mod_cast hb
  rw [value, div_eq_div_iff hden.ne' hb'.ne']
  exact_mod_cast hexact

/-- The product of two values as one fraction. -/
theorem value_mul (x y : Dyadic) : x.value * y.value = (x.num * y.num : Nat) / (x.den * y.den : Nat) := by
  rw [value, value, div_mul_div_comm]
  push_cast
  rfl

/-- A product is as accurate as a quotient. -/
theorem mul?_accurate {x y z : Dyadic} {k : Nat} (hz : x.mul? y = some z) (hk : k ≤ 1021)
    (h : 1 ≤ x.value * y.value * 2 ^ k) : |z.value - x.value * y.value| ≤ x.value * y.value / accuracy := by
  have hden : 0 < x.den * y.den := Nat.mul_pos x.den_pos y.den_pos
  have hden' : (0 : ℚ) < (x.den * y.den : Nat) := by exact_mod_cast hden
  rw [value_mul] at h ⊢
  rw [nearest?_eq hz]
  rw [div_mul_eq_mul_div, one_le_div hden'] at h
  have hnormal : x.den * y.den ≤ x.num * y.num * 2 ^ k := by exact_mod_cast h
  have hnum : 0 < x.num * y.num := by
    by_contra hzero
    rw [not_lt, Nat.le_zero] at hzero
    rw [hzero, Nat.zero_mul] at hnormal
    omega
  exact rounded_accurate hnum hden hk hnormal

/-- A product that is not too large is in the range. -/
theorem mul?_of_le {x y : Dyadic} {k : Nat} (hk : k ≤ 1000) (h : x.value * y.value ≤ 2 ^ k) : ∃ z, x.mul? y = some z := by
  have hden : 0 < x.den * y.den := Nat.mul_pos x.den_pos y.den_pos
  have hden' : (0 : ℚ) < (x.den * y.den : Nat) := by exact_mod_cast hden
  have hle : ((x.num * y.num : Nat) : ℚ) ≤ 2 ^ k * (x.den * y.den : Nat) := by
    rwa [value_mul, div_le_iff₀ hden'] at h
  have hle' : x.num * y.num ≤ 2 ^ k * (x.den * y.den) := by exact_mod_cast hle
  exact nearest?_of_le hden hk (hle'.trans_eq (Nat.mul_comm _ _))

/-- A product that is a whole number or a half is kept as long as it has no more bits than a floating-point number. -/
theorem mul?_of_half {x y z : Dyadic} {t : Nat} (hz : x.mul? y = some z) (hpos : 0 < t) (ht : t < 2 ^ 53)
    (h : x.value * y.value = t / 2) : z.value = t / 2 := by
  have hden : 0 < x.den * y.den := Nat.mul_pos x.den_pos y.den_pos
  have hden' : (0 : ℚ) < (x.den * y.den : Nat) := by exact_mod_cast hden
  rw [← h, value_mul, nearest?_eq hz]
  rw [value_mul, div_eq_div_iff hden'.ne' two_ne_zero] at h
  have htwice : 2 * (x.num * y.num) = t * (x.den * y.den) := by
    rw [Nat.mul_comm 2]
    exact_mod_cast h
  refine rounded_of_half ?_ hden htwice ht
  have := Nat.mul_pos hpos hden
  omega

/-- A whole number with no more bits than a floating-point number is kept. -/
theorem nearest?_whole {n : Nat} {y : Dyadic} (hy : nearest? n 1 = some y) (hpos : 0 < n) (hn : n < 2 ^ 52) :
    y.value = n := by
  rw [nearest?_eq hy, rounded_of_half (t := 2 * n) hpos Nat.one_pos (by omega) (by omega), Nat.cast_one, div_one]

/-- Quotients whose rounded values compare one way compare the same way, but for the accuracy. -/
theorem cross_le {a b c d k : Nat} (ha : 0 < a) (hb : 0 < b) (hc : 0 < c) (hd : 0 < d) (hk : k ≤ 1021)
    (hab : b ≤ a * 2 ^ k) (hcd : d ≤ c * 2 ^ k) (h : (rounded .double a b).value ≤ (rounded .double c d).value) :
    a * d * 2 ^ 53 ≤ c * b * 2 ^ 53 + (a * d + c * b) := by
  have hb' : (0 : ℚ) < b := by exact_mod_cast hb
  have hd' : (0 : ℚ) < d := by exact_mod_cast hd
  have hfirst := (abs_le.mp (rounded_accurate ha hb hk hab)).1
  have hsecond := (abs_le.mp (rounded_accurate hc hd hk hcd)).2
  rw [accuracy] at hfirst hsecond
  have hvalues : (a : ℚ) / b - a / b / 2 ^ 53 ≤ c / d + c / d / 2 ^ 53 := by linarith
  have hcross : (a : ℚ) * d * 2 ^ 53 ≤ c * b * 2 ^ 53 + (a * d + c * b) := by
    field_simp at hvalues
    linarith
  exact_mod_cast hcross

end Dyadic

end SlideFill
