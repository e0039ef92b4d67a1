import SlideFill.Image.Resize
import SlideFill.Proofs.Fill.Passage
import SlideFill.Proofs.Number.Dyadic

/-!
# Sizes in proportion

Proportions of pixels are computed with rounded quotients and products. As long as the sides are not too long, the
rounding does not show: a proportional side is off by at most half a pixel (`Resize.isProportional_of_ok`), comparing
two proportions is exact, and so a fitted size lies within its box and shares a side with it (`Resize.isFitted_of_box`,
`Resize.isFitted_of_ok`).
-/

namespace SlideFill

namespace Resize

/-! ## Proportional sides -/

/-- Whether `side` pixels are to `n` as `a` to `b`, as far as whole pixels allow. -/
structure IsProportional (a b n side : Nat) : Prop where
  /-- The side is off by at most half a pixel. -/
  near : |2 * ((b : Int) * side) - 2 * (a * n : Nat)| ≤ b
  /-- It is the exact side, rounded half to even. At a half this takes a ratio that is computed exactly. -/
  rounded : (Rounding.IsTie (a * n : Nat) b → Dyadic.IsFloat a b) → (side : Int) = Rounding.halfEven (a * n : Nat) b

variable {a b n side : Nat}

/-- A quotient is the nearest number, if there is one. -/
theorem quotient_eq_ok {x : Dyadic} : quotient a b = .ok x ↔ Dyadic.nearest? a b = some x := by
  unfold quotient
  cases Dyadic.nearest? a b <;> simp

/-- A whole number becomes the nearest number, if there is one. -/
theorem ofWhole_eq_ok {y : Dyadic} : ofWhole n = .ok y ↔ Dyadic.nearest? n 1 = some y := by
  unfold ofWhole
  cases Dyadic.nearest? n 1 <;> simp

/-- A product is the nearest number, if there is one. -/
theorem product_eq_ok {x y z : Dyadic} : product x y = .ok z ↔ x.mul? y = some z := by
  unfold product
  cases x.mul? y <;> simp

/-- A side in proportion is rounded three times: the ratio, the product, and to a whole number. -/
theorem proportional_ok (h : proportional a b n = .ok side) :
    ∃ x y z, Dyadic.nearest? a b = some x ∧ Dyadic.nearest? n 1 = some y ∧ x.mul? y = some z ∧ z.round = side := by
  obtain ⟨x, hx, h⟩ := bind_eq_ok.mp h
  obtain ⟨y, hy, h⟩ := bind_eq_ok.mp h
  obtain ⟨z, hz, hround⟩ := map_eq_ok.mp h
  exact ⟨x, y, z, quotient_eq_ok.mp hx, ofWhole_eq_ok.mp hy, product_eq_ok.mp hz, hround⟩

/-- The side that is computed is close to the exact one before it is rounded. -/
theorem product_close {x y z : Dyadic} (ha : 0 < a) (hb : 0 < b) (hn : 0 < n) (hratio : b ≤ a * 2 ^ 28)
    (hsmall : n < 2 ^ 52) (hx : Dyadic.nearest? a b = some x) (hy : Dyadic.nearest? n 1 = some y)
    (hz : x.mul? y = some z) : |z.value - (a * n : Nat) / b| ≤ (a * n : Nat) / b / 2 ^ 51 := by
  have hb' : (0 : ℚ) < b := by exact_mod_cast hb
  have hn' : (1 : ℚ) ≤ n := by exact_mod_cast hn
  have hratio' : (1 : ℚ) ≤ a / b * 2 ^ 28 := by
    rw [div_mul_eq_mul_div, one_le_div hb']
    exact_mod_cast hratio
  have hfirst : |x.value - a / b| ≤ a / b / 2 ^ 53 := by
    rw [Dyadic.nearest?_eq hx]
    exact Dyadic.rounded_accurate ha hb (by decide) hratio
  obtain ⟨hlo, hhi⟩ := abs_le.mp hfirst
  have hwhole : y.value = n := Dyadic.nearest?_whole hy hn hsmall
  have hnormal : (1 : ℚ) ≤ x.value * y.value * 2 ^ 29 := by
    have hhalf : (a : ℚ) / b / 2 ≤ x.value := by linarith
    rw [hwhole]
    nlinarith
  have hsecond := Dyadic.mul?_accurate hz (by decide) hnormal
  rw [hwhole, Dyadic.accuracy] at hsecond
  -- Two roundings, each within a relative bound, are all that comes between: the whole number is exact.
  have hexact : ((a * n : Nat) : ℚ) / b = a / b * n := by
    push_cast
    ring
  have hlow : (a : ℚ) / b * n - a / b * n / 2 ^ 53 ≤ x.value * n := by
    have := mul_le_mul_of_nonneg_right hlo (by linarith : (0 : ℚ) ≤ n)
    linarith
  have hhigh : x.value * n ≤ a / b * n + a / b * n / 2 ^ 53 := by
    have := mul_le_mul_of_nonneg_right hhi (by linarith : (0 : ℚ) ≤ n)
    linarith
  have hpos : (0 : ℚ) ≤ a / b * n := by positivity
  rw [hexact]
  rw [abs_le] at hsecond ⊢
  constructor <;> linarith [hsecond.1, hsecond.2]

/-- Where a side and the image it is of are not too large, the exact side is not either. -/
theorem mul_lt_of_close {z : Dyadic} (hb : 0 < b) (harea : a * b ≤ 2 ^ 28) (hn : n ≤ 2 ^ 29)
    (hside : z.round ≤ 2 ^ 29) (hclose : |z.value - (a * n : Nat) / b| ≤ (a * n : Nat) / b / 2 ^ 51) :
    a * n < 2 ^ 50 := by
  have hb' : (0 : ℚ) < b := by exact_mod_cast hb
  have hround := (abs_le.mp z.round_near).1
  have hlow := (abs_le.mp hclose).1
  have hside' : (z.round : ℚ) ≤ 2 ^ 29 := by exact_mod_cast hside
  have hquot : ((a * n : Nat) : ℚ) / b ≤ 2 ^ 31 := by
    have hpos : (0 : ℚ) ≤ (a * n : Nat) / b := by positivity
    linarith
  have hcross : a * n ≤ 2 ^ 31 * b := by
    rw [div_le_iff₀ hb'] at hquot
    exact_mod_cast hquot
  have hsquare : (a * n) * (a * n) ≤ 2 ^ 88 := by
    calc (a * n) * (a * n) ≤ (a * n) * (2 ^ 31 * b) := Nat.mul_le_mul_left _ hcross
      _ = 2 ^ 31 * (a * b) * n := by ring
      _ ≤ 2 ^ 31 * 2 ^ 28 * 2 ^ 29 := by gcongr
      _ = 2 ^ 88 := by norm_num
  by_contra hlarge
  rw [not_lt] at hlarge
  have hmul := Nat.mul_le_mul hlarge hlarge
  norm_num at hmul hsquare
  omega

/-- The distance to the exact side is a fraction over `b`, and the accuracy is finer than that. -/
theorem near_of_close {z : Dyadic} (hb : 0 < b) (hlt : a * n < 2 ^ 50)
    (hclose : |z.value - (a * n : Nat) / b| ≤ (a * n : Nat) / b / 2 ^ 51) :
    |2 * ((b : Int) * z.round) - 2 * (a * n : Nat)| ≤ b := by
  have hb' : (0 : ℚ) < b := by exact_mod_cast hb
  have hround := z.round_near
  have hfine : ((a * n : Nat) : ℚ) / b / 2 ^ 51 * (2 * b) < 1 := by
    have hlt' : ((a * n : Nat) : ℚ) < 2 ^ 50 := by exact_mod_cast hlt
    field_simp
    linarith
  have hdistance : |(z.round : ℚ) - (a * n : Nat) / b| ≤ 1 / 2 + (a * n : Nat) / b / 2 ^ 51 := by
    rw [abs_le] at hround hclose ⊢
    constructor <;> linarith [hround.1, hround.2, hclose.1, hclose.2]
  have hscaled : ((2 * ((b : Int) * z.round) - 2 * (a * n : Nat) : Int) : ℚ) =
      2 * b * ((z.round : ℚ) - (a * n : Nat) / b) := by
    push_cast
    field_simp
  have hlt' : |((2 * ((b : Int) * z.round) - 2 * (a * n : Nat) : Int) : ℚ)| < b + 1 := by
    rw [hscaled, abs_mul, abs_of_pos (by linarith)]
    calc 2 * b * |(z.round : ℚ) - (a * n : Nat) / b|
        ≤ 2 * b * (1 / 2 + (a * n : Nat) / b / 2 ^ 51) := by gcongr
      _ = b + (a * n : Nat) / b / 2 ^ 51 * (2 * b) := by ring
      _ < b + 1 := by linarith
  have hint : |2 * ((b : Int) * z.round) - 2 * (a * n : Nat)| < b + 1 := by exact_mod_cast hlt'
  omega

/-- Half a pixel is computed exactly if the ratio is. -/
theorem product_of_tie {x y z : Dyadic} (ha : 0 < a) (hb : 0 < b) (hn : 0 < n) (hsmall : n < 2 ^ 52)
    (hlt : a * n < 2 ^ 50) (hfloat : Dyadic.IsFloat a b) (htie : Rounding.IsTie (a * n : Nat) b)
    (hx : Dyadic.nearest? a b = some x) (hy : Dyadic.nearest? n 1 = some y) (hz : x.mul? y = some z) :
    z.value = (a * n : Nat) / b := by
  have hb' : (0 : ℚ) < b := by exact_mod_cast hb
  obtain ⟨k, hk⟩ := htie
  have hodd : 0 < 2 * k + 1 := by
    by_contra hneg
    have hle : (2 * k + 1) * b ≤ 0 := mul_nonpos_of_nonpos_of_nonneg (by omega) (by omega)
    have hpos : 0 < a * n := Nat.mul_pos ha hn
    omega
  obtain ⟨t, ht⟩ : ∃ t : Nat, 2 * k + 1 = t := ⟨(2 * k + 1).toNat, by omega⟩
  rw [ht] at hk hodd
  have htwice : 2 * (a * n) = t * b := by exact_mod_cast hk
  have htlt : t < 2 ^ 53 := by
    have hle : t ≤ t * b := Nat.le_mul_of_pos_right t hb
    norm_num at hlt ⊢
    omega
  have hhalf : ((a * n : Nat) : ℚ) / b = t / 2 := by
    rw [div_eq_div_iff hb'.ne' two_ne_zero, mul_comm]
    exact_mod_cast htwice
  have hproduct : x.value * y.value = t / 2 := by
    rw [hfloat.value_eq hb hx, Dyadic.nearest?_whole hy hn hsmall, ← hhalf]
    push_cast
    ring
  rw [hhalf]
  exact Dyadic.mul?_of_half hz (by omega) htlt hproduct

/-- A denominator below a power of two is below the numerator times that power. -/
theorem ratio_le {k : Nat} (ha : 0 < a) (hb : b ≤ 2 ^ k) : b ≤ a * 2 ^ k :=
  hb.trans (Nat.le_mul_of_pos_left _ ha)

/-- A side that comes out not too long shows that the exact one is not either. -/
theorem mul_lt_of_ok (ha : 0 < a) (hb : 0 < b) (hn : 0 < n) (harea : a * b ≤ 2 ^ 28) (hn' : n ≤ 2 ^ 29)
    (hside : side ≤ 2 ^ 29) (h : proportional a b n = .ok side) : a * n < 2 ^ 50 := by
  obtain ⟨x, y, z, hx, hy, hz, rfl⟩ := proportional_ok h
  have hratio : b ≤ a * 2 ^ 28 := ratio_le ha ((Nat.le_mul_of_pos_left b ha).trans harea)
  have hsmall : n < 2 ^ 52 := lt_of_le_of_lt hn' (by norm_num)
  exact mul_lt_of_close hb harea hn' hside (product_close ha hb hn hratio hsmall hx hy hz)

/-- What comes out is in proportion as long as the exact side is not too long. -/
theorem isProportional_of_ok (ha : 0 < a) (hb : 0 < b) (hn : 0 < n) (hratio : b ≤ 2 ^ 28) (hlt : a * n < 2 ^ 50)
    (h : proportional a b n = .ok side) : IsProportional a b n side := by
  obtain ⟨x, y, z, hx, hy, hz, rfl⟩ := proportional_ok h
  have hsmall : n < 2 ^ 52 := lt_of_le_of_lt (Nat.le_mul_of_pos_left n ha) (hlt.trans (by norm_num))
  have hnear := near_of_close hb hlt (product_close ha hb hn (ratio_le ha hratio) hsmall hx hy hz)
  refine ⟨hnear, fun hfloat => ?_⟩
  refine Rounding.eq_halfEven hb hnear fun htie => ?_
  rw [Dyadic.round_of_value hb (product_of_tie ha hb hn hsmall hlt (hfloat htie) htie hx hy hz)]
  exact Rounding.halfEven_even hb htie

/-- A side in proportion is no longer than a whole bound of the exact one. -/
theorem IsProportional.le {m : Nat} (h : IsProportional a b n side) (hb : 0 < b) (hle : a * n ≤ b * m) : side ≤ m := by
  by_contra hgt
  have hstep : b * (m + 1) ≤ b * side := Nat.mul_le_mul_left b (by omega)
  have hnear := (abs_le.mp h.near).2
  rw [Nat.mul_add, Nat.mul_one] at hstep
  zify at hstep hle hb
  push_cast at hnear
  linarith

/-- A side that is exactly in proportion is in proportion. -/
theorem isProportional_of_eq (hb : 0 < b) (h : a * n = b * side) : IsProportional a b n side := by
  refine ⟨?_, fun _ => ?_⟩
  · rw [h]
    push_cast
    simp
  · rw [h, Nat.mul_comm]
    push_cast
    exact (Rounding.halfEven_of_whole side hb).symm

/-! ## Fitted sizes -/

/-- Whether a size is one that an image `width` by `height` takes to lie within a box `w` by `h`: one side is that of the
box, the other one is in proportion and not greater than that of the box. -/
def IsFitted (width height w h : Nat) (size : Nat × Nat) : Prop :=
  size.1 = w ∧ IsProportional height width w size.2 ∧ size.2 ≤ h ∨
    size.2 = h ∧ IsProportional width height h size.1 ∧ size.1 ≤ w

variable {width height w h : Nat} {size : Nat × Nat}

/-- Accuracy does not matter to how proportions of few pixels compare. -/
theorem cross_le_of_accurate {p q : Nat} (hq : q < 2 ^ 52) (h : q * 2 ^ 53 ≤ p * 2 ^ 53 + (q + p)) : q ≤ p := by
  norm_num at hq h
  omega

/-- Fitting compares the ratios of the image and the box, and takes over the side that binds. -/
theorem fitSize_cases (hfit : fitSize width height w h = .ok size) :
    ∃ own box, Dyadic.nearest? width height = some own ∧ Dyadic.nearest? w h = some box ∧
      (own.compareTo box = .eq ∧ size = (w, h) ∨
        own.compareTo box = .gt ∧ size.1 = w ∧ proportional height width w = .ok size.2 ∨
        own.compareTo box = .lt ∧ size.2 = h ∧ proportional width height h = .ok size.1) := by
  obtain ⟨own, hown, hfit⟩ := bind_eq_ok.mp hfit
  obtain ⟨box, hbox, hfit⟩ := bind_eq_ok.mp hfit
  refine ⟨own, box, quotient_eq_ok.mp hown, quotient_eq_ok.mp hbox, ?_⟩
  split at hfit
  · rename_i heq
    exact .inl ⟨heq, (Except.ok.inj hfit).symm⟩
  · rename_i hgt
    obtain ⟨side, hside, rfl⟩ := map_eq_ok.mp hfit
    exact .inr (.inl ⟨hgt, rfl, hside⟩)
  · rename_i hlt
    obtain ⟨side, hside, rfl⟩ := map_eq_ok.mp hfit
    exact .inr (.inr ⟨hlt, rfl, hside⟩)

/-- A side is not longer than there are pixels. -/
theorem sides_le {n : Nat} (hwidth : 0 < width) (hheight : 0 < height) (harea : width * height ≤ n) :
    width ≤ n ∧ height ≤ n :=
  ⟨(Nat.le_mul_of_pos_right width hheight).trans harea, (Nat.le_mul_of_pos_left height hwidth).trans harea⟩

/-- Of two numbers that agree but for the accuracy, none is large if their product is not. -/
theorem lt_of_accurate {p q : Nat} (hpq : p * q ≤ 2 ^ 86) (h : p * 2 ^ 53 ≤ q * 2 ^ 53 + (p + q)) : p < 2 ^ 50 := by
  have htwice : p ≤ 2 * q := by
    norm_num at h
    omega
  by_contra hlarge
  rw [not_lt] at hlarge
  have hsquare : 2 ^ 50 * 2 ^ 50 ≤ p * (2 * q) := Nat.mul_le_mul hlarge (hlarge.trans htwice)
  have hdouble : p * (2 * q) = 2 * (p * q) := by ring
  norm_num at hsquare hpq
  omega

/-- Where proportions compare one way, one cross-product is not large if the sides are not. -/
theorem mul_lt_of_le {a b c d : Nat} (ha : 0 < a) (hb : 0 < b) (hc : 0 < c) (hd : 0 < d) (hb' : b ≤ 2 ^ 29)
    (hd' : d ≤ 2 ^ 29) (hareas : a * b * (c * d) ≤ 2 ^ 86)
    (hle : (Dyadic.rounded .double a b).value ≤ (Dyadic.rounded .double c d).value) : a * d < 2 ^ 50 := by
  have hcross := Dyadic.cross_le ha hb hc hd (by decide) (ratio_le ha hb') (ratio_le hc hd') hle
  have hproduct : a * d * (c * b) = a * b * (c * d) := by ring
  exact lt_of_accurate (hproduct ▸ hareas) hcross

/-- A wider image than the box, as computed, is one. -/
theorem cross_of_gt (hwidth : 0 < width) (hheight : 0 < height) (hw : 0 < w) (hh : 0 < h) (hheight' : height ≤ 2 ^ 28)
    (hsmall : height * w < 2 ^ 50)
    (hle : (Dyadic.rounded .double w h).value ≤ (Dyadic.rounded .double width height).value) :
    height * w ≤ width * h := by
  rw [Nat.mul_comm] at hsmall ⊢
  by_cases hnormal : h ≤ w * 2 ^ 28
  · have hcross := Dyadic.cross_le hw hh hwidth hheight (by decide) hnormal (ratio_le hwidth hheight') hle
    exact cross_le_of_accurate (hsmall.trans (by norm_num)) hcross
  · calc w * height ≤ w * 2 ^ 28 := Nat.mul_le_mul_left w hheight'
      _ ≤ h := (not_le.mp hnormal).le
      _ ≤ width * h := Nat.le_mul_of_pos_left h hwidth

/-- A higher image than the box, as computed, is one. -/
theorem cross_of_lt (hwidth : 0 < width) (hheight : 0 < height) (hw : 0 < w) (hh : 0 < h) (hheight' : height ≤ 2 ^ 28)
    (hsmall : width * h < 2 ^ 50)
    (hle : (Dyadic.rounded .double width height).value ≤ (Dyadic.rounded .double w h).value) :
    width * h ≤ height * w := by
  have hnormal : height ≤ width * 2 ^ 50 := ratio_le hwidth (hheight'.trans (by norm_num))
  have hnormal' : h ≤ w * 2 ^ 50 := ratio_le hw ((Nat.le_mul_of_pos_left h hwidth).trans hsmall.le)
  have hcross := Dyadic.cross_le hwidth hheight hw hh (by decide) hnormal hnormal' hle
  rw [Nat.mul_comm height]
  exact cross_le_of_accurate (hsmall.trans (by norm_num)) hcross

/-- What is computed is a fitted size as long as the exact sides are not too long. -/
theorem isFitted_of_small {own box : Dyadic} (hwidth : 0 < width) (hheight : 0 < height) (hw : 0 < w) (hh : 0 < h)
    (hwidth' : width ≤ 2 ^ 28) (hheight' : height ≤ 2 ^ 28)
    (hown : Dyadic.nearest? width height = some own) (hbox : Dyadic.nearest? w h = some box)
    (hcases : own.compareTo box = .eq ∧ size = (w, h) ∧ height * w < 2 ^ 50 ∧ width * h < 2 ^ 50 ∨
      own.compareTo box = .gt ∧ size.1 = w ∧ proportional height width w = .ok size.2 ∧ height * w < 2 ^ 50 ∨
      own.compareTo box = .lt ∧ size.2 = h ∧ proportional width height h = .ok size.1 ∧ width * h < 2 ^ 50) :
    IsFitted width height w h size := by
  obtain rfl := Dyadic.nearest?_eq hown
  obtain rfl := Dyadic.nearest?_eq hbox
  rcases hcases with ⟨hcompare, rfl, hfirst, hsecond⟩ | ⟨hcompare, hside, hprop, hsmall⟩ |
    ⟨hcompare, hside, hprop, hsmall⟩
  · obtain ⟨hle, hge⟩ := Dyadic.compareTo_eq hcompare
    have heq : height * w = width * h := le_antisymm (cross_of_gt hwidth hheight hw hh hheight' hfirst hge)
      (cross_of_lt hwidth hheight hw hh hheight' hsecond hle)
    exact .inl ⟨rfl, isProportional_of_eq hwidth heq, le_rfl⟩
  · have hprop := isProportional_of_ok hheight hwidth hw hwidth' hsmall hprop
    have hcross := cross_of_gt hwidth hheight hw hh hheight' hsmall (Dyadic.compareTo_gt hcompare)
    exact .inl ⟨hside, hprop, hprop.le hwidth hcross⟩
  · have hprop := isProportional_of_ok hwidth hheight hh hheight' hsmall hprop
    have hcross := cross_of_lt hwidth hheight hw hh hheight' hsmall (Dyadic.compareTo_lt hcompare)
    exact .inr ⟨hside, hprop, hprop.le hheight hcross⟩

/-- An image with few pixels is fitted into a box that is not too large. -/
theorem isFitted_of_box (hwidth : 0 < width) (hheight : 0 < height) (hw : 0 < w) (hh : 0 < h)
    (harea : width * height ≤ 2 ^ 28) (hw' : w ≤ 2 ^ 29) (hh' : h ≤ 2 ^ 29)
    (hfit : fitSize width height w h = .ok size) : IsFitted width height w h size := by
  obtain ⟨hwidth', hheight'⟩ := sides_le hwidth hheight harea
  have hheight'' : height ≤ 2 ^ 29 := hheight'.trans (by norm_num)
  have hareas : width * height * (w * h) ≤ 2 ^ 86 := by
    calc width * height * (w * h) ≤ 2 ^ 28 * (2 ^ 29 * 2 ^ 29) := by gcongr
      _ = 2 ^ 86 := by norm_num
  obtain ⟨own, box, hown, hbox, hcases⟩ := fitSize_cases hfit
  refine isFitted_of_small hwidth hheight hw hh hwidth' hheight' hown hbox ?_
  have hwider : box.value ≤ own.value → height * w < 2 ^ 50 := fun hle => by
    rw [Dyadic.nearest?_eq hown, Dyadic.nearest?_eq hbox] at hle
    have hareas' : w * h * (width * height) ≤ 2 ^ 86 := by rwa [Nat.mul_comm]
    rw [Nat.mul_comm]
    exact mul_lt_of_le hw hh hwidth hheight hh' hheight'' hareas' hle
  have hhigher : own.value ≤ box.value → width * h < 2 ^ 50 := fun hle => by
    rw [Dyadic.nearest?_eq hown, Dyadic.nearest?_eq hbox] at hle
    exact mul_lt_of_le hwidth hheight hw hh hheight'' hh' hareas hle
  rcases hcases with ⟨hcompare, hsize⟩ | ⟨hcompare, hside, hprop⟩ | ⟨hcompare, hside, hprop⟩
  · obtain ⟨hle, hge⟩ := Dyadic.compareTo_eq hcompare
    exact .inl ⟨hcompare, hsize, hwider hge, hhigher hle⟩
  · exact .inr (.inl ⟨hcompare, hside, hprop, hwider (Dyadic.compareTo_gt hcompare)⟩)
  · exact .inr (.inr ⟨hcompare, hside, hprop, hhigher (Dyadic.compareTo_lt hcompare)⟩)

/-- An image with few pixels is fitted into any box if what comes out is not too large. -/
theorem isFitted_of_ok (hwidth : 0 < width) (hheight : 0 < height) (hw : 0 < w) (hh : 0 < h)
    (harea : width * height ≤ 2 ^ 28) (hfirst : size.1 ≤ 2 ^ 29) (hsecond : size.2 ≤ 2 ^ 29)
    (hfit : fitSize width height w h = .ok size) : IsFitted width height w h size := by
  have harea' : height * width ≤ 2 ^ 28 := by rwa [Nat.mul_comm]
  obtain ⟨hwidth', hheight'⟩ := sides_le hwidth hheight harea
  obtain ⟨own, box, hown, hbox, hcases⟩ := fitSize_cases hfit
  rcases hcases with ⟨_, rfl⟩ | ⟨hcompare, hside, hprop⟩ | ⟨hcompare, hside, hprop⟩
  · exact isFitted_of_box hwidth hheight hw hh harea hfirst hsecond hfit
  · refine isFitted_of_small hwidth hheight hw hh hwidth' hheight' hown hbox (.inr (.inl ?_))
    exact ⟨hcompare, hside, hprop, mul_lt_of_ok hheight hwidth hw harea' (hside ▸ hfirst) hsecond hprop⟩
  · refine isFitted_of_small hwidth hheight hw hh hwidth' hheight' hown hbox (.inr (.inr ?_))
    exact ⟨hcompare, hside, hprop, mul_lt_of_ok hwidth hheight hh harea (hside ▸ hsecond) hfirst hprop⟩

/-- An image that is fitted is within its box. -/
theorem IsFitted.le (h' : IsFitted width height w h size) : size.1 ≤ w ∧ size.2 ≤ h := by
  rcases h' with ⟨hside, -, hle⟩ | ⟨hside, -, hle⟩
  · exact ⟨hside.le, hle⟩
  · exact ⟨hle, hside.le⟩

/-- A fitted size has pixels unless the image is so long and thin that one side is rounded to none. -/
theorem IsFitted.pos (h' : IsFitted width height w h size) (hw : 0 < w) (hh : 0 < h)
    (hwide : width < 2 * (height * w)) (hhigh : height < 2 * (width * h)) : 0 < size.1 ∧ 0 < size.2 := by
  rcases h' with ⟨hside, hprop, -⟩ | ⟨hside, hprop, -⟩
  · refine ⟨hside ▸ hw, Nat.pos_of_ne_zero fun hzero => ?_⟩
    have hnear := (abs_le.mp hprop.near).1
    rw [hzero] at hnear
    push_cast at hnear
    zify at hwide
    linarith
  · refine ⟨Nat.pos_of_ne_zero fun hzero => ?_, hside ▸ hh⟩
    have hnear := (abs_le.mp hprop.near).1
    rw [hzero] at hnear
    push_cast at hnear
    zify at hhigh
    linarith

/-! ## Sizes that can be computed -/

/-- Numbers of a common size have a quotient. -/
theorem quotient_of_le (hb : 0 < b) (ha' : a ≤ 2 ^ 28) : ∃ x, quotient a b = .ok x := by
  obtain ⟨x, hx⟩ := Dyadic.nearest?_of_le hb (by decide : 28 ≤ 1000) (ratio_le hb ha')
  exact ⟨x, quotient_eq_ok.mpr hx⟩

/-- A share of a whole number can be computed if no number is too large. -/
theorem share_of_le {x : Dyadic} (ha : 0 < a) (hb : 0 < b) (hn : 0 < n) (ha' : a ≤ 2 ^ 28) (hb' : b ≤ 2 ^ 28)
    (hn' : n ≤ 2 ^ 28) (hx : quotient a b = .ok x) : ∃ z, (ofWhole n).bind (product x) = .ok z := by
  obtain ⟨y, hy⟩ := Dyadic.nearest?_of_le Nat.one_pos (by decide : 28 ≤ 1000) (ratio_le Nat.one_pos hn')
  have hwhole : y.value = n := Dyadic.nearest?_whole hy hn (lt_of_le_of_lt hn' (by norm_num))
  have hb'' : (1 : ℚ) ≤ b := by exact_mod_cast hb
  have hle : x.value ≤ 2 * a / b := by
    rw [Dyadic.nearest?_eq (quotient_eq_ok.mp hx)]
    exact Dyadic.rounded_le ha hb (by decide) (ratio_le ha hb')
  have hvalue : x.value * y.value ≤ 2 ^ 57 := by
    calc x.value * y.value ≤ 2 * a / b * n := by rw [hwhole]; gcongr
      _ ≤ 2 * a * n := by gcongr; exact div_le_self (by positivity) hb''
      _ ≤ 2 * 2 ^ 28 * 2 ^ 28 := by gcongr <;> assumption_mod_cast
      _ = 2 ^ 57 := by norm_num
  obtain ⟨z, hz⟩ := Dyadic.mul?_of_le (by decide) hvalue
  exact ⟨z, bind_eq_ok.mpr ⟨y, ofWhole_eq_ok.mpr hy, product_eq_ok.mpr hz⟩⟩

/-- Sides of a common size can be scaled in proportion. -/
theorem proportional_of_le (ha : 0 < a) (hb : 0 < b) (hn : 0 < n) (ha' : a ≤ 2 ^ 28) (hb' : b ≤ 2 ^ 28)
    (hn' : n ≤ 2 ^ 28) : ∃ side, proportional a b n = .ok side := by
  obtain ⟨x, hx⟩ := quotient_of_le hb ha'
  obtain ⟨z, hz⟩ := share_of_le ha hb hn ha' hb' hn' hx
  obtain ⟨y, hy, hz⟩ := bind_eq_ok.mp hz
  exact ⟨z.round, bind_eq_ok.mpr ⟨x, hx, bind_eq_ok.mpr ⟨y, hy, map_eq_ok.mpr ⟨z, hz, rfl⟩⟩⟩⟩

/-- Sizes with sides of a common size can be fitted. -/
theorem fitSize_of_le (hwidth : 0 < width) (hheight : 0 < height) (hw : 0 < w) (hh : 0 < h) (hwidth' : width ≤ 2 ^ 28)
    (hheight' : height ≤ 2 ^ 28) (hw' : w ≤ 2 ^ 28) (hh' : h ≤ 2 ^ 28) :
    ∃ size, fitSize width height w h = .ok size := by
  obtain ⟨own, hown⟩ := quotient_of_le hheight hwidth'
  obtain ⟨box, hbox⟩ := quotient_of_le hh hw'
  obtain ⟨low, hlow⟩ := proportional_of_le hheight hwidth hw hheight' hwidth' hw'
  obtain ⟨narrow, hnarrow⟩ := proportional_of_le hwidth hheight hh hwidth' hheight' hh'
  simp only [fitSize, hown, hbox, Except.bind]
  cases own.compareTo box with
  | eq => exact ⟨(w, h), rfl⟩
  | gt => exact ⟨(w, low), by rw [hlow]; rfl⟩
  | lt => exact ⟨(narrow, h), by rw [hnarrow]; rfl⟩

/-- Sizes with sides of a common size can be cropped. -/
theorem cropSpan_of_le (hheight : 0 < height) (hw : 0 < w) (hh : 0 < h) (hwidth' : width ≤ 2 ^ 28)
    (hheight' : height ≤ 2 ^ 28) (hw' : w ≤ 2 ^ 28) (hh' : h ≤ 2 ^ 28) :
    ∃ span, cropSpan width height w h = .ok span := by
  obtain ⟨own, hown⟩ := quotient_of_le hheight hwidth'
  obtain ⟨box, hbox⟩ := quotient_of_le hh hw'
  simp only [cropSpan, hown, hbox, Except.bind]
  cases own.compareTo box with
  | gt => exact share_of_le hw hh hheight hw' hh' hheight' hbox
  | eq => exact ⟨_, rfl⟩
  | lt => exact ⟨_, rfl⟩

end Resize

end SlideFill
