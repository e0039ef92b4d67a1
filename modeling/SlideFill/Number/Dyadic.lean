import SlideFill.Number.Rounding

/-!
# Rounded quotients

Floating-point numbers that are not negative, as whole multiples of powers of two. The number nearest to a quotient of
whole numbers, of two equally near the even multiple, depends on how many bits a magnitude may have; sums, differences
and products are rounded like quotients. Beyond a range there is no number.
-/

namespace SlideFill

/-- The number `magnitude * 2 ^ exponent`. -/
structure Dyadic where
  magnitude : Nat
  exponent : Int
deriving DecidableEq

/-- How finely numbers are told apart: how many bits a magnitude has, and the least exponent. -/
structure Precision where
  bits : Nat
  leastExponent : Int

namespace Precision

/-- The precision of most numbers. -/
def double : Precision :=
  ⟨53, -1074⟩

/-- The precision of numbers half as long. -/
def single : Precision :=
  ⟨24, -149⟩

end Precision

namespace Dyadic

/-- The greatest exponent of a number whose magnitude has all its bits. -/
def greatestExponent : Int := 971

/-- A whole number. -/
def ofNat (n : Nat) : Dyadic :=
  ⟨n, 0⟩

/-- The numerator of a number. -/
def num (x : Dyadic) : Nat :=
  x.magnitude * Nat.pow 2 x.exponent.toNat

/-- The denominator of a number. -/
def den (x : Dyadic) : Nat :=
  Nat.pow 2 (-x.exponent).toNat

/-- How many times `2 ^ e` goes into `a / b`, as a fraction. -/
def multiples (a b : Nat) (e : Int) : Nat × Nat :=
  (a * Nat.pow 2 (-e).toNat, b * Nat.pow 2 e.toNat)

/-- The exponent at which the whole part of `a / b` has so many bits. The numbers of bits of `a` and `b` tell it but for
one. -/
def scale (bits a b : Nat) : Int :=
  let e : Int := (a.log2 : Int) - b.log2 - bits
  let m := multiples a b e
  if m.1 / m.2 < Nat.pow 2 bits then e else e + 1

/-- The number nearest to `a / b`, of two equally near the even one. -/
def rounded (p : Precision) (a b : Nat) : Dyadic :=
  if a = 0 then ofNat 0
  else
    let e := max p.leastExponent (scale p.bits a b)
    let m := multiples a b e
    ⟨(Rounding.halfEven m.1 m.2).toNat, e⟩

/-- Whether a number is beyond the range. -/
def isBeyond (x : Dyadic) : Bool :=
  greatestExponent < x.exponent || x.exponent = greatestExponent && x.magnitude = Nat.pow 2 Precision.double.bits

/-- The number nearest to `a / b`; none if it is beyond the range. -/
def nearest? (a b : Nat) : Option Dyadic :=
  let x := rounded .double a b
  if x.isBeyond then none else some x

/-- The product of two numbers, rounded. -/
def mul? (x y : Dyadic) : Option Dyadic :=
  nearest? (x.num * y.num) (x.den * y.den)

/-- A number rounded to a precision. -/
def toPrecision (p : Precision) (x : Dyadic) : Dyadic :=
  rounded p x.num x.den

/-- The sum of two numbers, rounded. -/
def plus (p : Precision) (x y : Dyadic) : Dyadic :=
  rounded p (x.num * y.den + y.num * x.den) (x.den * y.den)

/-- What is left of a number when one that is not greater is taken away, rounded. -/
def minus (p : Precision) (x y : Dyadic) : Dyadic :=
  rounded p (x.num * y.den - y.num * x.den) (x.den * y.den)

/-- One of so many equal parts of a number, rounded. -/
def part (p : Precision) (x : Dyadic) (count : Nat) : Dyadic :=
  rounded p x.num (x.den * count)

/-- How two numbers compare. -/
def compareTo (x y : Dyadic) : Ordering :=
  compare (x.num * y.den) (y.num * x.den)

/-- The integer nearest to a number, halves going to the even one. -/
def round (x : Dyadic) : Nat :=
  (Rounding.halfEven x.num x.den).toNat

/-- The whole part of a number. -/
def floor (x : Dyadic) : Nat :=
  x.num / x.den

end Dyadic

end SlideFill
