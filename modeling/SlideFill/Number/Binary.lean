/-!
# Floating-point numbers, exactly

A finite floating-point number is `m * 2 ^ e` with integers `m` and `e`. `Binary.ofFloat` reads them off the bits, and
what has to be exact (truncating, comparing with an integer) is done on integers.
-/

namespace SlideFill

/-- What a floating-point number stands for. -/
inductive Binary where
  | nan
  | infinite (negative : Bool)
  /-- The number `magnitude * 2 ^ exponent`, with a sign that zero has too. -/
  | finite (negative : Bool) (magnitude : Nat) (exponent : Int)
deriving DecidableEq

namespace Binary

/-- The number of different fractions, and the least magnitude of a number that is not subnormal: the fifty-second power
of two. -/
def unit : Nat := 0x10000000000000

/-- Reads a number's sign, exponent and fraction off its 64 bits. -/
def ofFloat (x : Float) : Binary :=
  let bits := x.toBits.toNat
  let negative := decide (2048 ≤ bits / unit)
  let exponent := bits / unit % 2048
  let fraction := bits % unit
  if exponent = 2047 then if fraction = 0 then .infinite negative else .nan
  else if exponent = 0 then .finite negative fraction (-1074)
  else .finite negative (unit + fraction) ((exponent : Int) - 1075)

/-- The fraction `num / den` that a magnitude and an exponent stand for. -/
def fraction (magnitude : Nat) (exponent : Int) : Nat × Nat :=
  (magnitude * Nat.pow 2 exponent.toNat, Nat.pow 2 (-exponent).toNat)

/-- The signed numerator and the denominator of a finite number. -/
def ratio (negative : Bool) (magnitude : Nat) (exponent : Int) : Int × Nat :=
  let f := fraction magnitude exponent
  (if negative then -(f.1 : Int) else f.1, f.2)

end Binary

/-- A finite number's integer part, toward zero; none for what is not finite. -/
def truncate? (x : Float) : Option Int :=
  match Binary.ofFloat x with
  | .finite negative m e => let r := Binary.ratio negative m e; some (r.1.tdiv r.2)
  | _ => none

/-- Whether a floating-point number is exactly the integer `n`. -/
def isInt (x : Float) (n : Int) : Bool :=
  match Binary.ofFloat x with
  | .finite negative m e => let r := Binary.ratio negative m e; decide (r.1 = n * r.2)
  | _ => false

end SlideFill
