import SlideFill.Text.Blank
import SlideFill.Text.Digit

/-!
# Numbers read from text

Whole numbers, as they may be given in text: blanks around them, a sign, digits of any script and single underscores
between digits; and floating-point numbers, correctly rounded from their digits.
-/

namespace SlideFill

namespace Literal

/-- Blanks that may surround a whole number: all but the four separators among the controls. -/
def isOuterBlank (c : Char) : Bool :=
  Text.isBlank c && !(decide (0x1C ≤ c.toNat) && decide (c.toNat ≤ 0x1F))

/-- The value of a digit in bases up to sixteen. -/
def digit? (base : Nat) (c : Char) : Option Nat :=
  let value? :=
    if 'a' ≤ c ∧ c ≤ 'f' then some (c.toNat - 87)
    else if 'A' ≤ c ∧ c ≤ 'F' then some (c.toNat - 55)
    else Text.digitValue? c
  value?.filter (· < base)

/-- Reads digits onto the value read so far. An underscore stands only between two digits. -/
def digits? (base : Nat) : Nat → List Char → Option Nat
  | value, [] => some value
  | value, '_' :: c :: rest => (digit? base c).bind fun d => digits? base (value * base + d) rest
  | value, c :: rest => (digit? base c).bind fun d => digits? base (value * base + d) rest

/-- A number in digits alone: at least one, an underscore never first. -/
def plain? (base : Nat) : List Char → Option Nat
  | [] => none
  | c :: rest => (digit? base c).bind fun d => digits? base d rest

/-- A number without its sign. In base sixteen it may be marked by `0x`, which an underscore may follow. -/
def unsigned? (base : Nat) : List Char → Option Nat
  | '0' :: x :: rest =>
    if base = 16 ∧ (x = 'x' ∨ x = 'X') then plain? base (if rest.head? = some '_' then rest.drop 1 else rest)
    else plain? base ('0' :: x :: rest)
  | cs => plain? base cs

/-- The sign of a number, and the rest of it. -/
def sign : List Char → Bool × List Char
  | '-' :: rest => (true, rest)
  | '+' :: rest => (false, rest)
  | rest => (false, rest)

/-- A whole number with its sign. -/
def signed? (base : Nat) (cs : List Char) : Option Int :=
  (unsigned? base (sign cs).2).map fun n => if (sign cs).1 then -(n : Int) else n

/-- The characters of a whole number without the blanks around it. -/
def core (cs : List Char) : List Char :=
  ((cs.dropWhile isOuterBlank).reverse.dropWhile isOuterBlank).reverse

/-- The whole number that a text is, in a base up to sixteen. -/
def int? (base : Nat) (s : String) : Option Int :=
  signed? base (core s.toList)

/-- The digits and underscores that a text begins with, after its blanks and its sign. -/
def lead (s : String) : List Char :=
  ((sign (core s.toList)).2).takeWhile fun c => c = '_' || (Text.digitValue? c).isSome

/-- Whether an underscore is neither first, nor last, nor next to another one; `after` tells whether a digit comes
before. -/
def isSpaced (after : Bool) : List Char → Bool
  | [] => true
  | ['_'] => false
  | c :: rest => if c = '_' then after && isSpaced false rest else isSpaced true rest

/-- How many digits a text begins with, after its blanks and its sign, underscores not counted; none if the underscores
are out of place. -/
def leadingDigits (s : String) : Nat :=
  if isSpaced false (lead s) then ((lead s).filter (· ≠ '_')).length else 0

/-- The floating-point number nearest to `digits * 10 ^ exponent`. Far outside the range the answer is known without
computing the power. -/
def float (digits : Nat) (exponent : Int) : Float :=
  let size : Int := (toString digits).length + exponent
  if digits = 0 then 0.0
  else if 400 < size then Float.ofBits 0x7FF0000000000000
  else if size < -400 then 0.0
  else Float.ofScientific digits (decide (exponent < 0)) exponent.natAbs

end Literal

end SlideFill
