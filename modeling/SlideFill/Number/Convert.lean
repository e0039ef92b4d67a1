import SlideFill.Fault
import SlideFill.Json.Text
import SlideFill.Number.Dyadic

/-!
# Data values as numbers

The whole number that a data value gives where one is needed, the font size that it gives, and lengths in points.
-/

namespace SlideFill

namespace Json

/-- The whole number that a text spells. -/
def wholeOfText (s : String) : Except NumberFault Int :=
  if maxDigits < Literal.leadingDigits s then .error (.tooManyDigits (Literal.leadingDigits s))
  else
    match Literal.int? 10 s with
    | some n => .ok n
    | none => .error (.notWhole s)

/-- The integer part of a floating-point number. -/
def wholeOfFloat (x : Float) : Except NumberFault Int :=
  match Binary.ofFloat x, truncate? x with
  | _, some n => .ok n
  | .nan, none => .error .nan
  | _, none => .error .infinite

/-- The whole number that a value gives: a number without its fraction, a truth value as one or zero, a text as it is
spelled. -/
def toWhole : Json → Except NumberFault Int
  | .int n => .ok n
  | .bool b => .ok (if b then 1 else 0)
  | .float x => wholeOfFloat x
  | .string s => wholeOfText s
  | j => .error (.noNumber j.kind)

end Json

/-- How many units of length make a point. -/
def unitsPerPoint : Nat := 12700

/-- How many units of length make a hundredth of a point. -/
def unitsPerHundredth : Nat := 127

/-- A number of points in units of length, without a fraction. A text is repeated before it is read. -/
def unitsOfPoints : Json → Except NumberFault Int
  | .int n => .ok (n * unitsPerPoint)
  | .bool b => .ok (if b then unitsPerPoint else 0)
  | .float x => Json.wholeOfFloat (x * Float.ofNat unitsPerPoint)
  | .string s => Json.wholeOfText (String.join (List.replicate unitsPerPoint s))
  | .array _ => .error (.noNumber "list")
  | j => .error (.noProduct j.kind)

/-- How many units of length a floating-point number counts one by one: the fifty-third power of two. -/
def exactUnits : Nat := 0x20000000000000

/-- The whole points in a number of units of length. The number and its quotient are rounded, which makes no difference
as long as units are counted one by one. -/
def wholePoints (units : Int) : Except NumberFault Int :=
  if units.natAbs < exactUnits then .ok (units.tdiv unitsPerPoint)
  else
    match (Dyadic.nearest? units.natAbs 1).bind fun x => Dyadic.nearest? x.num (x.den * unitsPerPoint) with
    | some points => .ok (if units < 0 then -(points.floor : Int) else points.floor)
    | none => .error .wholeTooLarge

/-- A font size in units of length: whole hundredths of a point, from one point to four thousand. -/
def fontSize (units : Int) : Except NumberFault Nat :=
  let hundredths := units.fdiv unitsPerHundredth
  if 100 ≤ hundredths ∧ hundredths ≤ 400000 then .ok (hundredths.toNat * unitsPerHundredth)
  else if Json.isShort hundredths then .error (.sizeOutOfRange hundredths)
  else .error .tooLong

end SlideFill
