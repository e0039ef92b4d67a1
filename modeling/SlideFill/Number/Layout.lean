import SlideFill.Number.Shortest

/-!
# Numbers as text

A `Layout` holds the decisions that turn the shortest digits of a number into text: from where on an exponent is
written, how, and how what is not finite is named. `Layout.data` is the one that texts filled into a deck use.
-/

namespace SlideFill

/-- The decisions on how a number is written. -/
structure Layout where
  /-- Numbers from `10 ^ smallest` on are written without an exponent, -/
  smallest : Int
  /-- up to but without `10 ^ largest`. -/
  largest : Int
  /-- What a number without fractional digits ends in. -/
  wholeEnd : String
  /-- What stands before an exponent. -/
  mark : String
  /-- How many digits an exponent has at least. -/
  exponentWidth : Nat
  nan : String
  infinity : String

namespace Layout

/-- Numbers are written without an exponent from a ten-thousandth up to ten to the sixteenth, a whole number ends in
`.0`, and an exponent has a sign and at least two digits. -/
def data : Layout :=
  ⟨-4, 16, ".0", "e", 2, "nan", "inf"⟩

/-- The digits of an exponent, filled up with zeros on the left. -/
def exponentText (l : Layout) (e : Int) : String :=
  let ds := toString e.natAbs
  (if e < 0 then "-" else "+") ++ String.ofList (List.replicate (l.exponentWidth - ds.length) '0') ++ ds

/-- A number that is not negative, given by its shortest decimal. -/
def unsigned (l : Layout) (d : Decimal) : String :=
  let ds := (toString d.digits).toList
  let point : Int := ds.length + d.exponent
  if d.digits = 0 then "0" ++ l.wholeEnd
  else if l.smallest < point ∧ point ≤ l.largest then
    if point ≤ 0 then String.ofList ('0' :: '.' :: List.replicate (-point).toNat '0' ++ ds)
    else if d.exponent < 0 then String.ofList (ds.take point.toNat ++ '.' :: ds.drop point.toNat)
    else String.ofList (ds ++ List.replicate d.exponent.toNat '0') ++ l.wholeEnd
  else
    let tail := ds.drop 1
    String.ofList (ds.take 1 ++ (if tail.isEmpty then [] else '.' :: tail)) ++ l.mark ++ l.exponentText (point - 1)

/-- The text of a floating-point number. -/
def float (l : Layout) (x : Float) : String :=
  match Binary.ofFloat x with
  | .nan => l.nan
  | .infinite negative => (if negative then "-" else "") ++ l.infinity
  | .finite negative m e => (if negative then "-" else "") ++ l.unsigned (Shortest.ofBinary m e).strip

end Layout

end SlideFill
