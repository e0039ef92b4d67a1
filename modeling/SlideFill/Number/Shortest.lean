import SlideFill.Number.Binary

/-!
# Shortest decimals

The fewest decimal digits that read back as a given floating-point number, and of those the nearest to it. For one
digit, two digits and so on, the two neighbours of the number among the decimals with so many digits are tried; the
first that lies in the interval of reals which round to the number is taken.
-/

namespace SlideFill

/-- The number `digits * 10 ^ exponent`. -/
structure Decimal where
  digits : Nat
  exponent : Int
deriving DecidableEq

namespace Shortest

/-- How `a * 10 ^ g` compares with `b * 2 ^ e`. -/
def compareTo (a : Nat) (g : Int) (b : Nat) (e : Int) : Ordering :=
  compare (a * Nat.pow 10 g.toNat * Nat.pow 2 (-e).toNat) (b * Nat.pow 2 e.toNat * Nat.pow 10 (-g).toNat)

/-- Whether `a * 10 ^ g` rounds to `m * 2 ^ e`: it lies between the middles toward the two neighbouring numbers, the
middles counting when `m` is even. Below a power of two the numbers lie twice as close. -/
def readsBack (m : Nat) (e : Int) (a : Nat) (g : Int) : Bool :=
  let lower := if m = Binary.unit ∧ e ≠ -1074 then 4 * m - 1 else 4 * m - 2
  let toLower := compareTo a g lower (e - 2)
  let toUpper := compareTo a g (4 * m + 2) (e - 2)
  if m % 2 = 0 then toLower.isGE && toUpper.isLE else toLower.isGT && toUpper.isLT

/-- How many times `10 ^ g` goes into `m * 2 ^ e`. -/
def multiples (m : Nat) (e g : Int) : Nat :=
  m * Nat.pow 2 e.toNat * Nat.pow 10 (-g).toNat / (Nat.pow 10 g.toNat * Nat.pow 2 (-e).toNat)

/-- The neighbours of `m * 2 ^ e` among the multiples of `10 ^ g` that read back, the nearer one of two, and of two
equally near the even one. -/
def onGrid (m : Nat) (e g : Int) : Option Decimal :=
  let below := multiples m e g
  let above := below + 1
  match readsBack m e below g, readsBack m e above g with
  | true, false => some ⟨below, g⟩
  | false, true => some ⟨above, g⟩
  | false, false => none
  | true, true =>
    match compareTo (below + above) g m (e + 1) with
    | .gt => some ⟨below, g⟩
    | .lt => some ⟨above, g⟩
    | .eq => some ⟨if below % 2 = 0 then below else above, g⟩

/-- The least `k` with `m * 2 ^ e` below `10 ^ k`, found near the estimate that the number of bits gives. -/
def scale (m : Nat) (e : Int) : Int :=
  let estimate := ((m.log2 : Int) + e) * 30103 / 100000 - 1
  ((List.range 4).map fun (i : Nat) => estimate + i).find? (fun k => (compareTo 1 k m e).isGT) |>.getD (estimate + 4)

/-- The shortest decimal of `m * 2 ^ e`; seventeen digits always read back. -/
def ofBinary (m : Nat) (e : Int) : Decimal :=
  if m = 0 then ⟨0, 0⟩
  else
    let k := scale m e
    ((List.range 17).findSome? fun (n : Nat) => onGrid m e (k - (n + 1))).getD
      ⟨m * Nat.pow 5 (-e).toNat * Nat.pow 2 e.toNat, min e 0⟩

end Shortest

/-- Takes the zeros off the end of a decimal's digits. At most as many are taken off as there are digits. -/
def Decimal.stripFrom : Nat → Decimal → Decimal
  | 0, d => d
  | n + 1, d => if d.digits ≠ 0 ∧ d.digits % 10 = 0 then stripFrom n ⟨d.digits / 10, d.exponent + 1⟩ else d

/-- The same number without zeros at the end of its digits. -/
def Decimal.strip (d : Decimal) : Decimal :=
  d.stripFrom (Nat.log2 d.digits + 1)

end SlideFill
