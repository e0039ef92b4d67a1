import SlideFill.Fault

/-!
# Removing by position

Removes the items of a list that stand at given positions. Positions are those before any removal, in any order and
perhaps given twice. They are removed one after the other from the least on, each moved down by the number of items
that are gone already.
-/

namespace SlideFill

namespace Positions

/-- A position put into an ascending list of positions, unless it is there. -/
def insert (i : Int) : List Int → List Int
  | [] => [i]
  | j :: rest => if i < j then i :: j :: rest else if i = j then j :: rest else j :: insert i rest

/-- Positions in ascending order, each once. -/
def ascending (positions : List Int) : List Int :=
  positions.foldr insert []

/-- The least number that is too great for a position. -/
def bound : Int := 0x8000000000000000

/-- A list without the item at a position; a negative position counts from the end. -/
def pop {α : Type} (xs : List α) (i : Int) : Except Fault (List α) :=
  let j := if i < 0 then i + xs.length else i
  if 0 ≤ j ∧ j < xs.length then .ok (xs.eraseIdx j.toNat)
  else if i < -bound ∨ bound ≤ i then .error .positionTooLarge
  else .error (.noSuchPosition xs.isEmpty)

/-- Removes ascending positions, `removed` items being gone already: what is left, and how many were removed in all or
the fault that ended it. -/
def removeFrom {α : Type} : Nat → List Int → List α → List α × Except Fault Nat
  | removed, [], xs => (xs, .ok removed)
  | removed, i :: rest, xs =>
    match pop xs (i - removed) with
    | .error e => (xs, .error e)
    | .ok xs => removeFrom (removed + 1) rest xs

end Positions

/-- Removes the items at some positions: what is left, and how many were removed or the fault that ended it. -/
def removePositions {α : Type} (positions : List Int) (xs : List α) : List α × Except Fault Nat :=
  Positions.removeFrom 0 (Positions.ascending positions) xs

end SlideFill
