/-!
# Rounding

Quotients of integers rounded to the nearest integer, halves going to the even neighbour.
-/

namespace SlideFill

namespace Rounding

/-- The integer nearest to `num / den`, the even one of two that are equally near. -/
def halfEven (num : Int) (den : Nat) : Int :=
  let q := num.fdiv den
  let r := num.fmod den
  if 2 * r < den then q
  else if 2 * r = den ∧ q % 2 = 0 then q
  else q + 1

end Rounding

end SlideFill
