import SlideFill.Deck.Basic
import SlideFill.Fault

/-!
# Where links lead

A link whose address spells a variable is a directive of the template. Links of runs and of shapes differ in what
counts as an address: an action without a verb is none for a run and one for a shape, and a relationship that does not
exist is passed over in a run and a fault in a shape.
-/

namespace SlideFill

namespace Link

/-- The address of a run's link. -/
def runAddress? (l : Link) : Option String :=
  if l.action.getD "" ≠ "" then none
  else
    match l.target with
    | .external url => some url
    | _ => none

/-- The address of a shape's link. -/
def shapeAddress (l : Link) : Except Fault (Option String) :=
  if l.action.isSome then .ok none
  else
    match l.target with
    | .external url => .ok (some url)
    | .missing id => .error (.brokenLink id)
    | _ => .ok none

end Link

/-- The variable that a run's link spells. -/
def Run.variable? (r : Run) : Option Variable :=
  (r.link.bind Link.runAddress?).bind Variable.parse?

/-- The variable that the link of a shape spells. -/
def shapeVariable : Option Link → Except Fault (Option Variable)
  | none => .ok none
  | some l => l.shapeAddress.map (·.bind Variable.parse?)

end SlideFill
