import SlideFill.Fill.Replacement
import SlideFill.Fill.Shape

/-!
# Filling decks

A slide is filled in two steps. First all its shapes are read and filled; then the hidden ones are removed and the
pictures to be replaced are replaced, one after the other. A fault ends the fill: slides before are filled, slides
behind are as they were.
-/

namespace SlideFill

/-- A question that a fill puts to its mapping: the number of the slide and the name of the shape that it is about, where
in the shape the variable stands, and what is asked. -/
structure Request where
  slide : Nat
  shape : String
  channel : Channel
  query : Query
deriving DecidableEq

/-- How many shapes were removed and how many pictures replaced. -/
structure Tally where
  removed : Nat
  replaced : Nat
deriving DecidableEq

/-- What filling came to: what it left, the questions it asked and the notes it wrote, each in order, and its outcome. -/
structure Filling (α β : Type) where
  after : α
  asked : List Request
  log : List Note
  outcome : Except Fault β

namespace Slide

/-- Reads and fills the shapes of a slide. -/
def read (m : Mapping) (number : Nat) (s : Slide) : Passage Request Slide (List Verdict) :=
  Passage.each (fun shape => (shape.fill m).mapAsked fun c => ⟨number, shape.name, c.channel, c.query⟩) s

/-- The notes on shapes that are to be removed. -/
def removalNotes : List (Shape × Verdict) → List Note
  | [] => []
  | (s, .remove) :: rest => .removing s.name :: removalNotes rest
  | _ :: rest => removalNotes rest

/-- The shapes that are not to be removed. -/
def remaining : List (Shape × Verdict) → List (Shape × Verdict)
  | [] => []
  | (_, .remove) :: rest => remaining rest
  | sv :: rest => sv :: remaining rest

/-- Replaces the pictures that are to be replaced, from back to front; `behind` are the shapes that are settled. A
picture that cannot be replaced stays, and so do all pictures in front of it. -/
def replaceFrom (behind : List Shape) : List (Shape × Verdict) → List Shape × List Note × Except Fault Nat
  | [] => (behind, [], .ok 0)
  | (.picture p, .replace r) :: rest =>
    let slide := behind ++ .picture p :: rest.map (·.1)
    match p.replaceBy r (Slide.nextId slide) with
    | .error e => (slide, [], .error e)
    | .ok (new, note) =>
      let (after, notes, outcome) := replaceFrom (behind ++ [.picture new]) rest
      (after, note :: notes, outcome.map (· + 1))
  | (s, _) :: rest => replaceFrom (behind ++ [s]) rest

/-- Fills a slide. -/
def fill (m : Mapping) (number : Nat) (s : Slide) : Filling Slide Tally :=
  let passage := read m number s
  match passage.outcome with
  | .error e => ⟨passage.after, passage.asked, [], .error e⟩
  | .ok verdicts =>
    let judged := passage.after.zip verdicts
    let removals := removalNotes judged
    let (after, notes, outcome) := replaceFrom [] (remaining judged)
    ⟨after, passage.asked, removals ++ notes, outcome.map fun replaced => ⟨removals.length, replaced⟩⟩

end Slide

namespace Deck

/-- Fills slides, the first having a number. -/
def fillFrom (m : Mapping) : Nat → List Slide → Filling Deck Tally
  | _, [] => ⟨[], [], [], .ok ⟨0, 0⟩⟩
  | number, s :: rest =>
    let first := Slide.fill m number s
    match first.outcome with
    | .error e => ⟨first.after :: rest, first.asked, first.log, .error e⟩
    | .ok t =>
      let others := fillFrom m (number + 1) rest
      ⟨first.after :: others.after, first.asked ++ others.asked, first.log ++ others.log,
        others.outcome.map fun u => ⟨t.removed + u.removed, t.replaced + u.replaced⟩⟩

/-- Fills a deck. If nothing goes wrong, the last note says how much was removed and replaced. -/
def fill (m : Mapping) (d : Deck) : Filling Deck Tally :=
  let filling := fillFrom m 1 d
  match filling.outcome with
  | .error _ => filling
  | .ok t => { filling with log := filling.log ++ [.filled d.length t.removed t.replaced] }

end Deck

end SlideFill
