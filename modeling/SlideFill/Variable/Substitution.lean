import SlideFill.Mapping.Query

/-!
# Substitution over several texts

The text of a paragraph is cut into the texts of its runs, and a variable may begin in one run and end in another.
Substitution looks for variables in the joined text and puts each value into the run where its variable begins, so that
it takes that run's formatting; what is left of the variable in later runs is taken out.
-/

namespace SlideFill

/-- A stretch of the joined text, and what takes its place. -/
structure Edit where
  start : Nat
  stop : Nat
  value : List Char
deriving DecidableEq

namespace Edit

/-- Where each of some texts starts in the joined text, the first one at an offset. -/
def startsFrom : Nat → List (List Char) → List Nat
  | _, [] => []
  | i, t :: rest => i :: startsFrom (i + t.length) rest

/-- How many of some ascending offsets are not beyond an offset. -/
def countUpTo (starts : List Nat) (offset : Nat) : Nat :=
  (starts.takeWhile (· ≤ offset)).length

/-- The place of the text with the character at an offset: the last one of those that do not start behind it. -/
def placeOf (starts : List Nat) (offset : Nat) : Nat :=
  countUpTo starts offset - 1

/-- Empties the texts at the places from `i` up to `j`. -/
def clear (i j : Nat) (texts : List (List Char)) : List (List Char) :=
  texts.mapIdx fun k t => if i ≤ k ∧ k < j then [] else t

/-- Puts the value of an edit in the place of its stretch, into the text where the stretch begins. The offsets at which
the texts start are those before any edit. -/
def splice (starts : List Nat) (e : Edit) (texts : List (List Char)) : List (List Char) :=
  let first := placeOf starts e.start
  let last := placeOf starts (e.stop - 1)
  let head := (texts.getD first []).take (e.start - starts.getD first 0)
  let tail := (texts.getD last []).drop (e.stop - starts.getD last 0)
  if first = last then texts.set first (head ++ e.value ++ tail)
  else (clear (first + 1) last (texts.set first (head ++ e.value))).set last tail

/-- Makes edits that are in order and apart, the last one first, so that the offsets of the others stay valid. -/
def apply (edits : List Edit) (texts : List (List Char)) : List (List Char) :=
  edits.foldr (splice (startsFrom 0 texts)) texts

end Edit

/-- The edit that gives a variable its value, if it has one. -/
def editOf? (o : Variable.Occurrence) (value : Option String) : Option Edit :=
  value.map fun v => ⟨o.start, o.stop, v.toList⟩

/-- The edits that give the variables within a text their values, which are asked for from left to right; a variable
without one stays. -/
def editsOf (ask : Variable → Asked (Option String)) (text : String) : Asked (List Edit) :=
  (Asked.each (fun o => (ask o.var).map (editOf? o)) (Variable.occurrences text)).map (·.filterMap id)

/-- The texts of a paragraph's runs with the variables of the joined text substituted, and how many were. -/
def substitute (ask : Variable → Asked (Option String)) (texts : List String) : Asked (List String × Nat) :=
  (editsOf ask (String.join texts)).map fun edits =>
    ((Edit.apply edits (texts.map String.toList)).map String.ofList, edits.length)

end SlideFill
