import SlideFill.Deck.Link
import SlideFill.Fill.Passage

/-!
# Listing variables

Lists the variables that a deck holds, without changing it: slide by slide and shape by shape, the link of the shape
first, then for each paragraph the links of its runs and the variables in its text.
-/

namespace SlideFill

/-- A variable of a shape, and where it stands. -/
structure Met where
  channel : Channel
  var : Variable
deriving DecidableEq

/-- A variable of a deck: the number of its slide, the name of its shape, and where in the shape it stands. -/
structure Mention where
  slide : Nat
  shape : String
  channel : Channel
  var : Variable
deriving DecidableEq

namespace Channel

/-- The name of a channel. -/
def name : Channel → String
  | .shapeLink => "shape-link"
  | .pictureLink => "picture-link"
  | .runLink => "run-link"
  | .text => "text"

end Channel

/-- The variables of a paragraph. -/
def Paragraph.variables (p : Paragraph) : List Met :=
  p.runs.filterMap (fun r => r.variable?.map (⟨.runLink, ·⟩)) ++
    (Variable.occurrences p.joined).map (fun o => ⟨.text, o.var⟩)

/-- The variables of a body of text. -/
def bodyVariables (body : List Paragraph) : List Met :=
  body.flatMap Paragraph.variables

/-- The variable of a shape's link, met through a channel. -/
def linkVariables (channel : Channel) (link : Option Link) : Except Fault (List Met) :=
  (shapeVariable link).map fun v => v.toList.map (⟨channel, ·⟩)

/-- The variables of a shape. -/
def Shape.variables : Shape → Except Fault (List Met)
  | .text box => (linkVariables .shapeLink box.link).map (· ++ bodyVariables box.body)
  | .table t => .ok (t.rows.flatMap fun row => row.flatMap fun cell => bodyVariables (cell.getD []))
  | .picture p => linkVariables .pictureLink p.link
  | _ => .ok []

/-- The variables of a slide with a number. -/
def Slide.variables (number : Nat) : List Shape → Except Fault (List Mention)
  | [] => .ok []
  | s :: rest =>
    s.variables.bind fun mets =>
      (Slide.variables number rest).map fun mentions =>
        mets.map (fun x => ⟨number, s.name, x.channel, x.var⟩) ++ mentions

/-- The variables of slides, the first having a number. -/
def Deck.variablesFrom : Nat → List Slide → Except Fault (List Mention)
  | _, [] => .ok []
  | number, s :: rest =>
    (Slide.variables number s).bind fun first => (variablesFrom (number + 1) rest).map (first ++ ·)

/-- The variables of a deck. -/
def Deck.variables (d : Deck) : Except Fault (List Mention) :=
  Deck.variablesFrom 1 d

end SlideFill
