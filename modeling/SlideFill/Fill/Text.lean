import SlideFill.Deck.Link
import SlideFill.Deck.Text
import SlideFill.Fill.Passage
import SlideFill.Fill.Positions
import SlideFill.Mapping.Basic
import SlideFill.Variable.Substitution

/-!
# Filling text

The runs of a paragraph come first: one whose link is a variable is styled, and hidden or kept, and loses its link.
Then the variables in the text that is left are substituted. A hidden run loses its text; one that is the only run of
its paragraph takes the whole paragraph along.
-/

namespace SlideFill

/-- The font that a style, if there is one, makes of a font, and the fault that kept it from doing so. -/
def Font.restyle (f : Font) : Option Style → Font × Option Fault
  | none => (f, none)
  | some s => s.apply f

/-- Styles a run whose link is a variable, and hides it if need be. The result says whether its paragraph is to go: that
of a hidden run which is alone. -/
def Run.direct (m : Mapping) (alone : Bool) (r : Run) : Passage Call Run Bool :=
  match r.variable? with
  | none => .done r false
  | some v =>
    .asking .runLink (m.askStyle v.name) fun style =>
      let styled := r.font.restyle style
      match styled.2 with
      | some e => .stop { r with font := styled.1 } e
      | none =>
        .asking .runLink (m.askHide v) fun hidden =>
          if hidden then
            if alone then .done { r with font := styled.1 } true
            else .done { text := "", link := none, font := styled.1 } false
          else .done { r with link := none, font := styled.1 } false

/-- The work on an item: only runs have any. -/
def Item.direct (m : Mapping) (alone : Bool) : Item → Passage Call Item Bool
  | .run r => (r.direct m alone).mapAfter .run
  | item => .done item false

namespace Paragraph

/-- Substitutes the variables in the text of a paragraph. The result says how many were. -/
def substitute (m : Mapping) (p : Paragraph) : Passage Call Paragraph Nat :=
  .asking .text (SlideFill.substitute m.askText (p.runs.map (·.text))) fun given =>
    ⟨(p.updateTexts given.1).1, [], (p.updateTexts given.1).2.map fun _ => given.2⟩

/-- Fills a paragraph. The result says whether it is to go. -/
def fill (m : Mapping) (p : Paragraph) : Passage Call Paragraph Bool :=
  let items := Passage.each (Item.direct m (p.runs.length == 1)) p.items
  match items.outcome with
  | .error e => ⟨⟨items.after⟩, items.asked, .error e⟩
  | .ok flags =>
    let substituted := substitute m ⟨items.after⟩
    ⟨substituted.after, items.asked ++ substituted.asked, substituted.outcome.map fun _ => flags.any id⟩

end Paragraph

/-- The positions of the flags that are set. -/
def flagged (flags : List Bool) : List Int :=
  flags.zipIdx.filterMap fun (flag, i) => if flag then some (i : Int) else none

/-- Fills a body of text. Paragraphs that are to go are removed after all have been filled. -/
def fillBody (m : Mapping) (body : List Paragraph) : Passage Call (List Paragraph) Unit :=
  let paragraphs := Passage.each (Paragraph.fill m) body
  match paragraphs.outcome with
  | .error e => ⟨paragraphs.after, paragraphs.asked, .error e⟩
  | .ok flags => ⟨(removePositions (flagged flags) paragraphs.after).1, paragraphs.asked, .ok ()⟩

end SlideFill
