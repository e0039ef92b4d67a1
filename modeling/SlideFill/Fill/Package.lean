import SlideFill.Deck.Package
import SlideFill.Fill.Deck

/-!
# Filling packages

Filling the deck of a package keeps what its slides relate to, less the addresses of links that are cleared and of no
other: variables lose their links, and the links in hidden paragraphs go away with them. New pictures bring their images
along. What a fill had not come to when it stopped loses nothing.
-/

namespace SlideFill

/-- What is lost along a list by work that stops at the first item it does not succeed in. -/
def lossesAlong {α : Type} (succeeds : α → Bool) (losses : α → List LinkLoss) : List α → List LinkLoss
  | [] => []
  | a :: rest => losses a ++ if succeeds a then lossesAlong succeeds losses rest else []

/-- The address that an item linked to before, if it links to none any more. -/
def Item.lostAddress? (before after : Item) : Option String :=
  if after.address?.isSome then none else before.address?

/-- The links that filling a body of text loses: those that its runs lose first, then those in paragraphs that go. -/
def bodyLosses (m : Mapping) (body : List Paragraph) : List LinkLoss :=
  let passage := Passage.each (Paragraph.fill m) body
  let cleared := (body.zip passage.after).flatMap fun (before, after) =>
    (before.items.zip after.items).filterMap fun (b, a) => (b.lostAddress? a).map .cleared
  match passage.outcome with
  | .error _ => cleared
  | .ok flags =>
    cleared ++ (passage.after.zip flags).flatMap fun (p, goes) => if goes then p.addresses.map .removed else []

/-- The loss of a shape's own link. -/
def ownLoss (link : Option Link) : List LinkLoss :=
  (link.bind Link.address?).toList.map .cleared

/-- The links that filling a shape loses. -/
def Shape.losses (m : Mapping) : Shape → List LinkLoss
  | .text box =>
    match shapeVariable box.link with
    | .error _ => []
    | .ok none => bodyLosses m box.body
    | .ok (some v) => ownLoss box.link ++ if m.hides v then [] else bodyLosses m box.body
  | .table t =>
    lossesAlong (fun cell => (fillCell m cell).outcome.isOk) (fun cell => bodyLosses m (cell.getD [])) t.rows.flatten
  | .picture p =>
    match shapeVariable p.link with
    | .ok (some _) => ownLoss p.link
    | _ => []
  | _ => []

/-- The links that reading a slide loses. -/
def Slide.losses (m : Mapping) (s : Slide) : List LinkLoss :=
  lossesAlong (fun shape => (shape.fill m).outcome.isOk) (Shape.losses m) s

/-- What a slide with a number relates to once it is filled. -/
def Relations.filled (m : Mapping) (number : Nat) (s : Slide) (r : Relations) : Relations :=
  ⟨AddressBook.after r.addresses s (s.losses m),
    (r.images ++ Shape.imagesOfAll (Slide.fill m number s).after).eraseDups⟩

namespace Package

/-- What slides relate to once they are filled, the first having a number. -/
def relationsFrom (m : Mapping) : Nat → List Slide → List Relations → List Relations
  | number, s :: rest, r :: others =>
    r.filled m number s ::
      if (Slide.fill m number s).outcome.isOk then relationsFrom m (number + 1) rest others else others
  | _, _, others => others

/-- Fills the deck of a package. -/
def fill (m : Mapping) (p : Package) : Filling Package Tally :=
  let filling := Deck.fill m p.deck
  ⟨⟨filling.after, relationsFrom m 1 p.deck p.relations⟩, filling.asked, filling.log, filling.outcome⟩

end Package

end SlideFill
