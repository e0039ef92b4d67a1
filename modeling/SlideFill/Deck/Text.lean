import SlideFill.Deck.Storable

/-!
# Text of runs

A run cannot hold control characters other than tab and line feed: they are written out as `_xHHHH_` when its text is
set. Nor can it hold the two last code points of the first plane: a text with one of them is not set, and that is a
fault. Breaks, fields, links and fonts are not concerned.
-/

namespace SlideFill

/-- The characters that a character becomes in a run. -/
def escapeControl (c : Char) : List Char :=
  if isControl c then '_' :: 'x' :: (Text.hexDigits 4 c.toNat).map Char.toUpper ++ ['_'] else [c]

/-- A run with its text set. -/
def Run.setText (r : Run) (text : String) : Run :=
  { r with text := String.ofList (text.toList.flatMap escapeControl) }

/-- The run with another text, and whether it could be set. A text that is the same already is not set; one that a deck
cannot hold leaves the run empty. -/
def Run.updateText (r : Run) (text : String) : Run × Except Fault Unit :=
  if r.text = text then (r, .ok ())
  else if isStorableText (r.setText text).text then (r.setText text, .ok ())
  else (r.setText "", .error .unstorableText)

/-- Gives the runs among some items their texts, in order, until one cannot be set. -/
def updateTexts : List Item → List String → List Item × Except Fault Unit
  | .run r :: items, text :: texts =>
    match r.updateText text with
    | (r, .error e) => (.run r :: items, .error e)
    | (r, .ok ()) => (.run r :: (updateTexts items texts).1, (updateTexts items texts).2)
  | .run r :: items, [] => (.run r :: items, .ok ())
  | item :: items, texts => (item :: (updateTexts items texts).1, (updateTexts items texts).2)
  | [], _ => ([], .ok ())

/-- A paragraph with the texts of its runs replaced, as far as they could be set. -/
def Paragraph.updateTexts (p : Paragraph) (texts : List String) : Paragraph × Except Fault Unit :=
  (⟨(SlideFill.updateTexts p.items texts).1⟩, (SlideFill.updateTexts p.items texts).2)

end SlideFill
