import SlideFill.Deck.Basic

/-!
# What a deck can hold

A deck holds no control characters other than tab and the ends of lines, and neither of the two last code points of the
first plane. This concerns the texts of runs and fields, the names of shapes and fonts, and the verbs of actions.
-/

namespace SlideFill

/-- Whether a run cannot hold a character. -/
def isControl (c : Char) : Bool :=
  c.toNat < 0x20 && c != '\t' && c != '\n'

/-- Whether a deck can hold a character. -/
def isStorable (c : Char) : Bool :=
  c = '\r' || (!isControl c && c.toNat != 0xFFFE && c.toNat != 0xFFFF)

/-- Whether a deck can hold a text as it is. -/
def isStorableText (text : String) : Bool :=
  text.toList.all isStorable

/-- Whether a deck can hold the verb of a link, if it has one. -/
def Link.isStorable (l : Link) : Bool :=
  l.action.all isStorableText

/-- Whether a deck can hold a run: its text, its link and the name of its font. -/
def Run.isStorable (r : Run) : Bool :=
  isStorableText r.text && r.link.all Link.isStorable && r.font.name.all isStorableText

/-- Whether a deck can hold an item. -/
def Item.isStorable : Item → Bool
  | .run r => r.isStorable
  | .lineBreak => true
  | .field text => isStorableText text

/-- Whether a deck can hold a paragraph. -/
def Paragraph.isStorable (p : Paragraph) : Bool :=
  p.items.all Item.isStorable

/-- Whether a deck can hold a table: its name and the bodies of its cells. -/
def Table.isStorable (t : Table) : Bool :=
  isStorableText t.name && t.rows.all fun row => row.all fun cell => cell.all fun body => body.all Paragraph.isStorable

namespace Shape

mutual

/-- Whether a deck can hold a shape and everything in it. -/
def isStorable : Shape → Bool
  | .text box =>
    isStorableText box.name && box.link.all Link.isStorable && box.body.all Paragraph.isStorable
  | .table t => t.isStorable
  | .picture p => isStorableText p.name && p.link.all Link.isStorable
  | .connector _ name => isStorableText name
  | .group _ name children => isStorableText name && areStorable children

/-- Whether a deck can hold shapes and everything in them. -/
def areStorable : List Shape → Bool
  | [] => true
  | s :: rest => isStorable s && areStorable rest

end

end Shape

/-- Whether a deck holds only what it can hold. -/
def Deck.isStorable (d : Deck) : Bool :=
  d.all Shape.areStorable

end SlideFill
