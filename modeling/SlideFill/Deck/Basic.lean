import SlideFill.Image.Raster
import SlideFill.Text.Case
import SlideFill.Variable.Basic

/-!
# Slide decks

A deck is a list of slides, a slide a list of shapes in the order in which they are drawn. Text boxes and the cells of
tables hold paragraphs, a paragraph holds runs of text, line breaks and fields. Text boxes, pictures and runs can carry
a link.
-/

namespace SlideFill

/-- A colour by its red, green and blue, each below 256. -/
structure Color where
  red : UInt8
  green : UInt8
  blue : UInt8
deriving DecidableEq

/-- The font properties of a run. A property that is none is inherited. -/
structure Font where
  bold : Option Bool := none
  italic : Option Bool := none
  underline : Option Bool := none
  name : Option String := none
  /-- The size in units of length. -/
  size : Option Nat := none
  color : Option Color := none
deriving DecidableEq

/-- What a link points to. -/
inductive LinkTarget where
  | external (url : String)
  /-- Another part of the deck. -/
  | internal
  /-- A relationship that does not exist, by its id. -/
  | missing (id : String)
  /-- No relationship. -/
  | nothing
deriving DecidableEq

/-- A link, with the verb of an action if it has one. -/
structure Link where
  target : LinkTarget
  action : Option String
deriving DecidableEq

/-- A stretch of text in one font. -/
structure Run where
  text : String
  link : Option Link
  font : Font
deriving DecidableEq

/-- A piece of a paragraph. -/
inductive Item where
  | run (r : Run)
  | lineBreak
  /-- A text that is kept up to date by the program that shows the deck, such as a slide number. -/
  | field (text : String)
deriving DecidableEq

/-- A paragraph, as its items from left to right. -/
structure Paragraph where
  items : List Item
deriving DecidableEq

namespace Paragraph

/-- The run that an item is. -/
def runOf? : Item → Option Run
  | .run r => some r
  | _ => none

/-- The runs of a paragraph; breaks and fields are none. -/
def runs (p : Paragraph) : List Run :=
  p.items.filterMap runOf?

/-- The texts of the runs, joined. -/
def joined (p : Paragraph) : String :=
  String.join (p.runs.map (·.text))

end Paragraph

/-- Position and size of a picture in units of length. -/
structure Anchor where
  left : Int
  top : Int
  width : Int
  height : Int
deriving DecidableEq

/-- A shape with text of its own. -/
structure TextBox where
  id : Nat
  name : String
  link : Option Link
  body : List Paragraph
deriving DecidableEq

/-- A table by its rows; a cell can be without a body of text. -/
structure Table where
  id : Nat
  name : String
  rows : List (List (Option (List Paragraph)))
deriving DecidableEq

/-- A picture; its position and size can be lacking. -/
structure Picture where
  id : Nat
  name : String
  link : Option Link
  anchor : Option Anchor
  image : EncodedImage
deriving DecidableEq

/-- A shape. Only text boxes, tables and pictures are filled. -/
inductive Shape where
  | text (box : TextBox)
  | table (t : Table)
  | picture (p : Picture)
  | connector (id : Nat) (name : String)
  | group (id : Nat) (name : String) (children : List Shape)

/-- The shapes of a slide, the one at the back first. -/
abbrev Slide := List Shape

/-- The slides of a deck, from the first to the last. -/
abbrev Deck := List Slide

namespace Shape

/-- The id of a shape itself. -/
def id : Shape → Nat
  | text box => box.id
  | table t => t.id
  | picture p => p.id
  | connector id _ => id
  | group id _ _ => id

/-- The name of a shape. -/
def name : Shape → String
  | text box => box.name
  | table t => t.name
  | picture p => p.name
  | connector _ name => name
  | group _ name _ => name

mutual

/-- The ids of a shape and of everything in it. -/
def ids : Shape → List Nat
  | group id _ children => id :: idsOfAll children
  | text box => [box.id]
  | table t => [t.id]
  | picture p => [p.id]
  | connector id _ => [id]

/-- The ids of shapes and of everything in them. -/
def idsOfAll : List Shape → List Nat
  | [] => []
  | s :: rest => ids s ++ idsOfAll rest

end

end Shape

/-- The id of the tree of shapes that every slide has. -/
def Slide.treeId : Nat := 1

/-- All ids on a slide: that of the tree and those of the shapes. -/
def Slide.ids (s : Slide) : List Nat :=
  treeId :: Shape.idsOfAll s

/-- The id that a new shape gets: one more than the greatest on the slide. -/
def Slide.nextId (s : Slide) : Nat :=
  (Slide.ids s).foldl max 0 + 1

end SlideFill
