import SlideFill.Deck.Text
import SlideFill.Document.Image
import SlideFill.Mapping.Style

/-!
# Descriptions of decks

Decks are read from and shown as data values. Reading gives the shapes of a slide their ids, counted from behind that of
the tree of shapes, a group before what is in it.
-/

namespace SlideFill

namespace Link

/-- The id of the relationship that a broken link of a description leads to. -/
def brokenId : String :=
  "rId9999"

/-- The link of a description: an address, or what it points to and the verb of its action. -/
def ofJson? : Json → Option Link
  | .string url => some ⟨.external url, none⟩
  | .object fields =>
    let j := Json.object fields
    let target := match j.getString "rel" with
      | "internal" => .internal
      | "missing" => .missing brokenId
      | "none" => .nothing
      | _ => .external (j.getString "url")
    some ⟨target, (j.get "action").asString?⟩
  | _ => none

/-- The word for what a link points to. -/
def rel : LinkTarget → String
  | .external _ => "external"
  | .internal => "internal"
  | .missing _ => "missing"
  | .nothing => "none"

/-- A link shown. -/
def toJson (l : Link) : Json :=
  match l with
  | ⟨.external url, none⟩ => .string url
  | ⟨target, action⟩ =>
    .objectOf [("action", action.map .string), ("rel", some (.string (rel target))),
      ("url", match target with
        | .external url => some (.string url)
        | _ => none)]

/-- The link of a shape shown, null if it has none. -/
def showOption (l : Option Link) : Json :=
  (l.map toJson).getD .null

end Link

namespace Font

/-- The font of a description. -/
def ofJson (j : Json) : Font :=
  { bold := (j.get "bold").asBool?
    italic := (j.get "italic").asBool?
    underline := (j.get "underline").asBool?
    name := (j.get "name").asString?
    size := (j.field? "size").map fun n => n.asWhole.toNat / unitsPerHundredth * unitsPerHundredth
    color := (j.field? "color").bind Color.ofJson? }

/-- What a font sets. -/
def toJson (f : Font) : Json :=
  .objectOf [("bold", f.bold.map .bool), ("italic", f.italic.map .bool), ("underline", f.underline.map .bool),
    ("name", f.name.map .string), ("size", f.size.map .nat), ("color", f.color.map fun c => .string c.hex)]

end Font

namespace Run

/-- The run of a description. -/
def ofJson (j : Json) : Run :=
  Run.setText { text := "", link := Link.ofJson? (j.get "link"), font := .ofJson (j.get "font") } (j.getString "t")

/-- A run shown, with its link and font if it has any. -/
def toJson (r : Run) : Json :=
  .objectOf [("t", some (.string r.text)), ("link", r.link.map Link.toJson),
    ("font", if r.font = {} then none else some r.font.toJson)]

end Run

namespace Item

/-- The item of a description. -/
def ofJson (j : Json) : Item :=
  match j.field? "t", j.field? "fld" with
  | some _, _ => .run (.ofJson j)
  | none, some (.string s) => .field s
  | none, _ => .lineBreak

/-- An item shown. -/
def toJson : Item → Json
  | .run r => r.toJson
  | .lineBreak => .object [("br", .bool true)]
  | .field s => .object [("fld", .string s)]

end Item

namespace Paragraph

/-- The paragraph of a list of items. -/
def ofJson (j : Json) : Paragraph :=
  ⟨j.asList.map Item.ofJson⟩

/-- The paragraph of a list of items, if a deck can hold it. -/
def storableOfJson (j : Json) : Except Fault Paragraph :=
  if (ofJson j).isStorable then .ok (ofJson j) else .error .unstorableText

/-- A paragraph as the list of its items. -/
def toJson (p : Paragraph) : Json :=
  .array (p.items.map Item.toJson)

/-- A body of text from a list of paragraphs. There is always one. -/
def bodyOfJson (j : Json) : List Paragraph :=
  if j.asList.isEmpty then [⟨[]⟩] else j.asList.map ofJson

/-- A body of text as the list of its paragraphs. -/
def bodyToJson (body : List Paragraph) : Json :=
  .array (body.map toJson)

/-- The body of a cell, which null has none of. -/
def cellOfJson : Json → Option (List Paragraph)
  | .null => none
  | j => some (bodyOfJson j)

/-- The body of a cell shown. -/
def cellToJson (cell : Option (List Paragraph)) : Json :=
  (cell.map bodyToJson).getD .null

end Paragraph

namespace Anchor

/-- The position and size of a description, which four nulls have none of. -/
def ofJson? (j : Json) : Option Anchor :=
  match j.asList with
  | .null :: _ => none
  | items =>
    let numbers := items.map Json.asWhole
    some ⟨numbers.getD 0 0, numbers.getD 1 0, numbers.getD 2 0, numbers.getD 3 0⟩

/-- Position and size shown, four nulls if a picture has none. -/
def showOption : Option Anchor → Json
  | some a => .array [.int a.left, .int a.top, .int a.width, .int a.height]
  | none => .array (List.replicate 4 .null)

end Anchor

namespace Shape

/-- The shape of a description that is no group, without an id yet. -/
def leaf (j : Json) : Shape :=
  let name := j.getString "name"
  match j.getString "kind" with
  | "text" =>
    .text { id := 0, name, link := Link.ofJson? (j.get "link"), body := Paragraph.bodyOfJson (j.get "paragraphs") }
  | "table" =>
    .table { id := 0, name, rows := (j.get "rows").asList.map fun row => row.asList.map Paragraph.cellOfJson }
  | "picture" =>
    let anchor := if (j.get "no_anchor").truthy then none else Anchor.ofJson? (j.get "anchor")
    .picture
      { id := 0, name, link := Link.ofJson? (j.get "link"), anchor, image := .ofJson ((j.get "image").get "img") }
  | _ => .connector 0 name

mutual

/-- The shape of a description, without an id yet. -/
def ofJson : Json → Shape
  | .object fields =>
    let children := childrenOf fields
    let j := Json.object fields
    if (j.field? "children").isSome then .group 0 (j.getString "name") children else leaf j
  | j => leaf j

/-- The shapes of the field that holds those of a group. -/
def childrenOf : List (String × Json) → List Shape
  | [] => []
  | (key, j) :: rest => if key = "children" then listOf j else childrenOf rest

/-- The shapes of a list. -/
def listOf : Json → List Shape
  | .array items => allOf items
  | _ => []

/-- The shape of each description. -/
def allOf : List Json → List Shape
  | [] => []
  | j :: rest => ofJson j :: allOf rest

end

/-- A shape that is no group with an id. -/
def withId (id : Nat) : Shape → Shape
  | .text box => .text { box with id }
  | .table t => .table { t with id }
  | .picture p => .picture { p with id }
  | .connector _ name => .connector id name
  | .group _ name children => .group id name children

mutual

/-- Gives ids to a shape and all in it, from one on, and tells the next id. -/
def number (id : Nat) : Shape → Shape × Nat
  | .group _ name children =>
    let (children, next) := numberAll (id + 1) children
    (.group id name children, next)
  | s => (s.withId id, id + 1)

/-- Gives ids to shapes and all in them, from one on, and tells the next id. -/
def numberAll (id : Nat) : List Shape → List Shape × Nat
  | [] => ([], id)
  | s :: rest =>
    let (s, next) := number id s
    let (rest, last) := numberAll next rest
    (s :: rest, last)

end

mutual

/-- A shape shown, and its image as `image` shows it. Connectors and groups are of no kind that is filled. -/
def toJson (image : EncodedImage → Json) : Shape → Json
  | .text box =>
    .object [("kind", .string "text"), ("id", .nat box.id), ("name", .string box.name),
      ("link", Link.showOption box.link), ("paragraphs", Paragraph.bodyToJson box.body)]
  | .table t =>
    .object [("kind", .string "table"), ("id", .nat t.id), ("name", .string t.name),
      ("rows", .array (t.rows.map fun row => .array (row.map Paragraph.cellToJson)))]
  | .picture p =>
    .object [("kind", .string "picture"), ("id", .nat p.id), ("name", .string p.name),
      ("link", Link.showOption p.link), ("anchor", Anchor.showOption p.anchor), ("image", image p.image)]
  | .connector id name => .object [("kind", .string "other"), ("id", .nat id), ("name", .string name)]
  | .group id name children =>
    .object [("kind", .string "other"), ("id", .nat id), ("name", .string name),
      ("children", .array (allToJson image children))]

/-- Each shape shown. -/
def allToJson (image : EncodedImage → Json) : List Shape → List Json
  | [] => []
  | s :: rest => toJson image s :: allToJson image rest

end

end Shape

/-- The slide of a list of shapes. -/
def Slide.ofJson (j : Json) : Slide :=
  (Shape.numberAll (Slide.treeId + 1) (Shape.listOf j)).1

namespace Deck

/-- The deck of a list of slides, if a deck can hold what they hold. -/
def ofJson (j : Json) : Except Fault Deck :=
  let d : Deck := j.asList.map Slide.ofJson
  if d.isStorable then .ok d else .error .unstorableText

/-- A deck as the list of its slides, each the list of its shapes. -/
def toJson (image : EncodedImage → Json) (d : Deck) : Json :=
  .array (d.map fun s => .array (Shape.allToJson image s))

/-- A deck as it is shown. -/
def shown : Deck → Json :=
  toJson EncodedImage.toJson

/-- A deck as it is described, so that it can be read again. -/
def described : Deck → Json :=
  toJson EncodedImage.describe

end Deck

end SlideFill
