import SlideFill.Deck.Storable
import SlideFill.Fault

/-!
# Packages

A package is a deck as a file holds it: its slides, and what each of them relates to. The links of a slide share an
address book, in which each address that they lead to stands once. Clearing the only link to an address strikes it out;
a link that goes away with its paragraph or shape leaves its address behind, and a picture that goes away leaves its
image. A package can be saved if every address in its books is a text that a file can hold.
-/

namespace SlideFill

/-- The address that a link leads to, whatever its action. -/
def Link.address? (l : Link) : Option String :=
  match l.target with
  | .external url => some url
  | _ => none

/-- The address that an item links to. -/
def Item.address? : Item → Option String
  | .run r => r.link.bind Link.address?
  | _ => none

/-- The addresses that the runs of a paragraph link to. -/
def Paragraph.addresses (p : Paragraph) : List String :=
  p.items.filterMap Item.address?

namespace Shape

mutual

/-- The addresses that a shape and everything in it link to. -/
def addresses : Shape → List String
  | .text box => (box.link.bind Link.address?).toList ++ box.body.flatMap Paragraph.addresses
  | .table t => t.rows.flatten.flatMap fun cell => (cell.getD []).flatMap Paragraph.addresses
  | .picture p => (p.link.bind Link.address?).toList
  | .connector _ _ => []
  | .group _ _ children => addressesOfAll children

/-- The addresses that shapes and everything in them link to. -/
def addressesOfAll : List Shape → List String
  | [] => []
  | s :: rest => addresses s ++ addressesOfAll rest

end

mutual

/-- The images of a shape and of everything in it. -/
def images : Shape → List EncodedImage
  | .picture p => [p.image]
  | .group _ _ children => imagesOfAll children
  | _ => []

/-- The images of shapes and of everything in them. -/
def imagesOfAll : List Shape → List EncodedImage
  | [] => []
  | s :: rest => images s ++ imagesOfAll rest

end

end Shape

/-- The addresses that stand in the book of a slide, in no particular order. -/
abbrev AddressBook := List String

/-- How a slide loses a link to an address. -/
inductive LinkLoss where
  /-- The link is cleared. -/
  | cleared (address : String)
  /-- What carries the link is removed. -/
  | removed (address : String)
deriving DecidableEq

namespace AddressBook

/-- The addresses that are linked to, each as often as there are links, and the address book, once a link is lost. -/
def lose : List String × AddressBook → LinkLoss → List String × AddressBook
  | (linked, book), .cleared a => (linked.erase a, if linked.count a < 2 then book.erase a else book)
  | (linked, book), .removed a => (linked.erase a, book)

/-- The book of a slide once links are lost, one after the other. -/
def after (book : AddressBook) (s : Slide) (losses : List LinkLoss) : AddressBook :=
  (losses.foldl lose (Shape.addressesOfAll s, book)).2

end AddressBook

/-- What a slide relates to: the addresses in its book, and the images of its pictures and of some that are gone. -/
structure Relations where
  addresses : AddressBook := []
  images : List EncodedImage := []
deriving DecidableEq

/-- What a slide relates to that has lost nothing: the addresses of its links and the images of its pictures, each
once. -/
def Relations.ofSlide (s : Slide) : Relations :=
  ⟨(Shape.addressesOfAll s).eraseDups, (Shape.imagesOfAll s).eraseDups⟩

/-- A deck, and what each of its slides relates to. -/
structure Package where
  deck : Deck
  relations : List Relations

namespace Package

/-- The package of a deck that has lost nothing. -/
def ofDeck (d : Deck) : Package :=
  ⟨d, d.map Relations.ofSlide⟩

/-- Whether a file can hold the addresses of a package. -/
def isSavable (p : Package) : Bool :=
  p.relations.all fun r => r.addresses.all isStorableText

/-- The fault that keeps a package from being saved, if there is one. -/
def obstacle? (p : Package) : Option Fault :=
  if p.isSavable then none else some .unstorableText

end Package

end SlideFill
