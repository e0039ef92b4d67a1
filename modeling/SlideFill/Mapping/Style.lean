import SlideFill.Deck.Text
import SlideFill.Image.Format
import SlideFill.Number.Convert

/-!
# Styles

A style sets font properties of a run: flags, size, font name and colour, in this order. Only what the style names is
set. A size that no font can have and a font name that a deck cannot hold are faults when the style is applied; what was
set before stays set.
-/

namespace SlideFill

/-- What a style sets; it leaves alone what is none. -/
structure Style where
  bold : Option Bool := none
  italic : Option Bool := none
  underline : Option Bool := none
  /-- The size in units of length, or why it cannot be set. -/
  size : Option (Except NumberFault Nat) := none
  font : Option String := none
  color : Option Color := none

namespace Color

/-- A byte from two or more hexadecimal digits. -/
def byte? (cs : List Char) : Option UInt8 :=
  match Literal.int? 16 (String.ofList cs) with
  | some n => if 0 ≤ n ∧ n < 256 then some n.toNat.toUInt8 else none
  | none => none

/-- The colour of a text of six characters in capitals: two for red, two for green, the rest for blue. -/
def ofDigits? (cs : List Char) : Option Color :=
  match byte? (cs.take 2), byte? ((cs.drop 2).take 2), byte? (cs.drop 4) with
  | some red, some green, some blue => some ⟨red, green, blue⟩
  | _, _, _ => none

/-- The characters of a colour without a `#` before them. -/
def withoutHash : List Char → List Char
  | '#' :: rest => rest
  | cs => cs

/-- The colour that a value spells with six hexadecimal digits, perhaps behind a `#` and between blanks. -/
def ofJson? (j : Json) : Option Color :=
  let raw := withoutHash (Text.trimChars (spellingOf j).toList)
  if raw.length = 6 then ofDigits? (raw.flatMap Text.capital) else none

/-- Two hexadecimal digits in capitals. -/
def pair (b : UInt8) : List Char :=
  (Text.hexDigits 2 b.toNat).map Char.toUpper

/-- A colour as six hexadecimal digits in capitals. -/
def hex (c : Color) : String :=
  String.ofList (pair c.red ++ pair c.green ++ pair c.blue)

end Color

namespace Style

/-- The font with the flags of a style. -/
def withFlags (s : Style) (f : Font) : Font :=
  { f with
    bold := s.bold.or f.bold
    italic := s.italic.or f.italic
    underline := s.underline.or f.underline }

/-- The font with the font name and the colour of a style. -/
def withFace (s : Style) (f : Font) : Font :=
  { f with
    name := s.font.or f.name
    color := s.color.or f.color }

/-- The font with the font name and the colour of a style, and the fault if a deck cannot hold the font name. -/
def applyFace (s : Style) (f : Font) : Font × Option Fault :=
  if s.font.all isStorableText then (s.withFace f, none) else (f, some .unstorableText)

/-- The font that a style makes of a font, and the fault that kept it from setting all, if one did. -/
def apply (s : Style) (f : Font) : Font × Option Fault :=
  match s.size with
  | none => s.applyFace (s.withFlags f)
  | some (.ok units) => s.applyFace { s.withFlags f with size := some units }
  | some (.error fault) => (s.withFlags f, some (.number fault))

/-- The style that the fields of a data value give. -/
def ofFields (fields : List (String × Json)) : Style :=
  { bold := (fields.lookup "bold").map Json.truthy
    italic := (fields.lookup "italic").map Json.truthy
    underline := (fields.lookup "underline").map Json.truthy
    size := (fields.lookup "size").map fun j => (unitsOfPoints j).bind fontSize
    font := ((fields.lookup "font").filter Json.truthy).map Json.text
    color := (fields.lookup "color").bind Color.ofJson? }

/-- The style that a data value gives. -/
def ofJson : Json → Except KindFault Style
  | .object fields => .ok (ofFields fields)
  | j => .error (.noFields j.kind)

end Style

end SlideFill
