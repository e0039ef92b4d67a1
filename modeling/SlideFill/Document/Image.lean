import SlideFill.Document.Fields
import SlideFill.Files.Tree

/-!
# Descriptions of images and bytes

Bytes are described as text, in hexadecimal digits, or as a picture by format, pixel mode, size and bands of colour,
perhaps cut off after some bytes. A picture is shown by format, size and pixels.
-/

namespace SlideFill

/-- The bytes that hexadecimal digits give, two for each. -/
def bytesOfHex : List Char → List UInt8
  | a :: b :: rest => ((Json.Reader.hex? a).getD 0 * 16 + (Json.Reader.hex? b).getD 0).toUInt8 :: bytesOfHex rest
  | _ => []

/-- The format that a description names. -/
def formatOf (j : Json) : ImageFormat :=
  (ImageFormat.ofName? (j.getString "fmt")).getD .png

/-- The picture of a description. -/
def EncodedImage.ofJson (j : Json) : EncodedImage :=
  let size := (j.get "size").asList.map fun n => n.asWhole.toNat
  let colors := (j.get "columns").asList.map fun c => c.asList.map fun v => v.asWhole.toNat
  .encode (formatOf j)
    { mode := (PixelMode.ofName? (j.getString "mode")).getD .rgb
      height := size.getD 1 0
      row := Raster.bands (size.getD 0 0) colors }

/-- The content of a file that a description of bytes gives. -/
def Content.ofJson (j : Json) : Content :=
  match j.field? "text", j.field? "hex", j.field? "img" with
  | some (.string s), _, _ => .bytes s.toUTF8.toList
  | _, some (.string s), _ => .bytes (bytesOfHex s.toList)
  | _, _, some p =>
    match j.field? "truncate" with
    | some n => .cutImage (.ofJson p) n.asWhole.toNat
    | none => .image (.ofJson p)
  | _, _, _ => .bytes []

namespace EncodedImage

/-- Whether a format keeps every pixel as it is. -/
def isExact : ImageFormat → Bool
  | .png => true
  | .bmp => true
  | .tiff => true
  | _ => false

/-- A pixel as a list of its channels. -/
def showPixel (p : Pixel) : Json :=
  .array (p.map .nat)

/-- The size of a picture. -/
def showSize (e : EncodedImage) : Json :=
  .array [.nat e.raster.width, .nat e.raster.height]

/-- The pixel of a picture at some place of a row. -/
def pixelAt (e : EncodedImage) (x : Nat) : Pixel :=
  e.raster.row.getD x []

/-- A picture as part of a deck: its centre pixel is shown if its format is exact. -/
def toJson (e : EncodedImage) : Json :=
  .objectOf [("format", some (.string e.format.name)), ("size", some e.showSize),
    ("px", if isExact e.format then some (showPixel (e.pixelAt (e.raster.width / 2))) else none)]

/-- A picture described in full, each of its columns a band. -/
def describe (e : EncodedImage) : Json :=
  .object [("img", .object [("fmt", .string e.format.name), ("mode", .string e.raster.mode.name), ("size", e.showSize),
    ("columns", .array (e.raster.row.map showPixel))])]

/-- The pixel mode of a picture, not shown for a format that has only one. -/
def showMode? (e : EncodedImage) : Option Json :=
  if e.format = .gif then none else some (.string e.raster.mode.name)

end EncodedImage

end SlideFill
