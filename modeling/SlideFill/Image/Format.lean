import SlideFill.Fault
import SlideFill.Json.Text
import SlideFill.Text.Case

/-!
# Image formats and fit modes

The formats that a replacement image can be encoded in, the two ways in which it takes the place of a picture, and how
both are read from their spellings.
-/

namespace SlideFill

/-- A format that images are encoded in. -/
inductive ImageFormat where
  | png
  | jpeg
  | gif
  | bmp
  | tiff
deriving DecidableEq

/-- How a replacement image is brought to the size of a picture. -/
inductive FitMode where
  /-- Scaled in proportion to lie within the picture. -/
  | fit
  /-- Scaled to cover the picture, and cropped on both sides alike. -/
  | crop
deriving DecidableEq

/-- The text of a value, and nothing for one that does not count as true. -/
def spellingOf (j : Json) : String :=
  if j.truthy then j.text else ""

namespace ImageFormat

/-- The name of a format. -/
def name : ImageFormat → String
  | .png => "PNG"
  | .jpeg => "JPEG"
  | .gif => "GIF"
  | .bmp => "BMP"
  | .tiff => "TIFF"

/-- The format of a name in capitals. -/
def ofName? : String → Option ImageFormat
  | "PNG" => some .png
  | "JPEG" => some .jpeg
  | "JPG" => some .jpeg
  | "GIF" => some .gif
  | "BMP" => some .bmp
  | "TIFF" => some .tiff
  | "TIF" => some .tiff
  | _ => none

/-- The format that a value spells, in any case, with blanks around it and points before it. -/
def read (j : Json) : Except ImageFault ImageFormat :=
  let name := String.ofList ((Text.upper (Text.trim (spellingOf j))).toList.dropWhile (· = '.'))
  match ofName? name with
  | some f => .ok f
  | none => .error (.unknownFormat j.text)

end ImageFormat

namespace FitMode

/-- The name of a fit mode. -/
def name : FitMode → String
  | .fit => "RESIZE_FIT"
  | .crop => "RESIZE_CROP"

/-- The short name of a fit mode. -/
def value : FitMode → String
  | .fit => "fit"
  | .crop => "crop"

/-- The fit mode of a name in small letters, short or long. -/
def ofName? : String → Option FitMode
  | "fit" => some .fit
  | "resize_fit" => some .fit
  | "crop" => some .crop
  | "resize_crop" => some .crop
  | _ => none

/-- The fit mode that a value spells, in any case and with blanks around it. -/
def read (j : Json) : Except ImageFault FitMode :=
  match ofName? (Text.lower (Text.trim (spellingOf j))) with
  | some m => .ok m
  | none => .error (.unknownMode j.written)

end FitMode

end SlideFill
