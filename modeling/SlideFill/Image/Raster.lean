import SlideFill.Image.Format

/-!
# Pictures as rows of pixels

A picture is described by one row of pixels: it consists of vertical bands, so all its rows are alike. Bytes that are no
picture are known by their number only.
-/

namespace SlideFill

/-- What the channels of a pixel mean. A pixel of a palette picture is given by its colour. -/
inductive PixelMode where
  | bilevel
  | gray
  | grayAlpha
  | palette
  | rgb
  | rgba
  | cmyk
deriving DecidableEq

/-- The short name of a pixel mode. -/
def PixelMode.name : PixelMode → String
  | .bilevel => "1"
  | .gray => "L"
  | .grayAlpha => "LA"
  | .palette => "P"
  | .rgb => "RGB"
  | .rgba => "RGBA"
  | .cmyk => "CMYK"

/-- The pixel mode of a short name. -/
def PixelMode.ofName? : String → Option PixelMode
  | "1" => some .bilevel
  | "L" => some .gray
  | "LA" => some .grayAlpha
  | "P" => some .palette
  | "RGB" => some .rgb
  | "RGBA" => some .rgba
  | "CMYK" => some .cmyk
  | _ => none

/-- The channels of a pixel, each from 0 to 255. -/
abbrev Pixel := List Nat

/-- A picture without its format. -/
structure Raster where
  mode : PixelMode
  height : Nat
  /-- The pixels of each row, from left to right. -/
  row : List Pixel
deriving DecidableEq

/-- The number of pixels in a row. -/
def Raster.width (r : Raster) : Nat :=
  r.row.length

/-- The row of a picture `width` wide in which bands of given colours are as equally wide as whole pixels allow. -/
def Raster.bands (width : Nat) (colors : List Pixel) : List Pixel :=
  let n := colors.length
  colors.zipIdx.flatMap fun (c, i) => List.replicate (width * (i + 1) / n - width * i / n) c

/-- A picture in a format. -/
structure EncodedImage where
  format : ImageFormat
  raster : Raster
deriving DecidableEq

/-- The bytes that are given for an image. -/
inductive ImageBytes where
  | picture (image : EncodedImage)
  /-- So many bytes that are no picture. -/
  | other (size : Nat)
deriving DecidableEq

/-- A picture once it is opened, which one with too many pixels is not. -/
def EncodedImage.opened (e : EncodedImage) : Except Fault EncodedImage :=
  let count := e.raster.width * e.raster.height
  if mostPixels < count then .error (.tooManyPixels count) else .ok e

/-- The picture that bytes hold. -/
def ImageBytes.decode : ImageBytes → Except Fault EncodedImage
  | .picture image => image.opened
  | .other _ => .error (.image .undecodable)

/-- A picture as it is read back from a format: a format with a palette of its own gives a palette picture. -/
def EncodedImage.encode (format : ImageFormat) (r : Raster) : EncodedImage :=
  ⟨format, match format with
    | .gif => { r with mode := .palette }
    | _ => r⟩

end SlideFill
