import SlideFill.Fill.Note
import SlideFill.Image.Resize
import SlideFill.Mapping.Basic

/-!
# Replacing pictures

A replacement takes the place of a picture: the image is resized to the picture's size, read as so many pixels as the
picture has whole points, and stands at the picture's left top corner. A cropped image keeps the picture's size, a
fitted one has a point for each of its pixels.
-/

namespace SlideFill

namespace Picture

/-- The size in units of length that an image has in the place of an anchor. -/
def extentOf (mode : FitMode) (a : Anchor) (image : EncodedImage) : Int × Int :=
  match mode with
  | .crop => (a.width, a.height)
  | .fit => ((image.raster.width * unitsPerPoint : Nat), (image.raster.height * unitsPerPoint : Nat))

/-- The image of a replacement brought to the size of an anchor, and the fit mode. -/
def render (r : Replacement) (a : Anchor) : Except Fault (FitMode × EncodedImage) :=
  match r.mode.decide FitMode.read, wholePoints a.width, wholePoints a.height, r.format.decide ImageFormat.read with
  | .error f, _, _, _ => .error (.image f)
  | .ok _, .error f, _, _ => .error (.number f)
  | .ok _, .ok _, .error f, _ => .error (.number f)
  | .ok _, .ok _, .ok _, .error f => .error (.image f)
  | .ok mode, .ok width, .ok height, .ok format => do
    let image ← (← r.bytes.resize format width height mode).opened
    return (mode, image)

/-- The picture with a new id that takes the place of a picture, and the note of it. -/
def replaceBy (p : Picture) (r : Replacement) (id : Nat) : Except Fault (Picture × Note) :=
  match p.anchor with
  | none => .error (.noAnchor p.name)
  | some a =>
    match render r a with
    | .error e => .error e
    | .ok (mode, image) =>
      let (width, height) := extentOf mode a image
      .ok ({ id, name := s!"Picture {id - 1}", link := none, anchor := some ⟨a.left, a.top, width, height⟩, image },
        .replaced p.name mode width height)

end Picture

end SlideFill
