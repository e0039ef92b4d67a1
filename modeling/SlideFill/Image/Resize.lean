import SlideFill.Image.Raster
import SlideFill.Number.Dyadic

/-!
# Resizing images

Brings an image to the size of a box, either scaled in proportion to lie within it or scaled to cover it and cropped,
and encodes it in a format. Proportions are rounded like floating-point numbers, so a box can be beyond their range; and
an image can be too large to be made or, if a side has no pixels, too small to be encoded.
-/

namespace SlideFill

namespace Resize

/-- The quotient of two numbers of pixels, rounded. -/
def quotient (a b : Nat) : Except NumberFault Dyadic :=
  match Dyadic.nearest? a b with
  | some x => .ok x
  | none => .error .quotientTooLarge

/-- A number as a floating-point number. -/
def ofWhole (n : Nat) : Except NumberFault Dyadic :=
  match Dyadic.nearest? n 1 with
  | some x => .ok x
  | none => .error .wholeTooLarge

/-- The product of two numbers, rounded. -/
def product (x y : Dyadic) : Except NumberFault Dyadic :=
  match x.mul? y with
  | some z => .ok z
  | none => .error .infinite

/-- As many pixels to `n` as `a` to `b`, rounded to the nearest whole number, halves to the even one. -/
def proportional (a b n : Nat) : Except NumberFault Nat :=
  (quotient a b).bind fun x => (ofWhole n).bind fun y => (product x y).map Dyadic.round

/-- The size of an image `width` by `height` scaled in proportion to lie within a box `w` by `h`: one side is that of
the box. -/
def fitSize (width height w h : Nat) : Except NumberFault (Nat × Nat) :=
  (quotient width height).bind fun own =>
    (quotient w h).bind fun box =>
      match own.compareTo box with
      | .eq => .ok (w, h)
      | .gt => (proportional height width w).map fun side => (w, side)
      | .lt => (proportional width height h).map fun side => (side, h)

/-- How much of the width of an image covers a box: a wider image loses the same on both sides. -/
def cropSpan (width height w h : Nat) : Except NumberFault Dyadic :=
  (quotient width height).bind fun own =>
    (quotient w h).bind fun box =>
      match own.compareTo box with
      | .gt => (ofWhole height).bind (product box)
      | _ => .ok ⟨width, 0⟩

/-- The product of two channel values as parts of 255, rounded. -/
def scale255 (a b : Nat) : Nat :=
  let t := a * b + 128
  (t / 256 + t) / 256

/-- A channel value after multiplying by its alpha and dividing again. -/
def throughAlpha (alpha c : Nat) : Nat :=
  let p := scale255 c alpha
  if alpha = 0 ∨ alpha = 255 then p else min 255 (255 * p / alpha)

/-- A pixel after resampling. -/
def resampled (mode : PixelMode) (p : Pixel) : Pixel :=
  match mode with
  | .grayAlpha | .rgba =>
    let alpha := p.getLast?.getD 0
    p.dropLast.map (throughAlpha alpha) ++ [alpha]
  | _ => p

/-- Which pixel of a row `width` wide is shown at `x`, of `count` pixels that show the middle `span` of the row: the one
in which the middle of the pixel at `x` lies. -/
def sampleAt (width : Nat) (span : Dyadic) (count x : Nat) : Nat :=
  ((width * span.den - span.num) * count + (2 * x + 1) * span.num) / (2 * span.den * count)

/-- One step on along a row: where one stands then, and the pixels one has stood in, the last one first. -/
def stepOn (step : Dyadic) : Dyadic × List Nat → Dyadic × List Nat
  | (place, passed) => (place.plus .double step, place.floor :: passed)

/-- Which pixels of a row `width` wide are shown by `count` pixels that show the middle `span` of the row, if one goes
from left to right in equal steps. The ends of the span are known in half the precision only, and each step is rounded,
so near the border of two pixels this need not be where the middle lies. -/
def steppedThrough (width : Nat) (span : Dyadic) (count : Nat) : List Nat :=
  let left := (Dyadic.minus .double (.ofNat width) span).part .double 2
  let start := left.toPrecision .single
  let stop := (left.plus .double span).toPrecision .single
  let step := (stop.minus .single start).part .double count
  let first := start.plus .double (step.part .double 2)
  ((List.range count).foldl (fun walk _ => stepOn step walk) (first, [])).2.reverse

/-- Whether images of a pixel mode are scaled by picking pixels, not by weighing them. -/
def isPicked : PixelMode → Bool
  | .bilevel => true
  | .palette => true
  | _ => false

/-- Which pixels of a row of an image are shown by `count` pixels that show the middle `span` of the row. -/
def shownPixels (r : Raster) (span : Dyadic) (count : Nat) : List Nat :=
  if isPicked r.mode then steppedThrough r.width span count
  else (List.range count).map (sampleAt r.width span count)

/-- The longest side that can be made of an image of a pixel mode. -/
def longestSide (mode : PixelMode) : Nat :=
  if isPicked mode then 536870910 else 53687091

/-- Why an image cannot be given a size, if it cannot. -/
def obstacle? (mode : PixelMode) (size : Nat × Nat) : Option Fault :=
  let isBeyond (bound : Nat) : Option Nat := [size.1, size.2].find? (bound ≤ ·)
  match isBeyond 0x80000000 with
  | some n => some (.number (.sideTooLarge (0x8000000000000000 ≤ n)))
  | none => if (isBeyond (longestSide mode + 1)).isSome then some .noMemory else none

/-- An image brought to a size of which it shows the middle `span`. One of that size already is left as it is. -/
def toSize (r : Raster) (span : Dyadic) (size : Nat × Nat) : Except Fault Raster :=
  if size = (r.width, r.height) then .ok r
  else
    match obstacle? r.mode size with
    | some f => .error f
    | none =>
      let pixels := r.row.toArray
      .ok { r with
        height := size.2
        row := (shownPixels r span size.1).map fun i =>
          resampled r.mode (pixels.getD (min i (r.width - 1)) []) }

/-- An image brought to a box. -/
def scale (r : Raster) (mode : FitMode) (w h : Nat) : Except Fault Raster :=
  match mode with
  | .crop =>
    match cropSpan r.width r.height w h with
    | .error f => .error (.number f)
    | .ok span => toSize r span (w, h)
  | .fit =>
    match fitSize r.width r.height w h with
    | .error f => .error (.number f)
    | .ok size => toSize r ⟨r.width, 0⟩ size

/-- A channel value laid on white by its alpha. -/
def onWhite (alpha c : Nat) : Nat :=
  let t := 255 * (255 - alpha) + c * alpha + 128
  (t / 256 + t) / 256

/-- A pixel in red, green and blue, what is transparent laid on white. -/
def toRgb (mode : PixelMode) (p : Pixel) : Pixel :=
  match mode, p with
  | .grayAlpha, [v, alpha] => List.replicate 3 (onWhite alpha v)
  | .rgba, [r, g, b, alpha] => [r, g, b].map (onWhite alpha)
  | .cmyk, [c, m, y, k] => [c, m, y].map fun v => 255 - k - scale255 v (255 - k)
  | .bilevel, [v] => List.replicate 3 v
  | .gray, [v] => List.replicate 3 v
  | _, _ => p

/-- The pixel modes that a format takes; any other is turned into red, green and blue first. Formats for which none is
named take what they can. -/
def directModes? : ImageFormat → Option (List PixelMode)
  | .jpeg => some [.rgb, .gray, .cmyk]
  | .bmp => some [.bilevel, .gray, .palette, .rgb]
  | _ => none

/-- An image in a pixel mode that its format takes. -/
def converted (format : ImageFormat) (r : Raster) : Raster :=
  match directModes? format with
  | some modes => if modes.contains r.mode then r else { r with mode := .rgb, row := r.row.map (toRgb r.mode) }
  | none => r

/-- Why an image cannot be written in a format, if it cannot. -/
def refusal? (format : ImageFormat) (r : Raster) : Option String :=
  if r.width = 0 ∨ r.height = 0 then some "cannot write empty image"
  else
    match format, r.mode with
    | .jpeg, _ => if 65500 < max r.width r.height then some "broken data stream when writing image file" else none
    | .png, .cmyk => some "cannot write mode CMYK as PNG"
    | .gif, .cmyk => some "image has wrong mode"
    | _, _ => none

/-- Encodes an image. -/
def encode (format : ImageFormat) (r : Raster) : Except Fault EncodedImage :=
  let r := converted format r
  match refusal? format r with
  | some reason => .error (.image (.unencodable format.name reason))
  | none => if format = .gif ∧ 65535 < max r.width r.height then .error .sideTooLong else .ok (.encode format r)

end Resize

/-- Bytes of an image brought to a box of whole pixels and encoded. -/
def ImageBytes.resize (bytes : ImageBytes) (format : ImageFormat) (width height : Int) (mode : FitMode) :
    Except Fault EncodedImage :=
  if width ≤ 0 ∨ height ≤ 0 then .error (.image (.emptyBox width height))
  else
    bytes.decode.bind fun image =>
      (Resize.scale image.raster mode width.toNat height.toNat).bind (Resize.encode format)

end SlideFill
