import SlideFill.Image.Raster

/-!
# First bytes of pictures

The bytes that an encoded picture starts with, as far as they tell it from text: at least up to the first byte that is
none of a text, if there is one. Numbers of more than one byte have the least byte first.
-/

namespace SlideFill

namespace Header

/-- The bytes of a number, so many of them, the least first. -/
def littleEndian : Nat → Nat → List UInt8
  | 0, _ => []
  | k + 1, n => n.toUInt8 :: littleEndian k (n / 256)

/-- The number of bits that count up to a number. -/
def bitsFor (n : Nat) : Nat :=
  (List.range 64).find? (fun k => n ≤ Nat.pow 2 k) |>.getD 64

/-- A number brought to the next multiple of another. -/
def padded (n unit : Nat) : Nat :=
  (n + unit - 1) / unit * unit

/-- The bits of each channel. -/
def channelBits : PixelMode → List Nat
  | .bilevel => [1]
  | .gray => [8]
  | .palette => [8]
  | .grayAlpha => [8, 8]
  | .rgb => [8, 8, 8]
  | .rgba => [8, 8, 8, 8]
  | .cmyk => [8, 8, 8, 8]

/-- The colours of a row, each once. -/
def colors (r : Raster) : List Pixel :=
  r.row.eraseDups

/-- The start of a picture with a table of colours and a screen of its own: its size and that of the table. -/
def gif (r : Raster) : List UInt8 :=
  "GIF87a".toUTF8.toList ++ littleEndian 2 r.width ++ littleEndian 2 r.height ++
    [(128 + max 1 (bitsFor (colors r).length - 1)).toUInt8]

/-- The start of a bitmap: its length, where its pixels start, its size and resolution. -/
def bmp (r : Raster) : List UInt8 :=
  let bits := (channelBits r.mode).foldl (· + ·) 0
  let table := match r.mode with
    | .bilevel => 2
    | .gray => 256
    | .palette => (colors r).length
    | _ => 0
  let start := 54 + 4 * table
  let length := padded ((r.width * bits + 7) / 8) 4 * r.height
  let resolution := 3780
  "BM".toUTF8.toList ++
    [start + length, 0, start, 40, r.width, r.height].flatMap (littleEndian 4) ++
    littleEndian 2 1 ++ littleEndian 2 bits ++ [0, length, resolution, resolution].flatMap (littleEndian 4)

/-- An entry of a directory of values: its number, how many bytes a value has, and the values. -/
structure Tag where
  number : Nat
  size : Nat
  values : List Nat

/-- The bytes of the values of an entry. -/
def Tag.bytes (t : Tag) : List UInt8 :=
  t.values.flatMap (littleEndian t.size)

/-- The bytes of the values of an entry if they do not fit into it, in pairs. -/
def Tag.outside (t : Tag) : List UInt8 :=
  if t.bytes.length ≤ 4 then [] else t.bytes ++ List.replicate (t.bytes.length % 2) 0

/-- The bytes of entries, the values that do not fit into one standing one after the other from an offset on. -/
def directory : Nat → List Tag → List UInt8
  | _, [] => []
  | offset, t :: rest =>
    let kind := if t.size = 2 then 3 else 4
    let value := if t.bytes.length ≤ 4 then t.bytes ++ List.replicate (4 - t.bytes.length) 0 else littleEndian 4 offset
    littleEndian 2 t.number ++ littleEndian 2 kind ++ littleEndian 4 t.values.length ++ value ++
      directory (offset + t.outside.length) rest

/-- How the channels of a pixel are named in a directory. -/
def interpretation : PixelMode → Nat
  | .bilevel => 1
  | .gray => 1
  | .grayAlpha => 1
  | .rgb => 2
  | .rgba => 2
  | .palette => 3
  | .cmyk => 5

/-- A table of colours, channel by channel, filled up with black. -/
def colorMap (table : List Pixel) : List Nat :=
  (List.range 3).flatMap fun i => table.map (fun p => p.getD i 0 * 256) ++ List.replicate (256 - table.length) 0

/-- The entries for a picture whose pixels start at an offset, by their numbers. -/
def tags (r : Raster) (start : Nat) : List Tag :=
  let bits := channelBits r.mode
  let length := bits.length * ((r.width * bits.headD 8 + 7) / 8) * r.height
  [⟨256, 4, [r.width]⟩, ⟨257, 4, [r.height]⟩] ++
    (if r.mode = .bilevel then [] else [⟨258, 2, bits⟩]) ++
    [⟨259, 2, [1]⟩, ⟨262, 2, [interpretation r.mode]⟩, ⟨273, 4, [start]⟩] ++
    (if bits.length = 1 then [] else [⟨277, 2, [bits.length]⟩]) ++
    [⟨278, 4, [r.height]⟩, ⟨279, 4, [length]⟩] ++
    (if r.mode = .palette then [⟨320, 2, colorMap (colors r)⟩] else []) ++
    (if r.mode = .grayAlpha ∨ r.mode = .rgba then [⟨338, 2, [2]⟩] else [])

/-- Eight pixels of two values as the bits of a byte, the first as the greatest. -/
def octet (pixels : List Pixel) : UInt8 :=
  ((List.range 8).foldl (fun n i => 2 * n + if (pixels.getD i []).headD 0 = 0 then 0 else 1) 0).toUInt8

/-- Pixels of two values as bits, eight to a byte. -/
def octets : Nat → List Pixel → List UInt8
  | 0, _ => []
  | k + 1, pixels => octet pixels :: octets k (pixels.drop 8)

/-- The bytes of a row. -/
def rowBytes (r : Raster) : List UInt8 :=
  match r.mode with
  | .bilevel => octets ((r.width + 7) / 8) r.row
  | .palette =>
    let table := colors r
    r.row.map fun p => (table.idxOf p).toUInt8
  | _ => r.row.flatMap fun p => p.map Nat.toUInt8

/-- A picture of tagged values: a directory, the values that do not fit into it, and the pixels. -/
def tiff (r : Raster) : List UInt8 :=
  let count := (tags r 0).length
  let offset := 8 + 2 + 12 * count + 4
  let outside := (tags r 0).flatMap Tag.outside
  "II*".toUTF8.toList ++ [0] ++ littleEndian 4 8 ++ littleEndian 2 count ++
    directory offset (tags r (offset + outside.length)) ++ littleEndian 4 0 ++ outside ++
    (List.replicate r.height (rowBytes r)).flatten

end Header

/-- The bytes that an encoded picture starts with. -/
def EncodedImage.header (e : EncodedImage) : List UInt8 :=
  match e.format with
  | .png => [0x89]
  | .jpeg => [0xFF]
  | .gif => Header.gif e.raster
  | .bmp => Header.bmp e.raster
  | .tiff => Header.tiff e.raster

end SlideFill
