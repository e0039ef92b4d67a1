import SlideFill.Image.Format

/-!
# The log of a fill

What a fill tells about its work, and the lines of the log.
-/

namespace SlideFill

/-- Something that a fill tells. -/
inductive Note where
  | removing (shape : String)
  /-- A picture was replaced, and the size of what took its place. -/
  | replaced (picture : String) (mode : FitMode) (width height : Int)
  | filled (slides shapes pictures : Nat)
deriving DecidableEq

namespace Note

/-- The part of the program that writes the log. -/
def origin : String :=
  "ppttemplates.templates"

/-- A note as a line of the log. -/
def line : Note → String
  | removing shape => s!"DEBUG {origin}: Removing hidden shape '{shape}'"
  | replaced picture mode width height =>
    s!"DEBUG {origin}: Replaced picture '{picture}' ({mode.name}, {width}x{height} EMU)"
  | filled slides shapes pictures =>
    s!"INFO {origin}: Filled template: {slides} slide(s), {shapes} shape(s) removed, {pictures} picture(s) replaced"

end Note

end SlideFill
