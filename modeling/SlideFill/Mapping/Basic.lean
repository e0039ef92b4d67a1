import SlideFill.Mapping.Query
import SlideFill.Mapping.Style

/-!
# Mappings

A mapping answers what a fill asks about each variable: whether to hide what carries it, how to style a run, what text
and what image to put in its place. No answer means that the mapping has no opinion on the variable. The fill comes by
the answers through the questions `askHide`, `askStyle`, `askText` and `askImage` only.
-/

namespace SlideFill

/-- A choice made already, or one still to be read from how it is spelled. -/
inductive Choice (α : Type) where
  | made (a : α)
  | spelled (j : Json)

/-- The choice, read with `read` if need be. -/
def Choice.decide {α ε : Type} (read : Json → Except ε α) : Choice α → Except ε α
  | made a => .ok a
  | spelled j => read j

/-- An image to put in the place of a picture. -/
structure Replacement where
  bytes : ImageBytes
  format : Choice ImageFormat
  mode : Choice FitMode

/-- The answers to what a fill asks. -/
structure Mapping where
  /-- Whether to hide what carries a variable. -/
  hide : Variable → Option Bool
  /-- How to style a run that carries a variable of a name. -/
  style : String → Option Style
  /-- The text to put in the place of a variable. -/
  text : Variable → Option String
  /-- The image to put in the place of a picture that carries a variable of a name. -/
  image : String → Option Replacement

namespace Mapping

/-- The mapping that has no opinion on anything. -/
def silent : Mapping :=
  ⟨fun _ => none, fun _ => none, fun _ => none, fun _ => none⟩

/-- Whether a mapping hides what carries a variable. -/
def hides (m : Mapping) (v : Variable) : Bool :=
  (m.hide v).getD false

/-- Asks whether to hide what carries a variable. -/
def askHide (m : Mapping) (v : Variable) : Asked Bool :=
  .single (.hide v) (m.hides v)

/-- Asks for the style under a name. -/
def askStyle (m : Mapping) (name : String) : Asked (Option Style) :=
  .single (.style name) (m.style name)

/-- Asks for the text of a variable. -/
def askText (m : Mapping) (v : Variable) : Asked (Option String) :=
  .single (.text v) (m.text v)

/-- Asks for the image under a name. -/
def askImage (m : Mapping) (name : String) : Asked (Option Replacement) :=
  .single (.image name) (m.image name)

end Mapping

end SlideFill
