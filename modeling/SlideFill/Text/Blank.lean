/-!
# Blanks

What counts as a blank, and texts with the blanks taken off both ends.
-/

namespace SlideFill

namespace Text

/-- The code points of all blanks: the white space of every script, and the four separators among the controls. -/
def blanks : List Nat := [
  9, 10, 11, 12, 13, 28, 29, 30, 31, 32, 133, 160, 5760, 8192, 8193, 8194, 8195, 8196, 8197, 8198, 8199, 8200, 8201,
  8202, 8232, 8233, 8239, 8287, 12288]

/-- Whether a character is a blank. -/
def isBlank (c : Char) : Bool :=
  blanks.contains c.toNat

/-- The characters without the blanks at either end. -/
def trimChars (cs : List Char) : List Char :=
  ((cs.dropWhile isBlank).reverse.dropWhile isBlank).reverse

/-- A text without the blanks at either end. -/
def trim (s : String) : String :=
  String.ofList (trimChars s.toList)

/-- Whether nothing is left of a text once its blanks are trimmed. -/
def isBlankText (s : String) : Bool :=
  s.toList.all isBlank

end Text

end SlideFill
