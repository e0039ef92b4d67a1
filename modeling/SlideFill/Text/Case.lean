/-!
# Letter case

Names of formats and fit modes are read without regard to case, and so are hex digits. All of them are spelled with
ASCII letters, so only characters whose capital or small form is made of ASCII letters matter; every other character
stands for itself.
-/

namespace SlideFill

namespace Text

/-- The capital form of a character. Ten characters outside ASCII, ligatures among them, have one in ASCII letters. -/
def capital (c : Char) : List Char :=
  match c.toNat with
  | 0xDF => ['S', 'S']
  | 0x131 => ['I']
  | 0x17F => ['S']
  | 0xFB00 => ['F', 'F']
  | 0xFB01 => ['F', 'I']
  | 0xFB02 => ['F', 'L']
  | 0xFB03 => ['F', 'F', 'I']
  | 0xFB04 => ['F', 'F', 'L']
  | 0xFB05 => ['S', 'T']
  | 0xFB06 => ['S', 'T']
  | _ => [c.toUpper]

/-- The small form of a character. The kelvin sign is the one character outside ASCII that has one in ASCII. -/
def small (c : Char) : Char :=
  if c.toNat = 0x212A then 'k' else c.toLower

/-- A text in capitals. -/
def upper (s : String) : String :=
  String.ofList (s.toList.flatMap capital)

/-- A text in small letters. -/
def lower (s : String) : String :=
  String.ofList (s.toList.map small)

end Text

end SlideFill
