import SlideFill.Json.Basic

/-!
# Fields of descriptions

Decks, images and files are described by data values. Here are the ways in which their fields are read; a field that
is absent or of another kind gives a default.
-/

namespace SlideFill

namespace Json

/-- A field of an object, null if it has none. -/
def get (j : Json) (key : String) : Json :=
  (j.field? key).getD .null

/-- The string that a value is. -/
def asString? : Json → Option String
  | .string s => some s
  | _ => none

/-- The truth value that a value is. -/
def asBool? : Json → Option Bool
  | .bool b => some b
  | _ => none

/-- The whole number that a value is, zero for other values. -/
def asWhole : Json → Int
  | .int n => n
  | _ => 0

/-- The values of a list, none for other values. -/
def asList : Json → List Json
  | .array items => items
  | _ => []

/-- A string field, empty if there is none. -/
def getString (j : Json) (key : String) : String :=
  (j.get key).asString?.getD ""

/-- An object of some fields, those without a value left out. -/
def objectOf (fields : List (String × Option Json)) : Json :=
  .object (fields.filterMap fun f => f.2.map (f.1, ·))

/-- A natural number. -/
def nat (n : Nat) : Json :=
  .int n

end Json

end SlideFill
