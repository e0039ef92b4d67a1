import SlideFill.Json.Reader
import SlideFill.Number.Layout
import SlideFill.Number.Literal
import SlideFill.Text.Quoted

/-!
# Data values as text and as arguments

The text that a data value puts into a deck or a message, whether it is one that can be written out, and when two values
are the same argument.
-/

namespace SlideFill

namespace Json

/-- The text of a value that holds no others, strings between quotes. -/
def atom : Json → String
  | .null => "None"
  | .bool b => if b then "True" else "False"
  | .int n => toString n
  | .float x => Layout.data.float x
  | .string s => Text.quoted s
  | .array _ => "[]"
  | .object _ => "\x7b\x7d"

mutual

/-- A value written out, strings between quotes. -/
def written : Json → String
  | .array items => "[" ++ ", ".intercalate (writtenItems items) ++ "]"
  | .object fields => "\x7b" ++ ", ".intercalate (writtenFields fields) ++ "\x7d"
  | j => j.atom

/-- Each value of a list written out. -/
def writtenItems : List Json → List String
  | [] => []
  | j :: rest => written j :: writtenItems rest

/-- Each field of an object written out. -/
def writtenFields : List (String × Json) → List String
  | [] => []
  | (key, j) :: rest => (Text.quoted key ++ ": " ++ written j) :: writtenFields rest

end

/-- The text of a value: a string is its own text. -/
def text : Json → String
  | .string s => s
  | j => j.written

/-- Whether a whole number has no more digits than can be written out. -/
def isShort (n : Int) : Bool :=
  n.natAbs < Nat.pow 10 maxDigits

mutual

/-- Whether a value can be written out: no whole number in it has too many digits. -/
def isPrintable : Json → Bool
  | .int n => isShort n
  | .array items => arePrintable items
  | .object fields => haveValuesPrintable fields
  | _ => true

/-- Whether all values of a list can be written out. -/
def arePrintable : List Json → Bool
  | [] => true
  | j :: rest => isPrintable j && arePrintable rest

/-- Whether the values of all fields can be written out. -/
def haveValuesPrintable : List (String × Json) → Bool
  | [] => true
  | (_, j) :: rest => isPrintable j && haveValuesPrintable rest

end

/-- The whole number that a value is compared as, if it is one; truth values count as one and zero. -/
def asInt? : Json → Option Int
  | .bool b => some (if b then 1 else 0)
  | .int n => some n
  | _ => none

/-- Whether two values that hold no others are the same argument. -/
def sameAtom : Json → Json → Bool
  | .null, .null => true
  | .string a, .string b => a == b
  | .float x, .float y => x == y
  | .float x, j => (j.asInt?.map (isInt x)).getD false
  | j, .float x => (j.asInt?.map (isInt x)).getD false
  | a, b =>
    match a.asInt?, b.asInt? with
    | some m, some n => m == n
    | _, _ => false

mutual

/-- Whether two values are the same argument. Numbers are the same when they are equal, whatever their kind, and objects
when they have the same fields in any order. -/
def same : Json → Json → Bool
  | .array items, .array others => sameItems items others
  | .object fields, .object others => fields.length == others.length && sameFields fields others
  | a, b => sameAtom a b

/-- Whether two lists hold the same values in the same order. -/
def sameItems : List Json → List Json → Bool
  | [], [] => true
  | a :: rest, b :: others => same a b && sameItems rest others
  | _, _ => false

/-- Whether all of some fields are among others. -/
def sameFields : List (String × Json) → List (String × Json) → Bool
  | [], _ => true
  | (key, a) :: rest, others =>
    (match others.lookup key with
      | some b => same a b
      | none => false) && sameFields rest others

end

end Json

end SlideFill
