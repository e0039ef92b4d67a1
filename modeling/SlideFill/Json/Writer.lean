import SlideFill.Json.Basic
import SlideFill.Number.Layout
import SlideFill.Text.Quoted

/-!
# Writing data documents

Writes a value as a JSON document on one line.
-/

namespace SlideFill

namespace Json

/-- Numbers in a document: as elsewhere, but for the words for what is not finite. -/
def documentLayout : Layout :=
  { Layout.data with nan := "NaN", infinity := "Infinity" }

/-- A character within a JSON string. -/
def stringChar (c : Char) : List Char :=
  if c = '"' ∨ c = '\\' then ['\\', c]
  else if c = '\n' then ['\\', 'n']
  else if c.toNat < 0x20 then '\\' :: 'u' :: Text.hexDigits 4 c.toNat
  else [c]

/-- A JSON string with its quotes. -/
def stringText (s : String) : String :=
  String.ofList ('"' :: s.toList.flatMap stringChar ++ ['"'])

mutual

/-- A value as a document. -/
def document : Json → String
  | .null => "null"
  | .bool b => if b then "true" else "false"
  | .int n => toString n
  | .float x => documentLayout.float x
  | .string s => stringText s
  | .array items => "[" ++ ",".intercalate (documents items) ++ "]"
  | .object fields => "\x7b" ++ ",".intercalate (fieldDocuments fields) ++ "\x7d"

/-- Each value of a list as a document. -/
def documents : List Json → List String
  | [] => []
  | j :: rest => document j :: documents rest

/-- Each field of an object as it stands in a document. -/
def fieldDocuments : List (String × Json) → List String
  | [] => []
  | (key, j) :: rest => (stringText key ++ ":" ++ document j) :: fieldDocuments rest

end

end Json

end SlideFill
