/-!
# Data values

The values of a JSON document. An object keeps its fields in document order, whole numbers are unbounded, and other
numbers are floating-point.
-/

namespace SlideFill

/-- A value of a document. -/
inductive Json where
  | null
  | bool (b : Bool)
  | int (n : Int)
  | float (x : Float)
  | string (s : String)
  | array (items : List Json)
  | object (fields : List (String × Json))

namespace Json

instance : Inhabited Json :=
  ⟨.null⟩

/-- The value of the field `key`, if the value is an object that has it. -/
def field? (j : Json) (key : String) : Option Json :=
  match j with
  | .object fields => fields.lookup key
  | _ => none

/-- Fields with the value of `key` put in: in place of the one it has, else at the end. -/
def setField (fields : List (String × Json)) (key : String) (value : Json) : List (String × Json) :=
  if fields.any (·.1 == key) then fields.map fun f => if f.1 == key then (key, value) else f
  else fields ++ [(key, value)]

/-- Whether a value counts as true: null, false, zero and what is empty do not. -/
def truthy : Json → Bool
  | .null => false
  | .bool b => b
  | .int n => n != 0
  | .float x => !(x == 0.0)
  | .string s => s != ""
  | .array items => !items.isEmpty
  | .object fields => !fields.isEmpty

/-- The name of the kind of a value, as messages give it. -/
def kind : Json → String
  | .null => "NoneType"
  | .bool _ => "bool"
  | .int _ => "int"
  | .float _ => "float"
  | .string _ => "str"
  | .array _ => "list"
  | .object _ => "dict"

end Json

end SlideFill
