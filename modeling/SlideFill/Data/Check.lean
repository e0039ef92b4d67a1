import SlideFill.Data.Issue
import SlideFill.Fault
import SlideFill.Json.Text
import SlideFill.Text.Case

/-!
# Checking template data

`checkData` finds every issue of a data document: first the keys that are no sections, then section by section what is
wrong with each entry, in document order. An entry is checked for itself.
-/

namespace SlideFill

namespace Check

/-- Names in order with a name put among them. -/
def insertName (name : String) : List String → List String
  | [] => [name]
  | other :: rest => if other < name then other :: insertName name rest else name :: other :: rest

/-- Names in the order of their characters' code points. -/
def sortNames (names : List String) : List String :=
  names.foldr insertName []

/-- The keys of an object that are not among the known ones, sorted. -/
def unknownKeys (known : List String) (fields : List (String × Json)) : List String :=
  sortNames ((fields.map (·.1)).filter (!known.contains ·))

/-- Whether a value is a number. -/
def isNumber : Json → Bool
  | .int _ => true
  | .float _ => true
  | _ => false

/-- Whether a value is a string. -/
def isString : Json → Bool
  | .string _ => true
  | _ => false

/-- Whether a value is a truth value. -/
def isBool : Json → Bool
  | .bool _ => true
  | _ => false

/-- Whether a value is a string that is not all blank. -/
def isFilledString : Json → Bool
  | .string s => !Text.isBlankText s
  | _ => false

/-- Whether a value is a number that is not zero or less. -/
def isPositive : Json → Bool
  | .int n => decide (0 < n)
  | .float x => !(x ≤ 0.0)
  | _ => false

/-- Whether a value is a string of six hexadecimal digits, perhaps behind a `#` and between blanks. -/
def isColor : Json → Bool
  | .string s =>
    let digits := match Text.trimChars s.toList with
      | '#' :: rest => rest
      | cs => cs
    digits.length = 6 && digits.all fun c => (Json.Reader.hex? c).isSome
  | _ => false

/-- The keys of a style. -/
def styleKeys : List String :=
  ["bold", "italic", "underline", "size", "color", "font"]

/-- The keys of an image. -/
def imageKeys : List String :=
  ["path", "format", "mode"]

/-- The names of the image formats in template data. -/
def formatNames : List String :=
  ["png", "jpeg", "jpg", "gif", "bmp", "tiff", "tif"]

/-- The names of the fit modes in template data. -/
def modeNames : List String :=
  ["crop", "fit"]

/-- The issue of a text. -/
def text (name : String) (j : Json) : List Issue :=
  if isString j || isNumber j then [] else [.textValue name]

/-- The issue of a hide rule. -/
def hide (name : String) : Json → List Issue
  | .bool _ => []
  | .array items => if items.all isString then [] else [.hideValue name]
  | _ => [.hideValue name]

/-- The issue of a field, if the object has it and it does not pass. -/
def field (fields : List (String × Json)) (key : String) (pass : Json → Bool) (issue : Issue) : List Issue :=
  match fields.lookup key with
  | some j => if pass j then [] else [issue]
  | none => []

/-- The issues of a style. -/
def style (name : String) : Json → List Issue
  | .object fields =>
    let unknown := unknownKeys styleKeys fields
    (if unknown.isEmpty then [] else [.styleKeys name unknown]) ++
      StyleFlag.all.flatMap (fun flag => field fields flag.name isBool (.styleFlag name flag)) ++
      field fields "size" isPositive (.styleSize name) ++
      field fields "color" isColor (.styleColor name) ++
      field fields "font" isFilledString (.styleFont name)
  | _ => [.styleNotObject name]

/-- Whether a value is null or spells one of some names, whatever its case and the blanks around it. -/
def spells (names : List String) (j : Json) : Bool :=
  match j with
  | .null => true
  | _ => names.contains (Text.lower (Text.trim j.text))

/-- The issues of an image given by its fields. -/
def imageFields (name : String) (fields : List (String × Json)) : List Issue :=
  let unknown := unknownKeys imageKeys fields
  (if unknown.isEmpty then [] else [.imageKeys name unknown]) ++
    (if isFilledString ((fields.lookup "path").getD .null) then [] else [.imagePath name]) ++
    field fields "format" (spells formatNames)
      (.imageFormat name (((fields.lookup "format").getD .null).text)) ++
    field fields "mode" (spells modeNames) (.imageMode name)

/-- The issues of an image. A string is the path of one. -/
def image (name : String) : Json → List Issue
  | .string s => imageFields name [("path", .string s)]
  | .object fields => imageFields name fields
  | _ => [.imageNotObject name]

/-- The issues of an entry of a section. -/
def entry (s : DataSection) (name : String) (j : Json) : List Issue :=
  match s with
  | .text => text name j
  | .hide => hide name j
  | .style => style name j
  | .images => image name j

/-- The issues of a section. -/
def sectionIssues (s : DataSection) : Json → List Issue
  | .null => []
  | .object fields => fields.flatMap fun f => entry s f.1 f.2
  | _ => [.sectionNotObject s]

end Check

/-- The issues of a data document. -/
def checkData : Json → List Issue
  | .object fields =>
    let unknown := Check.unknownKeys (DataSection.all.map DataSection.name) fields
    (if unknown.isEmpty then [] else [.unknownSections unknown]) ++
      DataSection.all.flatMap fun s => Check.sectionIssues s ((fields.lookup s.name).getD .null)
  | _ => [.rootNotObject]

/-- A data document without issues, unchanged; the rejection of any other. -/
def validate (j : Json) : Except Rejection Json :=
  if (checkData j).isEmpty then .ok j else .error (.ofIssues (checkData j) none)

end SlideFill
