import SlideFill.Data.Rejection

/-!
# Issues

What a check of template data can find, and its wording. The wording of an issue about an entry begins with the section
and the name of the entry, with points between.
-/

namespace SlideFill

/-- A style setting that is on or off. -/
inductive StyleFlag where
  | bold
  | italic
  | underline
deriving DecidableEq

namespace StyleFlag

/-- All flags, in the order in which they are checked and applied. -/
def all : List StyleFlag :=
  [.bold, .italic, .underline]

/-- The name of a flag in the data. -/
def name : StyleFlag → String
  | .bold => "bold"
  | .italic => "italic"
  | .underline => "underline"

end StyleFlag

/-- Something wrong with template data. -/
inductive Issue where
  | rootNotObject
  | unknownSections (names : List String)
  | sectionNotObject (s : DataSection)
  /-- A text that is neither string nor number. -/
  | textValue (name : String)
  | hideValue (name : String)
  | styleNotObject (name : String)
  | styleKeys (name : String) (keys : List String)
  | styleFlag (name : String) (flag : StyleFlag)
  | styleSize (name : String)
  | styleColor (name : String)
  | styleFont (name : String)
  | imageNotObject (name : String)
  | imageKeys (name : String) (keys : List String)
  | imagePath (name : String)
  | imageFormat (name given : String)
  | imageMode (name : String)
  /-- A path at which there is no file. -/
  | imageNotFound (name path : String)
  | noDataFile
  | notJson (line column : Nat) (problem : String)
deriving DecidableEq

namespace Issue

/-- The beginning of an issue about an entry of a section. -/
def about (s : DataSection) (name : String) : String :=
  s.name ++ "." ++ name

/-- Names in a row. -/
def listed (names : List String) : String :=
  ", ".intercalate names

/-- The wording of an issue. -/
def message : Issue → String
  | rootNotObject => "Root JSON value must be an object"
  | unknownSections names =>
    "Unsupported top-level keys: " ++ listed names ++ " (supported: text, hide, style, images)"
  | sectionNotObject s => s.name ++ " must be an object mapping variable names to values"
  | textValue name => about .text name ++ " must be a string or a number"
  | hideValue name => about .hide name ++ " must be a boolean or a list of argument strings"
  | styleNotObject name => about .style name ++ " must be an object"
  | styleKeys name keys =>
    about .style name ++ " has unsupported keys " ++ listed keys ++
      " (supported: bold, color, font, italic, size, underline)"
  | styleFlag name flag => about .style name ++ "." ++ flag.name ++ " must be a boolean when provided"
  | styleSize name => about .style name ++ ".size must be a positive number of points when provided"
  | styleColor name => about .style name ++ ".color must be a hex color like '#C00000' when provided"
  | styleFont name => about .style name ++ ".font must be a non-empty string when provided"
  | imageNotObject name => about .images name ++ " must be a path string or an object with a path"
  | imageKeys name keys => about .images name ++ " has unsupported keys " ++ listed keys
  | imagePath name => about .images name ++ ".path is required and must be a non-empty string"
  | imageFormat name given =>
    about .images name ++ ".format '" ++ given ++ "' is unsupported (supported: bmp, gif, jpeg, jpg, png, tif, tiff)"
  | imageMode name => about .images name ++ ".mode must be 'crop' or 'fit'"
  | imageNotFound name path => about .images name ++ ".path not found: " ++ path
  | noDataFile => "Data file not found"
  | notJson line column problem => s!"Invalid JSON at line {line}, column {column}: {problem}"

end Issue

/-- The rejection for issues. -/
def Rejection.ofIssues (issues : List Issue) (source : Option Path) : Rejection :=
  .ofTexts (issues.map Issue.message) source

end SlideFill
