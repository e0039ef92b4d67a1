import SlideFill.Data.Document
import SlideFill.Mapping.Answers

/-!
# Mappings from template data

Turns template data into answers. Images are looked for as their paths are given and, where nothing is there, below a
base directory. All images without a file are reported together. A text that is a whole number of too many digits to be
written out is a fault. Data that was not checked can be of the wrong kind anywhere; then the first part of the wrong
kind is the fault.
-/

namespace SlideFill

namespace OfData

/-- The entries of a section, none where the section does not count as true. -/
def entries (data : Json) (s : DataSection) : Except KindFault (List (String × Json)) :=
  match data with
  | .object fields =>
    match (fields.lookup s.name).getD .null with
    | .object entries => .ok entries
    | j => if j.truthy then .error (.noEntries j.kind) else .ok []
  | j => .error (.noFields j.kind)

/-- The rule for a text that a value gives, which is always that value written out. -/
def textRule (j : Json) : Except NumberFault TextRule :=
  if j.isPrintable then .ok (.fixed (some j.text)) else .error .tooLong

/-- The rule for hiding that a value gives: a truth value always, a list for its members, a text for its characters,
an object for its keys. -/
def hideRule : Json → Except KindFault HideRule
  | .bool b => .ok (.always b)
  | .array items => (items.mapM Json.searchable).map .keyed
  | .string s => .ok (.keyed (s.toList.map fun c => .string (String.ofList [c])))
  | .object fields => .ok (.keyed (fields.map fun f => .string f.1))
  | j => .error (.noItems j.kind)

/-- Where images are looked for: the files, the directory one is in, and the base directory if there is one. -/
structure Place where
  tree : FileTree
  directory : List String
  base : Option Path

/-- The path at which an image is taken to be. -/
def Place.locate (p : Place) (given : Path) : Except FileFault Path :=
  (p.tree.look p.directory given).map fun found =>
    if found.isSome || given.isAbsolute then given
    else
      match p.base with
      | none => given
      | some base => base.join given

/-- The path at which an image is taken to be, and the content of the file there if there is one. -/
def Place.fetch (p : Place) (given : Path) : Except FileFault (Path × Option Content) :=
  (p.locate given).bind fun path =>
    (p.tree.look p.directory path).map fun
      | some (.file c) => (path, some c)
      | _ => (path, none)

/-- The fields of an image; a text is the path of one. -/
def imageFields (j : Json) : Except KindFault (List (String × Json)) :=
  match j with
  | .string s => .ok [("path", .string s)]
  | .object fields => .ok fields
  | .array _ => .error .listSubscript
  | j => .error (.noSubscript j.kind)

/-- The path among the fields of an image. -/
def imagePath (fields : List (String × Json)) : Except KindFault Path :=
  match fields.lookup "path" with
  | none => .error .noPath
  | some (.string s) => .ok (.ofString s)
  | some j => .error (.notAPath j.kind)

/-- The value of a field, or another one where it does not count as true. -/
def fieldOr (fields : List (String × Json)) (key : String) (other : Json) : Json :=
  ((fields.lookup key).filter Json.truthy).getD other

/-- The replacement that an image gives, or the path at which there is no file. -/
def image (p : Place) (j : Json) : Except Fault (Path ⊕ Replacement) :=
  match imageFields j with
  | .error f => .error (.kind f)
  | .ok fields =>
    match imagePath fields with
    | .error f => .error (.kind f)
    | .ok given =>
      match p.fetch given with
      | .error f => .error (.file f)
      | .ok (path, none) => .ok (.inl path)
      | .ok (_, some c) =>
        match ImageFormat.read (fieldOr fields "format" (.string "png")),
            FitMode.read (fieldOr fields "mode" (.string "crop")) with
        | .error f, _ => .error (.image f)
        | .ok _, .error f => .error (.image f)
        | .ok format, .ok mode => .ok (.inr ⟨c.imageBytes, .made format, .made mode⟩)

/-- Adds what entries give, one by one, until one is a fault. -/
def addEach {α : Type} (read : Json → Except Fault α) (add : Answers → String → α → Answers) :
    List (String × Json) → Answers → Except Fault Answers
  | [], a => .ok a
  | (name, j) :: rest, a =>
    match read j with
    | .error f => .error f
    | .ok v => addEach read add rest (add a name v)

/-- The texts of the data. -/
def addTexts (data : Json) (a : Answers) : Except Fault Answers :=
  match entries data .text with
  | .error f => .error (.kind f)
  | .ok es => addEach (fun j => (textRule j).mapError .number) Answers.setText es a

/-- The rules for hiding of the data. -/
def addHides (data : Json) (a : Answers) : Except Fault Answers :=
  match entries data .hide with
  | .error f => .error (.kind f)
  | .ok es => addEach (fun j => (hideRule j).mapError .kind) Answers.setHide es a

/-- The styles of the data. -/
def addStyles (data : Json) (a : Answers) : Except Fault Answers :=
  match entries data .style with
  | .error f => .error (.kind f)
  | .ok es => addEach (fun j => (Style.ofJson j).mapError .kind) Answers.setStyle es a

/-- Adds images one by one; those without a file are collected as issues. -/
def addImageEach (p : Place) : List (String × Json) → Answers → Except Fault (Answers × List Issue)
  | [], a => .ok (a, [])
  | (name, j) :: rest, a =>
    match image p j with
    | .error f => .error f
    | .ok (.inl path) => (addImageEach p rest a).map fun (a, issues) => (a, .imageNotFound name path.render :: issues)
    | .ok (.inr r) => addImageEach p rest (a.setImage name r)

/-- The images of the data. -/
def addImages (p : Place) (data : Json) (a : Answers) : Except Fault Answers :=
  match entries data .images with
  | .error f => .error (.kind f)
  | .ok es =>
    match addImageEach p es a with
    | .error f => .error f
    | .ok (a, []) => .ok a
    | .ok (_, issues) => .error (.rejected (.ofIssues issues none))

end OfData

/-- The answers that template data gives, section by section. -/
def Answers.ofData (p : OfData.Place) (data : Json) : Except Fault Answers :=
  (OfData.addTexts data {}).bind fun a =>
    (OfData.addHides data a).bind fun a => (OfData.addStyles data a).bind (OfData.addImages p data)

end SlideFill
