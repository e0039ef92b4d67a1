import SlideFill.Deck.Package
import SlideFill.Document.Deck
import SlideFill.Files.Save
import SlideFill.Json.Writer

/-!
# Descriptions of files

A file is described as a directory, as a deck, or as an image or other bytes; a file tree by the paths of its files,
seen from a place. Directories on the way to a file are there too.
-/

namespace SlideFill

/-- The deck that a description of a file gives, if a file can hold it. -/
def Deck.stored (slides : Json) : Except Fault Deck :=
  (Deck.ofJson slides).bind fun d =>
    match (Package.ofDeck d).obstacle? with
    | some f => .error f
    | none => .ok d

/-- What a description of a file gives. -/
def Entry.ofJson (j : Json) : Except Fault Entry :=
  match j.field? "dir", j.field? "deck" with
  | some _, _ => .ok .directory
  | none, some slides => (Deck.stored slides).map fun d => .file (.deck d)
  | none, none => .ok (.file (.ofJson j))

/-- The content of a file by its bytes: what they describe, if they describe a deck or a picture, and else the bytes. -/
def Content.ofBytes (data : List UInt8) : Content :=
  match (Utf8.decode data).toOption.bind fun cs => (Json.read (String.ofList cs)).toOption with
  | none => .bytes data
  | some j =>
    match j.field? "deck", j.field? "img" with
    | some slides, _ => ((Deck.stored slides).map Content.deck).toOption.getD (.bytes data)
    | none, some _ => .ofJson j
    | none, none => .bytes data

/-- The text of a file that describes a deck. -/
def Deck.fileText (d : Deck) : String :=
  (Json.object [("deck", d.described)]).document ++ "\n"

namespace FileTree

/-- The tree with a file that steps lead to from a directory, and the directories that they lead through. -/
def trace (t : FileTree) (directory steps : List String) (e : Entry) : FileTree :=
  let along := (List.range steps.length).map fun n => Path.collapse (directory ++ steps.take n)
  (along.foldl makeDirectories t).put (Path.collapse (directory ++ steps)) e

/-- The tree with an entry at an absolute path and directories on the way to it, or what keeps it from being there. -/
def plant (t : FileTree) (p : Path) (e : Entry) : Except FileFault FileTree :=
  if p.hasNull then .error .nullInPath
  else if p.parts.contains ".." then .ok (t.trace [] p.parts e)
  else
    let (left, outcome) := match e with
      | .directory => t.ensureDirectory p
      | .file c => t.save p c
    outcome.map fun _ => left

/-- The tree of descriptions, their paths seen from a place, with a directory that is always there. -/
def ofFields (root directory : List String) (fields : List (String × Json)) : Except Fault FileTree :=
  fields.foldlM (fun t f =>
    (Entry.ofJson f.2).bind fun e =>
      (t.plant ⟨"/", root ++ (Path.ofString f.1).parts⟩ e).mapError Fault.file)
    (empty.makeDirectories directory)

end FileTree

end SlideFill
