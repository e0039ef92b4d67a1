import SlideFill.Deck.Basic
import SlideFill.Fault
import SlideFill.Image.Header

/-!
# File trees

A file tree says what stands at each place, a place being the steps that lead to it from the root. A path is followed
step by step from a directory: every step but the last must lead to a directory, and `..` leads back from where one is.
Names and paths are bounded in length, and nothing is found at a path with a null character.
-/

namespace SlideFill

/-- What a file holds. -/
inductive Content where
  | bytes (data : List UInt8)
  | image (image : EncodedImage)
  /-- The first so many bytes of an image. -/
  | cutImage (image : EncodedImage) (size : Nat)
  | deck (d : Deck)

/-- What can stand at a place. -/
inductive Entry where
  | directory
  | file (c : Content)

/-- Why a path leads to nothing. -/
inductive Obstacle where
  | missing
  /-- A step goes on from a file. -/
  | throughFile
  /-- The path, or the name that a directory is searched for, is too long. -/
  | tooLong
  /-- The path has a null character. -/
  | null
deriving DecidableEq

/-- Files and directories by their places. -/
structure FileTree where
  /-- What stands at a place other than the root. -/
  entry? : List String → Option Entry

namespace Content

/-- The bytes of a file, as far as they are known. -/
def knownBytes : Content → List UInt8
  | bytes data => data
  | image e => e.header
  | cutImage e size => e.header.take size
  | deck _ => []

/-- The bytes of a file as those of an image. -/
def imageBytes : Content → ImageBytes
  | bytes data => .other data.length
  | image i => .picture i
  | cutImage _ size => .other size
  | deck _ => .other 0

end Content

namespace FileTree

/-- What stands at a place; the root is a directory. -/
def at? (t : FileTree) (place : List String) : Option Entry :=
  if place = [] then some .directory else t.entry? place

/-- The most bytes that a name may have. -/
def longestName : Nat := 255

/-- The most bytes that a path may have. -/
def longestPath : Nat := 4095

/-- Whether a path is too long as a whole. -/
def isLong (p : Path) : Bool :=
  longestPath < p.render.utf8ByteSize

/-- Follows steps from a directory, and gives the place they lead to and what stands there. -/
def walk (t : FileTree) : List String → List String → Except Obstacle (List String × Entry)
  | here, [] => .ok (here, .directory)
  | here, step :: rest =>
    if longestName < step.utf8ByteSize then .error .tooLong
    else
      let place := if step = ".." then here.dropLast else here ++ [step]
      match t.at? place with
      | none => .error .missing
      | some .directory => walk t place rest
      | some (.file c) => if rest = [] then .ok (place, .file c) else .error .throughFile

/-- What a path leads to from a directory. -/
def find (t : FileTree) (directory : List String) (p : Path) : Except Obstacle Entry :=
  if p.hasNull then .error .null
  else if isLong p then .error .tooLong
  else (t.walk (if p.isAbsolute then [] else directory) p.parts).map (·.2)

/-- What a path leads to, if it leads to anything; for a path that is too long that cannot be told. -/
def look (t : FileTree) (directory : List String) (p : Path) : Except FileFault (Option Entry) :=
  match t.find directory p with
  | .ok e => .ok (some e)
  | .error .tooLong => .error (.nameTooLong p.render)
  | .error _ => .ok none

/-- The content of the file that a path leads to. -/
def file? (t : FileTree) (directory : List String) (p : Path) : Option Content :=
  match t.find directory p with
  | .ok (.file c) => some c
  | _ => none

/-- The tree with something else at a place. -/
def put (t : FileTree) (place : List String) (e : Entry) : FileTree :=
  ⟨fun q => if q = place then some e else t.entry? q⟩

/-- The tree with directories where nothing stands along the way to a place, that place included. -/
def makeDirectories (t : FileTree) (place : List String) : FileTree :=
  ⟨fun q => match t.entry? q with
    | some e => some e
    | none => if q ≠ [] ∧ q <+: place then some .directory else none⟩

/-- The empty tree. -/
def empty : FileTree :=
  ⟨fun _ => none⟩

end FileTree

end SlideFill
