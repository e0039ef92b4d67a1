import SlideFill.Files.Tree

/-!
# Saving files

Saves a file at an absolute path and makes the directories on the way to it. If a file stands in the way of a directory
nothing is changed; if a name is too long or a directory stands where the file is to go, the directories made stay.
-/

namespace SlideFill

namespace FileTree

/-- Whether a file stands at a place. -/
def isFile (t : FileTree) (place : List String) : Bool :=
  match t.at? place with
  | some (.file _) => true
  | _ => false

/-- Whether a file stands on the way to a place, that place not included. -/
def isBlocked (t : FileTree) (place : List String) : Bool :=
  (List.range place.length).any fun n => t.isFile (place.take n)

/-- Makes the directory of a path and those on the way to it, up to a name that is too long. If that name follows on
directories that were there before, the fault is told of the whole path. -/
def ensureDirectory (t : FileTree) (p : Path) : FileTree × Except FileFault Unit :=
  let made := p.parts.takeWhile fun step => step.utf8ByteSize ≤ longestName
  if isLong p then (t, .error (.nameTooLong p.render))
  else if t.isBlocked p.parts then (t, .error (.notDirectory p.render))
  else if t.isFile p.parts then (t, .error (.alreadyExists p.render))
  else if made = p.parts then (t.makeDirectories p.parts, .ok ())
  else if (t.at? made).isSome then (t, .error (.nameTooLong p.render))
  else (t.makeDirectories made, .error (.nameTooLong (Path.mk p.root (p.parts.take (made.length + 1))).render))

/-- Writes a file into a directory that is there. -/
def write (t : FileTree) (p : Path) (c : Content) : Except FileFault FileTree :=
  if isLong p || p.parts.any (fun step => longestName < step.utf8ByteSize) then .error (.nameTooLong p.render)
  else
    match t.at? p.parts with
    | some .directory => .error (.isDirectory p.render)
    | _ => .ok (t.put p.parts (.file c))

/-- Saves a file: the tree as it is left, and the fault if it could not be saved. -/
def save (t : FileTree) (p : Path) (c : Content) : FileTree × Except FileFault Unit :=
  match t.ensureDirectory p.parent with
  | (made, .error e) => (made, .error e)
  | (made, .ok ()) =>
    match made.write p c with
    | .error e => (made, .error e)
    | .ok written => (written, .ok ())

end FileTree

end SlideFill
