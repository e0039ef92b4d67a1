/-!
# Paths

A path is its steps from a root or, without one, from where the reader stands. Empty steps and `.` are left out when a
path is read; `..` stays, since what it leads to depends on the files.
-/

namespace SlideFill

/-- A path, as it is written. -/
structure Path where
  /-- A slash for a path from the root, nothing for one without; exactly two slashes are kept apart from one. -/
  root : String
  parts : List String
deriving DecidableEq

namespace Path

/-- The pieces between the slashes. -/
def pieces : List Char → List (List Char)
  | [] => [[]]
  | c :: rest =>
    match pieces rest with
    | [] => [[c]]
    | p :: ps => if c = '/' then [] :: p :: ps else (c :: p) :: ps

/-- The root that a path is written with. -/
def rootOf (cs : List Char) : String :=
  match (cs.takeWhile (· = '/')).length with
  | 0 => ""
  | 2 => "//"
  | _ => "/"

/-- Reads a path. -/
def ofString (s : String) : Path :=
  ⟨rootOf s.toList, (pieces s.toList).filterMap fun p => if p = [] ∨ p = ['.'] then none else some (String.ofList p)⟩

/-- A path written out; one with no root and no steps is `.`. -/
def render (p : Path) : String :=
  if p.root = "" ∧ p.parts = [] then "." else p.root ++ "/".intercalate p.parts

/-- Whether a path starts at the root. -/
def isAbsolute (p : Path) : Bool :=
  p.root != ""

/-- Whether a path has a null character. -/
def hasNull (p : Path) : Bool :=
  p.parts.any fun step => step.toList.contains '\x00'

/-- The path `q` seen from `p`. -/
def join (p q : Path) : Path :=
  if q.isAbsolute then q else ⟨p.root, p.parts ++ q.parts⟩

/-- Steps with each `..` taken back against the step before it. -/
def collapse (steps : List String) : List String :=
  (steps.foldl (fun done step => if step = ".." then done.drop 1 else step :: done) []).reverse

/-- The absolute path without `..` that a path means in a directory given by its steps. -/
def resolve (directory : List String) (p : Path) : Path :=
  if p.isAbsolute then ⟨"/", collapse p.parts⟩ else ⟨"/", collapse (directory ++ p.parts)⟩

/-- The path without its last step. -/
def parent (p : Path) : Path :=
  ⟨p.root, p.parts.dropLast⟩

end Path

end SlideFill
