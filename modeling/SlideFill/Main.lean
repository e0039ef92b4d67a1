import SlideFill.Cli.Run
import SlideFill.Cli.Sources

/-!
# The command

Reads the files that a run needs, runs the command on them, prints what it prints and writes the deck that it saves.
Decks and pictures are kept in files that describe them.
-/

open SlideFill

/-- What stands at a path: a file that can be read, a directory, or nothing. -/
def readEntry (p : Path) : IO (Option Entry) := do
  try
    let data ← IO.FS.readBinFile p.render
    return some (.file (.ofBytes data.toList))
  catch e =>
    match e with
    | .inappropriateType .. => return some .directory
    | _ => return none

/-- Adds what stands at some paths to a tree. -/
def readEntries (directory : List String) (paths : List Path) (t : FileTree) : IO FileTree :=
  paths.foldlM (fun t p => do
    let start := if p.isAbsolute then [] else directory
    match ← readEntry p with
    | some e => return t.trace start p.parts e
    | none => return t) t

/-- Prints what a run printed, and gives the number that it ends with. -/
def report (o : Cli.Outcome) : IO UInt32 := do
  IO.print o.out
  IO.eprint o.err
  match o.exit with
  | .returned => return 0
  | .code n => return n.toUInt32
  | .message text => do
    IO.eprintln text
    return 1

/-- Runs the program on its arguments and ends with its exit code. -/
def main (arguments : List String) : IO UInt32 := do
  let directory := (Path.ofString (← IO.currentDir).toString).parts
  let request := (Cli.parse arguments).toOption.getD .help
  let start := FileTree.empty.makeDirectories directory
  let inputs ← readEntries directory (Cli.inputPaths request) start
  let tree ← readEntries directory (Cli.imagesOf inputs directory request) inputs
  let outcome := Cli.run tree directory arguments
  if outcome.exit = .returned then
    if let some (path, deck) := Cli.written? request directory outcome.tree then
      IO.FS.createDirAll path.parent.render
      IO.FS.writeFile path.render deck.fileText
  report outcome
