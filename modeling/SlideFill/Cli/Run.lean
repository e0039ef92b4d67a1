import SlideFill.Cli.Arguments
import SlideFill.Files.Save
import SlideFill.Fill.Deck
import SlideFill.Listing
import SlideFill.Mapping.OfData

/-!
# Running the command

A run of the command takes a file tree, the directory it is run in and its arguments. It prints, ends in one way or
another, and leaves a file tree. Only saving changes files, and it is the last step of a run.
-/

namespace SlideFill

namespace Cli

/-- How a run ends. -/
inductive Exit where
  /-- The run is done. -/
  | returned
  /-- The run ends with a number. -/
  | code (n : Nat)
  /-- The run ends with a message. -/
  | message (text : String)
deriving DecidableEq

/-- What a run comes to. -/
structure Outcome where
  exit : Exit
  /-- What is printed. -/
  out : String := ""
  /-- What is printed to the channel for errors. -/
  err : String := ""
  /-- Whether the course of an unexpected fault is printed to the channel for errors. -/
  traced : Bool := false
  /-- The files as they are left. -/
  tree : FileTree

/-- The ending for a fault. Rejected data speaks for itself. -/
def exitOf : Fault → Exit
  | .rejected r => .message r.message
  | f => .message ("PPTX template filling failed: " ++ f.message)

/-- Whether a fault's course is of interest. -/
def isUnexpected : Fault → Bool
  | .rejected _ => false
  | _ => true

/-- The deck in a file, which is found at a path. -/
def openDeck (p : Path) : Content → Except Fault Deck
  | .deck d => .ok d
  | _ => .error (.file (.noDeck p.render))

/-- A mention as a line of the list of variables. -/
def mentionLine (x : Mention) : String :=
  "\t".intercalate [toString x.slide, x.channel.name, x.shape, x.var.name, x.var.argument.getD ""] ++ "\n"

/-- The lines of a log. -/
def logText (notes : List Note) : String :=
  String.join (notes.map fun n => n.line ++ "\n")

/-- The mapping of the data at a path; images are looked for beside the data file too. -/
def mappingOf (t : FileTree) (directory : List String) (data : Path) : Except Fault Mapping :=
  (readData t directory data).bind fun j =>
    (Answers.ofData { tree := t, directory, base := some data.parent } j).map Answers.mapping

/-- Ends a run with a fault. -/
def fail (o : Settings) (err : String) (t : FileTree) (f : Fault) : Outcome :=
  { exit := exitOf f, err, traced := o.debug && isUnexpected f, tree := t }

/-- Ends a run with a usage fault. -/
def misuse (t : FileTree) (e : UsageFault) : Outcome :=
  { exit := .code 2, err := usageText e, tree := t }

/-- Fills the template with the data and saves the result. -/
def fill (t : FileTree) (directory : List String) (o : Settings) (template data output : Path) (c : Content) :
    Outcome :=
  match mappingOf t directory data with
  | .error f => fail o "" t f
  | .ok mapping =>
    match openDeck template c with
    | .error f => fail o "" t f
    | .ok deck =>
      let filling := Deck.fill mapping deck
      let err := if o.verbose then logText filling.log else ""
      match filling.outcome with
      | .error f => fail o err t f
      | .ok _ =>
        match t.save output (.deck filling.after) with
        | (left, .error f) => fail o err left (.file f)
        | (left, .ok ()) => { exit := .returned, out := s!"✅ PPTX saved to {output.render}\n", err, tree := left }

/-- Lists the variables of the template. -/
def list (t : FileTree) (o : Settings) (template : Path) (c : Content) : Outcome :=
  match (openDeck template c).bind Deck.variables with
  | .error f => fail o "" t f
  | .ok mentions => { exit := .returned, out := String.join (mentions.map mentionLine), tree := t }

/-- The value of a setting, if it is not empty. -/
def given (value : Option String) : Option String :=
  value.filter (· ≠ "")

/-- The absolute path that a text means in a directory. -/
def pathOf (directory : List String) (text : String) : Except Fault Path :=
  let p := Path.ofString text
  if p.hasNull then .error (.file .nullInPath) else .ok (p.resolve directory)

/-- The absolute path of the template that is asked for. -/
def templatePath (directory : List String) : Option String → Except Fault Path
  | none => .error (.kind (.notAPath "list"))
  | some text => pathOf directory text

/-- A run with a template that is there. -/
def runOn (t : FileTree) (directory : List String) (template : Path) (o : Settings) (c : Content) : Outcome :=
  if o.listVariables then list t o template c
  else
    match given o.data, given o.output with
    | some data, some output =>
      match pathOf directory data, pathOf directory output with
      | .error f, _ => fail o "" t f
      | .ok _, .error f => fail o "" t f
      | .ok data, .ok output => fill t directory o template data output c
    | _, _ => misuse t .noDataOrOutput

/-- A run with a template. -/
def runWith (t : FileTree) (directory : List String) (template : Option String) (o : Settings) : Outcome :=
  match templatePath directory template with
  | .error f => fail o "" t f
  | .ok path =>
    match t.look directory path with
    | .error f => fail o "" t (.file f)
    | .ok (some (.file c)) => runOn t directory path o c
    | .ok _ => { exit := .message s!"Template not found: {path.render}", tree := t }

/-- Runs the command in a directory. -/
def run (t : FileTree) (directory : List String) (arguments : List String) : Outcome :=
  match parse arguments with
  | .error e => misuse t e
  | .ok .help => { exit := .code 0, out := helpText, tree := t }
  | .ok (.run template o) => runWith t directory template o

end Cli

end SlideFill
