import SlideFill.Data.Check
import SlideFill.Files.Tree

/-!
# Data files

Reads the data file at a path and checks it. What is wrong with the data, and that there is no file, is reported as a
rejection with the path; a file that cannot be read as text is a fault of another kind.
-/

namespace SlideFill

/-- The text of a data file. -/
def dataText (t : FileTree) (directory : List String) (p : Path) : Except Fault String :=
  match t.find directory p with
  | .error .missing => .error (.rejected (.ofIssues [.noDataFile] (some p)))
  | .error .throughFile => .error (.file (.notDirectory p.render))
  | .error .tooLong => .error (.file (.nameTooLong p.render))
  | .error .null => .error (.file .nullInPath)
  | .ok .directory => .error (.file (.isDirectory p.render))
  | .ok (.file c) =>
    match Utf8.decode c.knownBytes with
    | .error f => .error (.encoding f)
    | .ok cs => .ok (String.ofList (Utf8.unifyLineEnds cs))

/-- The data of a text that came from a path. -/
def parseData (p : Path) (text : String) : Except Fault Json :=
  match Json.read text with
  | .error (.tooManyDigits n) => .error (.number (.tooManyDigits n))
  | .error (.tooDeep c) => .error (.tooDeep c)
  | .error (.misread m) => .error (.rejected (.ofIssues [.notJson m.line m.column m.problem.message] (some p)))
  | .ok j =>
    match validate j with
    | .error r => .error (.rejected (.ofTexts r.issues (some p)))
    | .ok j => .ok j

/-- The data of the file at a path. -/
def readData (t : FileTree) (directory : List String) (p : Path) : Except Fault Json :=
  (dataText t directory p).bind (parseData p)

end SlideFill
