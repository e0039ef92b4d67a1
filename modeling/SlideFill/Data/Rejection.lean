import SlideFill.Files.Path
import SlideFill.Text.Blank

/-!
# Rejected template data

Template data has four sections. A rejection lists what is wrong with it, each issue a line of text that begins with
the section and the entry it is about, and shows the issues grouped by section.
-/

namespace SlideFill

/-- A section of template data. -/
inductive DataSection where
  | text
  | hide
  | style
  | images
deriving DecidableEq

namespace DataSection

/-- All sections, in the order in which they are checked. -/
def all : List DataSection :=
  [.text, .hide, .style, .images]

/-- The name of a section in the data. -/
def name : DataSection → String
  | .text => "text"
  | .hide => "hide"
  | .style => "style"
  | .images => "images"

/-- The section of a name. -/
def ofName? (s : String) : Option DataSection :=
  all.find? (·.name == s)

end DataSection

/-- The reasons for which template data is not taken, and the file it came from. -/
structure Rejection where
  issues : List String
  source : Option Path
deriving DecidableEq

namespace Rejection

/-- The issue of a rejection for which no other is given. -/
def fallback : String :=
  "Invalid template data"

/-- The issues that are kept of some texts: blanks at the ends are trimmed and empty ones are left out. -/
def kept (texts : List String) : List String :=
  let issues := (texts.map Text.trim).filter (· ≠ "")
  if issues.isEmpty then [fallback] else issues

/-- The rejection for the issues that texts give. -/
def ofTexts (texts : List String) (source : Option Path) : Rejection :=
  ⟨kept texts, source⟩

/-- The section that an issue is about and what it says of it: the text before and behind its first point, if the first
is a section and the second is not empty. Any other issue is about the data as a whole. -/
def filed (issue : String) : Option DataSection × String :=
  let rest := String.ofList ((issue.toList.dropWhile (· ≠ '.')).drop 1)
  match DataSection.ofName? (String.ofList (issue.toList.takeWhile (· ≠ '.'))) with
  | some s => if rest = "" then (none, issue) else (some s, rest)
  | none => (none, issue)

/-- Adds a text to the group of a heading, which comes last if it is new. -/
def addTo (groups : List (Option DataSection × List String)) (heading : Option DataSection) (text : String) :
    List (Option DataSection × List String) :=
  if groups.any (·.1 == heading) then groups.map fun g => if g.1 = heading then (g.1, g.2 ++ [text]) else g
  else groups ++ [(heading, [text])]

/-- The issues grouped by section, in the order in which the sections first occur. -/
def bySection (r : Rejection) : List (Option DataSection × List String) :=
  r.issues.foldl (fun groups issue => addTo groups (filed issue).1 (filed issue).2) []

/-- The heading of a group. -/
def heading (s : Option DataSection) : String :=
  (s.map DataSection.name).getD "data"

/-- The rejection as a text of several lines. -/
def message (r : Rejection) : String :=
  let source := (r.source.map fun p => " (" ++ p.render ++ ")").getD ""
  "\n".intercalate (("Template data validation failed" ++ source ++ ":") ::
    r.bySection.flatMap fun g => (heading g.1 ++ ":") :: g.2.map ("  - " ++ ·))

end Rejection

end SlideFill
