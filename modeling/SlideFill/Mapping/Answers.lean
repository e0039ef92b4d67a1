import SlideFill.Json.Text
import SlideFill.Mapping.Basic

/-!
# Answers by name

A mapping written down: for each channel a list of names with their rules. A rule given later for a name takes the
place of an earlier one. Arguments are data values: a text, or null where a variable has none.
-/

namespace SlideFill

/-- How the text for a variable comes about. -/
inductive TextRule where
  /-- Always the same text, or none. -/
  | fixed (text : Option String)
  /-- A text by the argument, with one for other arguments and one for no argument. -/
  | byArgument (texts : List (String × Option String)) (other absent : Option String)
  /-- The argument itself. -/
  | argument

/-- When something is hidden. -/
inductive HideRule where
  | always (hidden : Bool)
  /-- If the argument is among some. -/
  | oneOf (arguments : List Json)
  /-- If the argument is among some that are kept in a table. -/
  | keyed (arguments : List Json)

/-- A value as one that a table can be searched for; a list and an object are none. -/
def Json.searchable : Json → Except KindFault Json
  | .array _ => .error (.noArgument "list")
  | .object _ => .error (.noArgument "dict")
  | j => .ok j

/-- The text of a value, none for null. -/
def textOf? : Json → Option String
  | .null => none
  | j => some j.text

/-- The text for an argument. -/
def TextRule.answer : TextRule → Json → Option String
  | fixed text, _ => text
  | byArgument texts other absent, j =>
    match j with
    | .null => absent
    | .string s => (texts.lookup s).getD other
    | _ => other
  | argument, j => textOf? j

/-- Whether a rule hides for an argument. -/
def HideRule.answer : HideRule → Json → Bool
  | always hidden, _ => hidden
  | oneOf arguments, j => arguments.any (Json.same j)
  | keyed arguments, j => arguments.any (Json.same j)

/-- Rules by name, for each channel; the first rule for a name counts. -/
structure Answers where
  texts : List (String × TextRule) := []
  hides : List (String × HideRule) := []
  styles : List (String × Style) := []
  images : List (String × Replacement) := []

namespace Answers

/-- Adds a rule for a text. -/
def setText (a : Answers) (name : String) (rule : TextRule) : Answers :=
  { a with texts := (name, rule) :: a.texts }

/-- Adds a rule for hiding. -/
def setHide (a : Answers) (name : String) (rule : HideRule) : Answers :=
  { a with hides := (name, rule) :: a.hides }

/-- Adds a style. -/
def setStyle (a : Answers) (name : String) (style : Style) : Answers :=
  { a with styles := (name, style) :: a.styles }

/-- Adds an image. -/
def setImage (a : Answers) (name : String) (image : Replacement) : Answers :=
  { a with images := (name, image) :: a.images }

/-- The text for a name and an argument. -/
def text (a : Answers) (name : String) (argument : Json) : Option String :=
  (a.texts.lookup name).bind (·.answer argument)

/-- Whether a name is hidden for an argument, if there is a rule. -/
def hide (a : Answers) (name : String) (argument : Json) : Option Bool :=
  (a.hides.lookup name).map (·.answer argument)

/-- The text for a name and any value as an argument. A rule with a table asks for one that can be searched for. -/
def textFor (a : Answers) (name : String) (argument : Json) : Except KindFault (Option String) :=
  match a.texts.lookup name with
  | some (.byArgument ..) => argument.searchable.map (a.text name)
  | _ => .ok (a.text name argument)

/-- Whether a name is hidden for any value as an argument. A rule with a table asks for one that can be searched for. -/
def hideFor (a : Answers) (name : String) (argument : Json) : Except KindFault (Option Bool) :=
  match a.hides.lookup name with
  | some (.keyed _) => argument.searchable.map (a.hide name)
  | _ => .ok (a.hide name argument)

/-- A variable's argument as a data value. -/
def argumentOf (v : Variable) : Json :=
  match v.argument with
  | none => .null
  | some s => .string s

/-- The mapping that gives these answers. -/
def mapping (a : Answers) : Mapping where
  hide := fun v => a.hide v.name (argumentOf v)
  style := fun name => a.styles.lookup name
  text := fun v => a.text v.name (argumentOf v)
  image := fun name => a.images.lookup name

end Answers

end SlideFill
