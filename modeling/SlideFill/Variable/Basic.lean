/-!
# Template variables

A variable is spelled `$/name/` or `$/name:'argument'/`. The name is not empty and holds neither `/` nor `:`. In the
argument a quote is spelled with a backslash before it; any other backslash stands for itself and for keeping the
character behind it, which is no line feed. `Variable.parse?` reads a spelling, `Variable.spelling` writes it, and
`occurrences` finds the variables within a text.
-/

namespace SlideFill

/-- A name, and an argument if there is one. -/
structure Variable where
  name : String
  argument : Option String
deriving DecidableEq

namespace Variable

/-- The characters of an argument with a backslash before each quote. -/
def escape : List Char → List Char
  | [] => []
  | c :: rest => if c = '\'' then '\\' :: '\'' :: escape rest else c :: escape rest

/-- The characters of an argument as spelled, each quote without the backslash before it. -/
def unescape : List Char → List Char
  | '\\' :: '\'' :: rest => '\'' :: unescape rest
  | c :: rest => c :: unescape rest
  | [] => []

/-- The spelling of a variable. -/
def spelling (v : Variable) : String :=
  match v.argument with
  | none => "$/" ++ v.name ++ "/"
  | some a => "$/" ++ v.name ++ ":'" ++ String.ofList (escape a.toList) ++ "'/"

/-- Whether a character may stand in a name. -/
def isNameChar (c : Char) : Bool :=
  c != '/' && c != ':'

/-- An argument as spelled, up to the quote that closes it, and what follows that quote. A character behind a backslash
closes nothing and is no line feed. -/
def rawArgument? : List Char → Option (List Char × List Char)
  | [] => none
  | '\'' :: rest => some ([], rest)
  | ['\\'] => none
  | '\\' :: c :: rest =>
    if c = '\n' then none else (rawArgument? rest).map fun (raw, after) => ('\\' :: c :: raw, after)
  | c :: rest => (rawArgument? rest).map fun (raw, after) => (c :: raw, after)

/-- What follows the name: the end of the variable, or its argument and the end. -/
def ending? : List Char → Option (Option String × List Char)
  | '/' :: rest => some (none, rest)
  | ':' :: '\'' :: body =>
    match rawArgument? body with
    | some (raw, '/' :: rest) => some (some (String.ofList (unescape raw)), rest)
    | _ => none
  | _ => none

/-- The variable that a text starts with, and what follows it. -/
def lead? : List Char → Option (Variable × List Char)
  | '$' :: '/' :: body =>
    let name := body.takeWhile isNameChar
    if name.isEmpty then none
    else (ending? (body.dropWhile isNameChar)).map fun (argument, rest) => (⟨String.ofList name, argument⟩, rest)
  | _ => none

/-- The variable that a whole text spells. -/
def parse? (t : String) : Option Variable :=
  match lead? t.toList with
  | some (v, []) => some v
  | _ => none

/-- A variable within a text: the offsets of its first character and of the one behind its last, and what it is. -/
structure Occurrence where
  start : Nat
  stop : Nat
  var : Variable
deriving DecidableEq

/-- Finds the variables from an offset on, past as many characters as are to be skipped. A variable found is skipped
as a whole. -/
def occurrencesFrom : Nat → Nat → List Char → List Occurrence
  | _, _, [] => []
  | i, skip + 1, _ :: rest => occurrencesFrom (i + 1) skip rest
  | i, 0, c :: rest =>
    match lead? (c :: rest) with
    | none => occurrencesFrom (i + 1) 0 rest
    | some (v, after) =>
      let width := rest.length - after.length
      ⟨i, i + 1 + width, v⟩ :: occurrencesFrom (i + 1) width rest

/-- The variables within a text, from left to right. -/
def occurrences (t : String) : List Occurrence :=
  occurrencesFrom 0 0 t.toList

end Variable

end SlideFill
