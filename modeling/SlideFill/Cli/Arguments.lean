import SlideFill.Text.Digit
import SlideFill.Text.Quoted

/-!
# Command line arguments

Reads the arguments of the command. Long options may be shortened as long as no other fits, a value may follow its
option or be joined to it with `=`, and what is no option is refused. All arguments are sorted before the first one
takes effect, so a shortened option that fits two is reported before anything else.
-/

namespace SlideFill

namespace Cli

/-- An option of the command. -/
inductive Switch where
  | help
  | template
  | data
  | output
  | listVariables
  | verbose
  | debug
deriving DecidableEq

/-- The spellings of all options. -/
def spellings : List (String × Switch) :=
  [("-h", .help), ("--help", .help), ("--template", .template), ("--data", .data), ("--output", .output),
    ("--list-variables", .listVariables), ("--verbose", .verbose), ("--debug", .debug)]

/-- An option as messages name it. -/
def Switch.title : Switch → String
  | .help => "-h/--help"
  | .template => "--template"
  | .data => "--data"
  | .output => "--output"
  | .listVariables => "--list-variables"
  | .verbose => "--verbose"
  | .debug => "--debug"

/-- Whether an option has a value. -/
def Switch.takesValue : Switch → Bool
  | .template => true
  | .data => true
  | .output => true
  | _ => false

/-- What is wrong with the arguments. -/
inductive UsageFault where
  | ambiguous (argument : String) (spelled : List String)
  | noValue (s : Switch)
  | needlessValue (s : Switch) (value : String)
  | noTemplate
  | unrecognized (arguments : List String)
  /-- Neither the variables are to be listed nor data and output are given. -/
  | noDataOrOutput
deriving DecidableEq

/-- The wording of a usage fault. -/
def UsageFault.message : UsageFault → String
  | ambiguous argument spelled =>
    let options := ", ".intercalate spelled
    s!"ambiguous option: {argument} could match {options}"
  | noValue s => s!"argument {s.title}: expected one argument"
  | needlessValue s value => s!"argument {s.title}: ignored explicit argument {Text.quoted value}"
  | noTemplate => "the following arguments are required: --template"
  | unrecognized arguments => "unrecognized arguments: " ++ " ".intercalate arguments
  | noDataOrOutput => "--data and --output are required unless --list-variables is given"

/-- What an argument is taken for. -/
inductive Token where
  | operand
  | separator
  | unknown
  /-- An option with the value that is joined to it, and whether it is spelled short. -/
  | option (s : Switch) (short : Bool) (joined : Option String)

/-- A text cut at its first `=`. -/
def cutAtEquals (cs : List Char) : List Char × Option String :=
  match cs.dropWhile (· ≠ '=') with
  | [] => (cs, none)
  | _ :: value => (cs.takeWhile (· ≠ '='), some (String.ofList value))

/-- The options that a shortened long option can be, with the value joined to it. -/
def longCandidates (cs : List Char) : List (String × Token) :=
  let (name, joined) := cutAtEquals cs
  (spellings.filter fun s => name.isPrefixOf s.1.toList).map fun s => (s.1, .option s.2 false joined)

/-- The options that an argument with a single dash can be: a short one with more letters behind it. -/
def shortCandidates (cs : List Char) : List (String × Token) :=
  (spellings.filter fun s => s.1.toList = cs.take 2).map fun s =>
    (s.1, .option s.2 true (some (String.ofList (cs.drop 2))))

/-- The options that an argument with a dash in front can be. -/
def candidates : List Char → List (String × Token)
  | '-' :: '-' :: rest => longCandidates ('-' :: '-' :: rest)
  | cs => shortCandidates cs

/-- Whether all characters are decimal digits, and there is one. -/
def areDigits (cs : List Char) : Bool :=
  !cs.isEmpty && cs.all fun c => (Text.digitValue? c).isSome

/-- Whether an argument is a negative number, which is no option. A line feed may follow it. -/
def isNegativeNumber (cs : List Char) : Bool :=
  let body := match (cs.drop 1).getLast? with
    | some '\n' => (cs.drop 1).dropLast
    | _ => cs.drop 1
  let whole := body.takeWhile (· ≠ '.')
  match body.dropWhile (· ≠ '.') with
  | [] => areDigits whole
  | _ :: places => areDigits places && whole.all fun c => (Text.digitValue? c).isSome

/-- Sorts an argument that is not the separator. -/
def classify (argument : String) : Except UsageFault Token :=
  let cs := argument.toList
  if cs.head? ≠ some '-' then .ok .operand
  else
    match spellings.lookup argument with
    | some s => .ok (.option s (argument == "-h") none)
    | none =>
      if cs.length = 1 then .ok .operand
      else
        let (name, joined) := cutAtEquals cs
        match joined, spellings.lookup (String.ofList name) with
        | some j, some s => .ok (.option s (String.ofList name == "-h") (some j))
        | _, _ =>
          match candidates cs with
          | [one] => .ok one.2
          | [] => .ok (if isNegativeNumber cs || cs.contains ' ' then .operand else .unknown)
          | several => .error (.ambiguous argument (several.map (·.1)))

/-- Sorts all arguments. Behind the separator there are no options. -/
def tokens : List String → Except UsageFault (List (String × Token))
  | [] => .ok []
  | "--" :: rest => .ok (("--", .separator) :: rest.map (·, .operand))
  | argument :: rest =>
    match classify argument with
    | .error e => .error e
    | .ok t => (tokens rest).map ((argument, t) :: ·)

/-- What the arguments set. -/
structure Settings where
  /-- The template, if its option is given; the option can be given without a value. -/
  template : Option (Option String) := none
  data : Option String := none
  output : Option String := none
  listVariables : Bool := false
  verbose : Bool := false
  debug : Bool := false

/-- The value that a text gives an option: the separator gives none. -/
def valueOf (text : String) : Option String :=
  if text = "--" then none else some text

/-- Settings with the value of an option. -/
def Settings.set (o : Settings) (s : Switch) (value : Option String) : Settings :=
  match s with
  | .template => { o with template := some value }
  | .data => { o with data := value }
  | .output => { o with output := value }
  | _ => o

/-- Settings with an option that has no value. -/
def Settings.turnOn (o : Settings) : Switch → Settings
  | .listVariables => { o with listVariables := true }
  | .verbose => { o with verbose := true }
  | .debug => { o with debug := true }
  | _ => o

/-- What is asked for: the help text, or a run with a template. -/
inductive Request where
  | help
  | run (template : Option String) (o : Settings)

/-- The request of `-h` with a text joined to it: each `h` asks for help again, and anything else is needless. -/
def helpLetters (joined : String) : Except UsageFault Request :=
  let rest := joined.toList.dropWhile (· = 'h')
  if joined ≠ "" ∧ rest = [] then .ok .help else .error (.needlessValue .help (String.ofList rest))

/-- The request of settings once all arguments are read, some of which were not recognized. -/
def finish (o : Settings) (unrecognized : List String) : Except UsageFault Request :=
  match o.template with
  | none => .error .noTemplate
  | some template => if unrecognized.isEmpty then .ok (.run template o) else .error (.unrecognized unrecognized)

/-- Lets sorted arguments take effect, one after the other. -/
def interpret (o : Settings) (unrecognized : List String) : List (String × Token) → Except UsageFault Request
  | [] => finish o unrecognized
  | (_, .option s short joined) :: rest =>
    if s.takesValue then
      match joined, rest with
      | some text, rest => interpret (o.set s (valueOf text)) unrecognized rest
      | none, (value, .operand) :: rest => interpret (o.set s (some value)) unrecognized rest
      | none, _ => .error (.noValue s)
    else
      match joined with
      | some text => if short then helpLetters text else .error (.needlessValue s text)
      | none => if s = .help then .ok .help else interpret (o.turnOn s) unrecognized rest
  | (argument, _) :: rest => interpret o (unrecognized ++ [argument]) rest

/-- Reads the arguments. -/
def parse (arguments : List String) : Except UsageFault Request :=
  (tokens arguments).bind (interpret {} [])

/-- The summary of how the command is used. -/
def usage : String :=
  "usage: fill-pptx-template [-h] --template TEMPLATE [--data DATA]\n" ++
    "                          [--output OUTPUT] [--list-variables] [--verbose]\n" ++
    "                          [--debug]\n"

/-- The help text. -/
def helpText : String :=
  usage ++ "\n" ++
    "Fill a PPTX template containing $/variable/ placeholders with JSON data\n\n" ++
    "options:\n" ++
    "  -h, --help           show this help message and exit\n" ++
    "  --template TEMPLATE  Path to the .pptx template file\n" ++
    "  --data DATA          Path to the JSON data file (text, hide, style, images)\n" ++
    "  --output OUTPUT      Output PPTX file path\n" ++
    "  --list-variables     Print the variables found in the template and exit\n" ++
    "  --verbose            Log each hidden shape and replaced picture\n" ++
    "  --debug              Show full traceback for unexpected errors\n"

/-- What is printed for a usage fault. -/
def usageText (e : UsageFault) : String :=
  usage ++ "fill-pptx-template: error: " ++ e.message ++ "\n"

end Cli

end SlideFill
