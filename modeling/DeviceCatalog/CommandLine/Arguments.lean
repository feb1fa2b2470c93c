import DeviceCatalog.Text.Raw
import DeviceCatalog.Vocabulary

/-!
# Command line arguments

Arguments are read from left to right in one pass. Options may stand before
the command and after it, each at most once on either side, and an option
behind the command wins over the same option before it. The first argument
that cannot be used, or that asks for help or the version, decides the outcome.
Only paths keep their bytes. Options and commands have to be UTF-8.
-/
namespace DeviceCatalog.CommandLine

inductive ColorMode where
  | auto | always | never
  deriving DecidableEq, Repr

namespace ColorMode

def token : ColorMode → String
  | auto => "auto"
  | always => "always"
  | never => "never"

instance : Vocabulary ColorMode where
  label := "color"
  all := [auto, always, never]
  token := token
  complete a := by cases a <;> decide
  token_injective a b h := by cases a <;> cases b <;> simp_all [token]

end ColorMode

inductive Command where
  | validate | checkDuplicates | checkReceivers | checkAll | list
  deriving DecidableEq, Repr

namespace Command

def token : Command → String
  | validate => "validate"
  | checkDuplicates => "check-duplicates"
  | checkReceivers => "check-receivers"
  | checkAll => "check-all"
  | list => "list"

instance : Vocabulary Command where
  label := "command"
  all := [validate, checkDuplicates, checkReceivers, checkAll, list]
  token := token
  complete a := by cases a <;> decide
  token_injective a b h := by cases a <;> cases b <;> simp_all [token]

/-- Only validation takes several paths. -/
def takesMany (command : Command) : Bool := command == validate

end Command

/-- What the user asks for, with the paths as they were given. -/
structure Request where
  command : Command
  paths : List RawText
  json : Bool
  color : ColorMode
  deriving DecidableEq, Repr

/-- Why no command is run. -/
inductive Stop where
  | help
  | version
  | misuse
  deriving DecidableEq, Repr

structure Options where
  json : Bool
  color? : Option ColorMode
  deriving DecidableEq, Repr

/-- What the next argument may be. -/
inductive Expecting where
  | anything
  | colorValue
  | pathOnly
  | helpTopic
  | nothing
  deriving DecidableEq, Repr

structure Reading where
  /-- The options before the command, once it is known. -/
  outer : Options
  options : Options
  command? : Option Command
  paths : List RawText
  expecting : Expecting
  deriving DecidableEq, Repr

namespace Reading

def noOptions : Options := ⟨false, none⟩

def start : Reading := ⟨noOptions, noOptions, none, [], .anything⟩

def setJson (r : Reading) : Except Stop Reading :=
  if r.options.json then .error .misuse
  else .ok { r with options := { r.options with json := true } }

def setColor (r : Reading) (word : String) : Except Stop Reading :=
  match r.options.color?, Vocabulary.find? word with
  | none, some mode =>
    .ok { r with options := { r.options with color? := some mode }, expecting := .anything }
  | _, _ => .error .misuse

/-- A long option, split at its equals sign if it has one. -/
def readLong (r : Reading) (name : String) (value? : Option String) : Except Stop Reading :=
  match name, value? with
  | "json", none => r.setJson
  | "verbose", none => .ok r
  | "color", none => .ok { r with expecting := .colorValue }
  | "color", some word => r.setColor word
  | "help", none => .error .help
  | "version", none => .error (if r.command?.isNone then .version else .misuse)
  | _, _ => .error .misuse

/-- The letters of an argument with one dash. -/
def readShort (r : Reading) : List Char → Except Stop Reading
  | [] => .ok r
  | 'v' :: rest => r.readShort rest
  | 'h' :: _ => .error .help
  | 'V' :: _ => .error (if r.command?.isNone then .version else .misuse)
  | _ => .error .misuse

/-- A word that is no option: the command at first, and paths behind it. -/
def readWord (r : Reading) (word : RawText) : Except Stop Reading :=
  match r.command? with
  | none =>
    match Vocabulary.find? word.shown with
    | some command =>
      if r.expecting = .pathOnly then .error .misuse
      else .ok { r with outer := r.options, options := noOptions, command? := some command }
    | none =>
      if word = "help" ∧ r.expecting ≠ .pathOnly then .ok { r with expecting := .helpTopic }
      else .error .misuse
  | some command =>
    if word = "" ∨ (r.paths ≠ [] ∧ !command.takesMany) then .error .misuse
    else .ok { r with paths := r.paths ++ [word] }

/-- The first letters tell what an argument is, and no replacement character is one of them. -/
def readAny (r : Reading) (argument : RawText) : Except Stop Reading :=
  match argument.shown.toList with
  | ['-', '-'] => .ok { r with expecting := .pathOnly }
  | '-' :: '-' :: name =>
    match name.dropWhile (· != '=') with
    | [] => r.readLong (String.ofList name) none
    | _ :: value =>
      r.readLong (String.ofList (name.takeWhile (· != '='))) (some (String.ofList value))
  | '-' :: c :: letters => r.readShort (c :: letters)
  | _ => r.readWord argument

def read (r : Reading) (argument : RawText) : Except Stop Reading :=
  match r.expecting with
  | .anything => r.readAny argument
  | .pathOnly => r.readWord argument
  | .colorValue => r.setColor argument.shown
  | .helpTopic =>
    if argument = "help" ∨ (Vocabulary.find? (α := Command) argument.shown).isSome then
      .ok { r with expecting := .nothing }
    else .error .misuse
  | .nothing => .error .misuse

/-- The paths to work on: those given, or else the default one, which must not be empty. -/
def pathsOr (r : Reading) (default : RawText) : Except Stop (List RawText) :=
  if r.paths ≠ [] then .ok r.paths
  else if default = "" then .error .misuse
  else .ok [default]

def finish (r : Reading) (default : RawText) : Except Stop Request :=
  match r.expecting, r.command? with
  | .helpTopic, _ => .error .help
  | .nothing, _ => .error .help
  | .colorValue, _ => .error .misuse
  | _, none => .error .misuse
  | _, some command =>
    (r.pathsOr default).map fun paths =>
      ⟨command, paths, r.outer.json || r.options.json,
        (r.options.color? <|> r.outer.color?).getD .auto⟩

end Reading

/-- The directory that is used when neither an argument nor the environment names one. -/
def defaultDirectory : RawText := "data/devices"

/-- Reads the arguments behind the program's name. `directory?` is what the environment names. -/
def parse (directory? : Option RawText) (arguments : List RawText) : Except Stop Request :=
  (arguments.foldlM Reading.read Reading.start).bind fun r =>
    r.finish (directory?.getD defaultDirectory)

end DeviceCatalog.CommandLine
