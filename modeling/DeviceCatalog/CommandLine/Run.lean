import DeviceCatalog.CommandLine.Arguments
import DeviceCatalog.CommandLine.Report
import DeviceCatalog.Text.Basic

/-!
# Running a command

A command works on the paths of its request after a leading tilde has been
replaced. It ends with a report, or it is refused and prints nothing but the
reason. Arguments that cannot be used end the program with exit code two.
-/
namespace DeviceCatalog.CommandLine

/-- The path with a tilde at its start replaced by the home directory. -/
def expandTilde (home? : Option String) (path : String) : String :=
  match home?, path.toList with
  | some home, ['~'] => home
  | some home, '~' :: '/' :: rest => home ++ String.ofList ('/' :: rest)
  | _, _ => path

inductive Refusal where
  | invalidEncoding
  | noSuchPath (path : RawText)
  | catalog (error : CatalogError)
  deriving DecidableEq, Repr

namespace Refusal

def message : Refusal → String
  | invalidEncoding => "Invalid path encoding"
  | noSuchPath path => "No such file or directory: " ++ path.shown
  | catalog e => e.message

end Refusal

/-- The path that an argument leads to. Only a text can be expanded. -/
def expandPath (home? : Option String) (path : RawText) : Except Refusal RawText :=
  match path.text? with
  | some text => .ok (expandTilde home? text)
  | none => .error .invalidEncoding

def deviceFiles (home? : Option String) (view : FileView) (directory : RawText) :
    Except Refusal (List RawText) := do
  let path ← expandPath home? directory
  (view.deviceFiles path).mapError .catalog

/-- The files that one argument of a validation stands for. -/
def filesAt (home? : Option String) (view : FileView) (argument : RawText) :
    Except Refusal (List RawText) := do
  let path ← expandPath home? argument
  match view path with
  | .absent _ => .error (.noSuchPath path)
  | .file .. => .ok [path]
  | .directory _ => deviceFiles home? view path

def collectFiles (home? : Option String) (view : FileView) (arguments : List RawText) :
    Except Refusal (List RawText) :=
  (arguments.mapM (filesAt home? view)).map List.flatten

def reportOn (view : FileView) (files : List RawText) : Command → Report
  | .validate => .validation (.ofPaths view files)
  | .checkDuplicates => .corpus (.ofDuplicates (.collect view files))
  | .checkReceivers => .corpus (.ofReceivers (.collect view files))
  | .checkAll => .full (.ofPaths view files) (.full (.collect view files))
  | .list => .listing (.collect view files)

def filesFor (home? : Option String) (view : FileView) (command : Command)
    (paths : List RawText) : Except Refusal (List RawText) :=
  match command with
  | .validate => collectFiles home? view paths
  | _ => deviceFiles home? view (paths.headD defaultDirectory)

def report (home? : Option String) (view : FileView) (command : Command)
    (paths : List RawText) : Except Refusal Report :=
  (filesFor home? view command paths).map fun files => reportOn view files command

/-- How the program ends. -/
structure Outcome where
  exitCode : Nat
  output : String
  fatal? : Option String
  deriving DecidableEq, Repr

def versionText : String := "ratbag-devicedb 0.3.0\n"

def usageText : String :=
  Text.unlines
    ["Usage: ratbag-devicedb [--json] [-v] [--color auto|always|never] COMMAND [PATH]", "",
      "Commands:", "  validate [PATH]...       check device files against their schemas",
      "  check-duplicates [PATH]  look for match entries of more than one file",
      "  check-receivers [PATH]   look for wireless receivers listed as devices",
      "  check-all [PATH]         run all checks", "  list [PATH]              list the devices"]

namespace Outcome

def ofReport (json : Bool) (color : ColorMode) (report : Report) : Outcome :=
  let lines := if json then [report.json.text] else report.lines (color == .always)
  ⟨report.exitCode, Text.unlines lines, none⟩

def ofRefusal (refusal : Refusal) : Outcome := ⟨1, "", some refusal.message⟩

def ofStop : Stop → Outcome
  | .help => ⟨0, usageText, none⟩
  | .version => ⟨0, versionText, none⟩
  | .misuse => ⟨2, "", none⟩

end Outcome

def Request.run (home? : Option String) (view : FileView) (request : Request) : Outcome :=
  match report home? view request.command request.paths with
  | .ok r => .ofReport request.json request.color r
  | .error refusal => .ofRefusal refusal

def run (home? : Option String) (directory? : Option RawText) (view : FileView)
    (arguments : List RawText) : Outcome :=
  match parse directory? arguments with
  | .ok request => request.run home? view
  | .error stop => .ofStop stop

end DeviceCatalog.CommandLine
