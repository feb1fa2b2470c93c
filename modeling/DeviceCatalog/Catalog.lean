import DeviceCatalog.Files.View
import DeviceCatalog.Validation

/-!
# The catalog of device files

A catalog is a directory. Its device files are listed in the order of their
names. Each file is validated by itself, so a broken one never hides the rest.
-/
namespace DeviceCatalog

namespace FileName

/-- Brackets, braces and parentheses have a meaning in the patterns that install data files. -/
def isIllegal (c : Char) : Bool :=
  c == '[' || c == ']' || c == '\x7b' || c == '\x7d' || c == '(' || c == ')'

/-- The illegal characters of a path, in order and with repetitions. -/
def illegalCharacters (path : String) : String := String.ofList (path.toList.filter isIllegal)

def check (path : String) : Except Violation Unit :=
  if illegalCharacters path = "" then .ok ()
  else .error (.illegalName path (illegalCharacters path))

end FileName

inductive CatalogError where
  | notFound (path : RawText)
  | notADirectory (path : RawText)
  | unreadable (path : RawText) (fault : FileFault)
  | malformed (path : RawText) (error : KeyfileError)
  | invalid (path : RawText) (violation : Violation)
  deriving DecidableEq, Repr

namespace CatalogError

def message : CatalogError → String
  | notFound path => "Device directory not found: " ++ path.shown
  | notADirectory path => "Not a directory: " ++ path.shown
  | unreadable path fault => "Failed to read " ++ path.shown ++ ": " ++ fault.message
  | malformed path error => path.shown ++ ": " ++ error.message
  | invalid path violation => path.shown ++ ": " ++ violation.message

def kind : CatalogError → String
  | notFound _ => "not-found"
  | notADirectory _ => "not-a-directory"
  | unreadable .. => "io"
  | malformed .. => "parse"
  | invalid _ violation => violation.kind

end CatalogError

namespace FileView

/-- Opens a directory, which has to exist. Its names may still fail to be read. -/
def openDirectory (view : FileView) (path : RawText) :
    Except CatalogError (Except FileFault (List RawText)) :=
  match view path with
  | .absent _ => .error (.notFound path)
  | .file .. => .error (.notADirectory path)
  | .directory names => .ok names

/-- Those of the names inside a directory that are names of device files, in order. -/
def listedNames (view : FileView) (directory : RawText) (names : List RawText) : List RawText :=
  (names.filter fun name =>
    Path.isDeviceName name && (view (Path.join directory name)).isFile).mergeSort (· ≤ ·)

/-- The paths of the device files directly inside a directory, in the order of their names. -/
def deviceFiles (view : FileView) (directory : RawText) : Except CatalogError (List RawText) :=
  match view.openDirectory directory with
  | .error e => .error e
  | .ok (.error fault) => .error (.unreadable directory fault)
  | .ok (.ok names) => .ok ((view.listedNames directory names).map (Path.join directory))

def readText (view : FileView) (path : RawText) : Except CatalogError String :=
  (view path).text.mapError (.unreadable path)

def loadFile (view : FileView) (path : RawText) : Except CatalogError Keyfile :=
  match view.readText path with
  | .error e => .error e
  | .ok content => (Keyfile.parse content).mapError (.malformed path)

/-- Checks the name of a file, its text and its contents, in this order. -/
def validateFile (view : FileView) (path : RawText) : Except CatalogError Unit :=
  match FileName.check path.shown with
  | .error violation => .error (.invalid path violation)
  | .ok () =>
    match view.loadFile path with
    | .error e => .error e
    | .ok file => file.validate.mapError (.invalid path)

end FileView

structure FileReport where
  path : RawText
  error? : Option CatalogError
  deriving DecidableEq, Repr

namespace FileReport

def passed (report : FileReport) : Bool := report.error?.isNone

def ofOutcome (path : RawText) : Except CatalogError Unit → FileReport
  | .ok () => ⟨path, none⟩
  | .error e => ⟨path, some e⟩

end FileReport

structure ValidationReport where
  files : List FileReport
  deriving DecidableEq, Repr

namespace ValidationReport

/-- One report for each path, in the given order. -/
def ofPaths (view : FileView) (paths : List RawText) : ValidationReport :=
  ⟨paths.map fun path => .ofOutcome path (view.validateFile path)⟩

def failures (report : ValidationReport) : List FileReport := report.files.filter (!·.passed)

def hasFailures (report : ValidationReport) : Bool := report.files.any (!·.passed)

def exitCode (report : ValidationReport) : Nat := if report.hasFailures then 1 else 0

end ValidationReport

end DeviceCatalog
