import DeviceCatalog.CommandLine.Json
import DeviceCatalog.Corpus

/-!
# Printed reports

Each command has a report. It is printed either as JSON or as lines for a
reader, and its exit code is zero if nothing in it failed.

Lines for a reader may be coloured. A style is a list of terminal codes. Styled
text stands between the sequence of its style and the reset sequence, and a
reset inside the text is followed by the style again.
-/
namespace DeviceCatalog

namespace CommandLine

abbrev Style := List Nat

namespace Style

def bold : Style := [1]
def dimmed : Style := [2]
def cyan : Style := [36]
def green : Style := [32]
def yellow : Style := [33]
def boldRed : Style := [1, 31]
def boldGreen : Style := [1, 32]
def boldCyan : Style := [1, 36]

def sequence (style : Style) : List Char :=
  '\x1b' :: '[' :: [';'].intercalate (style.map (Nat.toDigits 10)) ++ ['m']

def reset : List Char := ['\x1b', '[', '0', 'm']

/-- The text with `opening` behind each reset sequence. -/
def reopen (opening : List Char) : List Char → List Char
  | '\x1b' :: '[' :: '0' :: 'm' :: rest => reset ++ opening ++ reopen opening rest
  | c :: rest => c :: reopen opening rest
  | [] => []

/-- The text in a style, or as it is when colours are off. -/
def paint (style : Style) (colored : Bool) (text : String) : String :=
  if colored then
    String.ofList (style.sequence ++ reopen style.sequence text.toList ++ reset)
  else text

end Style

end CommandLine

namespace ValidationReport
open CommandLine Style

def fileJson (file : FileReport) : Json :=
  .object [("path", .string file.path.shown), ("passed", .bool file.passed),
    ("kind", .ofOption (file.error?.map CatalogError.kind)),
    ("message", .ofOption (file.error?.map CatalogError.message))]

def json (report : ValidationReport) : Json :=
  .object [("files", .array (report.files.map fileJson))]

def fileLines (colored : Bool) (file : FileReport) : List String :=
  (cyan.paint colored "→" ++ " Parsing file " ++ file.path.shown) ::
    match file.error? with
    | some e => ["  " ++ boldRed.paint colored "✗" ++ " " ++ e.message]
    | none => []

def summary (colored : Bool) (report : ValidationReport) : String :=
  let failed := report.failures.length
  let total := report.files.length
  if failed = 0 then
    boldGreen.paint colored "✓" ++ " " ++ bold.paint colored s!"All {total} files passed"
  else
    boldRed.paint colored "✗" ++ s!" {failed} of {total} file" ++
      (if total = 1 then "" else "s") ++ " failed validation"

/-- The lines of every file, and the summary after an empty line. -/
def lines (colored : Bool) (report : ValidationReport) : List String :=
  report.files.flatMap (fileLines colored) ++ ["", report.summary colored]

end ValidationReport

namespace CorpusReport
open CommandLine Style

def duplicateJson (d : Duplicate) : Json :=
  .object [("entry", .string d.entry), ("first_file", .string d.firstFile),
    ("second_file", .string d.secondFile)]

def receiverJson (hit : ReceiverHit) : Json :=
  .object [("entry", .string hit.entry), ("file", .string hit.file),
    ("receiver", .string hit.receiver)]

def skippedJson (skipped : SkippedFile) : Json :=
  .object [("file", .string skipped.file), ("reason", .string skipped.reason)]

def json (report : CorpusReport) : Json :=
  .object [("duplicates", .array (report.duplicates.map duplicateJson)),
    ("receivers", .array (report.receivers.map receiverJson)),
    ("skipped", .array (report.skipped.map skippedJson))]

def skippedLine (colored : Bool) (skipped : SkippedFile) : String :=
  yellow.paint colored "⚠" ++ " Skipped " ++ skipped.file ++ ": " ++
    dimmed.paint colored skipped.reason

def duplicateLine (colored : Bool) (d : Duplicate) : String :=
  boldRed.paint colored "✗" ++ " Duplicate DeviceMatch=" ++ cyan.paint colored d.entry ++ " in " ++
    d.secondFile ++ " and " ++ d.firstFile

def receiverLine (colored : Bool) (hit : ReceiverHit) : String :=
  boldRed.paint colored "✗" ++ " " ++ hit.text

def lines (colored : Bool) (report : CorpusReport) : List String :=
  report.skipped.map (skippedLine colored) ++ report.duplicates.map (duplicateLine colored) ++
    report.receivers.map (receiverLine colored) ++
    if report.hasFailures then []
    else
      [boldGreen.paint colored "✓" ++ " " ++ bold.paint colored "No conflicting match entries"]

end CorpusReport

namespace MatchScan
open CommandLine Style

def recordJson (r : MatchRecord) : Json :=
  .object [("file", .string r.file), ("device_match", .string r.deviceMatch),
    ("name", .ofOption r.name?), ("driver", .ofOption r.driver?)]

def json (scan : MatchScan) : Json :=
  .object [("records", .array (scan.records.map recordJson)),
    ("skipped", .array (scan.skipped.map CorpusReport.skippedJson))]

def recordLine (colored : Bool) (r : MatchRecord) : String :=
  boldCyan.paint colored (r.name?.getD "<unnamed>") ++ " → " ++
    green.paint colored (r.driver?.getD "<none>") ++ " " ++ dimmed.paint colored r.deviceMatch

def lines (colored : Bool) (scan : MatchScan) : List String :=
  let total := scan.records.length
  scan.records.map (recordLine colored) ++ ["", s!"Total: {total} devices"]

end MatchScan

namespace CommandLine

inductive Report where
  | validation (report : ValidationReport)
  | corpus (report : CorpusReport)
  | full (files : ValidationReport) (all : CorpusReport)
  | listing (scan : MatchScan)
  deriving DecidableEq, Repr

namespace Report

def json : Report → Json
  | validation report => report.json
  | corpus report => report.json
  | full files all => .object [("validation", files.json), ("corpus", all.json)]
  | listing scan => scan.json

def lines (colored : Bool) : Report → List String
  | validation report => report.lines colored
  | corpus report => report.lines colored
  | full files all => files.lines colored ++ [""] ++ all.lines colored
  | listing scan => scan.lines colored

def exitCode : Report → Nat
  | validation report => report.exitCode
  | corpus report => report.exitCode
  | full files all => max files.exitCode all.exitCode
  | listing _ => 0

end Report

end CommandLine

end DeviceCatalog
