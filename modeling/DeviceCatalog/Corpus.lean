import DeviceCatalog.Catalog
import DeviceCatalog.Corpus.Duplicates
import DeviceCatalog.Corpus.Receivers

/-!
# Checks of the whole catalog

Some faults show only when all files are seen together. A scan collects the
match values of the files that have one and puts all other files aside with the
reason. What was put aside never makes these checks fail.
-/
namespace DeviceCatalog

structure SkippedFile where
  file : String
  reason : String
  deriving DecidableEq, Repr

structure MatchRecord where
  file : String
  deviceMatch : String
  name? : Option String
  driver? : Option String
  deriving DecidableEq, Repr

structure MatchScan where
  records : List MatchRecord
  skipped : List SkippedFile
  deriving DecidableEq, Repr

namespace MatchScan

/-- The record of a parsed file, or the reason why it has none. -/
def recordOf (file : String) (parsed : Keyfile) : Except String MatchRecord :=
  match parsed.section? SectionShape.deviceName with
  | none => .error ("missing section [" ++ SectionShape.deviceName ++ "]")
  | some device =>
    match device.get? "DeviceMatch" with
    | none => .error "missing key 'DeviceMatch'"
    | some value => .ok ⟨file, value, device.get? "Name", device.get? "Driver"⟩

/-- The record of the file at a path, or the reason why it is skipped. -/
def examine (view : FileView) (path : RawText) : Except String MatchRecord :=
  match view.loadFile path with
  | .error e => .error e.message
  | .ok parsed => recordOf (Path.baseName path) parsed

def collect (view : FileView) : List RawText → MatchScan
  | [] => ⟨[], []⟩
  | path :: rest =>
    let scan := collect view rest
    match examine view path with
    | .ok record => { scan with records := record :: scan.records }
    | .error reason => { scan with skipped := ⟨Path.baseName path, reason⟩ :: scan.skipped }

theorem collect_length (view : FileView) (paths : List RawText) :
    (collect view paths).records.length + (collect view paths).skipped.length = paths.length := by
  induction paths with
  | nil => rfl
  | cons path rest ih =>
    simp only [collect, List.length_cons]
    split <;> simp only [List.length_cons] <;> omega

def index (scan : MatchScan) : DuplicateIndex :=
  DuplicateIndex.empty.addFiles (scan.records.map fun r => (r.file, r.deviceMatch))

def duplicates (scan : MatchScan) : List Duplicate := scan.index.duplicates

def receivers (scan : MatchScan) : List ReceiverHit :=
  scan.records.flatMap fun r => ReceiverHit.scan r.file r.deviceMatch

end MatchScan

structure CorpusReport where
  duplicates : List Duplicate
  receivers : List ReceiverHit
  skipped : List SkippedFile
  deriving DecidableEq, Repr

namespace CorpusReport

def ofDuplicates (scan : MatchScan) : CorpusReport := ⟨scan.duplicates, [], scan.skipped⟩

def ofReceivers (scan : MatchScan) : CorpusReport := ⟨[], scan.receivers, scan.skipped⟩

def full (scan : MatchScan) : CorpusReport := ⟨scan.duplicates, scan.receivers, scan.skipped⟩

def hasFailures (report : CorpusReport) : Bool :=
  !report.duplicates.isEmpty || !report.receivers.isEmpty

def exitCode (report : CorpusReport) : Nat := if report.hasFailures then 1 else 0

end CorpusReport

end DeviceCatalog
