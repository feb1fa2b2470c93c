import DeviceCatalog.Catalog
import DeviceCatalog.Proofs.Validation.Stages

/-!
# Outcomes of a catalog

A file of the catalog is valid when its name is legal, it can be loaded, and its
contents are valid. The report of a list of files fails exactly when one of them
is not valid.
-/
namespace DeviceCatalog

namespace FileView

theorem validateFile_eq_ok_iff {view : FileView} {path : RawText} :
    view.validateFile path = .ok () ↔
      FileName.check path.shown = .ok () ∧
        ∃ file, view.loadFile path = .ok file ∧ file.validate = .ok () := by
  unfold validateFile
  cases FileName.check path.shown with
  | error violation => simp
  | ok u =>
    cases view.loadFile path with
    | error e => simp
    | ok file => cases hvalid : file.validate <;> simp [Except.mapError, hvalid]

theorem validateFile_eq_of_eq {view other : FileView} {path : RawText}
    (h : other path = view path) : other.validateFile path = view.validateFile path := by
  simp only [validateFile, loadFile, readText, h]

theorem deviceFiles_of_names {view : FileView} {directory : RawText} {names : List RawText}
    (h : view directory = .directory (.ok names)) :
    view.deviceFiles directory =
      .ok ((view.listedNames directory names).map (Path.join directory)) := by
  rw [deviceFiles, openDirectory, h]

theorem deviceFiles_of_fault {view : FileView} {directory : RawText} {fault : FileFault}
    (h : view directory = .directory (.error fault)) :
    view.deviceFiles directory = .error (.unreadable directory fault) := by
  rw [deviceFiles, openDirectory, h]

end FileView

namespace ValidationReport

/-- The report says of one file what its validation says, whatever stands at other paths. -/
structure Records (view : FileView) (path : RawText) (report : FileReport) : Prop where
  path_eq : report.path = path
  passed_iff : ∀ other : FileView, other path = view path →
    (report.passed = true ↔ other.validateFile path = .ok ())
  error_iff : ∀ other : FileView, other path = view path →
    ∀ e, report.error? = some e ↔ other.validateFile path = .error e

theorem records_ofOutcome (view : FileView) (path : RawText) :
    Records view path (.ofOutcome path (view.validateFile path)) := by
  constructor
  case path_eq => cases view.validateFile path <;> rfl
  case passed_iff =>
    intro other h
    rw [FileView.validateFile_eq_of_eq h]
    cases view.validateFile path <;> simp [FileReport.ofOutcome, FileReport.passed]
  case error_iff =>
    intro other h e
    rw [FileView.validateFile_eq_of_eq h]
    cases view.validateFile path <;> simp [FileReport.ofOutcome]

theorem forall₂_records (view : FileView) (paths : List RawText) :
    List.Forall₂ (Records view) paths (ofPaths view paths).files := by
  rw [ofPaths, List.forall₂_map_right_iff, List.forall₂_same]
  exact fun path _ => records_ofOutcome view path

theorem passed_ofOutcome {path : RawText} {outcome : Except CatalogError Unit} :
    (FileReport.ofOutcome path outcome).passed = true ↔ outcome = .ok () := by
  cases outcome <;> simp [FileReport.ofOutcome, FileReport.passed]

theorem hasFailures_ofPaths_eq_false_iff {view : FileView} {paths : List RawText} :
    (ofPaths view paths).hasFailures = false ↔ ∀ path ∈ paths, view.validateFile path = .ok () := by
  simp [hasFailures, ofPaths, passed_ofOutcome]

theorem exitCode_ofPaths_eq_zero_iff {view : FileView} {paths : List RawText} :
    (ofPaths view paths).exitCode = 0 ↔ ∀ path ∈ paths, view.validateFile path = .ok () := by
  rw [← hasFailures_ofPaths_eq_false_iff, exitCode]
  cases (ofPaths view paths).hasFailures <;> simp

theorem exitCode_eq_ite (report : ValidationReport) :
    report.exitCode = if ∀ file ∈ report.files, file.passed = true then 0 else 1 := by
  have hfailures : report.hasFailures = true ↔ ¬∀ file ∈ report.files, file.passed = true := by
    simp [hasFailures]
  rw [exitCode]
  by_cases hall : ∀ file ∈ report.files, file.passed = true
  · rw [if_pos hall, if_neg (mt hfailures.1 (not_not_intro hall))]
  · rw [if_neg hall, if_pos (hfailures.2 hall)]

theorem exitCode_le_one (report : ValidationReport) : report.exitCode ≤ 1 := by
  unfold exitCode
  split <;> simp

end ValidationReport

end DeviceCatalog
