import DeviceCatalog.Corpus
import DeviceCatalog.Proofs.Catalog.Outcomes
import DeviceCatalog.Proofs.Corpus.ReceiverIdentities
import DeviceCatalog.Proofs.Corpus.Sightings
import Mathlib.Data.List.Nodup

/-!
# Declared identities

A file declares the identities that its match value is read as. Every valid file
declares some list of them, and a file that does is never skipped by the scan.
On declared identities the textual checks of the corpus decide what they mean:
duplicates are repeated identities, and hits are identities of receivers.
-/
namespace DeviceCatalog

/-- The file at a path can be loaded, and its match value is read as `ms`. -/
def FileView.Declares (view : FileView) (path : RawText) (ms : List DeviceMatch) : Prop :=
  ∃ file device value, view.loadFile path = .ok file ∧
    file.section? SectionShape.deviceName = some device ∧
      device.get? "DeviceMatch" = some value ∧ DeviceMatch.readAll value = .ok ms

/-- All files are valid, and the identities that they declare, taken in order, are different and
none of them is a receiver's. -/
def FileView.Clean (view : FileView) (files : List RawText) : Prop :=
  (∀ path ∈ files, view.validateFile path = .ok ()) ∧
    ∃ declared, List.Forall₂ view.Declares files declared ∧ declared.flatten.Nodup ∧
      ∀ m ∈ declared.flatten, ¬m.IsReceiver

theorem FileView.exists_declares_of_validateFile {view : FileView} {path : RawText}
    (h : view.validateFile path = .ok ()) : ∃ ms, view.Declares path ms := by
  obtain ⟨-, file, hload, hvalid⟩ := validateFile_eq_ok_iff.1 h
  obtain ⟨device, hdevice, hadmits, -⟩ := Keyfile.validate_eq_ok_iff.1 hvalid
  have hrule : (⟨"DeviceMatch", .deviceMatch⟩ : KeyRule) ∈ SectionSchema.device.rules := by decide
  obtain ⟨value, hvalue, ms, hms⟩ := hadmits.exists_value hrule (by decide)
  exact ⟨ms, file, device, value, hload, hdevice, hvalue, hms⟩

namespace MatchScan

/-- The match value of a record is read as `ms`. -/
def Reads (record : MatchRecord) (ms : List DeviceMatch) : Prop :=
  DeviceMatch.readAll record.deviceMatch = .ok ms

theorem examine_of_declares {view : FileView} {path : RawText} {ms : List DeviceMatch}
    (h : view.Declares path ms) : ∃ record, examine view path = .ok record ∧ Reads record ms := by
  obtain ⟨file, device, value, hload, hdevice, hvalue, hms⟩ := h
  refine ⟨⟨Path.baseName path, value, device.get? "Name", device.get? "Driver"⟩, ?_, hms⟩
  simp only [examine, hload, recordOf, hdevice, hvalue]

theorem records_collect_of_declares {view : FileView} {paths : List RawText}
    {declared : List (List DeviceMatch)} (h : List.Forall₂ view.Declares paths declared) :
    List.Forall₂ Reads (collect view paths).records declared := by
  induction h with
  | nil => exact .nil
  | cons hfirst _ ih =>
    obtain ⟨record, hrecord, hreads⟩ := examine_of_declares hfirst
    rw [collect, hrecord]
    exact .cons hreads ih

variable {scan : MatchScan} {declared : List (List DeviceMatch)}

theorem filledSegments_of_reads {records : List MatchRecord}
    (h : List.Forall₂ Reads records declared) :
    (records.flatMap fun r => Text.filledSegments ';' r.deviceMatch) =
      declared.flatten.map DeviceMatch.text := by
  induction h with
  | nil => rfl
  | cons hfirst _ ih =>
    rw [List.flatMap_cons, ih, List.flatten_cons, List.map_append,
      DeviceMatch.readAll_eq_ok_iff.1 hfirst]

theorem duplicates_eq_nil_iff (h : List.Forall₂ Reads scan.records declared) :
    scan.duplicates = [] ↔ declared.flatten.Nodup := by
  rw [duplicates, index, DuplicateIndex.duplicates_addFiles_eq_nil_iff, List.flatMap_map,
    filledSegments_of_reads h, List.nodup_map_iff DeviceMatch.text_injective]

theorem receivers_eq_nil_iff (h : List.Forall₂ Reads scan.records declared) :
    scan.receivers = [] ↔ ∀ m ∈ declared.flatten, ¬m.IsReceiver := by
  unfold receivers
  generalize scan.records = records at h
  induction h with
  | nil => simp
  | cons hfirst _ ih =>
    rw [List.flatMap_cons, List.append_eq_nil_iff, ih, ReceiverHit.scan_eq_nil_iff hfirst,
      List.flatten_cons, List.forall_mem_append]

end MatchScan

namespace CorpusReport

theorem exitCode_full_eq_zero_iff {scan : MatchScan} :
    (full scan).exitCode = 0 ↔ scan.duplicates = [] ∧ scan.receivers = [] := by
  simp [exitCode, hasFailures, full]

theorem exitCode_full_collect_eq_zero_iff {view : FileView} {paths : List RawText}
    {declared : List (List DeviceMatch)} (h : List.Forall₂ view.Declares paths declared) :
    (full (.collect view paths)).exitCode = 0 ↔
      declared.flatten.Nodup ∧ ∀ m ∈ declared.flatten, ¬m.IsReceiver := by
  have hreads := MatchScan.records_collect_of_declares h
  rw [exitCode_full_eq_zero_iff, MatchScan.duplicates_eq_nil_iff hreads,
    MatchScan.receivers_eq_nil_iff hreads]

theorem exitCode_le_one (report : CorpusReport) : report.exitCode ≤ 1 := by
  unfold exitCode
  split <;> simp

end CorpusReport

/-- The two reports on a list of files show no failure exactly when the files are clean. -/
theorem FileView.clean_iff_exitCodes {view : FileView} {files : List RawText} :
    view.Clean files ↔ (ValidationReport.ofPaths view files).exitCode = 0 ∧
      (CorpusReport.full (.collect view files)).exitCode = 0 := by
  rw [Clean, ValidationReport.exitCode_ofPaths_eq_zero_iff]
  refine and_congr_right fun hvalid => ?_
  constructor
  · rintro ⟨declared, hdeclared, hclean⟩
    exact (CorpusReport.exitCode_full_collect_eq_zero_iff hdeclared).2 hclean
  · intro hcorpus
    obtain ⟨declared, hdeclared⟩ := exists_forall₂ fun path hpath =>
      exists_declares_of_validateFile (hvalid path hpath)
    exact ⟨declared, hdeclared,
      (CorpusReport.exitCode_full_collect_eq_zero_iff hdeclared).1 hcorpus⟩

end DeviceCatalog
