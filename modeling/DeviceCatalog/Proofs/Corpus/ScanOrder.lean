import DeviceCatalog.Corpus
import DeviceCatalog.Proofs.Corpus.RecurringEntries
import Mathlib.Data.List.Perm.Basic

/-!
# The order of a scan

The first declaration of an entry is another one when the files are scanned in
another order, so a duplicate may then name other files. How often an entry is
sighted stays the same. Every order reports the same entries equally often and
finds the same receivers, and so the verdict is the same.
-/
namespace DeviceCatalog

variable {files others : List (String × String)}

theorem entries_sightings_perm (h : files.Perm others) :
    ((sightings files).map Prod.snd).Perm ((sightings others).map Prod.snd) :=
  (h.flatMap_right _).map Prod.snd

namespace DuplicateIndex

/-- Each entry is reported once less than it is sighted, whichever of its sightings is the first. -/
theorem reported_perm (h : files.Perm others) :
    ((empty.addFiles files).duplicates.map Duplicate.entry).Perm
      ((empty.addFiles others).duplicates.map Duplicate.entry) := by
  rw [List.perm_iff_count]
  intro entry
  rw [count_entry_addFiles, count_entry_addFiles, (entries_sightings_perm h).count_eq]

theorem entryCount_eq_of_perm (h : files.Perm others) :
    (empty.addFiles files).entryCount = (empty.addFiles others).entryCount := by
  rw [entryCount_addFiles, entryCount_addFiles, List.toFinset_eq_of_perm _ _
    (entries_sightings_perm h)]

end DuplicateIndex

namespace CorpusReport

variable {report other : CorpusReport}

theorem hasFailures_eq_true_iff :
    report.hasFailures = true ↔ 0 < report.duplicates.length ∨ 0 < report.receivers.length := by
  simp [hasFailures, List.length_pos_iff]

theorem verdict_eq_of_length (hduplicates : report.duplicates.length = other.duplicates.length)
    (hreceivers : report.receivers.length = other.receivers.length) :
    report.hasFailures = other.hasFailures ∧ report.exitCode = other.exitCode := by
  have hfailures : report.hasFailures = other.hasFailures := by
    rw [Bool.eq_iff_iff, hasFailures_eq_true_iff, hasFailures_eq_true_iff, hduplicates, hreceivers]
  exact ⟨hfailures, by rw [exitCode, exitCode, hfailures]⟩

end CorpusReport

namespace MatchScan

variable {scan other : MatchScan}

theorem reported_perm_of_records (h : scan.records.Perm other.records) :
    (scan.duplicates.map Duplicate.entry).Perm (other.duplicates.map Duplicate.entry) :=
  DuplicateIndex.reported_perm (h.map _)

theorem receivers_perm_of_records (h : scan.records.Perm other.records) :
    scan.receivers.Perm other.receivers :=
  h.flatMap_right _

/-- Two scans whose records differ in order only report the same entries, each of them equally
often, and the same receivers. Each of the three reports comes to the same verdict on both. -/
theorem verdict_eq_of_perm (h : scan.records.Perm other.records) :
    (∀ entry, entry ∈ scan.duplicates.map Duplicate.entry ↔
        entry ∈ other.duplicates.map Duplicate.entry) ∧
      (∀ entry, (scan.duplicates.map Duplicate.entry).count entry =
        (other.duplicates.map Duplicate.entry).count entry) ∧
      scan.duplicates.length = other.duplicates.length ∧
      scan.index.entryCount = other.index.entryCount ∧
      scan.receivers.Perm other.receivers ∧
      ∀ report ∈ [CorpusReport.full, CorpusReport.ofDuplicates, CorpusReport.ofReceivers],
        (report scan).hasFailures = (report other).hasFailures ∧
          (report scan).exitCode = (report other).exitCode := by
  have hreported := reported_perm_of_records h
  have hreceivers := receivers_perm_of_records h
  have hlength : scan.duplicates.length = other.duplicates.length := by
    simpa using hreported.length_eq
  refine ⟨fun entry => hreported.mem_iff, fun entry => hreported.count_eq entry, hlength,
    DuplicateIndex.entryCount_eq_of_perm (h.map _), hreceivers, fun report hreport => ?_⟩
  simp only [List.mem_cons, List.not_mem_nil, or_false] at hreport
  rcases hreport with rfl | rfl | rfl
  · exact CorpusReport.verdict_eq_of_length hlength hreceivers.length_eq
  · exact CorpusReport.verdict_eq_of_length hlength rfl
  · exact CorpusReport.verdict_eq_of_length rfl hreceivers.length_eq

/-- Three files that share an entry, and two of them a receiver. -/
def crossedScan : MatchScan :=
  ⟨[⟨"a", "x;y", none, none⟩, ⟨"b", "usb:046d:c52b;x", none, none⟩,
    ⟨"c", "x;;usb:046d:c52b", none, none⟩], []⟩

def turnedScan : MatchScan := ⟨crossedScan.records.reverse, []⟩

theorem verdict_eq_of_perm_crossedScan :
    crossedScan.records.Perm turnedScan.records ∧
      crossedScan.duplicates =
        [⟨"x", "a", "b"⟩, ⟨"x", "a", "c"⟩, ⟨"usb:046d:c52b", "b", "c"⟩] ∧
      turnedScan.duplicates =
        [⟨"usb:046d:c52b", "c", "b"⟩, ⟨"x", "c", "b"⟩, ⟨"x", "c", "a"⟩] ∧
      crossedScan.index.entryCount = turnedScan.index.entryCount ∧
      crossedScan.receivers.Perm turnedScan.receivers ∧
      (CorpusReport.full crossedScan).exitCode = (CorpusReport.full turnedScan).exitCode :=
  have hperm : crossedScan.records.Perm turnedScan.records := (List.reverse_perm _).symm
  have hverdict := verdict_eq_of_perm hperm
  ⟨hperm, by decide +kernel, by decide +kernel, hverdict.2.2.2.1, hverdict.2.2.2.2.1,
    (hverdict.2.2.2.2.2 CorpusReport.full (by simp)).2⟩

end MatchScan

end DeviceCatalog
