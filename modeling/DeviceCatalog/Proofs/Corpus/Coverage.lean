import DeviceCatalog.Files.Tree
import DeviceCatalog.Proofs.Corpus.Declarations

/-!
# Coverage of a scan

A file is usable when it can be loaded and its device section has a match value.
A scan makes a record of every usable file and skips every other one, both in
the order of the paths. Only usable files can be valid, so what a scan skips is
always refused by validation, and the checks of the corpus do not depend on it.
-/
namespace DeviceCatalog

namespace FileView

/-- The device section of the file at a path, if the file can be loaded and has one. -/
def deviceSection? (view : FileView) (path : RawText) : Option Section :=
  (view.loadFile path).toOption.bind fun file => file.section? SectionShape.deviceName

def usable (view : FileView) (path : RawText) : Bool :=
  (view.deviceSection? path).any fun device => device.contains "DeviceMatch"

/-- The record of a usable file has its base name and the values of its device section. -/
inductive Records (view : FileView) (path : RawText) : MatchRecord → Prop
  | intro {device : Section} {value : String}
      (hdevice : view.deviceSection? path = some device)
      (hvalue : device.get? "DeviceMatch" = some value) :
      Records view path ⟨Path.baseName path, value, device.get? "Name", device.get? "Driver"⟩

/-- A file that is not usable is skipped for the first of three reasons. -/
inductive Skips (view : FileView) (path : RawText) : SkippedFile → Prop
  | unloadable {e : CatalogError} (hload : view.loadFile path = .error e) :
      Skips view path ⟨Path.baseName path, e.message⟩
  | noDevice {file : Keyfile} (hload : view.loadFile path = .ok file)
      (hdevice : file.section? SectionShape.deviceName = none) :
      Skips view path ⟨Path.baseName path, "missing section [Device]"⟩
  | noMatch {device : Section} (hdevice : view.deviceSection? path = some device)
      (hmatch : device.get? "DeviceMatch" = none) :
      Skips view path ⟨Path.baseName path, "missing key 'DeviceMatch'"⟩

variable {view : FileView} {path : RawText}

theorem deviceSection?_eq_some_iff {device : Section} :
    view.deviceSection? path = some device ↔
      ∃ file, view.loadFile path = .ok file ∧
        file.section? SectionShape.deviceName = some device := by
  unfold deviceSection?
  cases view.loadFile path with
  | error e => simp [Except.toOption]
  | ok file => simp [Except.toOption]

theorem usable_iff :
    view.usable path = true ↔
      ∃ device value, view.deviceSection? path = some device ∧
        device.get? "DeviceMatch" = some value := by
  simp [usable, Option.any_eq_true, Section.contains, Option.isSome_iff_exists]

theorem Records.usable {record : MatchRecord} (h : view.Records path record) :
    view.usable path = true := by
  obtain ⟨hdevice, hvalue⟩ := h
  exact usable_iff.2 ⟨_, _, hdevice, hvalue⟩

theorem Skips.not_usable {skipped : SkippedFile} (h : view.Skips path skipped) :
    view.usable path = false := by
  rw [← Bool.not_eq_true, usable_iff]
  rintro ⟨device, value, hdevice, hvalue⟩
  cases h with
  | unloadable hload =>
    obtain ⟨file, hfile, -⟩ := deviceSection?_eq_some_iff.1 hdevice
    simp [hload] at hfile
  | noDevice hload hnone =>
    obtain ⟨file, hfile, hsome⟩ := deviceSection?_eq_some_iff.1 hdevice
    obtain rfl := Except.ok.inj (hload.symm.trans hfile)
    simp [hnone] at hsome
  | noMatch hdevice' hmatch =>
    obtain rfl := Option.some.inj (hdevice'.symm.trans hdevice)
    simp [hmatch] at hvalue

theorem exists_device_of_validateFile (h : view.validateFile path = .ok ()) :
    ∃ device, view.deviceSection? path = some device ∧ SectionSchema.device.Admits device := by
  obtain ⟨-, file, hload, hvalid⟩ := validateFile_eq_ok_iff.1 h
  obtain ⟨device, hdevice, hadmits, -⟩ := Keyfile.validate_eq_ok_iff.1 hvalid
  exact ⟨device, deviceSection?_eq_some_iff.2 ⟨file, hload, hdevice⟩, hadmits⟩

theorem usable_of_validateFile (h : view.validateFile path = .ok ()) :
    view.usable path = true := by
  obtain ⟨device, hdevice, hadmits⟩ := exists_device_of_validateFile h
  have hpresent := Section.contains_iff_mem_keys.2 (hadmits.required "DeviceMatch" (by decide))
  obtain ⟨value, hvalue⟩ := Option.isSome_iff_exists.1 hpresent
  exact usable_iff.2 ⟨device, value, hdevice, hvalue⟩

theorem exists_error_of_not_usable (h : view.usable path = false) :
    ∃ e, view.validateFile path = .error e := by
  cases hvalid : view.validateFile path with
  | error e => exact ⟨e, rfl⟩
  | ok u => simp [usable_of_validateFile hvalid] at h

theorem Records.complete {record : MatchRecord} (hrecord : view.Records path record)
    (hvalid : view.validateFile path = .ok ()) :
    record.name?.isSome ∧ record.driver?.isSome ∧ ∃ ms, MatchScan.Reads record ms := by
  obtain ⟨device, hdevice, hadmits⟩ := exists_device_of_validateFile hvalid
  obtain ⟨hdevice', hvalue⟩ := hrecord
  obtain rfl := Option.some.inj (hdevice.symm.trans hdevice')
  have hpresent : ∀ key ∈ SectionSchema.device.required, (device.get? key).isSome := fun key hkey =>
    Section.contains_iff_mem_keys.2 (hadmits.required key hkey)
  have hrule : (⟨"DeviceMatch", .deviceMatch⟩ : KeyRule) ∈ SectionSchema.device.rules := by decide
  exact ⟨hpresent "Name" (by decide), hpresent "Driver" (by decide),
    hadmits.values _ hrule _ hvalue⟩

end FileView

namespace MatchScan

variable {view : FileView} {path : RawText} {paths : List RawText}

theorem examine_cases (view : FileView) (path : RawText) :
    (∃ record, examine view path = .ok record ∧ view.Records path record) ∨
      ∃ reason, examine view path = .error reason ∧
        view.Skips path ⟨Path.baseName path, reason⟩ := by
  unfold examine
  cases hload : view.loadFile path with
  | error e => exact .inr ⟨_, rfl, .unloadable hload⟩
  | ok file =>
    simp only [recordOf]
    cases hdevice : file.section? SectionShape.deviceName with
    | none => exact .inr ⟨_, rfl, .noDevice hload hdevice⟩
    | some device =>
      have hsection := FileView.deviceSection?_eq_some_iff.2 ⟨file, hload, hdevice⟩
      cases hvalue : device.get? "DeviceMatch" with
      | none => exact .inr ⟨_, by simp only [hvalue], .noMatch hsection hvalue⟩
      | some value => exact .inl ⟨_, by simp only [hvalue], .intro hsection hvalue⟩

/-- The records are those of the usable files and the other files are skipped, in order. -/
structure Covers (scan : MatchScan) (view : FileView) (paths : List RawText) : Prop where
  records : List.Forall₂ view.Records (paths.filter view.usable) scan.records
  skipped : List.Forall₂ view.Skips (paths.filter (!view.usable ·)) scan.skipped

theorem covers_collect (view : FileView) (paths : List RawText) :
    (collect view paths).Covers view paths := by
  induction paths with
  | nil => exact ⟨.nil, .nil⟩
  | cons path rest ih =>
    rcases examine_cases view path with ⟨record, hexamine, hrecord⟩ | ⟨reason, hexamine, hskips⟩
    · have husable := hrecord.usable
      simp only [collect, hexamine]
      constructor
      · rw [List.filter_cons_of_pos husable]
        exact .cons hrecord ih.records
      · rw [List.filter_cons_of_neg (by simp [husable])]
        exact ih.skipped
    · have hunusable := hskips.not_usable
      simp only [collect, hexamine]
      constructor
      · rw [List.filter_cons_of_neg (by simp [hunusable])]
        exact ih.records
      · rw [List.filter_cons_of_pos (by simp [hunusable])]
        exact .cons hskips ih.skipped

/-- Without the paths that are skipped, a scan has the same records. -/
theorem collect_filter_usable (view : FileView) (paths : List RawText) :
    collect view (paths.filter view.usable) = { collect view paths with skipped := [] } := by
  induction paths with
  | nil => rfl
  | cons path rest ih =>
    rcases examine_cases view path with ⟨record, hexamine, hrecord⟩ | ⟨reason, hexamine, hskips⟩
    · rw [List.filter_cons_of_pos hrecord.usable]
      simp only [collect, hexamine, ih]
    · rw [List.filter_cons_of_neg (by simp [hskips.not_usable])]
      simp only [collect, hexamine, ih]

theorem exists_record_of_validateFile {view : FileView} {path : RawText} {paths : List RawText}
    (hpath : path ∈ paths) (hvalid : view.validateFile path = .ok ()) :
    ∃ record ∈ (collect view paths).records, view.Records path record ∧
      record.name?.isSome ∧ record.driver?.isSome ∧ ∃ ms, Reads record ms := by
  have husable := List.mem_filter.2 ⟨hpath, FileView.usable_of_validateFile hvalid⟩
  have hrecords := (covers_collect view paths).records
  obtain ⟨record, hmem, hrecord⟩ := exists_mem_of_forall₂ hrecords husable
  exact ⟨record, hmem, hrecord, hrecord.complete hvalid⟩

/-- No file escapes both validation and the scan, and the reports on a scan do not depend on
the files that it skips. -/
theorem collect_accounts_for_paths (view : FileView) (paths : List RawText) :
    (collect view paths).Covers view paths ∧
      (collect view paths).records.length + (collect view paths).skipped.length = paths.length ∧
      (∀ path ∈ paths, view.usable path = false → ∃ e, view.validateFile path = .error e) ∧
      (∀ path ∈ paths, view.validateFile path = .ok () →
        ∃ record ∈ (collect view paths).records, view.Records path record ∧
          record.name?.isSome ∧ record.driver?.isSome ∧ ∃ ms, Reads record ms) ∧
      (collect view (paths.filter view.usable)).records = (collect view paths).records ∧
      CorpusReport.full (collect view (paths.filter view.usable)) =
        { CorpusReport.full (collect view paths) with skipped := [] } ∧
      (CorpusReport.full (collect view (paths.filter view.usable))).hasFailures =
        (CorpusReport.full (collect view paths)).hasFailures := by
  refine ⟨covers_collect view paths, collect_length view paths,
    fun path _ => FileView.exists_error_of_not_usable,
    fun path => exists_record_of_validateFile, ?_⟩
  rw [collect_filter_usable]
  exact ⟨rfl, rfl, rfl⟩

/-- A mouse beside a malformed file, one without a device section and one without identities. -/
def sparseTree : FileTree :=
  .build ["db"]
    [("db/a.device",
        "[Device]\nName=A\nDriver=hidpp20\nDeviceMatch=usb:046d:1234\nDeviceType=mouse\n".toUTF8),
      ("db/b.device", "[Device]\nName=A\nName=B\n".toUTF8),
      ("db/c.device", "[Driver/hidpp20]\nDeviceIndex=1\n".toUTF8),
      ("db/d.device", "[Device]\nName=No match\n".toUTF8)]

def sparsePaths : List RawText := ["db/a.device", "db/b.device", "db/c.device", "db/d.device"]

theorem collect_accounts_for_sparsePaths :
    sparseTree.view.validateFile "db/a.device" = .ok () ∧
      (∀ path ∈ sparsePaths.tail, sparseTree.view.usable path = false) ∧
        (∃ record ∈ (collect sparseTree.view sparsePaths).records,
          sparseTree.view.Records "db/a.device" record ∧ record.name?.isSome ∧
            record.driver?.isSome ∧ ∃ ms, Reads record ms) ∧
          ∀ path ∈ sparsePaths.tail, ∃ e, sparseTree.view.validateFile path = .error e :=
  have hvalid : sparseTree.view.validateFile "db/a.device" = .ok () := by decide +kernel
  have hskipped : ∀ path ∈ sparsePaths.tail, sparseTree.view.usable path = false := by
    decide +kernel
  have haccounts := collect_accounts_for_paths sparseTree.view sparsePaths
  ⟨hvalid, hskipped, haccounts.2.2.2.1 _ List.mem_cons_self hvalid,
    fun path hpath => haccounts.2.2.1 path (List.mem_cons_of_mem _ hpath) (hskipped path hpath)⟩

end MatchScan

end DeviceCatalog
