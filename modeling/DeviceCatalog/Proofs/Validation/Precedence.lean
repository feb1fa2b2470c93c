import DeviceCatalog.Proofs.Schema.Faults
import DeviceCatalog.Proofs.Validation.Shape
import DeviceCatalog.Proofs.Validation.Stages

/-!
# Which fault of a file is reported

A file may have many faults, and one of them is reported. The device section is
looked at first, then come sections out of place, and the contents of the other
sections come last. Within a stage the first faulty section of the file counts.
What a later stage would find does not matter.
-/
namespace DeviceCatalog.Keyfile

open SectionShape (HasPlace)

/-- The fault in the contents of a section that has a place in the file of a driver. -/
inductive ContentFault (driver : String) (sec : Section) : Violation → Prop
  | unsupportedDriver (hname : sec.name = "Driver/" ++ driver)
      (hdriver : ∀ schema ∈ SectionSchema.ofDrivers, schema.name ≠ driver) :
      ContentFault driver sec (.unsupportedDriver driver)
  | driver {schema : SectionSchema} {violation : Violation} (hname : sec.name = "Driver/" ++ driver)
      (hschema : schema ∈ SectionSchema.ofDrivers) (hdriver : schema.name = driver)
      (hfault : schema.Faults sec violation) : ContentFault driver sec violation
  | firmwareVersion {version : String} (hdriver : driver = "sinowealth")
      (hname : sec.name = "Driver/sinowealth/devices/" ++ version) (hlength : version.length ≠ 4) :
      ContentFault driver sec (.format "firmware version" version (.suffixLength sec.name))
  | firmware {version : String} {violation : Violation} (hdriver : driver = "sinowealth")
      (hname : sec.name = "Driver/sinowealth/devices/" ++ version) (hlength : version.length = 4)
      (hfault : SectionSchema.sinowealthDevice.Faults sec violation) :
      ContentFault driver sec violation

/-- The file has a device section without a fault, and this is the driver that it names. -/
def Names (file : Keyfile) (driver : String) : Prop :=
  ∃ device ∈ file.sections, device.name = "Device" ∧ SectionSchema.device.Admits device ∧
    ("Driver", driver) ∈ device.entries

/-- The fault of a file that is reported. -/
inductive Blames (file : Keyfile) : Violation → Prop
  | missingSection (hname : "Device" ∉ file.sectionNames) : Blames file (.missingSection "Device")
  | device {device : Section} {violation : Violation} (hmem : device ∈ file.sections)
      (hname : device.name = "Device") (hfault : SectionSchema.device.Faults device violation) :
      Blames file violation
  | unexpectedSection {driver : String} {sec : Section} (hdriver : file.Names driver)
      (hsec : IsFirst (fun sec => ¬HasPlace driver sec.name) file.sections sec) :
      Blames file (.unexpectedSection sec.name driver)
  | content {driver : String} {sec : Section} {violation : Violation} (hdriver : file.Names driver)
      (hplaced : ∀ sec ∈ file.sections, HasPlace driver sec.name)
      (hsec : IsFirst (fun sec => ∃ violation, ContentFault driver sec violation) file.sections sec)
      (hfault : ContentFault driver sec violation) : Blames file violation

variable {file : Keyfile} {sec : Section} {driver : String} {violation : Violation}

theorem ContentFault.checkContent_eq (hkeys : sec.keys.Nodup)
    (h : ContentFault driver sec violation) : checkContent driver sec = .error violation := by
  unfold checkContent
  cases h with
  | unsupportedDriver hname hdriver =>
    rw [(SectionShape.Fits.unsupportedDriver hname hdriver).classify_eq]
  | driver hname hschema hdriver hfault =>
    rw [(SectionShape.Fits.driver hname hschema hdriver).classify_eq]
    exact hfault.check_eq hkeys
  | firmwareVersion hdriver hname hlength =>
    rw [(SectionShape.Fits.firmware hdriver hname).classify_eq]
    exact if_pos hlength
  | firmware hdriver hname hlength hfault =>
    rw [(SectionShape.Fits.firmware hdriver hname).classify_eq]
    exact (if_neg (not_not.2 hlength)).trans (hfault.check_eq hkeys)

theorem checkContent_eq_error_iff (hkeys : sec.keys.Nodup) :
    checkContent driver sec = .error violation ↔ ContentFault driver sec violation := by
  refine ⟨fun h => ?_, fun h => h.checkContent_eq hkeys⟩
  obtain ⟨shape, hshape⟩ := SectionShape.exists_fits sec.name driver
  rw [checkContent, hshape.classify_eq] at h
  cases hshape with
  | device => cases h
  | unexpected => cases h
  | unsupportedDriver hname hdriver =>
    cases h
    exact .unsupportedDriver hname hdriver
  | driver hname hschema hdriver =>
    exact .driver hname hschema hdriver ((SectionSchema.check_eq_error_iff_faults hkeys).1 h)
  | firmware hdriver hname =>
    simp only [checkSinowealthDevice] at h
    split at h
    · rename_i hlength
      cases h
      exact .firmwareVersion hdriver hname hlength
    · rename_i hlength
      exact .firmware hdriver hname (not_not.1 hlength)
        ((SectionSchema.check_eq_error_iff_faults hkeys).1 h)

theorem misplaced?_eq_some_iff {sections : List Section} :
    misplaced? driver sections = some sec ↔
      IsFirst (fun sec => ¬HasPlace driver sec.name) sections sec := by
  simp only [misplaced?, find?_eq_some_iff_isFirst, decide_eq_true_eq,
    ← SectionShape.classify_ne_unexpected_iff, not_not]

theorem misplaced?_eq_none_iff_hasPlace {sections : List Section} :
    misplaced? driver sections = none ↔ ∀ sec ∈ sections, HasPlace driver sec.name := by
  simp only [misplaced?_eq_none_iff, SectionShape.classify_ne_unexpected_iff]

theorem forM_checkContent_eq_error_iff {sections : List Section}
    (hkeys : ∀ sec ∈ sections, sec.keys.Nodup) :
    sections.forM (checkContent driver) = .error violation ↔
      ∃ sec, IsFirst (fun sec => ∃ violation, ContentFault driver sec violation) sections sec ∧
        ContentFault driver sec violation := by
  have hfirst (sec : Section) :
      IsFirst (fun sec => ∃ violation, checkContent driver sec = .error violation) sections sec ↔
        IsFirst (fun sec => ∃ violation, ContentFault driver sec violation) sections sec :=
    isFirst_congr fun sec hsec => exists_congr fun _ => checkContent_eq_error_iff (hkeys sec hsec)
  simp only [forM_eq_error_iff, hfirst]
  exact exists_congr fun sec => and_congr_right fun h => checkContent_eq_error_iff (hkeys sec h.mem)

theorem section?_device_eq_none_iff :
    file.section? SectionShape.deviceName = none ↔ "Device" ∉ file.sectionNames := by
  rw [← hasSection_iff_mem, hasSection, Bool.not_eq_true, Option.isSome_eq_false_iff,
    Option.isNone_iff_eq_none]
  rfl

theorem section?_device_eq_some_iff {device : Section} (hnames : file.sectionNames.Nodup) :
    file.section? SectionShape.deviceName = some device ↔
      device ∈ file.sections ∧ device.name = "Device" := by
  exact section?_eq_some_iff_mem hnames

theorem Names.validate_eq (hnames : file.sectionNames.Nodup)
    (hkeys : ∀ sec ∈ file.sections, sec.keys.Nodup) (h : file.Names driver) :
    file.validate = checkDriver driver file.sections := by
  obtain ⟨device, hmem, hname, hadmits, hdriver⟩ := h
  rw [validate, (section?_device_eq_some_iff hnames).2 ⟨hmem, hname⟩]
  simp only [SectionSchema.check_eq_ok_iff_admits.2 hadmits,
    driverOf_eq (hkeys device hmem) hdriver]

theorem Blames.validate_eq (hnames : file.sectionNames.Nodup)
    (hkeys : ∀ sec ∈ file.sections, sec.keys.Nodup) (h : file.Blames violation) :
    file.validate = .error violation := by
  cases h with
  | missingSection hname =>
    rw [validate, section?_device_eq_none_iff.2 hname]
    rfl
  | device hmem hname hfault =>
    rw [validate, (section?_device_eq_some_iff hnames).2 ⟨hmem, hname⟩]
    simp only [hfault.check_eq (hkeys _ hmem)]
  | unexpectedSection hdriver hsec =>
    rw [hdriver.validate_eq hnames hkeys, checkDriver, misplaced?_eq_some_iff.2 hsec]
  | content hdriver hplaced hsec hfault =>
    rw [hdriver.validate_eq hnames hkeys, checkDriver,
      misplaced?_eq_none_iff_hasPlace.2 hplaced]
    exact (forM_checkContent_eq_error_iff hkeys).2 ⟨_, hsec, hfault⟩

theorem names_driverOf {device : Section} (hkeys : device.keys.Nodup)
    (hmem : device ∈ file.sections) (hname : device.name = "Device")
    (hadmits : SectionSchema.device.Admits device) : file.Names (driverOf device) :=
  ⟨device, hmem, hname, hadmits,
    (Section.get?_eq_some_iff_mem hkeys).1 (get?_driver_of_admits hadmits)⟩

theorem blames_of_validate (hnames : file.sectionNames.Nodup)
    (hkeys : ∀ sec ∈ file.sections, sec.keys.Nodup) (h : file.validate = .error violation) :
    file.Blames violation := by
  unfold validate at h
  cases hfind : file.section? SectionShape.deviceName with
  | none =>
    rw [hfind] at h
    cases h
    exact .missingSection (section?_device_eq_none_iff.1 hfind)
  | some device =>
    obtain ⟨hmem, hname⟩ := (section?_device_eq_some_iff hnames).1 hfind
    rw [hfind] at h
    cases hcheck : SectionSchema.device.check device with
    | error fault =>
      simp only [hcheck] at h
      cases h
      exact .device hmem hname
        ((SectionSchema.check_eq_error_iff_faults (hkeys device hmem)).1 hcheck)
    | ok u =>
      have hdriver := names_driverOf (hkeys device hmem) hmem hname
        (SectionSchema.check_eq_ok_iff_admits.1 hcheck)
      simp only [hcheck, checkDriver] at h
      cases hplaced : misplaced? (driverOf device) file.sections with
      | some sec =>
        rw [hplaced] at h
        cases h
        exact .unexpectedSection hdriver (misplaced?_eq_some_iff.1 hplaced)
      | none =>
        rw [hplaced] at h
        obtain ⟨sec, hsec, hfault⟩ := (forM_checkContent_eq_error_iff hkeys).1 h
        exact .content hdriver (misplaced?_eq_none_iff_hasPlace.1 hplaced) hsec hfault

/-- Validation fails with the fault that goes before all others of the file. -/
theorem validate_eq_error_iff_blames (hnames : file.sectionNames.Nodup)
    (hkeys : ∀ sec ∈ file.sections, sec.keys.Nodup) :
    file.validate = .error violation ↔ file.Blames violation :=
  ⟨blames_of_validate hnames hkeys, fun h => h.validate_eq hnames hkeys⟩

/-- A mouse whose driver section has an unknown key, a conflict and a bad value, and behind it two
sections that no hidpp10 mouse has. -/
def crowdedMouse : Keyfile :=
  ⟨[⟨"Driver/hidpp10", 1, [("DpiList", "800;400"), ("Dpi", "800"), ("DpiRange", "0:2000@1")]⟩,
    ⟨"Device", 5, [("Name", "Crowded"), ("Driver", "hidpp10"), ("DeviceMatch", "usb:046d:c041"),
      ("DeviceType", "mouse")]⟩,
    ⟨"Driver/hidpp20", 10, [("Quirk", "G305")]⟩, ⟨"Driver", 12, []⟩]⟩

/-- A mouse whose driver section has two bad values. The list comes first in the schema. -/
def fallingMouse : Keyfile :=
  ⟨[⟨"Driver/hidpp10", 1, [("DeviceIndex", "0"), ("DpiList", "800;400")]⟩,
    ⟨"Device", 4, [("Name", "Falling"), ("Driver", "hidpp10"), ("DeviceMatch", "usb:046d:c041"),
      ("DeviceType", "mouse")]⟩]⟩

/-- A mouse with two bad values in its device section, and a section that no mouse has. -/
def unknownMouse : Keyfile :=
  ⟨[⟨"Driver", 1, []⟩,
    ⟨"Device", 2, [("DeviceType", "rat"), ("Name", "Unknown"), ("Driver", "hidpp10"),
      ("DeviceMatch", "046d:c041")]⟩]⟩

theorem blames_crowdedMouse :
    crowdedMouse.validate = .error (.unexpectedSection "Driver/hidpp20" "hidpp10") ∧
      crowdedMouse.Blames (.unexpectedSection "Driver/hidpp20" "hidpp10") ∧
      fallingMouse.validate = .error (.order "800;400" 800 400) ∧
      fallingMouse.Blames (.order "800;400" 800 400) ∧
      unknownMouse.validate =
        .error (.format "DeviceMatch" "046d:c041" (.partCount "046d:c041")) ∧
      unknownMouse.Blames (.format "DeviceMatch" "046d:c041" (.partCount "046d:c041")) := by
  have hcrowded : crowdedMouse.validate =
      .error (.unexpectedSection "Driver/hidpp20" "hidpp10") := by decide +kernel
  have hfalling : fallingMouse.validate = .error (.order "800;400" 800 400) := by decide +kernel
  have hunknown : unknownMouse.validate =
      .error (.format "DeviceMatch" "046d:c041" (.partCount "046d:c041")) := by decide +kernel
  exact ⟨hcrowded, (validate_eq_error_iff_blames (by decide) (by decide)).1 hcrowded, hfalling,
    (validate_eq_error_iff_blames (by decide) (by decide)).1 hfalling, hunknown,
    (validate_eq_error_iff_blames (by decide) (by decide)).1 hunknown⟩

end DeviceCatalog.Keyfile
