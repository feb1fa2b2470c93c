import DeviceCatalog.Proofs.Keyfile.Representation
import DeviceCatalog.Proofs.Validation.Classification
import DeviceCatalog.Proofs.Validation.Stages
import Mathlib.Data.List.Perm.Subperm

/-!
# Valid device files

What a file that was read from a text has to hold to be valid, said of its
entries alone: a device section, and besides it only sections that belong to
the driver that it names. A driver other than sinowealth leaves room for a
single section of that kind, and one without a schema for none.
-/
namespace DeviceCatalog

namespace SectionSchema

/-- Where the keys of a section differ, its entries tell whether it is admitted. -/
theorem admits_iff_of_nodup {schema : SectionSchema} {sec : Section} (h : sec.keys.Nodup) :
    schema.Admits sec ↔ (∀ key ∈ sec.keys, key ∈ schema.rules.map KeyRule.key) ∧
      (∀ key ∈ schema.required, key ∈ sec.keys) ∧
        (∀ pair ∈ schema.exclusive, ¬(pair.1 ∈ sec.keys ∧ pair.2 ∈ sec.keys)) ∧
          ∀ rule ∈ schema.rules, ∀ value, (rule.key, value) ∈ sec.entries →
            rule.kind.Accepts rule.key value := by
  simp only [admits_iff, Section.get?_eq_some_iff_mem h, List.mem_map]

end SectionSchema

namespace Section

/-- A device section with readable values. -/
@[mk_iff]
structure IsDevice (sec : Section) : Prop where
  name : sec.name = "Device"
  permitted : ∀ key ∈ sec.keys, key ∈ ["Name", "Driver", "DeviceMatch", "DeviceType", "LedTypes"]
  required : ∀ key ∈ ["Name", "Driver", "DeviceMatch", "DeviceType"], key ∈ sec.keys
  deviceMatch : ∀ value, ("DeviceMatch", value) ∈ sec.entries →
    ∃ ids, DeviceMatch.readAll value = .ok ids
  deviceType : ∀ value, ("DeviceType", value) ∈ sec.entries →
    ∃ type, Vocabulary.read DeviceType value = .ok type
  ledTypes : ∀ value, ("LedTypes", value) ∈ sec.entries →
    ∃ types, Vocabulary.readLoose LedType value = .ok types

/-- A section of one of the four drivers that keep everything in one section. -/
structure IsDriver (driver : String) (schema : SectionSchema) (sec : Section) : Prop where
  name : sec.name = "Driver/" ++ driver
  permitted : ∀ key ∈ sec.keys, key ∈ schema.rules.map KeyRule.key
  exclusive : ∀ pair ∈ schema.exclusive, ¬(pair.1 ∈ sec.keys ∧ pair.2 ∈ sec.keys)
  values : ∀ rule ∈ schema.rules, ∀ value, (rule.key, value) ∈ sec.entries →
    rule.kind.Accepts rule.key value

/-- A section for one firmware version of a sinowealth device. -/
structure IsFirmware (version : String) (sec : Section) : Prop where
  name : sec.name = "Driver/sinowealth/devices/" ++ version
  length : version.length = 4
  required : ∀ key ∈ ["DeviceName", "LedType"], key ∈ sec.keys
  permitted : ∀ key ∈ sec.keys,
    key ∈ ["DeviceName", "LedType", "Buttons", "Profiles", "SensorType"]

variable {sec : Section}

theorem isDevice_iff_admits (h : sec.keys.Nodup) :
    sec.IsDevice ↔ sec.name = SectionShape.deviceName ∧ SectionSchema.device.Admits sec := by
  rw [SectionSchema.admits_iff_of_nodup h, isDevice_iff]
  simp [SectionSchema.device, ValueKind.Accepts, SectionShape.deviceName]

theorem belongs_iff {driver : String} (h : sec.keys.Nodup) :
    Keyfile.Belongs driver sec ↔
      (∃ schema ∈ SectionSchema.ofDrivers, schema.name = driver ∧ sec.IsDriver driver schema) ∨
        driver = "sinowealth" ∧ ∃ version, sec.IsFirmware version := by
  constructor
  · rintro (⟨hname, hschema, hadmits⟩ | ⟨hdriver, hname, hlength, hadmits⟩)
    · obtain ⟨hmem, hdriver⟩ := SectionSchema.forDriver?_eq_some_iff.1 hschema
      obtain ⟨hpermitted, -, hexclusive, hvalues⟩ := (SectionSchema.admits_iff_of_nodup h).1 hadmits
      exact .inl ⟨_, hmem, hdriver, hname, hpermitted, hexclusive, hvalues⟩
    · obtain ⟨hpermitted, hrequired, -, -⟩ := (SectionSchema.admits_iff_of_nodup h).1 hadmits
      exact .inr ⟨hdriver, _, hname, hlength, hrequired, hpermitted⟩
  · rintro (⟨schema, hmem, hdriver, hsec⟩ | ⟨hdriver, version, hsec⟩)
    · have hrequired : ∀ key ∈ schema.required, key ∈ sec.keys := by
        simp [SectionSchema.required_of_mem_ofDrivers schema hmem]
      exact .driver hsec.name (SectionSchema.forDriver?_eq_some_iff.2 ⟨hmem, hdriver⟩)
        ((SectionSchema.admits_iff_of_nodup h).2
          ⟨hsec.permitted, hrequired, hsec.exclusive, hsec.values⟩)
    · have hvalues : ∀ rule ∈ SectionSchema.sinowealthDevice.rules, ∀ value,
          (rule.key, value) ∈ sec.entries → rule.kind.Accepts rule.key value := by
        simp [SectionSchema.sinowealthDevice, ValueKind.Accepts]
      exact .firmware hdriver hsec.name hsec.length
        ((SectionSchema.admits_iff_of_nodup h).2
          ⟨hsec.permitted, hsec.required, by simp [SectionSchema.sinowealthDevice], hvalues⟩)

end Section

namespace Keyfile

/-- A file with this device section and this driver whose other sections all have their place. -/
structure IsValid (file : Keyfile) (device : Section) (driver : String) : Prop where
  mem : device ∈ file.sections
  isDevice : device.IsDevice
  names_driver : ("Driver", driver) ∈ device.entries
  others : ∀ sec ∈ file.sections, sec ≠ device →
    (∃ schema ∈ SectionSchema.ofDrivers, schema.name = driver ∧ sec.IsDriver driver schema) ∨
      driver = "sinowealth" ∧ ∃ version, sec.IsFirmware version

theorem length_le_of_names {file : Keyfile} (names : List String)
    (hnames : file.sectionNames.Nodup) (h : ∀ sec ∈ file.sections, sec.name ∈ names) :
    file.sections.length ≤ names.length := by
  have hsubset : file.sectionNames ⊆ names := by
    intro name hname
    obtain ⟨sec, hsec, rfl⟩ := List.mem_map.1 hname
    exact h sec hsec
  have hlength := (List.subperm_of_subset hnames hsubset).length_le
  rwa [sectionNames, List.length_map] at hlength

namespace IsValid

variable {file : Keyfile} {device sec : Section} {driver : String}

theorem length_le_two (h : file.IsValid device driver) (hnames : file.sectionNames.Nodup)
    (hdriver : driver ≠ "sinowealth") : file.sections.length ≤ 2 := by
  apply length_le_of_names ["Device", "Driver/" ++ driver] hnames
  intro sec hsec
  by_cases hne : sec = device
  · simp [hne, h.isDevice.name]
  · rcases h.others sec hsec hne with ⟨schema, -, -, hschema⟩ | ⟨hsinowealth, -⟩
    · simp [hschema.name]
    · exact absurd hsinowealth hdriver

/-- A driver without a schema leaves no section but the device section. -/
theorem length_eq_one (h : file.IsValid device driver) (hnames : file.sectionNames.Nodup)
    (hdriver : driver ∉ ["asus", "hidpp10", "hidpp20", "steelseries", "sinowealth"]) :
    file.sections.length = 1 := by
  apply le_antisymm _ (List.length_pos_of_mem h.mem)
  apply length_le_of_names ["Device"] hnames
  intro sec hsec
  by_cases hne : sec = device
  · simp [hne, h.isDevice.name]
  · rcases h.others sec hsec hne with ⟨schema, hmem, rfl, -⟩ | ⟨rfl, -⟩
    · have hknown : ∀ schema ∈ SectionSchema.ofDrivers,
          schema.name ∈ ["asus", "hidpp10", "hidpp20", "steelseries", "sinowealth"] := by decide
      exact absurd (hknown schema hmem) hdriver
    · exact absurd (by decide) hdriver

/-- Sinowealth keeps nothing in a section that is named after the driver alone. -/
theorem not_mem_sectionNames (h : file.IsValid device "sinowealth") :
    "Driver/sinowealth" ∉ file.sectionNames := by
  intro hmem
  obtain ⟨sec, hsec, hname⟩ := List.mem_map.1 hmem
  by_cases hne : sec = device
  · rw [hne, h.isDevice.name] at hname
    exact absurd hname (by decide)
  · rcases h.others sec hsec hne with ⟨schema, hschema, hsinowealth, -⟩ | ⟨-, version, hversion⟩
    · have hnone := SectionSchema.forDriver?_eq_some_iff.2 ⟨hschema, hsinowealth⟩
      rw [SectionSchema.forDriver?_sinowealth] at hnone
      cases hnone
    · exact SectionShape.firmwareName_ne_driverName version (hversion.name.symm.trans hname)

end IsValid

theorem isValid_of_validate {content : String} {file : Keyfile} (h : parse content = .ok file)
    (hvalidate : file.validate = .ok ()) : ∃ device driver, file.IsValid device driver := by
  have hnames := sectionNames_nodup_of_parse h
  obtain ⟨device, hfind, hadmits, hcheck⟩ := validate_eq_ok_iff.1 hvalidate
  obtain ⟨hmem, hname⟩ := (section?_eq_some_iff_mem hnames).1 hfind
  have hkeys := keys_nodup_of_parse h hmem
  have hentry := (Section.get?_eq_some_iff_mem hkeys).1 (get?_driver_of_admits hadmits)
  refine ⟨device, _, hmem, (Section.isDevice_iff_admits hkeys).2 ⟨hname, hadmits⟩, hentry, ?_⟩
  intro sec hsec hne
  have hother : sec.name ≠ SectionShape.deviceName := fun hsame =>
    hne (eq_of_name_eq hnames hsec hmem (hsame.trans hname.symm))
  rw [← Section.belongs_iff (keys_nodup_of_parse h hsec),
    ← checkContent_eq_ok_iff_belongs hother]
  exact checkDriver_eq_ok_iff.1 hcheck sec hsec

theorem IsValid.validate {content : String} {file : Keyfile} {device : Section} {driver : String}
    (hvalid : file.IsValid device driver) (h : parse content = .ok file) :
    file.validate = .ok () := by
  have hnames := sectionNames_nodup_of_parse h
  have hkeys := keys_nodup_of_parse h hvalid.mem
  obtain ⟨hname, hadmits⟩ := (Section.isDevice_iff_admits hkeys).1 hvalid.isDevice
  refine validate_eq_ok_iff.2 ⟨device, ?_, hadmits, checkDriver_eq_ok_iff.2 fun sec hsec => ?_⟩
  · exact (section?_eq_some_iff_mem hnames).2 ⟨hvalid.mem, hname⟩
  · rw [driverOf_eq hkeys hvalid.names_driver]
    by_cases hne : sec = device
    · exact checkContent_device (hne ▸ hname)
    · have hother : sec.name ≠ SectionShape.deviceName := fun hsame =>
        hne (eq_of_name_eq hnames hsec hvalid.mem (hsame.trans hname.symm))
      rw [checkContent_eq_ok_iff_belongs hother,
        Section.belongs_iff (keys_nodup_of_parse h hsec)]
      exact hvalid.others sec hsec hne

/-- A file that was read from a text passes validation exactly when it is valid, and then its
driver bounds the sections that it has. -/
theorem validate_eq_ok_iff_isValid {content : String} {file : Keyfile}
    (h : parse content = .ok file) :
    (file.validate = .ok () ↔ ∃ device driver, file.IsValid device driver) ∧
      ∀ device driver, file.IsValid device driver →
        (driver ≠ "sinowealth" → file.sections.length ≤ 2) ∧
          (driver ∉ ["asus", "hidpp10", "hidpp20", "steelseries", "sinowealth"] →
            file.sections.length = 1) ∧
          (driver = "sinowealth" → "Driver/sinowealth" ∉ file.sectionNames) := by
  have hnames := sectionNames_nodup_of_parse h
  refine ⟨?_, fun device driver hvalid => ⟨hvalid.length_le_two hnames,
    hvalid.length_eq_one hnames, ?_⟩⟩
  · exact ⟨isValid_of_validate h, fun ⟨device, driver, hvalid⟩ => hvalid.validate h⟩
  · rintro rfl
    exact hvalid.not_mem_sectionNames

/-- A mouse with a section of its driver, in which five values are read. -/
def sampleMouse : Keyfile :=
  ⟨[⟨"Device", 1, [("Name", ""), ("Driver", "hidpp10"), ("DeviceMatch", "usb:046d:c041"),
      ("DeviceType", "mouse")]⟩,
    ⟨"Driver/hidpp10", 6, [("Leds", "4"), ("DeviceIndex", "0xff"), ("DpiRange", "200:5700@50"),
      ("ProfileType", "G500"), ("Profiles", "5")]⟩]⟩

/-- A mouse with a section for one firmware version. -/
def firmwareMouse : Keyfile :=
  ⟨[⟨"Device", 1, [("Name", ""), ("Driver", "sinowealth"), ("DeviceMatch", "usb:258a:0036"),
      ("DeviceType", "mouse")]⟩,
    ⟨"Driver/sinowealth/devices/é/x[", 6, [("LedType", ""), ("DeviceName", "O")]⟩]⟩

theorem exists_isValid_sampleMouse :
    parse (render sampleMouse.sections) = .ok sampleMouse ∧ sampleMouse.validate = .ok () ∧
      (∃ device driver, sampleMouse.IsValid device driver) ∧
      parse (render firmwareMouse.sections) = .ok firmwareMouse ∧
      firmwareMouse.validate = .ok () ∧ ∃ device driver, firmwareMouse.IsValid device driver :=
  have h : parse (render sampleMouse.sections) = .ok sampleMouse := by decide +kernel
  have hvalidate : sampleMouse.validate = .ok () := by decide +kernel
  have h' : parse (render firmwareMouse.sections) = .ok firmwareMouse := by decide +kernel
  have hvalidate' : firmwareMouse.validate = .ok () := by decide +kernel
  ⟨h, hvalidate, (validate_eq_ok_iff_isValid h).1.1 hvalidate, h', hvalidate',
    (validate_eq_ok_iff_isValid h').1.1 hvalidate'⟩

end Keyfile

end DeviceCatalog
