import DeviceCatalog.Validation
import Mathlib.Data.List.Infix
import Mathlib.Tactic.ByContra

/-!
# The shape of a section name

What a section name means in the file of a driver, said of the two texts alone.
The cases exclude each other whatever the driver value is, so the order in which
they are tried does not show.
-/
namespace DeviceCatalog

namespace SectionSchema

/-- The schemas of the drivers that keep a section of their own. -/
def ofDrivers : List SectionSchema := [asus, hidpp10, hidpp20, steelseries]

theorem forDriver?_name_of_mem : ∀ schema ∈ ofDrivers, forDriver? schema.name = some schema := by
  decide

theorem required_of_mem_ofDrivers : ∀ schema ∈ ofDrivers, schema.required = [] := by
  decide

theorem forDriver?_eq_some_iff {driver : String} {schema : SectionSchema} :
    forDriver? driver = some schema ↔ schema ∈ ofDrivers ∧ schema.name = driver := by
  constructor
  · intro h
    exact ⟨List.mem_of_find?_eq_some h, forDriver?_name h⟩
  · rintro ⟨hmem, rfl⟩
    exact forDriver?_name_of_mem schema hmem

theorem forDriver?_eq_none_iff {driver : String} :
    forDriver? driver = none ↔ ∀ schema ∈ ofDrivers, schema.name ≠ driver := by
  simp [forDriver?, ofDrivers]

theorem forDriver?_sinowealth : forDriver? "sinowealth" = none := rfl

end SectionSchema

namespace SectionShape

/-- The names that have a place in the file of a driver. -/
def HasPlace (driver name : String) : Prop :=
  name = "Device" ∨ name = "Driver/" ++ driver ∨
    driver = "sinowealth" ∧ ∃ version, name = "Driver/sinowealth/devices/" ++ version

/-- The shape of a name. A firmware path of sinowealth is never the section of the driver. -/
inductive Fits (name driver : String) : SectionShape → Prop
  | device (hname : name = "Device") : Fits name driver .device
  | firmware {version : String} (hdriver : driver = "sinowealth")
      (hname : name = "Driver/sinowealth/devices/" ++ version) :
      Fits name driver (.sinowealthDevice version)
  | driver {schema : SectionSchema} (hname : name = "Driver/" ++ driver)
      (hschema : schema ∈ SectionSchema.ofDrivers) (hdriver : schema.name = driver) :
      Fits name driver (.driver schema)
  | unsupportedDriver (hname : name = "Driver/" ++ driver)
      (hdriver : ∀ schema ∈ SectionSchema.ofDrivers, schema.name ≠ driver) :
      Fits name driver .unsupportedDriver
  | unexpected (hname : ¬HasPlace driver name) : Fits name driver .unexpected

variable {name driver : String} {shape : SectionShape}

theorem driverName_ne_deviceName (driver : String) : "Driver/" ++ driver ≠ "Device" := by
  intro h
  have hletters := congrArg String.toList h
  simp at hletters

/-- A firmware path looks like the section of a driver whose name is a path itself. -/
theorem firmwareName_eq (version : String) :
    "Driver/sinowealth/devices/" ++ version = "Driver/" ++ ("sinowealth/devices/" ++ version) := by
  rw [← String.append_assoc]
  rfl

theorem firmwareName_ne_driverName (version : String) :
    "Driver/sinowealth/devices/" ++ version ≠ "Driver/" ++ "sinowealth" := by
  rw [firmwareName_eq, Ne, String.append_right_inj]
  intro h
  have hlength := congrArg String.length h
  have hlonger : "sinowealth".length < "sinowealth/devices/".length := by decide
  rw [String.length_append] at hlength
  omega

theorem firmwareVersion?_eq_some_iff {name driver version : String} :
    firmwareVersion? name driver = some version ↔
      driver = "sinowealth" ∧ name = sinowealthStem ++ version := by
  unfold firmwareVersion?
  split
  · rename_i hdriver
    simp only [hdriver, true_and, Option.map_eq_some_iff, List.isPrefixOf?_eq_some_iff_append_eq]
    constructor
    · rintro ⟨rest, hrest, rfl⟩
      rw [← String.toList_inj, String.toList_append, ← hrest, String.toList_ofList]
    · rintro rfl
      exact ⟨version.toList, String.toList_append.symm, String.ofList_toList⟩
  · rename_i hdriver
    simp [hdriver]

theorem firmwareVersion?_eq_none_iff :
    firmwareVersion? name driver = none ↔
      ¬(driver = "sinowealth" ∧ ∃ version, name = "Driver/sinowealth/devices/" ++ version) := by
  simp only [Option.eq_none_iff_forall_ne_some, Ne, firmwareVersion?_eq_some_iff, ← exists_and_left,
    not_exists]
  rfl

theorem classify_driverName (h : name = "Driver/" ++ driver) :
    classify name driver = match SectionSchema.forDriver? driver with
      | some schema => .driver schema
      | none => .unsupportedDriver := by
  have hversion : firmwareVersion? name driver = none := by
    rw [firmwareVersion?_eq_none_iff]
    rintro ⟨rfl, version, hname⟩
    exact firmwareName_ne_driverName version (hname.symm.trans h)
  have hdevice : name ≠ deviceName := h ▸ driverName_ne_deviceName driver
  rw [classify, if_neg hdevice, hversion]
  exact if_neg (not_not.2 h)

theorem Fits.classify_eq (h : Fits name driver shape) : classify name driver = shape := by
  cases h with
  | device hname => exact if_pos hname
  | @firmware version hdriver hname =>
    have hdevice : name ≠ deviceName := by
      rw [hname, firmwareName_eq]
      exact driverName_ne_deviceName _
    rw [classify, if_neg hdevice, firmwareVersion?_eq_some_iff.2 ⟨hdriver, hname⟩]
  | @driver schema hname hschema hdriver =>
    rw [classify_driverName hname, SectionSchema.forDriver?_eq_some_iff.2 ⟨hschema, hdriver⟩]
  | unsupportedDriver hname hdriver =>
    rw [classify_driverName hname, SectionSchema.forDriver?_eq_none_iff.2 hdriver]
  | unexpected hname =>
    rw [HasPlace, not_or, not_or] at hname
    obtain ⟨hdevice, hdriver, hfirmware⟩ := hname
    have hother : name ≠ deviceName := hdevice
    rw [classify, if_neg hother, firmwareVersion?_eq_none_iff.2 hfirmware]
    exact if_pos hdriver

theorem exists_fits (name driver : String) : ∃ shape, Fits name driver shape := by
  by_cases hplace : HasPlace driver name
  · rcases hplace with hdevice | hname | ⟨hdriver, version, hname⟩
    · exact ⟨_, .device hdevice⟩
    · by_cases hschema : ∃ schema ∈ SectionSchema.ofDrivers, schema.name = driver
      · obtain ⟨schema, hmem, hdriver⟩ := hschema
        exact ⟨_, .driver hname hmem hdriver⟩
      · exact ⟨_, .unsupportedDriver hname (by simpa using hschema)⟩
    · exact ⟨_, .firmware hdriver hname⟩
  · exact ⟨_, .unexpected hplace⟩

theorem classify_eq_iff_fits : classify name driver = shape ↔ Fits name driver shape := by
  constructor
  · rintro rfl
    obtain ⟨shape, hshape⟩ := exists_fits name driver
    rwa [hshape.classify_eq]
  · exact Fits.classify_eq

theorem classify_ne_unexpected_iff : classify name driver ≠ .unexpected ↔ HasPlace driver name := by
  rw [Ne, classify_eq_iff_fits]
  constructor
  · intro h
    by_contra hname
    exact h (.unexpected hname)
  · intro hplace hunexpected
    cases hunexpected with
    | unexpected hname => exact hname hplace

end SectionShape

end DeviceCatalog
