import DeviceCatalog.Proofs.Schema.Admission
import DeviceCatalog.Proofs.Validation.Shape

/-!
# Where a section belongs

A section other than the device section has one of two places. It is named
after the driver and the driver has a schema, or the driver is sinowealth and
the rest of its name is a firmware version. Only the names decide, so a driver
value that looks like a firmware path opens no third place.
-/
namespace DeviceCatalog

theorem checkSinowealthDevice_eq_ok_iff {sec : Section} {version : String} :
    checkSinowealthDevice sec version = .ok () ↔
      version.length = firmwareVersionLength ∧ SectionSchema.sinowealthDevice.Admits sec := by
  unfold checkSinowealthDevice
  rw [← SectionSchema.check_eq_ok_iff_admits]
  split
  · rename_i h
    simp [h]
  · rename_i h
    exact (and_iff_right (not_not.1 h)).symm

namespace Keyfile

/-- A section that has a place in the file of a driver and that passes what is checked there. -/
inductive Belongs (driver : String) (sec : Section) : Prop where
  | driver {schema : SectionSchema} (hname : sec.name = SectionShape.driverName driver)
      (hschema : SectionSchema.forDriver? driver = some schema) (hadmits : schema.Admits sec)
  | firmware {version : String} (hdriver : driver = "sinowealth")
      (hname : sec.name = SectionShape.sinowealthStem ++ version)
      (hlength : version.length = firmwareVersionLength)
      (hadmits : SectionSchema.sinowealthDevice.Admits sec)

theorem checkContent_device {driver : String} {sec : Section}
    (h : sec.name = SectionShape.deviceName) :
    SectionShape.classify sec.name driver ≠ .unexpected ∧ checkContent driver sec = .ok () := by
  simp [checkContent, SectionShape.classify, h]

/-- The two passes over the sections leave exactly those that belong to the driver. -/
theorem checkContent_eq_ok_iff_belongs {driver : String} {sec : Section}
    (h : sec.name ≠ SectionShape.deviceName) :
    (SectionShape.classify sec.name driver ≠ .unexpected ∧ checkContent driver sec = .ok ()) ↔
      Belongs driver sec := by
  constructor
  · rintro ⟨hplaced, hcheck⟩
    obtain ⟨shape, hshape⟩ := SectionShape.exists_fits sec.name driver
    rw [hshape.classify_eq] at hplaced
    rw [checkContent, hshape.classify_eq] at hcheck
    cases hshape with
    | device hname => exact absurd hname h
    | unexpected => exact absurd rfl hplaced
    | unsupportedDriver => cases hcheck
    | driver hname hschema hdriver =>
      exact .driver hname (SectionSchema.forDriver?_eq_some_iff.2 ⟨hschema, hdriver⟩)
        (SectionSchema.check_eq_ok_iff_admits.1 hcheck)
    | firmware hdriver hname =>
      obtain ⟨hlength, hadmits⟩ := checkSinowealthDevice_eq_ok_iff.1 hcheck
      exact .firmware hdriver hname hlength hadmits
  · rintro (⟨hname, hschema, hadmits⟩ | ⟨hdriver, hname, hlength, hadmits⟩)
    · obtain ⟨hmem, hdriver⟩ := SectionSchema.forDriver?_eq_some_iff.1 hschema
      rw [checkContent, (SectionShape.Fits.driver hname hmem hdriver).classify_eq]
      exact ⟨by simp, SectionSchema.check_eq_ok_iff_admits.2 hadmits⟩
    · rw [checkContent, (SectionShape.Fits.firmware hdriver hname).classify_eq]
      exact ⟨by simp, checkSinowealthDevice_eq_ok_iff.2 ⟨hlength, hadmits⟩⟩

end Keyfile

end DeviceCatalog
