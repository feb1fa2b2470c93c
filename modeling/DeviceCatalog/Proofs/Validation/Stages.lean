import DeviceCatalog.Proofs.Lookup
import DeviceCatalog.Proofs.Schema.Admission
import DeviceCatalog.Validation

/-!
# Stages of validation

A file is valid when its device section passes its schema, no section is out of
place for the driver, and the content of every section passes on its own.
-/
namespace DeviceCatalog.Keyfile

theorem misplaced?_eq_none_iff {driver : String} {sections : List Section} :
    misplaced? driver sections = none ↔
      ∀ sec ∈ sections, SectionShape.classify sec.name driver ≠ .unexpected := by
  simp [misplaced?]

theorem classify_of_misplaced? {driver : String} {sections : List Section} {sec : Section}
    (h : misplaced? driver sections = some sec) :
    sec ∈ sections ∧ SectionShape.classify sec.name driver = .unexpected :=
  ⟨List.mem_of_find?_eq_some h, by simpa using List.find?_some h⟩

theorem checkDriver_eq_ok_iff {driver : String} {sections : List Section} :
    checkDriver driver sections = .ok () ↔
      ∀ sec ∈ sections, SectionShape.classify sec.name driver ≠ .unexpected ∧
        checkContent driver sec = .ok () := by
  unfold checkDriver
  split
  · rename_i sec hmisplaced
    obtain ⟨hmem, hshape⟩ := classify_of_misplaced? hmisplaced
    exact ⟨fun h => absurd h (by simp), fun h => absurd hshape (h sec hmem).1⟩
  · rename_i hplaced
    rw [misplaced?_eq_none_iff] at hplaced
    rw [forM_eq_ok_iff]
    exact forall₂_congr fun sec hsec => (and_iff_right (hplaced sec hsec)).symm

theorem validate_eq_ok_iff {file : Keyfile} :
    file.validate = .ok () ↔
      ∃ device, file.section? SectionShape.deviceName = some device ∧
        SectionSchema.device.Admits device ∧
          checkDriver (driverOf device) file.sections = .ok () := by
  unfold validate
  cases file.section? SectionShape.deviceName with
  | none => simp
  | some device =>
    simp only [Option.some.injEq, exists_eq_left']
    rw [← SectionSchema.check_eq_ok_iff_admits]
    cases SectionSchema.device.check device with
    | error violation => simp
    | ok u => simp

theorem driverOf_eq {device : Section} {driver : String} (hkeys : device.keys.Nodup)
    (h : ("Driver", driver) ∈ device.entries) : driverOf device = driver := by
  rw [driverOf, (Section.get?_eq_some_iff_mem hkeys).2 h]
  rfl

theorem get?_driver_of_admits {device : Section} (h : SectionSchema.device.Admits device) :
    device.get? "Driver" = some (driverOf device) := by
  have hrule : ⟨"Driver", .text⟩ ∈ SectionSchema.device.rules := by decide
  obtain ⟨driver, hdriver, -⟩ := h.exists_value hrule (by decide)
  rw [driverOf, hdriver]
  rfl

end DeviceCatalog.Keyfile
