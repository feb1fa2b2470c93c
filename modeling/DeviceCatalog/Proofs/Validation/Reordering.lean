import DeviceCatalog.Proofs.Lookup
import DeviceCatalog.Proofs.Validation.Stages
import Mathlib.Data.List.Perm.Basic

/-!
# The order of sections and keys

A look-up finds the same value whatever order the sections of a file and the
entries of a section stand in, as long as no name is used twice. Order shows
only where a check reports the first of several faults: an unknown key, or a
section out of place. A driver other than sinowealth has one section with
contents, so no other fault depends on which section comes first.
-/
namespace DeviceCatalog

theorem exists_eq_some_of_none_iff {α β : Type} {o : Option α} {o' : Option β} {a : α}
    (h : o = none ↔ o' = none) (ho : o = some a) : ∃ b, o' = some b := by
  apply Option.ne_none_iff_exists'.1
  rw [Ne, ← h, ho]
  exact Option.some_ne_none a

namespace Section

/-- The same entries in another order. The line of the header plays no part. -/
structure Reorders (sec other : Section) : Prop where
  name : sec.name = other.name
  entries : sec.entries.Perm other.entries

namespace Reorders

variable {sec other : Section}

theorem keys_perm (h : sec.Reorders other) : sec.keys.Perm other.keys := h.entries.map Prod.fst

theorem contains_eq (h : sec.Reorders other) (key : String) :
    sec.contains key = other.contains key := by
  rw [Bool.eq_iff_iff, contains_iff_mem_keys, contains_iff_mem_keys, h.keys_perm.mem_iff]

theorem get?_eq (h : sec.Reorders other) (hkeys : sec.keys.Nodup) (key : String) :
    sec.get? key = other.get? key :=
  lookup_eq_of_perm h.entries hkeys key

end Reorders

end Section

namespace SectionSchema

variable {schema : SectionSchema} {sec other : Section}

theorem missingKey?_reorder (h : sec.Reorders other) :
    schema.missingKey? sec = schema.missingKey? other := by
  simp only [missingKey?, h.contains_eq]

theorem conflict?_reorder (h : sec.Reorders other) :
    schema.conflict? sec = schema.conflict? other := by
  simp only [conflict?, h.contains_eq]

theorem checkValue_reorder (h : sec.Reorders other) (hkeys : sec.keys.Nodup) :
    checkValue sec = checkValue other := by
  funext rule
  simp only [checkValue, h.get?_eq hkeys]

theorem unknownKey?_reorder_eq_none_iff (h : sec.Reorders other) :
    schema.unknownKey? sec = none ↔ schema.unknownKey? other = none := by
  simp only [unknownKey?_eq_none_iff, h.keys_perm.mem_iff]

theorem check_of_unknownKey? {key : String} (h : schema.unknownKey? sec = some key) :
    schema.check sec = .error (.unknownKey sec.name key) := by
  simp [check, h]

/-- Only the search for unknown keys goes by the order of the file. -/
theorem check_reorder (h : sec.Reorders other) (hkeys : sec.keys.Nodup)
    (hknown : schema.unknownKey? sec = none) : schema.check sec = schema.check other := by
  simp only [check, hknown, (unknownKey?_reorder_eq_none_iff h).1 hknown, missingKey?_reorder h,
    conflict?_reorder h, checkValue_reorder h hkeys, h.name]

def IsUnknown (schema : SectionSchema) (sec : Section) (key : String) : Prop :=
  key ∈ sec.keys ∧ schema.permits key = false

theorem isUnknown_of_unknownKey? {key : String} (h : schema.unknownKey? sec = some key) :
    schema.IsUnknown sec key :=
  ⟨List.mem_of_find?_eq_some h, by simpa using List.find?_some h⟩

end SectionSchema

def SectionShape.schema? : SectionShape → Option SectionSchema
  | device => some .device
  | driver schema => some schema
  | sinowealthDevice _ => some .sinowealthDevice
  | unsupportedDriver | unexpected => none

namespace Keyfile

/-- The sections of a file in another order, each of them with its entries in another order. -/
def Reorders (file other : Keyfile) : Prop :=
  ∃ sections, file.sections.Perm sections ∧
    List.Forall₂ Section.Reorders sections other.sections

def driver? (file : Keyfile) : Option String :=
  (file.section? SectionShape.deviceName).bind (·.get? "Driver")

def driver (file : Keyfile) : String := file.driver?.getD ""

theorem driver_ne_of_driver?_ne {file : Keyfile} {driver : String} (h : file.driver? ≠ some driver)
    (hne : driver ≠ "") : file.driver ≠ driver := by
  unfold Keyfile.driver
  cases hdriver : file.driver? with
  | none => exact hne.symm
  | some value =>
    intro hvalue
    exact h (hdriver.trans (congrArg some hvalue))

def shapeOf (file : Keyfile) (sec : Section) : SectionShape :=
  SectionShape.classify sec.name file.driver

/-- The same fault of a file, up to which of its unknown keys or misplaced sections is named. -/
inductive SameFault (file : Keyfile) : Violation → Violation → Prop
  | same (violation : Violation) : SameFault file violation violation
  | unknownKey {sec : Section} {schema : SectionSchema} {key other : String}
      (hsec : sec ∈ file.sections) (hschema : (file.shapeOf sec).schema? = some schema)
      (hkey : schema.IsUnknown sec key) (hother : schema.IsUnknown sec other) :
      SameFault file (.unknownKey sec.name key) (.unknownKey sec.name other)
  | unexpectedSection {sec other : Section} (hsec : sec ∈ file.sections)
      (hother : other ∈ file.sections) (hshape : file.shapeOf sec = .unexpected)
      (hshape' : file.shapeOf other = .unexpected) :
      SameFault file (.unexpectedSection sec.name file.driver)
        (.unexpectedSection other.name file.driver)

theorem SameFault.kind_eq {file : Keyfile} {violation other : Violation}
    (h : file.SameFault violation other) : violation.kind = other.kind := by
  cases h <;> rfl

/-- Two checks of a file that both pass, or both fail over the same fault. -/
inductive SameOutcome (file : Keyfile) : Except Violation Unit → Except Violation Unit → Prop
  | passed : SameOutcome file (.ok ()) (.ok ())
  | failed {violation other : Violation} (h : file.SameFault violation other) :
      SameOutcome file (.error violation) (.error other)

namespace SameOutcome

variable {file : Keyfile} {outcome other : Except Violation Unit}

theorem refl (outcome : Except Violation Unit) : file.SameOutcome outcome outcome := by
  cases outcome with
  | ok u => exact .passed
  | error violation => exact .failed (.same violation)

theorem ok_iff (h : file.SameOutcome outcome other) : outcome = .ok () ↔ other = .ok () := by
  cases h <;> simp

theorem exists_sameFault (h : file.SameOutcome outcome other) (violation : Violation)
    (hviolation : outcome = .error violation) :
    ∃ violation', other = .error violation' ∧ file.SameFault violation violation' ∧
      violation'.kind = violation.kind := by
  cases h with
  | passed => simp at hviolation
  | failed hfault =>
    cases hviolation
    exact ⟨_, rfl, hfault, hfault.kind_eq.symm⟩

end SameOutcome

section Contents

variable {file : Keyfile} {sec other : Section}

theorem sameOutcome_check {schema : SectionSchema} (h : sec.Reorders other)
    (hkeys : sec.keys.Nodup) (hsec : sec ∈ file.sections)
    (hschema : (file.shapeOf sec).schema? = some schema) :
    file.SameOutcome (schema.check sec) (schema.check other) := by
  cases hkey : schema.unknownKey? sec with
  | none =>
    rw [SectionSchema.check_reorder h hkeys hkey]
    exact .refl _
  | some key =>
    obtain ⟨key', hkey'⟩ :=
      exists_eq_some_of_none_iff (SectionSchema.unknownKey?_reorder_eq_none_iff h) hkey
    rw [SectionSchema.check_of_unknownKey? hkey, SectionSchema.check_of_unknownKey? hkey',
      ← h.name]
    have hother := SectionSchema.isUnknown_of_unknownKey? hkey'
    exact .failed (.unknownKey hsec hschema (SectionSchema.isUnknown_of_unknownKey? hkey)
      ⟨h.keys_perm.mem_iff.2 hother.1, hother.2⟩)

theorem sameOutcome_checkContent (h : sec.Reorders other) (hkeys : sec.keys.Nodup)
    (hsec : sec ∈ file.sections) :
    file.SameOutcome (checkContent file.driver sec) (checkContent file.driver other) := by
  have hshape : SectionShape.classify sec.name file.driver = file.shapeOf sec := rfl
  unfold checkContent
  rw [← h.name, hshape]
  cases hcase : file.shapeOf sec with
  | device => exact .refl _
  | unexpected => exact .refl _
  | unsupportedDriver => exact .refl _
  | driver schema => exact sameOutcome_check h hkeys hsec (by rw [hcase]; rfl)
  | sinowealthDevice version =>
    simp only [checkSinowealthDevice, ← h.name]
    split
    · exact .refl _
    · exact sameOutcome_check h hkeys hsec (by rw [hcase]; rfl)

/-- With a driver other than sinowealth, contents are only looked at in the driver's section. -/
theorem checkContent_eq_ok_of_name_ne {driver : String} (hdriver : driver ≠ "sinowealth")
    (hplaced : SectionShape.classify sec.name driver ≠ .unexpected)
    (hname : sec.name ≠ SectionShape.driverName driver) : checkContent driver sec = .ok () := by
  simp only [SectionShape.classify, SectionShape.firmwareVersion?, hdriver, if_false, if_pos hname]
    at hplaced
  have hdevice : sec.name = SectionShape.deviceName := by
    by_contra hother
    exact hplaced (if_neg hother)
  simp [checkContent, SectionShape.classify, hdevice]

/-- With every section in place, the one section of the driver decides about the contents. -/
theorem forM_checkContent_eq {driver : String} (hnames : file.sectionNames.Nodup)
    (hdriver : driver ≠ "sinowealth") (hplaced : misplaced? driver file.sections = none) :
    file.sections.forM (checkContent driver) =
      match file.section? (SectionShape.driverName driver) with
      | some sec => checkContent driver sec
      | none => .ok () := by
  rw [misplaced?_eq_none_iff] at hplaced
  cases hown : file.section? (SectionShape.driverName driver) with
  | none =>
    refine forM_eq_ok_iff.2 fun sec hsec => ?_
    apply checkContent_eq_ok_of_name_ne hdriver (hplaced sec hsec)
    simpa using List.find?_eq_none.1 hown sec hsec
  | some own =>
    obtain ⟨hmem, hname⟩ := (section?_eq_some_iff_mem hnames).1 hown
    refine forM_eq_of_forall_ne hmem fun sec hsec hne => ?_
    apply checkContent_eq_ok_of_name_ne hdriver (hplaced sec hsec)
    intro hsame
    exact hne (eq_of_name_eq hnames hsec hmem (hsame.trans hname.symm))

end Contents

namespace Reorders

variable {file other : Keyfile}

theorem exists_after (h : file.Reorders other) {sec : Section} (hsec : sec ∈ file.sections) :
    ∃ sec' ∈ other.sections, sec.Reorders sec' := by
  obtain ⟨sections, hperm, hsections⟩ := h
  exact exists_mem_of_forall₂ hsections (hperm.mem_iff.1 hsec)

theorem exists_before (h : file.Reorders other) {sec' : Section} (hsec' : sec' ∈ other.sections) :
    ∃ sec ∈ file.sections, sec.Reorders sec' := by
  obtain ⟨sections, hperm, hsections⟩ := h
  obtain ⟨sec, hsec, hreorders⟩ := exists_mem_of_forall₂ hsections.flip hsec'
  exact ⟨sec, hperm.mem_iff.2 hsec, hreorders⟩

theorem sectionNames_perm (h : file.Reorders other) :
    file.sectionNames.Perm other.sectionNames := by
  obtain ⟨sections, hperm, hsections⟩ := h
  have hnames : sections.map Section.name = other.sections.map Section.name := by
    rw [← List.forall₂_eq_eq_eq, List.forall₂_map_left_iff, List.forall₂_map_right_iff]
    exact hsections.imp fun _ _ hsec => hsec.name
  rw [sectionNames, sectionNames, ← hnames]
  exact hperm.map Section.name

/-- What a reordering of a section does not touch holds of all sections of both files or of none. -/
theorem forall_iff {P : Section → Prop} (h : file.Reorders other)
    (hP : ∀ sec ∈ file.sections, ∀ sec', sec.Reorders sec' → (P sec ↔ P sec')) :
    (∀ sec ∈ file.sections, P sec) ↔ ∀ sec' ∈ other.sections, P sec' := by
  constructor
  · intro hall sec' hsec'
    obtain ⟨sec, hsec, hreorders⟩ := h.exists_before hsec'
    exact (hP sec hsec sec' hreorders).1 (hall sec hsec)
  · intro hall sec hsec
    obtain ⟨sec', hsec', hreorders⟩ := h.exists_after hsec
    exact (hP sec hsec sec' hreorders).2 (hall sec' hsec')

theorem section?_eq_none_iff (h : file.Reorders other) {name : String} :
    file.section? name = none ↔ other.section? name = none := by
  simp only [section?, List.find?_eq_none]
  exact h.forall_iff fun sec _ sec' hreorders => by rw [hreorders.name]

theorem exists_section? (h : file.Reorders other) (hnames : file.sectionNames.Nodup)
    {name : String} {sec : Section} (hsec : file.section? name = some sec) :
    ∃ sec', other.section? name = some sec' ∧ sec.Reorders sec' := by
  obtain ⟨hmem, hname⟩ := (section?_eq_some_iff_mem hnames).1 hsec
  obtain ⟨sec', hsec', hreorders⟩ := h.exists_after hmem
  exact ⟨sec', (section?_eq_some_iff_mem (h.sectionNames_perm.nodup hnames)).2
    ⟨hsec', hreorders.name.symm.trans hname⟩, hreorders⟩

theorem misplaced?_eq_none_iff (h : file.Reorders other) {driver : String} :
    misplaced? driver file.sections = none ↔ misplaced? driver other.sections = none := by
  rw [Keyfile.misplaced?_eq_none_iff, Keyfile.misplaced?_eq_none_iff]
  exact h.forall_iff fun sec _ sec' hreorders => by rw [hreorders.name]

theorem checkDriver_eq_ok_iff (h : file.Reorders other)
    (hkeys : ∀ sec ∈ file.sections, sec.keys.Nodup) :
    checkDriver file.driver file.sections = .ok () ↔
      checkDriver file.driver other.sections = .ok () := by
  rw [Keyfile.checkDriver_eq_ok_iff, Keyfile.checkDriver_eq_ok_iff]
  refine h.forall_iff fun sec hsec sec' hreorders => ?_
  rw [(sameOutcome_checkContent hreorders (hkeys sec hsec) hsec).ok_iff, hreorders.name]

/-- A section out of place is found in both files or in neither. -/
theorem sameOutcome_of_misplaced (h : file.Reorders other) {sec : Section}
    (hsec : misplaced? file.driver file.sections = some sec) :
    file.SameOutcome (checkDriver file.driver file.sections)
      (checkDriver file.driver other.sections) := by
  obtain ⟨sec', hsec'⟩ := exists_eq_some_of_none_iff h.misplaced?_eq_none_iff hsec
  obtain ⟨hmem, hshape⟩ := classify_of_misplaced? hsec
  obtain ⟨hmem', hshape'⟩ := classify_of_misplaced? hsec'
  obtain ⟨source, hsource, hreorders⟩ := h.exists_before hmem'
  rw [← hreorders.name] at hshape'
  simp only [checkDriver, hsec, hsec', ← hreorders.name]
  exact .failed (.unexpectedSection hmem hsource hshape hshape')

theorem sameOutcome_checkDriver (h : file.Reorders other) (hnames : file.sectionNames.Nodup)
    (hkeys : ∀ sec ∈ file.sections, sec.keys.Nodup) (hdriver : file.driver ≠ "sinowealth") :
    file.SameOutcome (checkDriver file.driver file.sections)
      (checkDriver file.driver other.sections) := by
  cases hplaced : misplaced? file.driver file.sections with
  | some sec => exact h.sameOutcome_of_misplaced hplaced
  | none =>
    have hplaced' := h.misplaced?_eq_none_iff.1 hplaced
    simp only [checkDriver, hplaced, hplaced']
    rw [forM_checkContent_eq hnames hdriver hplaced,
      forM_checkContent_eq (h.sectionNames_perm.nodup hnames) hdriver hplaced']
    cases hown : file.section? (SectionShape.driverName file.driver) with
    | none =>
      rw [h.section?_eq_none_iff.1 hown]
      exact .passed
    | some own =>
      obtain ⟨own', hown', hreorders⟩ := h.exists_section? hnames hown
      rw [hown']
      have hmem := ((section?_eq_some_iff_mem hnames).1 hown).1
      exact sameOutcome_checkContent hreorders (hkeys own hmem) hmem

/-- Up to the check of the driver sections, the outcome is the same whatever the driver is. -/
theorem validate_cases (h : file.Reorders other) (hnames : file.sectionNames.Nodup)
    (hkeys : ∀ sec ∈ file.sections, sec.keys.Nodup) :
    file.SameOutcome file.validate other.validate ∨
      file.validate = checkDriver file.driver file.sections ∧
        other.validate = checkDriver file.driver other.sections := by
  cases hdevice : file.section? SectionShape.deviceName with
  | none =>
    left
    rw [validate, validate, hdevice, h.section?_eq_none_iff.1 hdevice]
    exact .refl _
  | some device =>
    obtain ⟨device', hdevice', hreorders⟩ := h.exists_section? hnames hdevice
    obtain ⟨hmem, hname⟩ := (section?_eq_some_iff_mem hnames).1 hdevice
    have hdriver : driverOf device = file.driver := by
      rw [driver, driver?, hdevice, driverOf]
      rfl
    have hdriver' : driverOf device' = file.driver := by
      rw [← hdriver, driverOf, driverOf, hreorders.get?_eq (hkeys device hmem)]
    have hschema : (file.shapeOf device).schema? = some .device := by
      rw [shapeOf, hname, SectionShape.classify, if_pos rfl]
      rfl
    have hcheck := sameOutcome_check hreorders (hkeys device hmem) hmem hschema
    simp only [validate, hdevice, hdevice', hdriver, hdriver']
    generalize SectionSchema.device.check device = outcome at hcheck ⊢
    generalize SectionSchema.device.check device' = outcome' at hcheck ⊢
    cases hcheck with
    | passed => exact .inr ⟨rfl, rfl⟩
    | failed hfault => exact .inl (.failed hfault)

end Reorders

/-- Sections and keys that change places leave the verdict on a file as it is. Unless the driver is
sinowealth the fault stays as well, up to which unknown key or misplaced section stands for it. -/
theorem validate_reorder {file other : Keyfile} (hnames : file.sectionNames.Nodup)
    (hkeys : ∀ sec ∈ file.sections, sec.keys.Nodup) (h : file.Reorders other) :
    (file.validate = .ok () ↔ other.validate = .ok ()) ∧
      (file.driver? ≠ some "sinowealth" → ∀ violation, file.validate = .error violation →
        ∃ violation', other.validate = .error violation' ∧
          file.SameFault violation violation' ∧ violation'.kind = violation.kind) := by
  rcases h.validate_cases hnames hkeys with hsame | ⟨hfile, hother⟩
  · exact ⟨hsame.ok_iff, fun _ => hsame.exists_sameFault⟩
  · rw [hfile, hother]
    refine ⟨h.checkDriver_eq_ok_iff hkeys, fun hdriver => ?_⟩
    have hne : file.driver ≠ "sinowealth" := driver_ne_of_driver?_ne hdriver (by decide)
    exact (h.sameOutcome_checkDriver hnames hkeys hne).exists_sameFault

def reversed (file : Keyfile) : Keyfile :=
  ⟨file.sections.reverse.map fun sec => ⟨sec.name, sec.line, sec.entries.reverse⟩⟩

theorem reorders_reversed (file : Keyfile) : file.Reorders file.reversed := by
  refine ⟨file.sections.reverse, (List.reverse_perm _).symm, ?_⟩
  rw [reversed, List.forall₂_map_right_iff, List.forall₂_same]
  exact fun sec _ => ⟨rfl, (List.reverse_perm _).symm⟩

/-- A mouse with two keys that its driver does not know. -/
def oddMouse : Keyfile :=
  ⟨[⟨"Device", 1, [("Name", "Odd"), ("Driver", "hidpp20"), ("DeviceMatch", "usb:046d:c08b"),
      ("DeviceType", "mouse")]⟩,
    ⟨"Driver/hidpp20", 6, [("Dpi", "800"), ("Leds", "2"), ("Rate", "1000")]⟩]⟩

theorem validate_reorder_oddMouse :
    oddMouse.validate = .error (.unknownKey "Driver/hidpp20" "Dpi") ∧
      oddMouse.reversed.validate = .error (.unknownKey "Driver/hidpp20" "Rate") ∧
        oddMouse.SameFault (.unknownKey "Driver/hidpp20" "Dpi")
          (.unknownKey "Driver/hidpp20" "Rate") := by
  have hfirst : oddMouse.validate = .error (.unknownKey "Driver/hidpp20" "Dpi") := by
    decide +kernel
  have hlast : oddMouse.reversed.validate = .error (.unknownKey "Driver/hidpp20" "Rate") := by
    decide +kernel
  obtain ⟨violation, hviolation, hsame, -⟩ := (validate_reorder (by decide) (by decide)
    (reorders_reversed oddMouse)).2 (by decide) _ hfirst
  rw [hlast] at hviolation
  cases hviolation
  exact ⟨hfirst, hlast, hsame⟩

/-- A mouse with faults in the sections of two firmware versions. -/
def twoFirmwares : Keyfile :=
  ⟨[⟨"Device", 1, [("Name", "Two"), ("Driver", "sinowealth"), ("DeviceMatch", "usb:258a:0036"),
      ("DeviceType", "mouse")]⟩,
    ⟨"Driver/sinowealth/devices/3105", 6, [("DeviceName", "A"), ("LedType", "RGB"), ("Dpi", "1")]⟩,
    ⟨"Driver/sinowealth/devices/3106", 10, [("DeviceName", "B")]⟩]⟩

example : twoFirmwares.validate =
      .error (.unknownKey "Driver/sinowealth/devices/3105" "Dpi") ∧
    twoFirmwares.reversed.validate =
      .error (.missingKey "Driver/sinowealth/devices/3106" "LedType") := by
  decide +kernel

end Keyfile

end DeviceCatalog
