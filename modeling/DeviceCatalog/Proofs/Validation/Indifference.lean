import DeviceCatalog.Proofs.Validation.Reordering
import DeviceCatalog.Proofs.Validation.Shape

/-!
# Values that do not matter

Validation reads the driver value and the values that the schema of their
section gives a kind other than text. Two files that have the same keys in the
same places and agree on these values have the same outcome, fault and all. So
free text, values of unknown keys, and all values in sections without a schema
may be anything.
-/
namespace DeviceCatalog

namespace Section

/-- The same keys in the same order, with the same value wherever a key is read. -/
structure Agrees (reads : String → Prop) (sec other : Section) : Prop where
  name : sec.name = other.name
  entries : List.Forall₂
    (fun entry entry' => entry.1 = entry'.1 ∧ (reads entry.1 → entry.2 = entry'.2))
    sec.entries other.entries

namespace Agrees

variable {reads : String → Prop} {sec other : Section}

theorem keys_eq (h : sec.Agrees reads other) : sec.keys = other.keys := by
  rw [keys, keys, ← List.forall₂_eq_eq_eq, List.forall₂_map_left_iff, List.forall₂_map_right_iff]
  exact h.entries.imp fun _ _ => And.left

theorem contains_eq (h : sec.Agrees reads other) (key : String) :
    sec.contains key = other.contains key := by
  rw [Bool.eq_iff_iff, contains_iff_mem_keys, contains_iff_mem_keys, h.keys_eq]

theorem get?_eq (h : sec.Agrees reads other) {key : String} (hkey : reads key) :
    sec.get? key = other.get? key := by
  apply lookup_eq_of_forall₂
  refine h.entries.imp fun entry entry' hentry => ⟨hentry.1, fun hsame => hentry.2 ?_⟩
  rwa [hsame]

theorem refl (reads : String → Prop) (sec : Section) : sec.Agrees reads sec :=
  ⟨rfl, List.forall₂_same.2 fun _ _ => ⟨rfl, fun _ => rfl⟩⟩

end Agrees

def overwrite (sec : Section) (key value : String) : Section :=
  { sec with
    entries := sec.entries.map fun entry => (entry.1, if entry.1 = key then value else entry.2) }

theorem agrees_overwrite {reads : String → Prop} {key : String} (h : ¬reads key) (sec : Section)
    (value : String) : sec.Agrees reads (sec.overwrite key value) := by
  refine ⟨rfl, ?_⟩
  rw [overwrite, List.forall₂_map_right_iff, List.forall₂_same]
  refine fun entry _ => ⟨rfl, fun hreads => (if_neg ?_).symm⟩
  rintro rfl
  exact h hreads

end Section

namespace SectionSchema

variable {schema : SectionSchema} {reads : String → Prop} {sec other : Section}

theorem checkValue_agrees (h : sec.Agrees reads other) {rule : KeyRule}
    (hrule : rule.kind ≠ .text → reads rule.key) : checkValue sec rule = checkValue other rule := by
  unfold checkValue
  by_cases hkind : rule.kind = .text
  · rw [hkind]
    cases sec.get? rule.key <;> cases other.get? rule.key <;> rfl
  · rw [h.get?_eq (hrule hkind)]

/-- A schema reads no values but those to which it gives a kind. -/
theorem check_agrees (h : sec.Agrees reads other)
    (hrules : ∀ rule ∈ schema.rules, rule.kind ≠ .text → reads rule.key) :
    schema.check sec = schema.check other := by
  have hunknown : schema.unknownKey? sec = schema.unknownKey? other := by
    rw [unknownKey?, unknownKey?, h.keys_eq]
  have hmissing : schema.missingKey? sec = schema.missingKey? other := by
    simp only [missingKey?, h.contains_eq]
  have hconflict : schema.conflict? sec = schema.conflict? other := by
    simp only [conflict?, h.contains_eq]
  have hvalues : schema.rules.forM (checkValue sec) = schema.rules.forM (checkValue other) := by
    apply forM_eq_of_forall₂
    rw [List.forall₂_same]
    exact fun rule hrule => checkValue_agrees h (hrules rule hrule)
  rw [check, check, hunknown, hmissing, hconflict, hvalues, h.name]

end SectionSchema

namespace Keyfile

/-- The schema that the sections of a name are checked by. -/
inductive Governs (file : Keyfile) : String → SectionSchema → Prop
  | device : Governs file "Device" .device
  | driver {schema : SectionSchema} (hschema : schema ∈ SectionSchema.ofDrivers)
      (hdriver : file.driver? = some schema.name) : Governs file ("Driver/" ++ schema.name) schema
  | firmware {version : String} (hdriver : file.driver? = some "sinowealth") :
      Governs file ("Driver/sinowealth/devices/" ++ version) .sinowealthDevice

/-- Validation looks at the value of this key in sections of this name. -/
inductive Reads (file : Keyfile) (name key : String) : Prop
  | driver (hname : name = "Device") (hkey : key = "Driver")
  | checked {schema : SectionSchema} {rule : KeyRule} (hschema : file.Governs name schema)
      (hrule : rule ∈ schema.rules) (hkey : rule.key = key) (hkind : rule.kind ≠ .text)

/-- The same sections in the same order, up to values that validation does not look at. -/
def Agrees (file other : Keyfile) : Prop :=
  List.Forall₂ (fun sec sec' => sec.Agrees (file.Reads sec.name) sec') file.sections other.sections

variable {file other : Keyfile} {sec sec' : Section} {driver : String}

theorem Governs.check_eq {schema : SectionSchema} (hschema : file.Governs sec.name schema)
    (h : sec.Agrees (file.Reads sec.name) sec') : schema.check sec = schema.check sec' :=
  SectionSchema.check_agrees h fun _ hrule hkind => .checked hschema hrule rfl hkind

theorem checkContent_agrees (hdriver : file.driver? = some driver)
    (h : sec.Agrees (file.Reads sec.name) sec') :
    checkContent driver sec = checkContent driver sec' := by
  obtain ⟨shape, hshape⟩ := SectionShape.exists_fits sec.name driver
  rw [checkContent, checkContent, ← h.name, hshape.classify_eq]
  cases hshape with
  | device => rfl
  | unexpected => rfl
  | unsupportedDriver => rfl
  | driver hname hschema hsame =>
    subst hsame
    exact Governs.check_eq (hname ▸ .driver hschema hdriver) h
  | firmware hsinowealth hname =>
    subst hsinowealth
    simp only [checkSinowealthDevice, ← h.name]
    rw [Governs.check_eq (hname ▸ .firmware hdriver) h]

namespace Agrees

theorem section? (h : file.Agrees other) (name : String) :
    Option.Rel (fun sec sec' => sec.Agrees (file.Reads sec.name) sec') (file.section? name)
      (other.section? name) :=
  rel_find? h fun _ _ hsec => by rw [hsec.name]

theorem driver?_eq_some_driverOf {device : Section}
    (hdevice : file.section? SectionShape.deviceName = some device)
    (hadmits : SectionSchema.device.Admits device) : file.driver? = some (driverOf device) := by
  rw [driver?, hdevice]
  exact get?_driver_of_admits hadmits

theorem checkDriver_eq (h : file.Agrees other) (hdriver : file.driver? = some driver) :
    checkDriver driver file.sections = checkDriver driver other.sections := by
  have hmisplaced : Option.Rel (fun sec sec' => sec.Agrees (file.Reads sec.name) sec')
      (misplaced? driver file.sections) (misplaced? driver other.sections) :=
    rel_find? h fun _ _ hsec => by rw [hsec.name]
  rw [checkDriver, checkDriver]
  generalize misplaced? driver file.sections = found at hmisplaced ⊢
  generalize misplaced? driver other.sections = found' at hmisplaced ⊢
  cases hmisplaced with
  | some hsec => simp only [hsec.name]
  | none => exact forM_eq_of_forall₂ (h.imp fun _ _ => checkContent_agrees hdriver)

theorem validate_eq (h : file.Agrees other) : file.validate = other.validate := by
  have hrel := h.section? SectionShape.deviceName
  rw [validate, validate]
  cases hdevice : file.section? SectionShape.deviceName with
  | none =>
    rw [hdevice] at hrel
    generalize other.section? SectionShape.deviceName = found at hrel ⊢
    cases hrel
    rfl
  | some device =>
    rw [hdevice] at hrel
    have hname : device.name = "Device" := name_of_section? hdevice
    generalize other.section? SectionShape.deviceName = found at hrel ⊢
    cases hrel with
    | @some _ device' hagrees =>
      have hcheck : SectionSchema.device.check device = SectionSchema.device.check device' :=
        Governs.check_eq (hname ▸ .device) hagrees
      have hvalue : driverOf device = driverOf device' := by
        rw [driverOf, driverOf, hagrees.get?_eq (.driver hname rfl)]
      simp only [← hcheck, ← hvalue]
      cases hadmits : SectionSchema.device.check device with
      | error violation => rfl
      | ok u =>
        exact h.checkDriver_eq
          (driver?_eq_some_driverOf hdevice (SectionSchema.check_eq_ok_iff_admits.1 hadmits))

end Agrees

/-- A key whose value is free: text, a key that the schema does not know, or any key in a section
without a schema. The driver value is text, too, but it is not free. -/
inductive Ignores (file : Keyfile) (name key : String) : Prop
  | text {schema : SectionSchema} {rule : KeyRule} (hschema : file.Governs name schema)
      (hrule : rule ∈ schema.rules) (hkey : rule.key = key) (hkind : rule.kind = .text)
      (hdriver : ¬(name = "Device" ∧ key = "Driver"))
  | unknown {schema : SectionSchema} (hschema : file.Governs name schema)
      (hkey : ∀ rule ∈ schema.rules, rule.key ≠ key)
  | ungoverned (hschema : ∀ schema, ¬file.Governs name schema)

def overwrite (file : Keyfile) (name key value : String) : Keyfile :=
  ⟨file.sections.map fun sec => if sec.name = name then sec.overwrite key value else sec⟩

section Ignored

variable {name key : String} {schema schema' : SectionSchema}

theorem Governs.exists_fits (h : file.Governs name schema) :
    ∃ shape, SectionShape.Fits name file.driver shape ∧ shape.schema? = some schema := by
  cases h with
  | device => exact ⟨_, .device rfl, rfl⟩
  | driver hschema hdriver =>
    have hvalue : file.driver = schema.name := by
      rw [Keyfile.driver, hdriver]
      rfl
    exact ⟨_, .driver (by rw [hvalue]) hschema hvalue.symm, rfl⟩
  | firmware hdriver =>
    have hvalue : file.driver = "sinowealth" := by
      rw [Keyfile.driver, hdriver]
      rfl
    exact ⟨_, .firmware hvalue rfl, rfl⟩

theorem Governs.unique (h : file.Governs name schema) (h' : file.Governs name schema') :
    schema = schema' := by
  obtain ⟨shape, hshape, hschema⟩ := h.exists_fits
  obtain ⟨shape', hshape', hschema'⟩ := h'.exists_fits
  rw [← hshape.classify_eq] at hschema
  rw [← hshape'.classify_eq] at hschema'
  exact Option.some.inj (hschema.symm.trans hschema')

theorem Governs.rule_unique (h : file.Governs name schema) {rule rule' : KeyRule}
    (hrule : rule ∈ schema.rules) (hrule' : rule' ∈ schema.rules) (hkey : rule.key = rule'.key) :
    rule = rule' := by
  have hnodup : (schema.rules.map KeyRule.key).Nodup := by
    have hdrivers : ∀ schema ∈ SectionSchema.ofDrivers, (schema.rules.map KeyRule.key).Nodup := by
      decide
    cases h with
    | device => decide
    | driver hschema => exact hdrivers schema hschema
    | firmware => decide
  exact List.inj_on_of_nodup_map hnodup hrule hrule' hkey

theorem Ignores.not_reads (h : file.Ignores name key) : ¬file.Reads name key := by
  intro hreads
  cases h with
  | @text schema rule hschema hrule hkey hkind hdriver =>
    cases hreads with
    | driver hname hkey' => exact hdriver ⟨hname, hkey'⟩
    | checked hschema' hrule' hkey' hkind' =>
      obtain rfl := hschema.unique hschema'
      obtain rfl := hschema.rule_unique hrule hrule' (hkey.trans hkey'.symm)
      exact hkind' hkind
  | @unknown schema hschema hkey =>
    cases hreads with
    | driver hname hkey' =>
      subst hname hkey'
      obtain rfl := hschema.unique .device
      exact hkey ⟨"Driver", .text⟩ (by decide) rfl
    | checked hschema' hrule' hkey' =>
      obtain rfl := hschema.unique hschema'
      exact hkey _ hrule' hkey'
  | ungoverned hschema =>
    cases hreads with
    | driver hname =>
      subst hname
      exact hschema _ .device
    | checked hschema' => exact hschema _ hschema'

theorem agrees_overwrite (h : ¬file.Reads name key) (value : String) :
    file.Agrees (file.overwrite name key value) := by
  rw [Agrees, overwrite, List.forall₂_map_right_iff, List.forall₂_same]
  intro sec _
  split
  · rename_i hname
    exact Section.agrees_overwrite (hname ▸ h) sec value
  · exact .refl _ sec

end Ignored

/-- The outcome of validation is a function of the keys and of the values that it looks at. No other
value changes it. -/
theorem validate_indifferent (file : Keyfile) :
    (∀ other, file.Agrees other → file.validate = other.validate) ∧
      ∀ name key, file.Ignores name key →
        ∀ value, file.validate = (file.overwrite name key value).validate :=
  ⟨fun _ h => h.validate_eq, fun _ _ h value => (agrees_overwrite h.not_reads value).validate_eq⟩

/-- A mouse with a quirk, which is text for its driver, and with an index that is none. -/
def quirkyMouse : Keyfile :=
  ⟨[⟨"Device", 1, [("Name", "Quirky"), ("Driver", "hidpp20"), ("DeviceMatch", "usb:046d:4086"),
      ("DeviceType", "mouse")]⟩,
    ⟨"Driver/hidpp20", 6, [("Quirk", "G305"), ("DeviceIndex", "100"), ("Leds", "two")]⟩]⟩

theorem validate_indifferent_quirkyMouse :
    quirkyMouse.Ignores "Driver/hidpp20" "Quirk" ∧
      quirkyMouse.Agrees (quirkyMouse.overwrite "Driver/hidpp20" "Leds" "") ∧
      quirkyMouse.validate = .error (.format "DeviceIndex" "100" .indexOutside) ∧
      (quirkyMouse.overwrite "Driver/hidpp20" "Quirk" ";").validate =
        .error (.format "DeviceIndex" "100" .indexOutside) ∧
      (quirkyMouse.overwrite "Driver/hidpp20" "Leds" "").validate =
        .error (.format "DeviceIndex" "100" .indexOutside) := by
  have hschema : quirkyMouse.Governs ("Driver/" ++ SectionSchema.hidpp20.name) .hidpp20 :=
    .driver (by decide) (by decide)
  have hfree (key : String) (hrule : ⟨key, .text⟩ ∈ SectionSchema.hidpp20.rules) :
      quirkyMouse.Ignores "Driver/hidpp20" key :=
    .text hschema hrule rfl rfl (by simp)
  have hquirk := hfree "Quirk" (by decide)
  have hleds := hfree "Leds" (by decide)
  have hagrees := agrees_overwrite hleds.not_reads ""
  have hvalidate : quirkyMouse.validate = .error (.format "DeviceIndex" "100" .indexOutside) := by
    decide +kernel
  have hindifferent := validate_indifferent quirkyMouse
  exact ⟨hquirk, hagrees, hvalidate, (hindifferent.2 _ _ hquirk ";").symm.trans hvalidate,
    (hindifferent.1 _ hagrees).symm.trans hvalidate⟩

end Keyfile

end DeviceCatalog
