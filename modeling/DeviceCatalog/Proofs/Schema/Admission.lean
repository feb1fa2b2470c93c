import DeviceCatalog.Proofs.Sequencing
import DeviceCatalog.Schema.Registry
import Mathlib.Tactic.MkIffOfInductiveProp

/-!
# What a schema admits

The stages of a section check, each turned into a statement about the keys and
values of the section. A section passes when all of its keys are permitted, the
required ones are there, no exclusive pair is, and every value can be read. Each
kind of value has one parser, and its check lets through what that parser reads.
-/
namespace DeviceCatalog

namespace ValueKind

/-- The parser of the kind reads the value of `key`. -/
def Accepts (kind : ValueKind) (key value : String) : Prop :=
  match kind with
  | text => True
  | deviceMatch => ∃ ids, DeviceMatch.readAll value = .ok ids
  | deviceType => ∃ type, Vocabulary.read DeviceType value = .ok type
  | ledTypes => ∃ types, Vocabulary.readLoose LedType value = .ok types
  | dpiRange => ∃ range, DpiRange.read value = .ok range
  | dpiList => ∃ list, DpiList.read value = .ok list
  | profileType => ∃ type, Vocabulary.read ProfileType value = .ok type
  | deviceIndex => ∃ index, DeviceIndex.read value = .ok index
  | smallCount => ∃ count, SmallCount.read key value = .ok count
  | asusFlags => ∃ flags, Vocabulary.readStrict AsusFlag value = .ok flags
  | asusLedModes => ∃ modes, Vocabulary.readStrict AsusLedMode value = .ok modes
  | steelseriesFlag => ∃ flag, Vocabulary.read SteelseriesFlag value = .ok flag

/-- The parser of the kind refuses the value of `key` with a violation. -/
def Refuses (kind : ValueKind) (key value : String) (violation : Violation) : Prop :=
  match kind with
  | text => False
  | deviceMatch => DeviceMatch.readAll value = .error violation
  | deviceType => Vocabulary.read DeviceType value = .error violation
  | ledTypes => Vocabulary.readLoose LedType value = .error violation
  | dpiRange => DpiRange.read value = .error violation
  | dpiList => DpiList.read value = .error violation
  | profileType => Vocabulary.read ProfileType value = .error violation
  | deviceIndex => DeviceIndex.read value = .error violation
  | smallCount => SmallCount.read key value = .error violation
  | asusFlags => Vocabulary.readStrict AsusFlag value = .error violation
  | asusLedModes => Vocabulary.readStrict AsusLedMode value = .error violation
  | steelseriesFlag => Vocabulary.read SteelseriesFlag value = .error violation

theorem verdict_eq_error_iff {α : Type} {read : Except Violation α} {violation : Violation} :
    verdict read = .error violation ↔ read = .error violation := map_eq_error_iff

theorem check_eq_ok_iff {kind : ValueKind} {key value : String} :
    kind.check key value = .ok () ↔ kind.Accepts key value := by
  cases kind with
  | text => exact iff_of_true rfl trivial
  | _ => exact verdict_eq_ok_iff

theorem check_eq_error_iff {kind : ValueKind} {key value : String} {violation : Violation} :
    kind.check key value = .error violation ↔ kind.Refuses key value violation := by
  cases kind with
  | text => exact iff_of_false (by simp [check]) id
  | _ => exact verdict_eq_error_iff

end ValueKind

namespace SectionSchema

variable {schema : SectionSchema} {sec : Section}

theorem unknownKey?_eq_none_iff :
    schema.unknownKey? sec = none ↔ ∀ key ∈ sec.keys, ∃ rule ∈ schema.rules, rule.key = key := by
  simp only [unknownKey?, List.find?_eq_none, Bool.not_eq_true', Bool.not_eq_false, permits_iff]

theorem missingKey?_eq_none_iff :
    schema.missingKey? sec = none ↔ ∀ key ∈ schema.required, key ∈ sec.keys := by
  simp only [missingKey?, List.find?_eq_none, Bool.not_eq_true', Bool.not_eq_false,
    Section.contains_iff_mem_keys]

theorem conflict?_eq_none_iff :
    schema.conflict? sec = none ↔
      ∀ pair ∈ schema.exclusive, ¬(pair.1 ∈ sec.keys ∧ pair.2 ∈ sec.keys) := by
  simp only [conflict?, List.find?_eq_none, Bool.and_eq_true, Section.contains_iff_mem_keys]

theorem checkValue_eq_ok_iff {rule : KeyRule} :
    checkValue sec rule = .ok () ↔
      ∀ value, sec.get? rule.key = some value → rule.kind.Accepts rule.key value := by
  simp only [← ValueKind.check_eq_ok_iff, checkValue]
  cases sec.get? rule.key with
  | none => simp
  | some value => simp

@[mk_iff]
structure Admits (schema : SectionSchema) (sec : Section) : Prop where
  permitted : ∀ key ∈ sec.keys, ∃ rule ∈ schema.rules, rule.key = key
  required : ∀ key ∈ schema.required, key ∈ sec.keys
  exclusive : ∀ pair ∈ schema.exclusive, ¬(pair.1 ∈ sec.keys ∧ pair.2 ∈ sec.keys)
  values : ∀ rule ∈ schema.rules, ∀ value, sec.get? rule.key = some value →
    rule.kind.Accepts rule.key value

theorem check_eq_ok_iff_admits : schema.check sec = .ok () ↔ schema.Admits sec := by
  unfold check
  constructor
  · intro h
    split at h
    · simp at h
    · simp at h
    · simp at h
    · rename_i hunknown hmissing hconflict
      exact ⟨unknownKey?_eq_none_iff.1 hunknown, missingKey?_eq_none_iff.1 hmissing,
        conflict?_eq_none_iff.1 hconflict,
        fun rule hrule => checkValue_eq_ok_iff.1 (forM_eq_ok_iff.1 h rule hrule)⟩
  · intro h
    rw [unknownKey?_eq_none_iff.2 h.permitted, missingKey?_eq_none_iff.2 h.required,
      conflict?_eq_none_iff.2 h.exclusive]
    exact forM_eq_ok_iff.2 fun rule hrule => checkValue_eq_ok_iff.2 (h.values rule hrule)

theorem Admits.exists_value (h : schema.Admits sec) {rule : KeyRule} (hrule : rule ∈ schema.rules)
    (hrequired : rule.key ∈ schema.required) :
    ∃ value, sec.get? rule.key = some value ∧ rule.kind.Accepts rule.key value := by
  have hpresent : (sec.get? rule.key).isSome :=
    Section.contains_iff_mem_keys.2 (h.required _ hrequired)
  obtain ⟨value, hvalue⟩ := Option.isSome_iff_exists.1 hpresent
  exact ⟨value, hvalue, h.values rule hrule value hvalue⟩

end SectionSchema

end DeviceCatalog
