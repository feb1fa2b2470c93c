import DeviceCatalog.Proofs.Lookup
import DeviceCatalog.Proofs.Schema.Admission

/-!
# What a schema finds fault with

A section that a schema does not admit has one fault that is reported. Unknown keys
go before missing ones, these before exclusive pairs, and values come last.
Unknown keys are taken in the order of the section, all else in that of the schema.
-/
namespace DeviceCatalog.SectionSchema

/-- A value of the section that the parser of its kind refuses. -/
def ValueFault (sec : Section) (rule : KeyRule) (violation : Violation) : Prop :=
  ∃ value, (rule.key, value) ∈ sec.entries ∧ rule.kind.Refuses rule.key value violation

/-- The fault of a section under a schema. -/
inductive Faults (schema : SectionSchema) (sec : Section) : Violation → Prop
  | unknownKey {key : String}
      (hkey : IsFirst (fun key => ¬∃ rule ∈ schema.rules, rule.key = key) sec.keys key) :
      Faults schema sec (.unknownKey sec.name key)
  | missingKey {key : String}
      (hpermitted : ∀ key ∈ sec.keys, ∃ rule ∈ schema.rules, rule.key = key)
      (hkey : IsFirst (· ∉ sec.keys) schema.required key) :
      Faults schema sec (.missingKey sec.name key)
  | conflict {first second : String}
      (hpermitted : ∀ key ∈ sec.keys, ∃ rule ∈ schema.rules, rule.key = key)
      (hrequired : ∀ key ∈ schema.required, key ∈ sec.keys)
      (hpair : IsFirst (fun pair => pair.1 ∈ sec.keys ∧ pair.2 ∈ sec.keys) schema.exclusive
        (first, second)) :
      Faults schema sec (.conflict sec.name first second)
  | value {rule : KeyRule} {violation : Violation}
      (hpermitted : ∀ key ∈ sec.keys, ∃ rule ∈ schema.rules, rule.key = key)
      (hrequired : ∀ key ∈ schema.required, key ∈ sec.keys)
      (hexclusive : ∀ pair ∈ schema.exclusive, ¬(pair.1 ∈ sec.keys ∧ pair.2 ∈ sec.keys))
      (hrule : IsFirst (fun rule => ∃ violation, ValueFault sec rule violation) schema.rules rule)
      (hvalue : ValueFault sec rule violation) :
      Faults schema sec violation

variable {schema : SectionSchema} {sec : Section}

theorem unknownKey?_eq_some_iff {key : String} :
    schema.unknownKey? sec = some key ↔
      IsFirst (fun key => ¬∃ rule ∈ schema.rules, rule.key = key) sec.keys key := by
  simp only [unknownKey?, find?_eq_some_iff_isFirst, Bool.not_eq_true', ← permits_iff,
    Bool.not_eq_true]

theorem missingKey?_eq_some_iff {key : String} :
    schema.missingKey? sec = some key ↔ IsFirst (· ∉ sec.keys) schema.required key := by
  simp only [missingKey?, find?_eq_some_iff_isFirst, Bool.not_eq_true',
    ← Section.contains_iff_mem_keys, Bool.not_eq_true]

theorem conflict?_eq_some_iff {pair : String × String} :
    schema.conflict? sec = some pair ↔
      IsFirst (fun pair => pair.1 ∈ sec.keys ∧ pair.2 ∈ sec.keys) schema.exclusive pair := by
  simp only [conflict?, find?_eq_some_iff_isFirst, Bool.and_eq_true, Section.contains_iff_mem_keys]

theorem checkValue_eq_error_iff (h : sec.keys.Nodup) {rule : KeyRule} {violation : Violation} :
    checkValue sec rule = .error violation ↔ ValueFault sec rule violation := by
  simp only [ValueFault, ← Section.get?_eq_some_iff_mem h, ← ValueKind.check_eq_error_iff,
    checkValue]
  cases sec.get? rule.key with
  | none => simp
  | some value => simp

theorem forM_checkValue_eq_error_iff (h : sec.keys.Nodup) {violation : Violation} :
    schema.rules.forM (checkValue sec) = .error violation ↔
      ∃ rule, IsFirst (fun rule => ∃ violation, ValueFault sec rule violation) schema.rules rule ∧
        ValueFault sec rule violation := by
  simp only [forM_eq_error_iff, checkValue_eq_error_iff h]

theorem Faults.check_eq (hkeys : sec.keys.Nodup) {violation : Violation}
    (h : schema.Faults sec violation) : schema.check sec = .error violation := by
  unfold check
  cases h with
  | unknownKey hkey => rw [unknownKey?_eq_some_iff.2 hkey]
  | missingKey hpermitted hkey =>
    rw [unknownKey?_eq_none_iff.2 hpermitted, missingKey?_eq_some_iff.2 hkey]
  | conflict hpermitted hrequired hpair =>
    rw [unknownKey?_eq_none_iff.2 hpermitted, missingKey?_eq_none_iff.2 hrequired,
      conflict?_eq_some_iff.2 hpair]
  | value hpermitted hrequired hexclusive hrule hvalue =>
    rw [unknownKey?_eq_none_iff.2 hpermitted, missingKey?_eq_none_iff.2 hrequired,
      conflict?_eq_none_iff.2 hexclusive]
    simp only [forM_checkValue_eq_error_iff hkeys]
    exact ⟨_, hrule, hvalue⟩

/-- The check of a section reports its fault. -/
theorem check_eq_error_iff_faults (hkeys : sec.keys.Nodup) {violation : Violation} :
    schema.check sec = .error violation ↔ schema.Faults sec violation := by
  refine ⟨fun h => ?_, fun h => h.check_eq hkeys⟩
  unfold check at h
  split at h
  · rename_i key hkey
    cases h
    exact .unknownKey (unknownKey?_eq_some_iff.1 hkey)
  · rename_i key hpermitted hkey
    cases h
    exact .missingKey (unknownKey?_eq_none_iff.1 hpermitted) (missingKey?_eq_some_iff.1 hkey)
  · rename_i first second hpermitted hrequired hpair
    cases h
    exact .conflict (unknownKey?_eq_none_iff.1 hpermitted) (missingKey?_eq_none_iff.1 hrequired)
      (conflict?_eq_some_iff.1 hpair)
  · rename_i hpermitted hrequired hexclusive
    obtain ⟨rule, hrule, hvalue⟩ := (forM_checkValue_eq_error_iff hkeys).1 h
    exact .value (unknownKey?_eq_none_iff.1 hpermitted) (missingKey?_eq_none_iff.1 hrequired)
      (conflict?_eq_none_iff.1 hexclusive) hrule hvalue

end DeviceCatalog.SectionSchema
