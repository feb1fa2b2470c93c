import DeviceCatalog.Vocabulary.Driver
import DeviceCatalog.DeviceMatch
import DeviceCatalog.Dpi.List
import DeviceCatalog.Dpi.Range
import DeviceCatalog.Keyfile.Section

/-!
# Section schemas

A schema names the keys that a section must have, all the keys that it may
have with the kind of their values, and the pairs of keys of which only one may
be present. A section is checked for unknown keys first, then for missing ones,
for conflicts, and at last for its values in the order of the schema.
-/
namespace DeviceCatalog

inductive ValueKind where
  | text
  | deviceMatch
  | deviceType
  | ledTypes
  | dpiRange
  | dpiList
  | profileType
  | deviceIndex
  | smallCount
  | asusFlags
  | asusLedModes
  | steelseriesFlag
  deriving DecidableEq, Repr

namespace ValueKind

def verdict {α : Type} (read : Except Violation α) : Except Violation Unit := read.map fun _ => ()

theorem verdict_eq_ok_iff {α : Type} {read : Except Violation α} :
    verdict read = .ok () ↔ ∃ a, read = .ok a := by
  cases read <;> simp [verdict, Except.map]

/-- Reads the value of `key` as its kind asks. Text is free. -/
def check (kind : ValueKind) (key value : String) : Except Violation Unit :=
  match kind with
  | text => .ok ()
  | deviceMatch => verdict (DeviceMatch.readAll value)
  | deviceType => verdict (Vocabulary.read DeviceType value)
  | ledTypes => verdict (Vocabulary.readLoose LedType value)
  | dpiRange => verdict (DpiRange.read value)
  | dpiList => verdict (DpiList.read value)
  | profileType => verdict (Vocabulary.read ProfileType value)
  | deviceIndex => verdict (DeviceIndex.read value)
  | smallCount => verdict (SmallCount.read key value)
  | asusFlags => verdict (Vocabulary.readStrict AsusFlag value)
  | asusLedModes => verdict (Vocabulary.readStrict AsusLedMode value)
  | steelseriesFlag => verdict (Vocabulary.read SteelseriesFlag value)

end ValueKind

structure KeyRule where
  key : String
  kind : ValueKind
  deriving DecidableEq, Repr

structure SectionSchema where
  name : String
  required : List String
  rules : List KeyRule
  exclusive : List (String × String)
  deriving DecidableEq, Repr

namespace SectionSchema

def rule? (schema : SectionSchema) (key : String) : Option KeyRule :=
  schema.rules.find? (·.key == key)

def permits (schema : SectionSchema) (key : String) : Bool := (schema.rule? key).isSome

theorem permits_iff {schema : SectionSchema} {key : String} :
    schema.permits key = true ↔ ∃ rule ∈ schema.rules, rule.key = key := by
  simp [permits, rule?]

/-- The first key of a section, in file order, that the schema does not permit. -/
def unknownKey? (schema : SectionSchema) (sec : Section) : Option String :=
  sec.keys.find? (!schema.permits ·)

/-- The first required key, in the order of the schema, that a section lacks. -/
def missingKey? (schema : SectionSchema) (sec : Section) : Option String :=
  schema.required.find? (!sec.contains ·)

/-- The first pair of exclusive keys that are both present. -/
def conflict? (schema : SectionSchema) (sec : Section) : Option (String × String) :=
  schema.exclusive.find? fun pair => sec.contains pair.1 && sec.contains pair.2

/-- Checks the value that a rule speaks of, if the section has it. -/
def checkValue (sec : Section) (rule : KeyRule) : Except Violation Unit :=
  match sec.get? rule.key with
  | some value => rule.kind.check rule.key value
  | none => .ok ()

def check (schema : SectionSchema) (sec : Section) : Except Violation Unit :=
  match schema.unknownKey? sec, schema.missingKey? sec, schema.conflict? sec with
  | some key, _, _ => .error (.unknownKey sec.name key)
  | none, some key, _ => .error (.missingKey sec.name key)
  | none, none, some (first, second) => .error (.conflict sec.name first second)
  | none, none, none => schema.rules.forM (checkValue sec)

end SectionSchema

end DeviceCatalog
