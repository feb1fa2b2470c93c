import DeviceCatalog.Keyfile
import DeviceCatalog.Proofs.Text.Trimmed
import Mathlib.Tactic.MkIffOfInductiveProp

/-!
# Well-formed sections

The names, keys and values that a keyfile can hold. A name ends at its bracket
and a key at its delimiter. A value may run over several lines, of which only
the first may look like a comment and the last must not be empty.
-/
namespace DeviceCatalog

@[mk_iff]
structure IsSectionName (name : String) : Prop where
  ne_empty : name ≠ ""
  trimmed : Text.IsTrimmed name
  no_bracket : ']' ∉ name.toList
  no_break : '\n' ∉ name.toList

@[mk_iff]
structure IsKey (key : String) : Prop where
  ne_empty : key ≠ ""
  trimmed : Text.IsTrimmed key
  no_delimiter : '=' ∉ key.toList ∧ ':' ∉ key.toList
  no_break : '\n' ∉ key.toList
  start : ∀ c ∈ key.toList.head?, c ≠ '[' ∧ c ≠ '#' ∧ c ≠ ';'

@[mk_iff]
structure IsValue (value : String) : Prop where
  trimmed : ∀ segment ∈ Text.segments '\n' value, Text.IsTrimmed segment
  no_comment : ∀ segment ∈ (Text.segments '\n' value).tail,
    ∀ c ∈ segment.toList.head?, c ≠ '#' ∧ c ≠ ';'
  /-- The last segment is not empty, unless it is the only one. -/
  last_ne_empty : (Text.segments '\n' value).tail.getLast? ≠ some ""

instance : DecidablePred IsSectionName := fun name => decidable_of_iff' _ (isSectionName_iff name)

instance : DecidablePred IsKey := fun key => decidable_of_iff' _ (isKey_iff key)

instance : DecidablePred IsValue := fun value => decidable_of_iff' _ (isValue_iff value)

namespace Section

@[mk_iff]
structure WellFormed (sec : Section) : Prop where
  name : IsSectionName sec.name
  keys_nodup : sec.keys.Nodup
  key : ∀ key ∈ sec.keys, IsKey key
  value : ∀ entry ∈ sec.entries, IsValue entry.2

instance : DecidablePred WellFormed := fun sec => decidable_of_iff' _ (wellFormed_iff sec)

end Section

namespace Keyfile

@[mk_iff]
structure WellFormed (sections : List Section) : Prop where
  names_nodup : (sections.map Section.name).Nodup
  each : ∀ sec ∈ sections, sec.WellFormed

instance : DecidablePred WellFormed := fun sections =>
  decidable_of_iff' _ (wellFormed_iff sections)

end Keyfile

namespace Line

theorem isComment_eq_false_iff {text : String} :
    isComment text = false ↔ ∀ c ∈ text.toList.head?, c ≠ '#' ∧ c ≠ ';' := by
  unfold isComment
  cases text.toList with
  | nil => simp
  | cons c cs => simp

theorem isDelimiter_eq_true_iff {c : Char} : isDelimiter c = true ↔ c = '=' ∨ c = ':' := by
  simp [isDelimiter]

theorem forall_isDelimiter_eq_false_iff {cs : List Char} :
    (∀ c ∈ cs, isDelimiter c = false) ↔ '=' ∉ cs ∧ ':' ∉ cs := by
  constructor
  · intro h
    exact ⟨fun hmem => Bool.noConfusion (h _ hmem), fun hmem => Bool.noConfusion (h _ hmem)⟩
  · rintro ⟨hequals, hcolon⟩ c hc
    rw [Bool.eq_false_iff, Ne, isDelimiter_eq_true_iff]
    rintro (rfl | rfl)
    · exact hequals hc
    · exact hcolon hc

end Line

end DeviceCatalog
