import DeviceCatalog.Keyfile
import Mathlib.Data.List.Forall2
import Mathlib.Data.List.Nodup
import Mathlib.Data.List.Perm.Basic

/-!
# Look-ups

A look-up takes the first row of a table with its key. Where all keys differ there is
only one such row, so finding a value is the same as having the row, in whatever order
the rows stand. The same goes for the keys of a section and for the section names of a
file: every entry and every section is found under its own name.
-/
namespace DeviceCatalog

variable {α β : Type} [BEq α] [LawfulBEq α] {rows others : List (α × β)}

theorem lookup_eq_some_iff_mem (h : (rows.map Prod.fst).Nodup) {key : α} {value : β} :
    rows.lookup key = some value ↔ (key, value) ∈ rows := by
  rw [List.lookup_eq_some_iff]
  constructor
  · rintro ⟨before, after, hrows, -⟩
    simp [hrows]
  · intro hmem
    obtain ⟨before, after, hrows⟩ := List.append_of_mem hmem
    refine ⟨before, after, hrows, fun row hrow => ?_⟩
    rw [hrows, List.map_append, List.map_cons, List.nodup_append] at h
    have hne := h.2.2 row.1 (List.mem_map_of_mem hrow) key List.mem_cons_self
    simpa using hne.symm

/-- A look-up goes by the keys and finds a value, so no other value matters. -/
theorem lookup_eq_of_forall₂ {key : α}
    (h : List.Forall₂ (fun row other => row.1 = other.1 ∧ (row.1 = key → row.2 = other.2)) rows
      others) : rows.lookup key = others.lookup key := by
  induction h with
  | nil => rfl
  | @cons row other _ _ hrow _ ih =>
    obtain ⟨k, value⟩ := row
    obtain ⟨k', value'⟩ := other
    obtain ⟨hkey, hvalue⟩ := hrow
    simp only at hkey hvalue
    subst hkey
    rw [List.lookup_cons, List.lookup_cons, ih]
    by_cases hsame : k = key
    · rw [hvalue hsame]
    · rw [beq_eq_false_iff_ne.2 (Ne.symm hsame)]

theorem lookup_eq_of_perm (hperm : rows.Perm others) (h : (rows.map Prod.fst).Nodup) (key : α) :
    rows.lookup key = others.lookup key := by
  have hothers : (others.map Prod.fst).Nodup := (hperm.map Prod.fst).nodup h
  ext value
  rw [lookup_eq_some_iff_mem h, lookup_eq_some_iff_mem hothers, hperm.mem_iff]

namespace Section

theorem get?_eq_some_iff_mem {sec : Section} (h : sec.keys.Nodup) {key value : String} :
    sec.get? key = some value ↔ (key, value) ∈ sec.entries :=
  lookup_eq_some_iff_mem h

end Section

namespace Keyfile

theorem eq_of_name_eq {file : Keyfile} (h : file.sectionNames.Nodup) {sec other : Section}
    (hsec : sec ∈ file.sections) (hother : other ∈ file.sections) (hname : sec.name = other.name) :
    sec = other :=
  List.inj_on_of_nodup_map h hsec hother hname

theorem name_of_section? {file : Keyfile} {name : String} {sec : Section}
    (h : file.section? name = some sec) : sec.name = name := by
  simpa using List.find?_some h

theorem section?_eq_some_iff_mem {file : Keyfile} (h : file.sectionNames.Nodup) {name : String}
    {sec : Section} : file.section? name = some sec ↔ sec ∈ file.sections ∧ sec.name = name := by
  constructor
  · intro hfind
    exact ⟨List.mem_of_find?_eq_some hfind, name_of_section? hfind⟩
  · rintro ⟨hsec, rfl⟩
    cases hfind : file.section? sec.name with
    | none => simpa using List.find?_eq_none.1 hfind sec hsec
    | some other =>
      rw [eq_of_name_eq h (List.mem_of_find?_eq_some hfind) hsec (name_of_section? hfind)]

end Keyfile

end DeviceCatalog
