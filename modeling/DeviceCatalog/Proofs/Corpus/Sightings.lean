import DeviceCatalog.Corpus.Duplicates
import Mathlib.Data.Finset.Card
import Mathlib.Data.Finset.Image

/-!
# Sightings of match entries

The match values of the files of a corpus give one sequence of sightings, each
an entry beside the file that holds it. The index reports a sighting exactly
when the same entry was sighted before, and names the file of the first one.
-/
namespace DeviceCatalog

/-- The filled segments of all match values, in order, each with its file. -/
def sightings (files : List (String × String)) : List (String × String) :=
  files.flatMap fun (file, value) =>
    (Text.filledSegments ';' value).map fun entry => (file, entry)

theorem map_snd_sightings (files : List (String × String)) :
    (sightings files).map Prod.snd = files.flatMap fun f => Text.filledSegments ';' f.2 := by
  simp [sightings, List.map_flatMap, Function.comp_def]

theorem find?_sighting_eq_none_iff {seen : List (String × String)} {entry : String} :
    seen.find? (·.2 == entry) = none ↔ entry ∉ seen.map Prod.snd := by
  rw [List.find?_eq_none, List.mem_map]
  simp only [beq_iff_eq, not_exists, not_and]

theorem mem_of_find?_sighting {seen : List (String × String)} {entry : String}
    {first : String × String} (h : seen.find? (·.2 == entry) = some first) :
    entry ∈ seen.map Prod.snd := by
  by_contra hmem
  rw [find?_sighting_eq_none_iff.2 hmem] at h
  cases h

/-- The sightings of entries that were sighted before, given the earlier sightings. -/
def repeats (seen : List (String × String)) : List (String × String) → List Duplicate
  | [] => []
  | (file, entry) :: rest =>
    match seen.find? (·.2 == entry) with
    | some first => ⟨entry, first.1, file⟩ :: repeats (seen ++ [(file, entry)]) rest
    | none => repeats (seen ++ [(file, entry)]) rest

theorem repeats_eq_nil_iff {seen rest : List (String × String)} :
    repeats seen rest = [] ↔
      (rest.map Prod.snd).Nodup ∧ ∀ s ∈ rest, s.2 ∉ seen.map Prod.snd := by
  induction rest generalizing seen with
  | nil => simp [repeats]
  | cons s rest ih =>
    obtain ⟨file, entry⟩ := s
    rw [repeats]
    split
    · rename_i first hfirst
      have hmem := mem_of_find?_sighting hfirst
      exact ⟨fun h => absurd h (List.cons_ne_nil _ _),
        fun h => absurd hmem (h.2 (file, entry) List.mem_cons_self)⟩
    · rename_i hnone
      have hnew := find?_sighting_eq_none_iff.1 hnone
      rw [ih]
      simp only [List.map_append, List.map_cons, List.map_nil, List.mem_append, List.mem_singleton,
        List.nodup_cons, List.forall_mem_cons, not_or]
      constructor
      · rintro ⟨hnodup, hdisjoint⟩
        refine ⟨⟨?_, hnodup⟩, hnew, fun s hs => (hdisjoint s hs).1⟩
        rintro hmem
        obtain ⟨s, hs, rfl⟩ := List.mem_map.1 hmem
        exact (hdisjoint s hs).2 rfl
      · rintro ⟨⟨hfresh, hnodup⟩, -, hdisjoint⟩
        refine ⟨hnodup, fun s hs => ⟨hdisjoint s hs, ?_⟩⟩
        rintro rfl
        exact hfresh (List.mem_map_of_mem hs)

/-- What is reported at a position, given all that stands before it. -/
def recurrence? {α : Type} [DecidableEq α] (text : α → String) (before : List (String × α))
    (s : String × α) : Option Duplicate :=
  (before.find? fun first => first.2 = s.2).map fun first => ⟨text s.2, first.1, s.1⟩

/-- The duplicates in a sequence of things beside their files, one for every position whose thing
stands at an earlier position, too. -/
def recurrences {α : Type} [DecidableEq α] (text : α → String) (sights : List (String × α)) :
    List Duplicate :=
  sights.zipIdx.filterMap fun p => recurrence? text (sights.take p.2) p.1

theorem repeats_eq_filterMap (seen rest : List (String × String)) :
    repeats seen rest = (rest.zipIdx seen.length).filterMap fun p =>
      recurrence? id ((seen ++ rest).take p.2) p.1 := by
  induction rest generalizing seen with
  | nil => rfl
  | cons s rest ih =>
    obtain ⟨file, entry⟩ := s
    have htail := ih (seen ++ [(file, entry)])
    rw [List.append_assoc, List.singleton_append, List.length_append, List.length_singleton] at htail
    have hsame : (fun s : String × String => s.2 == entry) = fun s => decide (s.2 = entry) := by
      funext s
      exact beq_eq_decide _ _
    rw [repeats, List.zipIdx_cons, List.filterMap_cons, ← htail, List.take_left, recurrence?, hsame]
    cases seen.find? fun s => decide (s.2 = entry) with
    | none => rfl
    | some first => rfl

theorem repeats_eq_recurrences (sights : List (String × String)) :
    repeats [] sights = recurrences id sights :=
  repeats_eq_filterMap [] sights

/-- Things may be told apart by what is written for them, if no two are written alike. -/
theorem recurrences_map {α : Type} [DecidableEq α] {text : α → String}
    (h : Function.Injective text) (sights : List (String × α)) :
    recurrences id (sights.map (Prod.map id text)) = recurrences text sights := by
  unfold recurrences
  rw [List.zipIdx_map, List.filterMap_map]
  congr 1
  funext ⟨⟨file, a⟩, i⟩
  simp only [Function.comp_apply, Prod.map_apply, id_eq, recurrence?, ← List.map_take,
    List.find?_map, Option.map_map, Function.comp_def, Prod.map_fst, Prod.map_snd, h.eq_iff]

namespace DuplicateIndex

def recordAll (index : DuplicateIndex) (sights : List (String × String)) : DuplicateIndex :=
  sights.foldl (fun index s => index.record s.1 s.2) index

theorem addFiles_eq_recordAll (index : DuplicateIndex) (files : List (String × String)) :
    index.addFiles files = index.recordAll (sightings files) := by
  induction files generalizing index with
  | nil => rfl
  | cons f files ih =>
    change (index.addFile f.1 f.2).addFiles files = _
    rw [ih, recordAll, recordAll, sightings, sightings, List.flatMap_cons, List.foldl_append,
      List.foldl_map]
    rfl

/-- The table of an index holds the first file of every entry seen. -/
def Remembers (index : DuplicateIndex) (seen : List (String × String)) : Prop :=
  ∀ entry, index.firstSeen.lookup entry = (seen.find? (·.2 == entry)).map Prod.fst

theorem remembers_empty : empty.Remembers [] := fun _ => rfl

theorem Remembers.record {index : DuplicateIndex} {seen : List (String × String)}
    (h : index.Remembers seen) (file entry : String) :
    (index.record file entry).Remembers (seen ++ [(file, entry)]) := by
  intro other
  rw [List.find?_append, DuplicateIndex.record]
  split
  · rename_i first hfirst
    by_cases hsame : entry = other
    · subst hsame
      obtain ⟨s, hs, -⟩ := Option.map_eq_some_iff.1 ((h entry).symm.trans hfirst)
      simp [h entry, hs]
    · simp [h other, hsame]
  · rename_i hnone
    rw [List.lookup_append, h other, List.lookup_singleton]
    by_cases hsame : entry = other
    · subst hsame
      have hunseen : seen.find? (·.2 == entry) = none := by
        simpa using (h entry).symm.trans hnone
      simp [hunseen]
    · simp [hsame, Ne.symm hsame]

theorem Remembers.duplicates_recordAll {index : DuplicateIndex} {seen : List (String × String)}
    (h : index.Remembers seen) (sights : List (String × String)) :
    (index.recordAll sights).duplicates = index.duplicates ++ repeats seen sights := by
  induction sights generalizing index seen with
  | nil => simp [recordAll, repeats]
  | cons s sights ih =>
    obtain ⟨file, entry⟩ := s
    change ((index.record file entry).recordAll sights).duplicates = _
    rw [ih (h.record file entry), DuplicateIndex.record, h entry, repeats]
    cases seen.find? (·.2 == entry) with
    | none => rfl
    | some first => simp

theorem duplicates_addFiles (files : List (String × String)) :
    (empty.addFiles files).duplicates = repeats [] (sightings files) := by
  rw [addFiles_eq_recordAll, remembers_empty.duplicates_recordAll]
  rfl

theorem duplicates_addFiles_eq_nil_iff {files : List (String × String)} :
    (empty.addFiles files).duplicates = [] ↔
      (files.flatMap fun f => Text.filledSegments ';' f.2).Nodup := by
  rw [duplicates_addFiles, repeats_eq_nil_iff, map_snd_sightings]
  simp

section Count

variable {index : DuplicateIndex} {seen : List (String × String)}

theorem isSome_lookup_iff {entry : String} :
    (index.firstSeen.lookup entry).isSome = true ↔ entry ∈ index.firstSeen.map Prod.fst := by
  simp only [List.lookup_isSome_iff, List.mem_map, beq_iff_eq]
  exact exists_congr fun row => and_congr_right fun _ => eq_comm

theorem Remembers.mem_firstSeen_iff (h : index.Remembers seen) (entry : String) :
    entry ∈ index.firstSeen.map Prod.fst ↔ entry ∈ seen.map Prod.snd := by
  rw [← isSome_lookup_iff, h entry, Option.isSome_map, List.find?_isSome]
  simp only [beq_iff_eq, List.mem_map]

theorem Remembers.recordAll (h : index.Remembers seen) (sights : List (String × String)) :
    (index.recordAll sights).Remembers (seen ++ sights) := by
  induction sights generalizing index seen with
  | nil => rwa [List.append_nil]
  | cons s sights ih =>
    rw [List.append_cons]
    exact ih (h.record s.1 s.2)

theorem nodup_record (h : (index.firstSeen.map Prod.fst).Nodup) (file entry : String) :
    ((index.record file entry).firstSeen.map Prod.fst).Nodup := by
  unfold record
  split
  · exact h
  · rename_i hnone
    have hnew : entry ∉ index.firstSeen.map Prod.fst := by
      rw [← isSome_lookup_iff, hnone]
      exact Bool.false_ne_true
    rw [List.map_append, List.map_singleton, ← List.concat_eq_append]
    exact h.concat hnew

theorem nodup_recordAll (h : (index.firstSeen.map Prod.fst).Nodup)
    (sights : List (String × String)) :
    ((index.recordAll sights).firstSeen.map Prod.fst).Nodup := by
  induction sights generalizing index with
  | nil => exact h
  | cons s sights ih => exact ih (nodup_record h s.1 s.2)

theorem entryCount_addFiles (files : List (String × String)) :
    (empty.addFiles files).entryCount = ((sightings files).map Prod.snd).toFinset.card := by
  have hsame := (remembers_empty.recordAll (sightings files)).mem_firstSeen_iff
  have hempty : (empty.firstSeen.map Prod.fst).Nodup := List.nodup_nil
  have hnodup := nodup_recordAll hempty (sightings files)
  rw [addFiles_eq_recordAll, entryCount, ← List.length_map Prod.fst,
    ← List.toFinset_card_of_nodup hnodup]
  congr 1
  ext entry
  rw [List.mem_toFinset, List.mem_toFinset, hsame, List.nil_append]

end Count

end DuplicateIndex

end DeviceCatalog
