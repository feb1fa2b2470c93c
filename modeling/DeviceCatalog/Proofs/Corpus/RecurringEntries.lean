import DeviceCatalog.Proofs.Corpus.Sightings

/-!
# Recurring entries

Recording a corpus is compared with its sequence of sightings. Every sighting
is either the first of its entry, which opens a row of the table, or it is
reported as a duplicate of that first one. So an entry that was sighted `n + 1`
times is reported `n` times, and a report is never taken back.
-/
namespace DeviceCatalog

/-- The first sighting of an entry is not reported, and each later one is. -/
theorem count_entry_repeats (seen rest : List (String × String)) (entry : String) :
    ((repeats seen rest).map Duplicate.entry).count entry =
      if entry ∈ seen.map Prod.snd then (rest.map Prod.snd).count entry
      else (rest.map Prod.snd).count entry - 1 := by
  induction rest generalizing seen with
  | nil => simp [repeats]
  | cons s rest ih =>
    obtain ⟨file, other⟩ := s
    have hseen : entry ∈ (seen ++ [(file, other)]).map Prod.snd ↔
        entry ∈ seen.map Prod.snd ∨ entry = other := by simp
    have htail := ih (seen ++ [(file, other)])
    simp only [hseen] at htail
    rw [repeats, List.map_cons, List.count_cons]
    split
    · rename_i first hfirst
      have hother := mem_of_find?_sighting hfirst
      rw [List.map_cons, List.count_cons, htail]
      by_cases hsame : other = entry
      · subst hsame
        simp only [hother, true_or, if_true]
      · simp only [Ne.symm hsame, or_false, beq_iff_eq, hsame, if_false, Nat.add_zero]
    · rename_i hnone
      have hother := find?_sighting_eq_none_iff.1 hnone
      rw [htail]
      by_cases hsame : other = entry
      · subst hsame
        simp [hother]
      · simp only [Ne.symm hsame, or_false, beq_iff_eq, hsame, if_false, Nat.add_zero]

namespace DuplicateIndex

theorem isDuplicate_iff_mem {index : DuplicateIndex} {entry : String} :
    index.isDuplicate entry = true ↔ entry ∈ index.duplicates.map Duplicate.entry := by
  simp [isDuplicate]

theorem entryCount_add_duplicates_recordAll (index : DuplicateIndex)
    (sights : List (String × String)) :
    (index.recordAll sights).entryCount + (index.recordAll sights).duplicates.length =
      index.entryCount + index.duplicates.length + sights.length := by
  induction sights generalizing index with
  | nil => rfl
  | cons s sights ih =>
    have hfirst := record_count index s.1 s.2
    have hrest := ih (index.record s.1 s.2)
    rw [List.length_cons]
    change ((index.record s.1 s.2).recordAll sights).entryCount +
      ((index.record s.1 s.2).recordAll sights).duplicates.length = _
    omega

theorem duplicates_isPrefix_record (index : DuplicateIndex) (file entry : String) :
    index.duplicates <+: (index.record file entry).duplicates := by
  unfold record
  split
  · exact List.prefix_append _ _
  · exact List.prefix_rfl

theorem duplicates_isPrefix_recordAll (index : DuplicateIndex) (sights : List (String × String)) :
    index.duplicates <+: (index.recordAll sights).duplicates := by
  induction sights generalizing index with
  | nil => exact List.prefix_rfl
  | cons s sights ih =>
    exact (duplicates_isPrefix_record index s.1 s.2).trans (ih (index.record s.1 s.2))

theorem addFiles_append (index : DuplicateIndex) (files more : List (String × String)) :
    index.addFiles (files ++ more) = (index.addFiles files).addFiles more :=
  List.foldl_append

theorem count_entry_addFiles (files : List (String × String)) (entry : String) :
    ((empty.addFiles files).duplicates.map Duplicate.entry).count entry =
      ((sightings files).map Prod.snd).count entry - 1 := by
  rw [duplicates_addFiles, count_entry_repeats]
  rfl

/-- What is recorded of any files, against the sequence of their sightings. The report has the
recurrences of entries, the table counts the different entries, and both together account for every
sighting. Recording more files keeps what was reported. -/
theorem addFiles_accounts_for_sightings (files : List (String × String)) :
    (empty.addFiles files).duplicates = recurrences id (sightings files) ∧
      (empty.addFiles files).entryCount = ((sightings files).map Prod.snd).toFinset.card ∧
      (empty.addFiles files).entryCount + (empty.addFiles files).duplicates.length =
        (sightings files).length ∧
      (∀ entry, (empty.addFiles files).isDuplicate entry = true ↔
        2 ≤ ((sightings files).map Prod.snd).count entry) ∧
      ∀ more,
        (empty.addFiles files).duplicates <+: (empty.addFiles (files ++ more)).duplicates := by
  refine ⟨?_, entryCount_addFiles files, ?_, fun entry => ?_, fun more => ?_⟩
  · rw [duplicates_addFiles, repeats_eq_recurrences]
  · rw [addFiles_eq_recordAll, entryCount_add_duplicates_recordAll]
    simp [empty, entryCount]
  · rw [isDuplicate_iff_mem, ← List.count_pos_iff, count_entry_addFiles]
    omega
  · rw [addFiles_append, addFiles_eq_recordAll _ more]
    exact duplicates_isPrefix_recordAll _ _

example :
    (empty.addFiles [("a", "x;y;"), ("b", ";x"), ("a", "x;;x")]).duplicates =
      [⟨"x", "a", "b"⟩, ⟨"x", "a", "a"⟩, ⟨"x", "a", "a"⟩] := by
  decide +kernel

end DuplicateIndex

end DeviceCatalog
