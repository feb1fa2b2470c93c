import DeviceCatalog.Corpus
import DeviceCatalog.Proofs.Corpus.Sightings
import DeviceCatalog.Proofs.DeviceMatch.Spelling
import Mathlib.Data.List.Nodup

/-!
# Duplicates by identity

The index of a corpus compares entries as they are written. An identity has one
spelling, so on match values that can be read the index finds what it is meant
to find: one duplicate for every identity that was declared before, with the
file of its first declaration, and a count of the different identities.
-/
namespace DeviceCatalog

/-- The identities that match values are read as, in order, each beside the file of its value.
A value that cannot be read gives none. -/
def declarations (files : List (String × String)) : List (String × DeviceMatch) :=
  files.flatMap fun (file, value) =>
    ((DeviceMatch.readAll value).toOption.getD []).map fun m => (file, m)

theorem sightings_eq_map_declarations {files : List (String × String)}
    (h : ∀ f ∈ files, ∃ ids, DeviceMatch.readAll f.2 = .ok ids) :
    sightings files = (declarations files).map (Prod.map id DeviceMatch.text) := by
  rw [sightings, declarations, List.map_flatMap]
  apply List.flatMap_congr
  intro f hf
  obtain ⟨ids, hids⟩ := h f hf
  simp [hids, DeviceMatch.readAll_eq_ok_iff.1 hids, Except.toOption]

def MatchScan.values (scan : MatchScan) : List (String × String) :=
  scan.records.map fun r => (r.file, r.deviceMatch)

namespace DuplicateIndex

/-- On values that can be read the index tells identities apart, and not their spellings. -/
theorem duplicates_addFiles_eq_recurrences {files : List (String × String)}
    (h : ∀ f ∈ files, ∃ ids, DeviceMatch.readAll f.2 = .ok ids) :
    (empty.addFiles files).duplicates = recurrences DeviceMatch.text (declarations files) ∧
      (empty.addFiles files).entryCount = ((declarations files).map Prod.snd).toFinset.card ∧
      ∀ scan : MatchScan, scan.values = files →
        (scan.duplicates = [] ↔ ((declarations files).map Prod.snd).Nodup) := by
  have hsights := sightings_eq_map_declarations h
  have hentries : (sightings files).map Prod.snd =
      ((declarations files).map Prod.snd).map DeviceMatch.text := by
    rw [hsights, List.map_map, List.map_map]
    rfl
  refine ⟨?_, ?_, ?_⟩
  · rw [duplicates_addFiles, repeats_eq_recurrences, hsights,
      recurrences_map DeviceMatch.text_injective]
  · have himage : (((declarations files).map Prod.snd).map DeviceMatch.text).toFinset =
        ((declarations files).map Prod.snd).toFinset.image DeviceMatch.text := by
      ext entry
      simp only [List.mem_toFinset, Finset.mem_image, List.mem_map]
    rw [entryCount_addFiles, hentries, himage,
      Finset.card_image_of_injective _ DeviceMatch.text_injective]
  · rintro scan rfl
    change (empty.addFiles scan.values).duplicates = [] ↔ _
    rw [duplicates_addFiles_eq_nil_iff, ← map_snd_sightings, hentries,
      List.nodup_map_iff DeviceMatch.text_injective]

/-- Two files that share one identity, which the second of them declares twice. -/
def sharedValues : List (String × String) :=
  [("a", "usb:046d:c077;bluetooth:046d:c077"), ("b", ";usb:046d:c077;usb:046d:b01a;usb:046d:c077;")]

theorem duplicates_addFiles_sharedValues :
    (∀ f ∈ sharedValues, ∃ ids, DeviceMatch.readAll f.2 = .ok ids) ∧
      (empty.addFiles sharedValues).duplicates =
        [⟨"usb:046d:c077", "a", "b"⟩, ⟨"usb:046d:c077", "a", "b"⟩] ∧
      (empty.addFiles sharedValues).entryCount = 3 ∧
      ∃ scan : MatchScan, scan.values = sharedValues ∧ scan.duplicates ≠ [] :=
  have hread : ∀ f ∈ sharedValues, ∃ ids, DeviceMatch.readAll f.2 = .ok ids := by
    have hverdict : ∀ f ∈ sharedValues,
        ValueKind.verdict (DeviceMatch.readAll f.2) = .ok () := by decide +kernel
    exact fun f hf => ValueKind.verdict_eq_ok_iff.1 (hverdict f hf)
  have hexact := duplicates_addFiles_eq_recurrences hread
  have hrepeated : ¬((declarations sharedValues).map Prod.snd).Nodup := by decide +kernel
  let scan : MatchScan := ⟨sharedValues.map fun f => ⟨f.1, f.2, none, none⟩, []⟩
  have hvalues : scan.values = sharedValues := by decide
  ⟨hread, hexact.1.trans (by decide +kernel), hexact.2.1.trans (by decide +kernel), scan, hvalues,
    fun hnil => hrepeated ((hexact.2.2 scan hvalues).1 hnil)⟩

end DuplicateIndex

end DeviceCatalog
