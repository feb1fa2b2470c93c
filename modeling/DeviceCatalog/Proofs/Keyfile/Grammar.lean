import DeviceCatalog.Keyfile.Line
import DeviceCatalog.Proofs.Sequencing
import Mathlib.Data.List.TakeWhile

/-!
# The grammar of a line

What a line has to look like to be read as a given header or entry. A header is
cut at its first closing bracket and an entry at its first delimiter, and each
part is stripped of the blanks around it.
-/
namespace DeviceCatalog.Line

/-- The text before the first character that fails a test, that character, and the text behind. -/
theorem cut_iff {p : Char → Bool} {cs before after : List Char} {d : Char} :
    (cs.takeWhile p = before ∧ cs.dropWhile p = d :: after) ↔
      cs = before ++ d :: after ∧ (∀ c ∈ before, p c = true) ∧ p d = false := by
  constructor
  · rintro ⟨rfl, hdrop⟩
    refine ⟨?_, fun c hc => List.all_eq_true.1 List.all_takeWhile c hc, ?_⟩
    · rw [← hdrop, List.takeWhile_append_dropWhile]
    · have hhead := List.head?_dropWhile_not p cs
      rw [hdrop] at hhead
      simpa using hhead
  · rintro ⟨rfl, hbefore, hd⟩
    rw [List.takeWhile_append_of_pos hbefore, List.dropWhile_append_of_pos hbefore]
    simp [hd]

theorem cut_header {inner : List Char} (h : ']' ∉ inner) (tail : List Char) :
    (inner ++ ']' :: tail).takeWhile (· != ']') = inner ∧
      (inner ++ ']' :: tail).dropWhile (· != ']') = ']' :: tail := by
  refine cut_iff.2 ⟨rfl, fun c hc => ?_, bne_self_eq_false ']'⟩
  simpa using ne_of_mem_of_not_mem hc h

theorem cut_entry {before : List Char} {delimiter : Char}
    (hbefore : ∀ c ∈ before, isDelimiter c = false) (hdelimiter : isDelimiter delimiter = true)
    (after : List Char) :
    (before ++ delimiter :: after).takeWhile (!isDelimiter ·) = before ∧
      (before ++ delimiter :: after).dropWhile (!isDelimiter ·) = delimiter :: after :=
  cut_iff.2 ⟨rfl, by simpa using hbefore, by simpa using hdelimiter⟩

theorem word_eq_ok_iff {cs : List Char} {name : String} :
    word cs = .ok name ↔ Text.strip cs ≠ [] ∧ String.ofList (Text.strip cs) = name := by
  unfold word
  by_cases h : Text.strip cs = [] <;> simp [h]

theorem readHeader_eq_ok_iff {text name : String} :
    readHeader text = .ok name ↔
      ∃ inner tail, text.toList = '[' :: (inner ++ ']' :: tail) ∧ ']' ∉ inner ∧
        (∀ c ∈ tail, isSpacing c = true) ∧ Text.strip inner ≠ [] ∧
          String.ofList (Text.strip inner) = name := by
  unfold readHeader
  constructor
  · intro h
    split at h
    · rename_i cs htext
      split at h
      · simp at h
      · rename_i bracket tail hdrop
        obtain ⟨hcs, hinner, hbracket⟩ := cut_iff.1 ⟨rfl, hdrop⟩
        obtain rfl : bracket = ']' := by simpa using hbracket
        split at h
        · rename_i htail
          refine ⟨_, tail, by rw [htext, ← hcs], ?_, List.dropWhile_eq_nil_iff.1 htail,
            word_eq_ok_iff.1 h⟩
          intro hmem
          simpa using hinner _ hmem
        · simp at h
    · simp at h
  · rintro ⟨inner, tail, htext, hinner, htail, hword⟩
    simp only [htext, cut_header hinner tail, List.dropWhile_eq_nil_iff.2 htail]
    exact word_eq_ok_iff.2 hword

theorem readEntry_eq_ok_iff {text key value : String} :
    readEntry text = .ok (key, value) ↔
      ∃ before delimiter after, text.toList = before ++ delimiter :: after ∧
        (∀ c ∈ before, isDelimiter c = false) ∧ isDelimiter delimiter = true ∧
          (Text.strip before ≠ [] ∧ String.ofList (Text.strip before) = key) ∧
            String.ofList (Text.strip after) = value := by
  unfold readEntry
  constructor
  · intro h
    split at h
    · simp at h
    · simp at h
    · rename_i c cs delimiter after htake hdrop
      obtain ⟨htext, hbefore, hdelimiter⟩ := cut_iff.1 ⟨htake, hdrop⟩
      obtain ⟨word, hword, hpair⟩ := map_eq_ok_iff.1 h
      obtain ⟨rfl, rfl⟩ := Prod.mk.inj hpair
      exact ⟨c :: cs, delimiter, after, htext, by simpa using hbefore, by simpa using hdelimiter,
        word_eq_ok_iff.1 hword, rfl⟩
  · rintro ⟨before, delimiter, after, htext, hbefore, hdelimiter, hkey, rfl⟩
    rw [htext, (cut_entry hbefore hdelimiter after).1, (cut_entry hbefore hdelimiter after).2]
    cases before with
    | nil => exact absurd Text.strip_nil hkey.1
    | cons c cs => exact map_eq_ok_iff.2 ⟨key, word_eq_ok_iff.2 hkey, rfl⟩

theorem read_eq_header_iff {text name : String} :
    read text = .ok (.header name) ↔ readHeader text = .ok name := by
  unfold read
  split
  · simp [map_eq_ok_iff]
  · rename_i hopen
    simp only [map_eq_ok_iff, reduceCtorEq, and_false, exists_false, false_iff]
    intro h
    obtain ⟨inner, tail, htext, -⟩ := readHeader_eq_ok_iff.1 h
    exact hopen _ htext

theorem read_eq_entry_iff {text key value : String} :
    read text = .ok (.entry key value) ↔
      text.toList.head? ≠ some '[' ∧ readEntry text = .ok (key, value) := by
  unfold read
  split
  · rename_i htext
    simp [map_eq_ok_iff, htext]
  · rename_i hopen
    have hhead : text.toList.head? ≠ some '[' := by
      intro h
      obtain ⟨rest, htext⟩ := List.head?_eq_some_iff.1 h
      exact hopen rest htext
    simp [map_eq_ok_iff, hhead]

end DeviceCatalog.Line
