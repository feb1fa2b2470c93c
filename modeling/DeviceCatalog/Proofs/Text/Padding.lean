import DeviceCatalog.Proofs.Text.Trimmed
import Mathlib.Data.List.TakeWhile

/-!
# Blanks around a text

Blanks in front of a text and behind it leave the trimmed text as it is. Those in
front add their bytes to the indentation, as long as something else is there too.
-/
namespace DeviceCatalog.Text

def IsPadding (s : String) : Prop := ∀ c ∈ s.toList, isBlank c = true ∧ c ≠ '\n'

instance : DecidablePred IsPadding := fun s =>
  List.decidableBAll (fun c => isBlank c = true ∧ c ≠ '\n') s.toList

theorem IsPadding.isBlank {s : String} (h : IsPadding s) : ∀ c ∈ s.toList, isBlank c = true :=
  fun c hc => (h c hc).1

theorem IsPadding.no_break {s : String} (h : IsPadding s) : '\n' ∉ s.toList :=
  fun hmem => (h _ hmem).2 rfl

variable {cs front back : List Char}

theorem stripStart_append (h : ∀ c ∈ front, isBlank c = true) (cs : List Char) :
    stripStart (front ++ cs) = stripStart cs :=
  List.dropWhile_append_of_pos h

theorem stripEnd_append (h : ∀ c ∈ back, isBlank c = true) (cs : List Char) :
    stripEnd (cs ++ back) = stripEnd cs := by
  have hback : ∀ c ∈ back.reverse, isBlank c = true := by simpa using h
  rw [stripEnd, List.reverse_append, List.dropWhile_append_of_pos hback, stripEnd]

theorem stripStart_eq_nil_iff : stripStart cs = [] ↔ ∀ c ∈ cs, isBlank c = true :=
  List.dropWhile_eq_nil_iff

/-- The first character that is no blank ends the blanks in front, whatever comes behind it. -/
theorem exists_split (h : stripStart cs ≠ []) :
    ∃ blanks c rest, cs = blanks ++ c :: rest ∧ (∀ b ∈ blanks, isBlank b = true) ∧
      isBlank c = false := by
  cases hrest : stripStart cs with
  | nil => exact absurd hrest h
  | cons c rest =>
    refine ⟨cs.takeWhile isBlank, c, rest, ?_, List.all_eq_true.1 List.all_takeWhile, ?_⟩
    · rw [← hrest, stripStart, List.takeWhile_append_dropWhile]
    · exact head?_stripStart cs c (by simp [hrest])

theorem head?_strip_eq_find? (cs : List Char) : (strip cs).head? = cs.find? (!isBlank ·) := by
  by_cases hblank : stripStart cs = []
  · have hnone : cs.find? (!isBlank ·) = none := by
      simpa using stripStart_eq_nil_iff.1 hblank
    rw [hnone, strip, hblank]
    rfl
  · obtain ⟨blanks, c, rest, rfl, hblanks, hc⟩ := exists_split hblank
    have hfront : blanks.find? (!isBlank ·) = none := by simpa using hblanks
    have hstart : stripStart (blanks ++ c :: rest) = c :: rest := by
      rw [stripStart_append hblanks, stripStart_of_head hc]
    rw [strip, hstart, List.find?_append, hfront, Option.none_or,
      List.find?_cons_of_pos (by simp [hc])]
    cases hend : stripEnd (c :: rest) with
    | nil =>
      have hall : ∀ b, b ∈ rest ∨ b = c → isBlank b = true := by simpa [stripEnd] using hend
      exact absurd (hall c (.inr rfl)) (by simp [hc])
    | cons d more =>
      have hhead := head?_stripEnd (c :: rest) d (by simp [hend])
      simpa using hhead.symm

theorem strip_ne_nil_iff : strip cs ≠ [] ↔ ∃ c ∈ cs, isBlank c = false := by
  rw [← List.isSome_head?, head?_strip_eq_find?, List.find?_isSome]
  simp only [Bool.not_eq_true']

theorem strip_append_of_blank (hback : ∀ c ∈ back, isBlank c = true) (cs : List Char) :
    strip (cs ++ back) = strip cs := by
  by_cases hblank : stripStart cs = []
  · have hall : ∀ c ∈ cs ++ back, isBlank c = true := by
      intro c hc
      rcases List.mem_append.1 hc with hc | hc
      · exact stripStart_eq_nil_iff.1 hblank c hc
      · exact hback c hc
    rw [strip, strip, hblank, stripStart_eq_nil_iff.2 hall]
  · obtain ⟨blanks, c, rest, rfl, hblanks, hc⟩ := exists_split hblank
    rw [strip, strip, List.append_assoc, stripStart_append hblanks, stripStart_append hblanks,
      List.cons_append, stripStart_of_head hc, stripStart_of_head hc, ← List.cons_append,
      stripEnd_append hback]

def pad (front text back : String) : String := front ++ text ++ back

variable {before text after : String}

theorem toList_pad (before text after : String) :
    (pad before text after).toList = before.toList ++ (text.toList ++ after.toList) := by
  simp [pad]

theorem trim_pad (hbefore : IsPadding before) (hafter : IsPadding after) (text : String) :
    trim (pad before text after) = trim text := by
  rw [trim, trim, toList_pad, strip, stripStart_append hbefore.isBlank, ← strip,
    strip_append_of_blank hafter.isBlank]

theorem indent_pad (hbefore : IsPadding before) (htext : trim text ≠ "") (after : String) :
    indent (pad before text after) = indent text + before.utf8ByteSize := by
  have hstart : stripStart text.toList ≠ [] := by
    intro hnone
    apply htext
    rw [trim, strip, hnone]
    rfl
  obtain ⟨blanks, c, rest, hsplit, hblanks, hc⟩ := exists_split hstart
  have htake (more : List Char) :
      (blanks ++ c :: more).takeWhile isBlank = blanks := by
    rw [List.takeWhile_append_of_pos hblanks]
    simp [hc]
  have hpad : (pad before text after).toList.takeWhile isBlank = before.toList ++ blanks := by
    rw [toList_pad, hsplit, List.takeWhile_append_of_pos hbefore.isBlank, List.append_assoc,
      List.cons_append, htake]
  rw [indent, indent, hpad, hsplit, htake, String.ofList_append, String.ofList_toList,
    String.utf8ByteSize_append, Nat.add_comm]

theorem not_mem_pad (hbefore : IsPadding before) (htext : '\n' ∉ text.toList)
    (hafter : IsPadding after) : '\n' ∉ (pad before text after).toList := by
  rw [toList_pad, List.mem_append, List.mem_append]
  rintro (h | h | h)
  · exact hbefore.no_break h
  · exact htext h
  · exact hafter.no_break h

end DeviceCatalog.Text
