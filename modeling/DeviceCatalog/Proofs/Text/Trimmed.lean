import DeviceCatalog.Text.Basic

/-!
# Trimmed text

A text is trimmed when no blank stands at either end. Trimming leaves such texts
alone and makes one of every other.
-/
namespace DeviceCatalog.Text

def IsTrimmed (s : String) : Prop :=
  (∀ c ∈ s.toList.head?, isBlank c = false) ∧ ∀ c ∈ s.toList.getLast?, isBlank c = false

/-- A test of the character at one end looks at that character only, not at all there are. -/
instance (priority := high) decidableForallMem {p : Char → Prop} [DecidablePred p]
    (end? : Option Char) : Decidable (∀ c ∈ end?, p c) :=
  Option.decidableForallMem end?

instance : DecidablePred IsTrimmed := fun s =>
  inferInstanceAs (Decidable ((∀ c ∈ s.toList.head?, isBlank c = false) ∧
    ∀ c ∈ s.toList.getLast?, isBlank c = false))

variable {cs : List Char}

theorem stripStart_eq_self (h : ∀ c ∈ cs.head?, isBlank c = false) : stripStart cs = cs := by
  cases cs with
  | nil => rfl
  | cons c cs => exact stripStart_of_head (h c rfl) cs

theorem stripEnd_eq_self (h : ∀ c ∈ cs.getLast?, isBlank c = false) : stripEnd cs = cs := by
  rw [stripEnd, ← stripStart, stripStart_eq_self (by simpa using h), List.reverse_reverse]

theorem strip_eq_self (hhead : ∀ c ∈ cs.head?, isBlank c = false)
    (hlast : ∀ c ∈ cs.getLast?, isBlank c = false) : strip cs = cs := by
  rw [strip, stripStart_eq_self hhead, stripEnd_eq_self hlast]

theorem head?_stripStart (cs : List Char) : ∀ c ∈ (stripStart cs).head?, isBlank c = false := by
  intro c hc
  have h := List.head?_dropWhile_not isBlank cs
  rw [← stripStart, hc] at h
  exact h

theorem getLast?_stripEnd (cs : List Char) : ∀ c ∈ (stripEnd cs).getLast?, isBlank c = false := by
  rw [stripEnd, List.getLast?_reverse]
  exact head?_stripStart cs.reverse

theorem stripEnd_isPrefix (cs : List Char) : stripEnd cs <+: cs := by
  have h := List.dropWhile_suffix isBlank (l := cs.reverse)
  rw [← List.reverse_prefix, List.reverse_reverse] at h
  exact h

theorem mem_of_mem_strip {c : Char} (h : c ∈ strip cs) : c ∈ cs :=
  (List.dropWhile_sublist isBlank).mem ((stripEnd_isPrefix _).sublist.mem h)

theorem head?_stripEnd (cs : List Char) : ∀ c ∈ (stripEnd cs).head?, c ∈ cs.head? := by
  intro c hc
  obtain ⟨rest, hrest⟩ := stripEnd_isPrefix cs
  rw [← hrest, List.head?_append, hc]
  rfl

theorem head?_strip (cs : List Char) : ∀ c ∈ (strip cs).head?, isBlank c = false :=
  fun c hc => head?_stripStart cs c (head?_stripEnd _ c hc)

theorem isTrimmed_strip (cs : List Char) : IsTrimmed (String.ofList (strip cs)) := by
  rw [IsTrimmed, String.toList_ofList]
  exact ⟨head?_strip _, getLast?_stripEnd _⟩

theorem isTrimmed_trim (s : String) : IsTrimmed (trim s) := isTrimmed_strip s.toList

theorem IsTrimmed.trim_eq {s : String} (h : IsTrimmed s) : trim s = s := by
  rw [trim, strip_eq_self h.1 h.2, String.ofList_toList]

theorem indent_eq_zero {s : String} (h : ∀ c ∈ s.toList.head?, isBlank c = false) :
    indent s = 0 := by
  have hnone : s.toList.takeWhile isBlank = [] := by
    cases hs : s.toList with
    | nil => rfl
    | cons c cs =>
      rw [hs] at h
      simp [h c rfl]
  rw [indent, hnone]
  rfl

/-- One space in front of a text is all its indentation, and trimming takes it away again. -/
theorem indent_space {s : String} (h : ∀ c ∈ s.toList.head?, isBlank c = false) :
    indent (" " ++ s) = 1 := by
  have hblank : isBlank ' ' = true := rfl
  have hone : (" " ++ s).toList.takeWhile isBlank = [' '] := by
    cases hs : s.toList with
    | nil => simp [hs, hblank]
    | cons c cs =>
      rw [hs] at h
      simp [hs, h c rfl, hblank]
  rw [indent, hone]
  rfl

theorem trim_space {s : String} (h : IsTrimmed s) : trim (" " ++ s) = s := by
  have hblank : isBlank ' ' = true := rfl
  have hstart : stripStart (" " ++ s).toList = s.toList := by
    simpa [stripStart, hblank] using stripStart_eq_self h.1
  rw [trim, strip, hstart, stripEnd_eq_self h.2, String.ofList_toList]

end DeviceCatalog.Text
