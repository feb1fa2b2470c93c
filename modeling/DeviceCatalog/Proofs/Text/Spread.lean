import DeviceCatalog.Proofs.Text.Cuts

/-!
# Spread words

A list of words may be written with more separators than it needs, in front of
the words, between them and behind them. Whoever looks at the filled segments
only finds the words again.
-/
namespace DeviceCatalog.Text

/-- The words in this order, with a separator at least between each two of them and with any number
of further separators anywhere around the words. -/
inductive Spreads (separator : Char) : List String → List Char → Prop where
  | none : Spreads separator [] []
  | last (word : String) : Spreads separator [word] word.toList
  | extra {words : List String} {cs : List Char} :
    Spreads separator words cs → Spreads separator words (separator :: cs)
  | next (word : String) {words : List String} {cs : List Char} :
    Spreads separator words cs →
      Spreads separator (word :: words) (word.toList ++ separator :: cs)

variable {separator : Char} {words : List String} {cs : List Char}

theorem filledSegments_append_separator (separator : Char) (cs ds : List Char) :
    filledSegments separator (String.ofList (cs ++ separator :: ds)) =
      filledSegments separator (String.ofList cs) ++
        filledSegments separator (String.ofList ds) := by
  rw [filledSegments, segments_append_separator, List.filter_append]
  rfl

theorem filledSegments_empty (separator : Char) : filledSegments separator "" = [] := by
  simp [filledSegments, segments]

theorem filledSegments_eq_singleton {word : String} (hfilled : word ≠ "")
    (h : separator ∉ word.toList) : filledSegments separator word = [word] := by
  simp [filledSegments, segments_eq_singleton h, hfilled]

theorem Spreads.filledSegments_eq (h : Spreads separator words cs)
    (hwords : ∀ word ∈ words, word ≠ "" ∧ separator ∉ word.toList) :
    filledSegments separator (String.ofList cs) = words := by
  induction h with
  | none => exact filledSegments_empty separator
  | last word =>
    obtain ⟨hfilled, hsep⟩ := hwords word List.mem_cons_self
    rw [String.ofList_toList, filledSegments_eq_singleton hfilled hsep]
  | extra _ ih =>
    rw [← List.nil_append (separator :: _), filledSegments_append_separator, ih hwords]
    exact congrArg (· ++ _) (filledSegments_empty separator)
  | next word _ ih =>
    rw [List.forall_mem_cons] at hwords
    rw [filledSegments_append_separator, String.ofList_toList,
      filledSegments_eq_singleton hwords.1.1 hwords.1.2, ih hwords.2]
    rfl

theorem joinWith_singleton (separator : Char) (word : String) :
    joinWith separator [word] = word := by
  simp [joinWith_cons]

theorem toList_joinWith_cons_cons (separator : Char) (word following : String)
    (more : List String) : (joinWith separator (word :: following :: more)).toList =
      word.toList ++ separator :: (joinWith separator (following :: more)).toList := by
  simp [joinWith_cons]

/-- Joined words are spread, and empty ones among them may be taken for further separators. -/
theorem spreads_filter_joinWith (separator : Char) {p : String → Bool}
    (hempty : ∀ word, p word = false → word = "") (words : List String) :
    Spreads separator (words.filter p) (joinWith separator words).toList := by
  induction words with
  | nil => exact .none
  | cons word rest ih =>
    cases hp : p word with
    | true =>
      rw [List.filter_cons_of_pos hp]
      cases rest with
      | nil =>
        rw [joinWith_singleton]
        exact .last word
      | cons following more =>
        rw [toList_joinWith_cons_cons]
        exact .next word ih
    | false =>
      obtain rfl := hempty word hp
      rw [List.filter_cons_of_neg (by simp [hp])]
      cases rest with
      | nil =>
        rw [joinWith_singleton]
        exact .none
      | cons following more =>
        rw [toList_joinWith_cons_cons]
        exact .extra ih

theorem spreads_joinWith (separator : Char) (words : List String) :
    Spreads separator words (joinWith separator words).toList := by
  have h := spreads_filter_joinWith separator (p := fun _ => true) (by simp) words
  rwa [List.filter_eq_self.2 fun _ _ => rfl] at h

/-- Words that can be told apart are spread over exactly the texts that they are the filled segments
of. -/
theorem spreads_iff_filledSegments_eq
    (hwords : ∀ word ∈ words, word ≠ "" ∧ separator ∉ word.toList) {s : String} :
    Spreads separator words s.toList ↔ filledSegments separator s = words := by
  constructor
  · intro h
    rw [← h.filledSegments_eq hwords, String.ofList_toList]
  · rintro rfl
    have h := spreads_filter_joinWith separator (p := (· ≠ "")) (by simp) (segments separator s)
    rwa [joinWith_segments] at h

end DeviceCatalog.Text
