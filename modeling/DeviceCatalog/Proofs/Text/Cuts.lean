import DeviceCatalog.Text.Basic

/-!
# Cutting at a separator

A separator between two texts cuts them apart, whatever they hold themselves, so
the segments of the whole are those of the one and then those of the other. No
segment and no line holds what it was cut at.
-/
namespace DeviceCatalog.Text

variable {separator : Char}

theorem segments_eq_singleton {s : String} (h : separator ∉ s.toList) :
    segments separator s = [s] := by
  simp [segments, List.splitOn_eq_singleton h]

theorem segments_append_separator (separator : Char) (cs ds : List Char) :
    segments separator (String.ofList (cs ++ separator :: ds)) =
      segments separator (String.ofList cs) ++ segments separator (String.ofList ds) := by
  simp [segments, List.splitOn_append_cons_self]

/-- A run of separators cuts off one empty segment less than it is long. -/
theorem segments_append_replicate (separator : Char) (cs ds : List Char) (n : Nat) :
    segments separator (String.ofList (cs ++ List.replicate (n + 1) separator ++ ds)) =
      segments separator (String.ofList cs) ++
        (List.replicate n "" ++ segments separator (String.ofList ds)) := by
  rw [List.append_assoc]
  induction n generalizing cs with
  | zero => exact segments_append_separator separator cs ds
  | succ n ih =>
    rw [List.replicate_succ, List.cons_append, segments_append_separator, ← List.nil_append
      (List.replicate (n + 1) separator ++ ds), ih []]
    rfl

/-- A separator that stands at an end or beside another one has an empty segment next to it. -/
theorem empty_mem_segments {cs : List Char}
    (h : cs = [] ∨ cs.head? = some separator ∨ cs.getLast? = some separator ∨
      [separator, separator] <:+: cs) : "" ∈ segments separator (String.ofList cs) := by
  have hempty : "" ∈ segments separator (String.ofList []) := by simp [segments]
  have hafter (ds : List Char) : "" ∈ segments separator (String.ofList (separator :: ds)) := by
    rw [← List.nil_append (separator :: ds), segments_append_separator]
    exact List.mem_append_left _ hempty
  rcases h with rfl | hhead | hlast | ⟨before, after, rfl⟩
  · exact hempty
  · obtain ⟨ds, rfl⟩ := List.head?_eq_some_iff.1 hhead
    exact hafter ds
  · obtain ⟨ds, rfl⟩ := List.getLast?_eq_some_iff.1 hlast
    rw [segments_append_separator]
    exact List.mem_append_right _ hempty
  · rw [List.append_assoc, List.cons_append, segments_append_separator]
    exact List.mem_append_right _ (hafter after)

theorem not_mem_of_mem_splitOn {α : Type} [DecidableEq α] {a : α} {xs segment : List α}
    (h : segment ∈ xs.splitOn a) : a ∉ segment := by
  induction xs generalizing segment with
  | nil => simp_all
  | cons x xs ih =>
    rw [List.splitOn_cons_eq_if_modifyHead] at h
    split at h
    · rcases List.mem_cons.1 h with rfl | h
      · exact List.not_mem_nil
      · exact ih h
    · rename_i hx
      cases hsplit : xs.splitOn a with
      | nil => exact absurd hsplit (List.splitOn_ne_nil _ _)
      | cons first rest =>
        rw [hsplit, List.modifyHead_cons] at h
        rcases List.mem_cons.1 h with rfl | h
        · have hfirst : a ∉ first := ih (hsplit ▸ List.mem_cons_self)
          have hne : a ≠ x := fun h => hx (beq_iff_eq.2 h.symm)
          simp [hfirst, hne]
        · exact ih (hsplit ▸ List.mem_cons_of_mem _ h)

theorem not_mem_of_mem_segments {s segment : String} (h : segment ∈ segments separator s) :
    separator ∉ segment.toList := by
  obtain ⟨cs, hcs, rfl⟩ := List.mem_map.1 h
  rw [String.toList_ofList]
  exact not_mem_of_mem_splitOn hcs

theorem dropEmptyLast_sublist (words : List String) : List.Sublist (dropEmptyLast words) words := by
  fun_induction dropEmptyLast words with
  | case1 => exact .slnil
  | case2 => exact List.nil_sublist _
  | case3 => exact List.Sublist.refl _
  | case4 word next rest ih => exact ih.cons_cons word

theorem not_mem_of_mem_lines {s line : String} (h : line ∈ lines s) : '\n' ∉ line.toList :=
  not_mem_of_mem_segments ((dropEmptyLast_sublist _).mem h)

theorem dropEmptyLast_append_of_ne_nil {after : List String} (h : after ≠ [])
    (before : List String) : dropEmptyLast (before ++ after) = before ++ dropEmptyLast after := by
  induction before with
  | nil => rfl
  | cons word rest ih =>
    rw [List.cons_append, List.cons_append, ← ih]
    cases hrest : rest ++ after with
    | nil => exact absurd (List.append_eq_nil_iff.1 hrest).2 h
    | cons next more => rfl

/-- A text that is not cut in the middle of a line keeps its lines in front of any other text. -/
theorem lines_append {s : String} (h : s = "" ∨ s.toList.getLast? = some '\n') (t : String) :
    lines (s ++ t) = lines s ++ lines t := by
  rcases h with rfl | h
  · rw [String.empty_append]
    rfl
  · obtain ⟨cs, hcs⟩ := List.getLast?_eq_some_iff.1 h
    have hs : s = String.ofList (cs ++ '\n' :: []) := by rw [← hcs, String.ofList_toList]
    have ht : s ++ t = String.ofList (cs ++ '\n' :: t.toList) := by
      rw [← String.toList_inj]
      simp [hcs]
    have hlines : lines s = segments '\n' (String.ofList cs) := by
      rw [lines, terminatedSegments, hs, segments_append_separator]
      exact dropEmptyLast_append_empty _
    rw [hlines, ht, lines, terminatedSegments, segments_append_separator, String.ofList_toList,
      dropEmptyLast_append_of_ne_nil (segments_ne_nil '\n' t)]
    rfl

def firstLines (k : Nat) (s : String) : String := unlines ((lines s).take k)

theorem lines_firstLines (k : Nat) (s : String) : lines (firstLines k s) = (lines s).take k := by
  apply lines_unlines
  intro line hline
  exact not_mem_of_mem_lines (List.mem_of_mem_take hline)

/-- The text ends each of these lines with a line feed, or each of them but the last. -/
def HasLines (s : String) (ls : List String) : Prop := s = unlines ls ∨ s = joinWith '\n' ls

instance (s : String) (ls : List String) : Decidable (HasLines s ls) :=
  inferInstanceAs (Decidable (s = unlines ls ∨ s = joinWith '\n' ls))

/-- Only an empty last line can be lost, when no line feed ends it. -/
theorem HasLines.lines_eq {s : String} {ls : List String} (h : HasLines s ls)
    (hbreak : ∀ line ∈ ls, '\n' ∉ line.toList) : lines s = ls ∨ lines s = dropEmptyLast ls := by
  rcases h with rfl | rfl
  · exact .inl (lines_unlines hbreak)
  · right
    by_cases hls : ls = []
    · rw [hls]
      rfl
    · rw [lines, terminatedSegments, segments_joinWith hbreak hls]

theorem joinWith_cons (separator : Char) (first : String) (rest : List String) :
    joinWith separator (first :: rest) =
      first ++ String.ofList (rest.flatMap fun word => separator :: word.toList) := by
  induction rest generalizing first with
  | nil => simp [joinWith]
  | cons word rest ih =>
    have hnext := congrArg String.toList (ih word)
    simp only [joinWith, String.toList_ofList, List.map_cons, String.toList_append] at hnext
    rw [← String.toList_inj]
    simp [joinWith, hnext]

end DeviceCatalog.Text
