import DeviceCatalog.Proofs.Keyfile.Layout

/-!
# Comments between lines

The reader keeps nothing of a comment, neither its indentation nor that it was
there. One more comment only moves the numbers of the lines behind it, wherever it
stands: between an entry and what continues it, or among the blank lines of a value.
-/
namespace DeviceCatalog

namespace Line

theorem isComment_trim_iff {line : String} :
    isComment (Text.trim line) = true ↔
      ∃ mark, line.toList.find? (!Text.isBlank ·) = some mark ∧ (mark = '#' ∨ mark = ';') := by
  have hhead : (Text.trim line).toList.head? = line.toList.find? (!Text.isBlank ·) := by
    rw [Text.toList_trim, Text.head?_strip_eq_find?]
  rw [← hhead, isComment]
  cases (Text.trim line).toList with
  | nil => simp
  | cons c rest => simp

/-- The number of a line once there is one more line behind the first `n`. -/
def pushedDown (n line : ℕ) : ℕ := if n < line then line + 1 else line

end Line

namespace Progress

variable {before after : List String} {comment : String}

/-- The lines before an inserted one are read with the numbers that they have. -/
theorem run_before_inserted (before : List String) :
    start.run 1 before =
      relaidOutcome 0 (Line.pushedDown before.length) (start.run 1 before) := by
  have hsame : List.Forall₂ (Line.Deeper 0) before before :=
    List.forall₂_same.2 fun line _ => .refl line
  refine run_relaid (p := start) hsame fun i hi => ?_
  rw [Line.pushedDown, if_neg (by omega)]

/-- The lines behind an inserted one are read as before, each under the next number. -/
theorem run_after_inserted (p : Progress) (n : ℕ) (after : List String) :
    (p.relaid 0 (Line.pushedDown n)).run (1 + n + 1) after =
      relaidOutcome 0 (Line.pushedDown n) (p.run (1 + n) after) := by
  have hsame : List.Forall₂ (Line.Deeper 0) after after :=
    List.forall₂_same.2 fun line _ => .refl line
  refine run_relaid hsame fun i _ => ?_
  rw [Line.pushedDown, if_pos (by omega)]
  omega

/-- A line that leaves the state as it is only moves the numbers of the lines behind it. -/
theorem run_insert_idle {idle : String} (h : ∀ p, start.run 1 before = .ok p → ∀ f number,
    (p.relaid 0 f).step number idle = .ok (p.relaid 0 f)) :
    start.run 1 (before ++ idle :: after) =
      relaidOutcome 0 (Line.pushedDown before.length) (start.run 1 (before ++ after)) := by
  conv_lhs => rw [run_append, run_before_inserted]
  rw [run_append]
  cases hbefore : start.run 1 before with
  | error e => rfl
  | ok p =>
    rw [relaidOutcome, Except.bind, Except.bind, run, h p hbefore]
    exact run_after_inserted p before.length after

theorem run_insert_comment (h : Line.isComment (Text.trim comment) = true) :
    start.run 1 (before ++ comment :: after) =
      relaidOutcome 0 (Line.pushedDown before.length) (start.run 1 (before ++ after)) :=
  run_insert_idle fun p _ f number => step_comment h (p.relaid 0 f) number

end Progress

namespace Keyfile

/-- A comment between two lines of a text changes nothing that is read from it, apart from the
numbers of the lines behind the comment. -/
theorem parse_insert_comment {before after : List String} {comment plain commented : String}
    {mark : Char} (hmark : comment.toList.find? (!Text.isBlank ·) = some mark)
    (hcomment : mark = '#' ∨ mark = ';')
    (hbreak : ∀ line ∈ before ++ comment :: after, '\n' ∉ line.toList)
    (hplain : Text.HasLines plain (before ++ after))
    (hcommented : Text.HasLines commented (before ++ comment :: after)) :
    parse commented = renumber (Line.pushedDown before.length) (parse plain) := by
  have hbreakPlain : ∀ line ∈ before ++ after, '\n' ∉ line.toList := by
    intro line hline
    exact hbreak line ((List.sublist_cons_self comment after).append_left before |>.mem hline)
  rw [parse_eq_ofLines hplain hbreakPlain, parse_eq_ofLines hcommented hbreak, ofLines, ofLines,
    Progress.run_insert_comment (Line.isComment_trim_iff.2 ⟨mark, hmark, hcomment⟩),
    map_relaidOutcome]

def linesBefore : List String := ["[A]", "k=1", ""]

def linesAfter : List String := ["", "  more", "[A]"]

theorem parse_insert_comment_amongBlanks :
    "\t ;[A]".toList.find? (!Text.isBlank ·) = some ';' ∧
      (∀ line ∈ linesBefore ++ "\t ;[A]" :: linesAfter, '\n' ∉ line.toList) ∧
      Text.HasLines "[A]\nk=1\n\n\n  more\n[A]" (linesBefore ++ linesAfter) ∧
      Text.HasLines "[A]\nk=1\n\n\t ;[A]\n\n  more\n[A]\n"
        (linesBefore ++ "\t ;[A]" :: linesAfter) ∧
      parse "[A]\nk=1\n\n\n  more\n[A]" = .error (.duplicateSection 6 "A") ∧
      parse "[A]\nk=1\n\n\t ;[A]\n\n  more\n[A]\n" =
        renumber (Line.pushedDown linesBefore.length) (.error (.duplicateSection 6 "A")) :=
  have hmark : "\t ;[A]".toList.find? (!Text.isBlank ·) = some ';' := by decide +kernel
  have hbreak : ∀ line ∈ linesBefore ++ "\t ;[A]" :: linesAfter, '\n' ∉ line.toList := by
    decide +kernel
  have hplain : Text.HasLines "[A]\nk=1\n\n\n  more\n[A]" (linesBefore ++ linesAfter) := by
    decide +kernel
  have hcommented : Text.HasLines "[A]\nk=1\n\n\t ;[A]\n\n  more\n[A]\n"
      (linesBefore ++ "\t ;[A]" :: linesAfter) := by decide +kernel
  have hparse : parse "[A]\nk=1\n\n\n  more\n[A]" = .error (.duplicateSection 6 "A") := by
    decide +kernel
  ⟨hmark, hbreak, hplain, hcommented, hparse,
    hparse ▸ parse_insert_comment hmark (.inr rfl) hbreak hplain hcommented⟩

end Keyfile

end DeviceCatalog
