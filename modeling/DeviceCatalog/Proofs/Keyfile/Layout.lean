import DeviceCatalog.Keyfile
import DeviceCatalog.Proofs.Keyfile.Turn
import DeviceCatalog.Proofs.Text.Cuts
import DeviceCatalog.Proofs.Text.Padding

/-!
# Layout that does not matter

Indentation counts only in comparison with the open entry. When all lines are
indented by the same blanks, every comparison comes out as before, and blanks
behind a line are trimmed away. So two runs go through states that differ in one
way only, and a step takes any two such states to two such states again. Line
numbers may differ as well, since the reader writes them down and never asks.
-/
namespace DeviceCatalog

namespace Section

/-- The section with its line numbered anew. -/
def renumber (f : ℕ → ℕ) (sec : Section) : Section := { sec with line := f sec.line }

theorem insert_renumber (f : ℕ → ℕ) (sec : Section) (key value : String) :
    (sec.renumber f).insert key value =
      ((sec.insert key value).1.renumber f, (sec.insert key value).2) := by
  have hcontains : (sec.renumber f).contains key = sec.contains key := rfl
  rw [insert, insert, hcontains]
  split <;> rfl

end Section

/-- The error with its line numbered anew. -/
def KeyfileError.renumber (f : ℕ → ℕ) : KeyfileError → KeyfileError
  | invalidLine line fault => invalidLine (f line) fault
  | keyOutsideSection line key => keyOutsideSection (f line) key
  | duplicateSection line sectionName => duplicateSection (f line) sectionName
  | duplicateKey line sectionName key => duplicateKey (f line) sectionName key

/-- What is read from a text, with all lines numbered anew. -/
def Keyfile.renumber (f : ℕ → ℕ) : Except KeyfileError Keyfile → Except KeyfileError Keyfile
  | .ok file => .ok ⟨file.sections.map (Section.renumber f)⟩
  | .error e => .error (e.renumber f)

/-- The same line further in: what it says is the same, and its indentation has grown by `n`. -/
structure Line.Deeper (n : ℕ) (line moved : String) : Prop where
  trim_eq : Text.trim moved = Text.trim line
  indent_eq : Text.trim line ≠ "" → Text.indent moved = Text.indent line + n

theorem Line.Deeper.refl (line : String) : Line.Deeper 0 line line := ⟨rfl, fun _ => rfl⟩

namespace Progress

/-- The state behind the same lines further in and with other numbers. -/
def relaid (n : ℕ) (f : ℕ → ℕ) (p : Progress) : Progress :=
  ⟨p.finished.map (Section.renumber f), p.current.map (Section.renumber f),
    p.openIndent.map (· + n), p.blanks⟩

/-- The outcome for the same lines further in and with other numbers. -/
def relaidOutcome (n : ℕ) (f : ℕ → ℕ) : Except KeyfileError Progress → Except KeyfileError Progress
  | .ok p => .ok (p.relaid n f)
  | .error e => .error (e.renumber f)

variable {n number indent : ℕ} {f : ℕ → ℕ} {p : Progress}

theorem sections_relaid : (p.relaid n f).sections = p.sections.map (Section.renumber f) := by
  cases hcurrent : p.current <;> simp [sections, relaid, hcurrent]

theorem names_relaid :
    (p.relaid n f).sections.map Section.name = p.sections.map Section.name := by
  simp [sections_relaid, Section.renumber, Function.comp_def]

theorem countBlank_relaid : (p.relaid n f).countBlank = p.countBlank.relaid n f := by
  cases hopen : p.openIndent <;> simp [countBlank, relaid, hopen]

theorem continued?_relaid (text : String) :
    (p.relaid n f).continued? (indent + n) text =
      (p.continued? indent text).map (relaid n f) := by
  cases hopen : p.openIndent with
  | none => simp [continued?, relaid, hopen]
  | some opened =>
    cases hcurrent : p.current with
    | none => simp [continued?, relaid, hopen, hcurrent]
    | some sec =>
      by_cases hdeeper : opened < indent
      · simp [continued?, relaid, hopen, hcurrent, hdeeper, Section.extend, Section.renumber]
      · simp [continued?, relaid, hopen, hcurrent, hdeeper]

theorem addSection_relaid (name : String) :
    (p.relaid n f).addSection (f number) name =
      relaidOutcome n f (p.addSection number name) := by
  rw [addSection, addSection, names_relaid]
  by_cases hold : name ∈ p.sections.map Section.name
  · rw [if_pos hold, if_pos hold]
    rfl
  · rw [if_neg hold, if_neg hold, sections_relaid]
    rfl

theorem addEntry_relaid (key value : String) :
    (p.relaid n f).addEntry (f number) (indent + n) key value =
      relaidOutcome n f (p.addEntry number indent key value) := by
  cases hcurrent : p.current with
  | none => simp [addEntry, relaid, relaidOutcome, hcurrent, KeyfileError.renumber]
  | some sec =>
    have hmoved : (p.relaid n f).current = some (sec.renumber f) := by
      rw [relaid, hcurrent]
      rfl
    simp only [addEntry, hmoved, hcurrent, Section.insert_renumber]
    obtain ⟨extended, isNew⟩ := sec.insert key value
    cases isNew <;> rfl

theorem accept_relaid (text : String) :
    (p.relaid n f).accept (f number) (indent + n) text =
      relaidOutcome n f (p.accept number indent text) := by
  unfold accept
  cases Line.read text with
  | error fault => rfl
  | ok line =>
    cases line with
    | header name => exact addSection_relaid name
    | entry key value => exact addEntry_relaid key value

theorem step_relaid {line moved : String} (h : Line.Deeper n line moved) :
    (p.relaid n f).step (f number) moved = relaidOutcome n f (p.step number line) := by
  simp only [step, h.trim_eq]
  by_cases hcomment : Line.isComment (Text.trim line)
  · simp [hcomment, relaidOutcome]
  · by_cases hblank : Text.trim line = ""
    · simp [hblank, Line.isComment, relaidOutcome, countBlank_relaid]
    · rw [if_neg hcomment, if_neg hblank, if_neg hcomment, if_neg hblank, h.indent_eq hblank,
        continued?_relaid, accept_relaid]
      cases p.continued? (Text.indent line) (Text.trim line) <;> rfl

/-- The numbers of the lines have to be the new ones from `first` on. -/
theorem run_relaid {lines moved : List String} {first : ℕ}
    (h : List.Forall₂ (Line.Deeper n) lines moved)
    (hnumber : ∀ i < lines.length, f (number + i) = first + i) :
    (p.relaid n f).run first moved = relaidOutcome n f (p.run number lines) := by
  induction h generalizing p number first with
  | nil => rfl
  | @cons line other lines moved hline _ ih =>
    obtain rfl : f number = first := hnumber 0 (Nat.succ_pos _)
    have hrest : ∀ i < lines.length, f (number + 1 + i) = f number + 1 + i := by
      intro i hi
      rw [Nat.add_assoc, Nat.add_assoc, Nat.add_comm 1 i]
      exact hnumber (i + 1) (Nat.succ_lt_succ hi)
    rw [run, run, step_relaid hline]
    cases p.step number line with
    | error e => rfl
    | ok next => exact ih hrest

theorem run_dropEmptyLast (p : Progress) (number : ℕ) (lines : List String) :
    (p.run number (Text.dropEmptyLast lines)).map sections =
      (p.run number lines).map sections := by
  fun_induction Text.dropEmptyLast lines generalizing p number with
  | case1 => rfl
  | case2 =>
    have hblank : Text.trim "" = "" := rfl
    rw [run, run, step_blank hblank]
    exact congrArg Except.ok (sections_countBlank p).symm
  | case3 => rfl
  | case4 line next rest ih =>
    rw [run, run]
    cases p.step number line with
    | error e => rfl
    | ok q => exact ih q (number + 1)

end Progress

namespace Keyfile

/-- What is read from the lines of a text. -/
def ofLines (lines : List String) : Except KeyfileError Keyfile :=
  (Progress.start.run 1 lines).map fun p => ⟨p.sections⟩

/-- Whether or not a line feed ends the last line of a text is all the same. -/
theorem parse_eq_ofLines {content : String} {lines : List String}
    (h : Text.HasLines content lines) (hbreak : ∀ line ∈ lines, '\n' ∉ line.toList) :
    parse content = ofLines lines := by
  rcases h.lines_eq hbreak with hlines | hlines
  · rw [parse, hlines, ofLines]
  · have hsections := congrArg (Except.map mk)
      (Progress.run_dropEmptyLast Progress.start 1 lines)
    rw [parse, hlines, ofLines]
    revert hsections
    cases Progress.start.run 1 (Text.dropEmptyLast lines) <;>
      cases Progress.start.run 1 lines <;> simp [Except.map]

theorem map_relaidOutcome (n : ℕ) (f : ℕ → ℕ) (outcome : Except KeyfileError Progress) :
    (Progress.relaidOutcome n f outcome).map (fun p => mk p.sections) =
      renumber f (outcome.map fun p => mk p.sections) := by
  cases outcome with
  | error e => rfl
  | ok p => exact congrArg (fun sections => Except.ok (mk sections)) Progress.sections_relaid

theorem renumber_id (result : Except KeyfileError Keyfile) : renumber id result = result := by
  cases result with
  | error e => cases e <;> rfl
  | ok file => exact congrArg (fun sections => Except.ok (mk sections)) (List.map_id _)

theorem ofLines_of_deeper {n : ℕ} {lines moved : List String}
    (h : List.Forall₂ (Line.Deeper n) lines moved) : ofLines moved = ofLines lines := by
  have hrun : Progress.start.run 1 moved =
      Progress.relaidOutcome n id (Progress.start.run 1 lines) :=
    Progress.run_relaid (p := Progress.start) (f := id) h fun _ _ => rfl
  rw [ofLines, hrun, map_relaidOutcome, renumber_id, ofLines]

/-- Blanks behind the lines of a text, the same blanks in front of all of them, and a line feed at
its end change nothing that is read from it. A row is a line with the blanks that go behind it. -/
theorem parse_pad {front plain padded : String} {rows : List (String × String)}
    (hfront : Text.IsPadding front)
    (hrows : ∀ row ∈ rows, '\n' ∉ row.1.toList ∧ Text.IsPadding row.2)
    (hplain : Text.HasLines plain (rows.map Prod.fst))
    (hpadded : Text.HasLines padded (rows.map fun row => Text.pad front row.1 row.2)) :
    parse padded = parse plain := by
  have hbreak : ∀ line ∈ rows.map Prod.fst, '\n' ∉ line.toList := by
    rw [List.forall_mem_map]
    exact fun row hrow => (hrows row hrow).1
  have hbreakPadded : ∀ line ∈ rows.map fun row => Text.pad front row.1 row.2,
      '\n' ∉ line.toList := by
    rw [List.forall_mem_map]
    exact fun row hrow => Text.not_mem_pad hfront (hrows row hrow).1 (hrows row hrow).2
  have hdeeper : List.Forall₂ (Line.Deeper front.utf8ByteSize) (rows.map Prod.fst)
      (rows.map fun row => Text.pad front row.1 row.2) := by
    rw [List.forall₂_map_left_iff, List.forall₂_map_right_iff, List.forall₂_same]
    intro row hrow
    exact ⟨Text.trim_pad hfront (hrows row hrow).2 row.1, fun h => Text.indent_pad hfront h row.2⟩
  rw [parse_eq_ofLines hplain hbreak, parse_eq_ofLines hpadded hbreakPadded,
    ofLines_of_deeper hdeeper]

/-- Lines with a value that goes on behind a blank line, and blanks to put behind them. -/
def paddedRows : List (String × String) :=
  [("[A]", "\r"), ("k=1", "\t\r"), ("", " \r"), ("  [B]", "\r"), ("", "\u2003")]

/-- An indented text with carriage returns and without a line feed at its end. -/
def paddedText : String := "\t [A]\r\n\t k=1\t\r\n\t  \r\n\t   [B]\r\n\t \u2003"

theorem parse_pad_paddedRows :
    Text.IsPadding "\t " ∧
      (∀ row ∈ paddedRows, '\n' ∉ row.1.toList ∧ Text.IsPadding row.2) ∧
      Text.HasLines "[A]\nk=1\n\n  [B]\n\n" (paddedRows.map Prod.fst) ∧
      Text.HasLines paddedText (paddedRows.map fun row => Text.pad "\t " row.1 row.2) ∧
      parse "[A]\nk=1\n\n  [B]\n\n" = .ok ⟨[⟨"A", 1, [("k", "1\n\n[B]")]⟩]⟩ ∧
      parse paddedText = .ok ⟨[⟨"A", 1, [("k", "1\n\n[B]")]⟩]⟩ :=
  have hfront : Text.IsPadding "\t " := by decide +kernel
  have hrows : ∀ row ∈ paddedRows, '\n' ∉ row.1.toList ∧ Text.IsPadding row.2 := by
    decide +kernel
  have hplain : Text.HasLines "[A]\nk=1\n\n  [B]\n\n" (paddedRows.map Prod.fst) := by
    decide +kernel
  have hpadded : Text.HasLines paddedText
      (paddedRows.map fun row => Text.pad "\t " row.1 row.2) := by decide +kernel
  have hparse : parse "[A]\nk=1\n\n  [B]\n\n" = .ok ⟨[⟨"A", 1, [("k", "1\n\n[B]")]⟩]⟩ := by
    decide +kernel
  ⟨hfront, hrows, hplain, hpadded, hparse,
    hparse ▸ parse_pad hfront hrows hplain hpadded⟩

end Keyfile

end DeviceCatalog
