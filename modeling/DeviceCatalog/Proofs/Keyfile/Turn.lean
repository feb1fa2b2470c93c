import DeviceCatalog.Keyfile.Progress
import DeviceCatalog.Proofs.Keyfile.Grammar
import DeviceCatalog.Proofs.Lookup
import DeviceCatalog.Proofs.Text.Trimmed
import Mathlib.Data.List.Induction

/-!
# Turns of the reader

One line takes the reader from one state to the next in one of five ways. The
relation below lists them with all their conditions, and it holds exactly when
the step on the line succeeds. What every turn preserves holds after any run.
-/
namespace DeviceCatalog

namespace Line

/-- A line that is neither blank nor a comment. -/
def IsContent (line : String) : Prop :=
  isComment (Text.trim line) = false ∧ Text.trim line ≠ ""

theorem not_isContent_of_comment {line : String} (h : isComment (Text.trim line) = true) :
    ¬IsContent line :=
  fun hcontent => by simp [hcontent.1] at h

theorem not_isContent_of_blank {line : String} (h : Text.trim line = "") : ¬IsContent line :=
  fun hcontent => hcontent.2 h

end Line

namespace Progress

/-- An entry is open, and a line of this indentation is deeper than it. -/
def Continues (p : Progress) (indent : Nat) : Prop :=
  ∃ opened sec, p.openIndent = some opened ∧ p.current = some sec ∧ opened < indent

/-- The line feeds that a continuation line adds to a value. -/
def breaks (p : Progress) : String := String.ofList (List.replicate (p.blanks + 1) '\n')

/-- How a line changes the state. -/
inductive Turn (p : Progress) (number : Nat) (line : String) : Progress → Prop where
  | comment (hcomment : Line.isComment (Text.trim line) = true) : Turn p number line p
  | blank (hblank : Text.trim line = "") : Turn p number line p.countBlank
  | continuation {opened : Nat} {sec : Section} (hcontent : Line.IsContent line)
      (hopen : p.openIndent = some opened) (hcurrent : p.current = some sec)
      (hdeeper : opened < Text.indent line) :
      Turn p number line
        { p with current := some (sec.extend (p.breaks ++ Text.trim line)), blanks := 0 }
  | header {name : String} (hcontent : Line.IsContent line)
      (hends : ¬p.Continues (Text.indent line))
      (hread : Line.read (Text.trim line) = .ok (.header name))
      (hnew : name ∉ p.sections.map Section.name) :
      Turn p number line ⟨p.sections, some (Section.empty name number), none, 0⟩
  | entry {key value : String} {sec : Section} (hcontent : Line.IsContent line)
      (hends : ¬p.Continues (Text.indent line))
      (hread : Line.read (Text.trim line) = .ok (.entry key value))
      (hcurrent : p.current = some sec) (hnew : key ∉ sec.keys) :
      Turn p number line ⟨p.finished,
        some { sec with entries := sec.entries ++ [(key, value)] }, some (Text.indent line), 0⟩

variable {p q : Progress} {number indent : Nat} {text line : String}

theorem sections_eq_concat {sec : Section} (h : p.current = some sec) :
    p.sections = p.finished ++ [sec] := by
  rw [sections, h]
  rfl

theorem countBlank_eq (p : Progress) : p.countBlank =
    { p with blanks := if p.openIndent.isSome then p.blanks + 1 else p.blanks } := by
  unfold countBlank
  split <;> rfl

theorem sections_countBlank (p : Progress) : p.countBlank.sections = p.sections := by
  rw [countBlank_eq]
  rfl

theorem continued?_eq_none_iff : p.continued? indent text = none ↔ ¬p.Continues indent := by
  unfold continued?
  split
  · rename_i opened sec hopen hcurrent
    simp [Continues, hopen, hcurrent]
  · rename_i hnone
    refine ⟨fun _ => ?_, fun _ => rfl⟩
    rintro ⟨opened, sec, hopen, hcurrent, -⟩
    exact hnone opened sec hopen hcurrent

theorem continued?_eq_some_iff :
    p.continued? indent text = some q ↔
      ∃ opened sec, p.openIndent = some opened ∧ p.current = some sec ∧ opened < indent ∧
        { p with current := some (sec.extend (p.breaks ++ text)), blanks := 0 } = q := by
  unfold continued?
  split
  · rename_i opened sec hopen hcurrent
    simp [hopen, hcurrent, breaks]
  · rename_i hnone
    refine ⟨fun h => absurd h (by simp), ?_⟩
    rintro ⟨opened, sec, hopen, hcurrent, -⟩
    exact absurd hcurrent (hnone opened sec hopen)

theorem not_continues_of_indent (h : ∀ c ∈ line.toList.head?, Text.isBlank c = false) :
    ¬p.Continues (Text.indent line) := by
  rw [Text.indent_eq_zero h]
  rintro ⟨opened, sec, -, -, hdeeper⟩
  exact Nat.not_lt_zero _ hdeeper

theorem step_of_leads (hcontent : Line.IsContent line)
    (hends : ¬p.Continues (Text.indent line)) :
    p.step number line = p.accept number (Text.indent line) (Text.trim line) := by
  simp [step, hcontent.1, hcontent.2, continued?_eq_none_iff.2 hends]

theorem addSection_eq_ok_iff {name : String} :
    p.addSection number name = .ok q ↔
      name ∉ p.sections.map Section.name ∧
        ⟨p.sections, some (Section.empty name number), none, 0⟩ = q := by
  unfold addSection
  split <;> simp_all

theorem addEntry_eq_ok_iff {key value : String} :
    p.addEntry number indent key value = .ok q ↔
      ∃ sec, p.current = some sec ∧ key ∉ sec.keys ∧
        ⟨p.finished, some { sec with entries := sec.entries ++ [(key, value)] },
          some indent, 0⟩ = q := by
  unfold addEntry
  cases p.current with
  | none => simp
  | some sec =>
    by_cases hkey : key ∈ sec.keys
    · simp [Section.insert_of_mem_keys hkey, hkey]
    · simp [Section.insert_of_not_mem_keys hkey, hkey]

theorem step_eq_ok_iff_turn : p.step number line = .ok q ↔ Turn p number line q := by
  constructor
  · intro h
    simp only [step] at h
    split at h
    · rename_i hcomment
      exact Except.ok.inj h ▸ .comment hcomment
    · rename_i hcomment
      split at h
      · rename_i hblank
        exact Except.ok.inj h ▸ .blank hblank
      · rename_i hblank
        have hcontent : Line.IsContent line := ⟨by simpa using hcomment, hblank⟩
        split at h
        · rename_i next hnext
          obtain ⟨opened, sec, hopen, hcurrent, hdeeper, rfl⟩ := continued?_eq_some_iff.1 hnext
          exact Except.ok.inj h ▸ .continuation hcontent hopen hcurrent hdeeper
        · rename_i hends
          rw [continued?_eq_none_iff] at hends
          unfold accept at h
          split at h
          · simp at h
          · rename_i name hread
            obtain ⟨hnew, rfl⟩ := addSection_eq_ok_iff.1 h
            exact .header hcontent hends hread hnew
          · rename_i key value hread
            obtain ⟨sec, hcurrent, hnew, rfl⟩ := addEntry_eq_ok_iff.1 h
            exact .entry hcontent hends hread hcurrent hnew
  · intro h
    cases h with
    | comment hcomment => simp [step, hcomment]
    | blank hblank => simp [step, hblank, Line.isComment]
    | continuation hcontent hopen hcurrent hdeeper =>
      have hnext : p.continued? (Text.indent line) (Text.trim line) = some _ :=
        continued?_eq_some_iff.2 ⟨_, _, hopen, hcurrent, hdeeper, rfl⟩
      simp [step, hcontent.1, hcontent.2, hnext]
    | @header name hcontent hends hread hnew =>
      have hnext : p.addSection number name = .ok _ := addSection_eq_ok_iff.2 ⟨hnew, rfl⟩
      simp [step, hcontent.1, hcontent.2, continued?_eq_none_iff.2 hends, accept, hread, hnext]
    | @entry key value sec hcontent hends hread hcurrent hnew =>
      have hnext : p.addEntry number (Text.indent line) key value = .ok _ :=
        addEntry_eq_ok_iff.2 ⟨sec, hcurrent, hnew, rfl⟩
      simp [step, hcontent.1, hcontent.2, continued?_eq_none_iff.2 hends, accept, hread, hnext]

theorem step_comment (h : Line.isComment (Text.trim line) = true) (p : Progress) (number : ℕ) :
    p.step number line = .ok p :=
  step_eq_ok_iff_turn.2 (.comment h)

theorem step_blank (h : Text.trim line = "") (p : Progress) (number : ℕ) :
    p.step number line = .ok p.countBlank :=
  step_eq_ok_iff_turn.2 (.blank h)

theorem run_cons_eq_ok_iff {rest : List String} :
    p.run number (line :: rest) = .ok q ↔
      ∃ m, Turn p number line m ∧ m.run (number + 1) rest = .ok q := by
  simp only [← step_eq_ok_iff_turn, run]
  cases p.step number line <;> simp

theorem run_concat_eq_ok_iff {before : List String} :
    p.run number (before ++ [line]) = .ok q ↔
      ∃ m, p.run number before = .ok m ∧ Turn m (number + before.length) line q := by
  rw [run_append]
  cases p.run number before with
  | error e => simp [Except.bind]
  | ok m =>
    simp only [Except.bind, run, Except.ok.injEq, exists_eq_left', ← step_eq_ok_iff_turn]
    cases m.step (number + before.length) line <;> simp

/-- What holds of the start and is kept by every turn holds after every run. -/
theorem run_invariant {P : List String → Progress → Prop} (hstart : P [] start)
    (hturn : ∀ before p line q, P before p → Turn p (1 + before.length) line q →
      P (before ++ [line]) q)
    {lines : List String} (h : start.run 1 lines = .ok q) : P lines q := by
  induction lines using List.reverseRecOn generalizing q with
  | nil => exact Except.ok.inj h ▸ hstart
  | append_singleton before line ih =>
    obtain ⟨m, hbefore, hlast⟩ := run_concat_eq_ok_iff.1 h
    exact hturn before m line q (ih hbefore) hlast

end Progress

end DeviceCatalog
