import DeviceCatalog.Proofs.Keyfile.Comments
import DeviceCatalog.Proofs.Keyfile.Role
import Mathlib.Data.List.DropRight

/-!
# The open entry

Between two lines the reader stands behind nothing but comments and blank lines, or
behind a header, or behind an entry. In the last case alone there is something to
continue: the last entry of the last section, which comes from the closest leading
line. Its value and the line feeds that are still pending are together what that line
and the lines since say.

So a line that continues an entry always finds one, and its text is kept. Blank lines
between a header and its first entry get into no value.
-/
namespace DeviceCatalog

namespace Line

/-- What lines are behind `earlier` ones, of which the nearest comes first. -/
def roles (earlier : List String) : List String → List Role
  | [] => []
  | line :: rest => role earlier line :: roles (line :: earlier) rest

/-- The last leading line of `lines`, with the lines in front of it and those since. -/
structure IsLastLeader (lines front : List String) (leader : String) (since : List String) :
    Prop where
  eq_append : lines = front ++ leader :: since
  leads : role front.reverse leader ∉ [.comment, .blank, .continuation]
  passed : ∀ r ∈ roles (leader :: front.reverse) since, r ∈ [.comment, .blank, .continuation]

/-- The number of blank lines behind the last line with content. -/
def trailingBlanks (lines : List String) : ℕ :=
  (lines.rtakeWhile (¬IsContent ·)).countP (Text.trim · = "")

/-- The texts of lines without the comments among them, each behind a line feed. -/
def written (lines : List String) : String :=
  String.ofList ((lines.filter fun line => !isComment (Text.trim line)).flatMap
    fun line => '\n' :: (Text.trim line).toList)

variable {lines front since : List String} {line leader : String}

theorem roles_concat (earlier lines : List String) (line : String) :
    roles earlier (lines ++ [line]) =
      roles earlier lines ++ [role (lines.reverse ++ earlier) line] := by
  induction lines generalizing earlier with
  | nil => rfl
  | cons first rest ih => simp [roles, ih]

namespace IsLastLeader

theorem concat (h : IsLastLeader lines front leader since)
    (hrole : role lines.reverse line ∈ [.comment, .blank, .continuation]) :
    IsLastLeader (lines ++ [line]) front leader (since ++ [line]) := by
  refine ⟨by simp [h.eq_append], h.leads, ?_⟩
  rw [h.eq_append, List.reverse_append, List.reverse_cons, List.append_assoc] at hrole
  rw [roles_concat, List.forall_mem_append]
  exact ⟨h.passed, by simpa using hrole⟩

theorem of_leads (h : role lines.reverse line ∉ [.comment, .blank, .continuation]) :
    IsLastLeader (lines ++ [line]) lines line [] :=
  ⟨rfl, h, List.forall_mem_nil _⟩

end IsLastLeader

theorem trailingBlanks_of_comment (h : isComment (Text.trim line) = true) :
    trailingBlanks (lines ++ [line]) = trailingBlanks lines := by
  have hne : Text.trim line ≠ "" := by
    intro hblank
    simp [hblank, isComment] at h
  simp [trailingBlanks, not_isContent_of_comment h, hne]

theorem trailingBlanks_of_blank (h : Text.trim line = "") :
    trailingBlanks (lines ++ [line]) = trailingBlanks lines + 1 := by
  simp [trailingBlanks, not_isContent_of_blank h, h]

theorem trailingBlanks_of_content (h : IsContent line) : trailingBlanks (lines ++ [line]) = 0 := by
  simp [trailingBlanks, h]

theorem written_of_comment (h : isComment (Text.trim line) = true) :
    written (lines ++ [line]) = written lines := by
  simp [written, h]

theorem written_of_not_comment (h : isComment (Text.trim line) = false) :
    written (lines ++ [line]) = written lines ++ ("\n" ++ Text.trim line) := by
  rw [← String.toList_inj]
  simp [written, h]

end Line

namespace Progress

def lineFeeds (n : ℕ) : String := String.ofList (List.replicate n '\n')

theorem lineFeeds_zero : lineFeeds 0 = "" := rfl

theorem lineFeeds_succ (n : ℕ) : lineFeeds (n + 1) = lineFeeds n ++ "\n" := by
  rw [lineFeeds, List.replicate_succ', String.ofList_append]
  rfl

theorem countBlank_of_closed {p : Progress} (h : p.openIndent = none) : p.countBlank = p := by
  simp [countBlank, h]

theorem getLast?_sections_of_current {p : Progress} {sec : Section} (h : p.current = some sec) :
    p.sections.getLast? = some sec := by
  rw [sections_eq_concat h, List.getLast?_concat]

/-- How a state comes of the lines before it. -/
inductive Carried (lines : List String) : Progress → Prop where
  | nothing (hempty : ∀ line ∈ lines, ¬Line.IsContent line) : Carried lines start
  | header {front since : List String} {leader name : String} {finished : List Section}
      (hleader : Line.IsLastLeader lines front leader since)
      (hread : Line.read (Text.trim leader) = .ok (.header name))
      (hempty : ∀ line ∈ since, ¬Line.IsContent line) :
      Carried lines ⟨finished, some (Section.empty name (1 + front.length)), none, 0⟩
  | entry {front since : List String} {leader key value held : String}
      {finished : List Section} {sec : Section} {blanks : ℕ}
      (hleader : Line.IsLastLeader lines front leader since)
      (hread : Line.read (Text.trim leader) = .ok (.entry key value))
      (hblanks : Line.trailingBlanks lines = blanks)
      (hheld : held ++ lineFeeds blanks = value ++ Line.written since) :
      Carried lines ⟨finished, some { sec with entries := sec.entries ++ [(key, held)] },
        some (Text.indent leader), blanks⟩

namespace Carried

variable {lines : List String} {p q : Progress} {line : String}

/-- While no entry is open, nothing is kept of a line without content. -/
theorem pass (h : Carried lines p) (hclosed : p.openIndent = none)
    (hrole : Line.role lines.reverse line ∈ [.comment, .blank, .continuation])
    (hline : ¬Line.IsContent line) : Carried (lines ++ [line]) p := by
  have hlast : ∀ later ∈ [line], ¬Line.IsContent later := List.forall_mem_singleton.2 hline
  cases h with
  | nothing hempty => exact .nothing (List.forall_mem_append.2 ⟨hempty, hlast⟩)
  | header hleader hread hempty =>
    exact .header (hleader.concat hrole) hread (List.forall_mem_append.2 ⟨hempty, hlast⟩)
  | entry => cases hclosed

theorem comment (h : Carried lines p) (hcomment : Line.isComment (Text.trim line) = true) :
    Carried (lines ++ [line]) p := by
  have hrole : Line.role lines.reverse line ∈ [.comment, .blank, .continuation] := by
    simp [Line.role_comment hcomment]
  by_cases hclosed : p.openIndent = none
  · exact h.pass hclosed hrole (Line.not_isContent_of_comment hcomment)
  · cases h with
    | nothing => exact absurd rfl hclosed
    | header => exact absurd rfl hclosed
    | entry hleader hread hblanks hheld =>
      refine .entry (hleader.concat hrole) hread ?_ ?_
      · rw [Line.trailingBlanks_of_comment hcomment, hblanks]
      · rw [Line.written_of_comment hcomment, hheld]

/-- Behind an open entry a blank line is one more line feed that is pending. -/
theorem blank (h : Carried lines p) (hblank : Text.trim line = "") :
    Carried (lines ++ [line]) p.countBlank := by
  have hrole : Line.role lines.reverse line ∈ [.comment, .blank, .continuation] := by
    simp [Line.role_blank hblank]
  by_cases hclosed : p.openIndent = none
  · rw [countBlank_of_closed hclosed]
    exact h.pass hclosed hrole (Line.not_isContent_of_blank hblank)
  · cases h with
    | nothing => exact absurd rfl hclosed
    | header => exact absurd rfl hclosed
    | entry hleader hread hblanks hheld =>
      have hcomment : Line.isComment (Text.trim line) = false := by simp [hblank, Line.isComment]
      refine .entry (hleader.concat hrole) hread ?_ ?_
      · rw [Line.trailingBlanks_of_blank hblank, hblanks]
      · rw [lineFeeds_succ, ← String.append_assoc, hheld, Line.written_of_not_comment hcomment,
          hblank, String.append_assoc, String.append_empty]

/-- A continuation line takes the pending line feeds along into the value. -/
theorem continuation (h : Carried lines p) (hafter : After lines.reverse p) {opened : ℕ}
    {sec : Section} (hcontent : Line.IsContent line) (hopen : p.openIndent = some opened)
    (hcurrent : p.current = some sec) (hdeeper : opened < Text.indent line) :
    Carried (lines ++ [line])
      { p with current := some (sec.extend (p.breaks ++ Text.trim line)), blanks := 0 } := by
  have hcontinues := hafter.continues_iff.1 ⟨opened, sec, hopen, hcurrent, hdeeper⟩
  have hrole : Line.role lines.reverse line ∈ [.comment, .blank, .continuation] := by
    simp [Line.role_continuation hcontent hcontinues]
  cases h with
  | nothing => cases hopen
  | header => cases hopen
  | @entry front since leader key value held finished sec blanks hleader hread hblanks hheld =>
    obtain rfl := Option.some.inj hcurrent
    have hkept : held ++ (lineFeeds (blanks + 1) ++ Text.trim line) ++ lineFeeds 0 =
        value ++ Line.written (since ++ [line]) := by
      calc held ++ (lineFeeds (blanks + 1) ++ Text.trim line) ++ lineFeeds 0
          = held ++ lineFeeds blanks ++ ("\n" ++ Text.trim line) := by
            simp [lineFeeds_succ, lineFeeds_zero, String.append_assoc]
        _ = value ++ Line.written since ++ ("\n" ++ Text.trim line) := by rw [hheld]
        _ = value ++ Line.written (since ++ [line]) := by
            rw [Line.written_of_not_comment hcontent.1, String.append_assoc]
    have hcarried : Carried (lines ++ [line]) ⟨finished, some { sec with
        entries := sec.entries ++ [(key, held ++ (lineFeeds (blanks + 1) ++ Text.trim line))] },
          some (Text.indent leader), 0⟩ :=
      .entry (hleader.concat hrole) hread (Line.trailingBlanks_of_content hcontent) hkept
    rw [Section.extend, Section.extendLast_append]
    exact hcarried

theorem turn (h : Carried lines p) (hafter : After lines.reverse p)
    (hturn : Turn p (1 + lines.length) line q) : Carried (lines ++ [line]) q := by
  cases hturn with
  | comment hcomment => exact h.comment hcomment
  | blank hblank => exact h.blank hblank
  | continuation hcontent hopen hcurrent hdeeper =>
    exact h.continuation hafter hcontent hopen hcurrent hdeeper
  | header hcontent hends hread hnew =>
    have hrole := Line.role_header hcontent (hafter.not_continues_iff.1 hends) hread
    exact .header (.of_leads (by simp [hrole])) hread (List.forall_mem_nil _)
  | entry hcontent hends hread hcurrent hnew =>
    have hrole := Line.role_entry hcontent (hafter.not_continues_iff.1 hends) hread
    exact .entry (.of_leads (by simp [hrole])) hread (Line.trailingBlanks_of_content hcontent) rfl

theorem of_run {lines : List String} (h : Progress.start.run 1 lines = .ok q) :
    Carried lines q := by
  have hboth : After lines.reverse q ∧ Carried lines q := by
    refine run_invariant (P := fun lines q => After lines.reverse q ∧ Carried lines q)
      ⟨.start, .nothing (List.forall_mem_nil _)⟩ ?_ h
    intro before p line q ⟨hafter, hcarried⟩ hturn
    rw [List.reverse_concat]
    exact ⟨hafter.turn hturn, hcarried.turn hafter hturn⟩
  exact hboth.2

theorem openIndent_eq_none (h : Carried lines p)
    (hempty : ∀ sec ∈ p.sections.getLast?, sec.entries = []) : p.openIndent = none := by
  cases h with
  | nothing => rfl
  | header => rfl
  | entry => simp [getLast?_sections_of_current] at hempty

end Carried

end Progress

namespace Keyfile

/-- A blank line is not kept while no entry is open, so what is read is the same without it. -/
theorem ofLines_insert_blank {lines : List String} {p : Progress}
    (h : Progress.start.run 1 lines = .ok p) (hclosed : p.openIndent = none) {blank : String}
    (hblank : Text.trim blank = "") (after : List String) :
    ofLines (lines ++ blank :: after) =
      renumber (Line.pushedDown lines.length) (ofLines (lines ++ after)) := by
  have hidle : ∀ q, Progress.start.run 1 lines = .ok q → ∀ f number,
      (q.relaid 0 f).step number blank = .ok (q.relaid 0 f) := by
    intro q hq f number
    obtain rfl : p = q := Except.ok.inj (h.symm.trans hq)
    have hrelaid : (p.relaid 0 f).openIndent = none := by
      rw [Progress.relaid, hclosed, Option.map_none]
    rw [Progress.step_blank hblank, Progress.countBlank_of_closed hrelaid]
  rw [ofLines, ofLines, Progress.run_insert_idle hidle, map_relaidOutcome]

end Keyfile

namespace Progress

/-- What the sections, the open indentation and the pending blank lines of a state say of the lines
before it, and what that means for the lines behind it. -/
structure Consistent (lines : List String) (p : Progress) : Prop where
  /-- The last entry is the one that is open. What it does not hold of the lines since is pending. -/
  of_open : ∀ opened, p.openIndent = some opened →
    ∃ front leader since sec others key value held,
      Line.IsLastLeader lines front leader since ∧ Text.indent leader = opened ∧
      Line.read (Text.trim leader) = .ok (.entry key value) ∧
      p.sections.getLast? = some sec ∧ sec.entries = others ++ [(key, held)] ∧
      held ++ lineFeeds p.blanks = value ++ Line.written since ∧
      p.blanks = Line.trailingBlanks lines
  /-- Otherwise there is no section yet, or the last one has just begun. -/
  of_closed : p.openIndent = none → p.blanks = 0 ∧
    ((∀ line ∈ lines, ¬Line.IsContent line) ∧ p.sections = [] ∨ ∃ front header since name,
      Line.IsLastLeader lines front header since ∧ (∀ line ∈ since, ¬Line.IsContent line) ∧
      Line.read (Text.trim header) = .ok (.header name) ∧
      p.sections.getLast? = some (Section.empty name (1 + front.length)))
  /-- A deeper line finds a section with an entry, and its text goes behind the last value. -/
  step_deeper : ∀ opened number line, p.openIndent = some opened → Line.IsContent line →
    opened < Text.indent line →
      ∃ earlier sec others key held q, p.sections = earlier ++ [sec] ∧
        sec.entries = others ++ [(key, held)] ∧ p.step number line = .ok q ∧
        q.sections = earlier ++ [{ sec with
          entries := others ++ [(key, held ++ (lineFeeds (p.blanks + 1) ++ Text.trim line))] }]
  /-- A blank line in front of the first entry of a section only moves the lines behind it. -/
  insert_blank : (∀ sec ∈ p.sections.getLast?, sec.entries = []) →
    ∀ blank after, Text.trim blank = "" →
      Keyfile.ofLines (lines ++ blank :: after) =
        Keyfile.renumber (Line.pushedDown lines.length) (Keyfile.ofLines (lines ++ after))

/-- After any number of lines of any text, the state is consistent with them. -/
theorem consistent_of_run (content : String) (k : ℕ) {p : Progress}
    (h : start.run 1 ((Text.lines content).take k) = .ok p) :
    Consistent ((Text.lines content).take k) p := by
  have hcarried := Carried.of_run h
  constructor
  case of_open =>
    intro opened hopen
    cases hcarried with
    | nothing => cases hopen
    | header => cases hopen
    | entry hleader hread hblanks hheld =>
      exact ⟨_, _, _, _, _, _, _, _, hleader, Option.some.inj hopen, hread,
        getLast?_sections_of_current rfl, rfl, hheld, hblanks.symm⟩
  case of_closed =>
    intro hclosed
    cases hcarried with
    | nothing hempty => exact ⟨rfl, .inl ⟨hempty, rfl⟩⟩
    | header hleader hread hempty =>
      exact ⟨rfl, .inr ⟨_, _, _, _, hleader, hempty, hread, getLast?_sections_of_current rfl⟩⟩
    | entry => cases hclosed
  case step_deeper =>
    intro opened number line hopen hcontent hdeeper
    cases hcarried with
    | nothing => cases hopen
    | header => cases hopen
    | entry hleader hread hblanks hheld =>
      refine ⟨_, _, _, _, _, _, sections_eq_concat rfl, rfl,
        step_eq_ok_iff_turn.2 (.continuation hcontent hopen rfl hdeeper), ?_⟩
      rw [Section.extend, Section.extendLast_append]
      rfl
  case insert_blank =>
    intro hempty blank after hblank
    exact Keyfile.ofLines_insert_blank h (hcarried.openIndent_eq_none hempty) hblank after

/-- A value that goes on over what looks like a header, behind a header with a blank line and a
comment behind it. -/
def openText : String := "\n[A]\n\n # c\n k=1\n   [B]\n\n; d\n\n  j=2\n"

/-- In front of the first entry. -/
def closedState : Progress := ⟨[], some ⟨"A", 2, []⟩, none, 0⟩

/-- In front of the last line, with two blank lines pending. -/
def openState : Progress := ⟨[], some ⟨"A", 2, [("k", "1\n[B]")]⟩, some 1, 2⟩

theorem consistent_openText :
    start.run 1 ((Text.lines openText).take 4) = .ok closedState ∧
      Consistent ((Text.lines openText).take 4) closedState ∧
      start.run 1 ((Text.lines openText).take 9) = .ok openState ∧
      Consistent ((Text.lines openText).take 9) openState :=
  have hclosed : start.run 1 ((Text.lines openText).take 4) = .ok closedState := by decide +kernel
  have hopen : start.run 1 ((Text.lines openText).take 9) = .ok openState := by decide +kernel
  ⟨hclosed, consistent_of_run openText 4 hclosed, hopen, consistent_of_run openText 9 hopen⟩

end Progress

end DeviceCatalog
