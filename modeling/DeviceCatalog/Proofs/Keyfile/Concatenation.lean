import DeviceCatalog.Proofs.Keyfile.FirstFault

/-!
# Two keyfiles in one text

A text that begins with a header means the same behind another text, as far as
section names do not meet. The header closes whatever the first text left open,
and from there on the reader goes on as if it had just begun, with other line
numbers and with more names to avoid. The first name that it meets again ends it.
-/
namespace DeviceCatalog

namespace Section

/-- The section as it is read behind `n` other lines. -/
def moved (n : Nat) (sec : Section) : Section := { sec with line := sec.line + n }

def heading (sec : Section) : String × Nat := (sec.name, sec.line)

end Section

namespace Progress

/-- The state as it is behind `n` other lines that gave the sections `earlier`. -/
def behind (earlier : List Section) (n : Nat) (p : Progress) : Progress :=
  ⟨earlier ++ p.finished.map (Section.moved n), p.current.map (Section.moved n), p.openIndent,
    p.blanks⟩

variable {earlier : List Section} {n number : Nat} {p q : Progress} {line : String}

theorem sections_behind :
    (p.behind earlier n).sections = earlier ++ p.sections.map (Section.moved n) := by
  cases hcurrent : p.current <;> simp [sections, behind, hcurrent]

theorem names_behind :
    (p.behind earlier n).sections.map Section.name =
      earlier.map Section.name ++ p.sections.map Section.name := by
  simp [sections_behind, Section.moved, Function.comp_def]

theorem current_behind {sec : Section} (h : p.current = some sec) :
    (p.behind earlier n).current = some (sec.moved n) := by
  rw [behind, h]
  rfl

theorem continues_behind {indent : Nat} :
    (p.behind earlier n).Continues indent ↔ p.Continues indent := by
  cases hcurrent : p.current <;> simp [Continues, behind, hcurrent]

theorem countBlank_behind : (p.behind earlier n).countBlank = p.countBlank.behind earlier n := by
  rw [countBlank_eq, countBlank_eq]
  rfl

/-- A turn is made behind other text, too, unless that text has a section of the same name. -/
theorem Turn.behind (h : Turn p number line q)
    (hnew : ∀ name ∈ q.sections.map Section.name, name ∉ earlier.map Section.name) :
    Turn (p.behind earlier n) (number + n) line (q.behind earlier n) := by
  cases h with
  | comment hcomment => exact .comment hcomment
  | blank hblank =>
    rw [← countBlank_behind]
    exact .blank hblank
  | continuation hcontent hopen hcurrent hdeeper =>
    have hturn : Turn (p.behind earlier n) (number + n) line _ :=
      .continuation hcontent hopen (current_behind hcurrent) hdeeper
    exact hturn
  | @header name hcontent hends hread hfresh =>
    have hother : name ∉ (p.behind earlier n).sections.map Section.name := by
      rw [names_behind, List.mem_append, not_or]
      exact ⟨hnew name (by simp [sections, Section.empty]), hfresh⟩
    have hturn : Turn (p.behind earlier n) (number + n) line _ :=
      .header hcontent (mt continues_behind.1 hends) hread hother
    rw [sections_behind] at hturn
    exact hturn
  | entry hcontent hends hread hcurrent hfresh =>
    have hturn : Turn (p.behind earlier n) (number + n) line _ :=
      .entry hcontent (mt continues_behind.1 hends) hread (current_behind hcurrent) hfresh
    exact hturn

/-- Only a header changes the headings, and it puts its own behind them. -/
theorem Turn.headings (h : Turn p number line q) :
    q.sections.map Section.heading = p.sections.map Section.heading ∨
      ∃ name, q.sections.map Section.heading =
          p.sections.map Section.heading ++ [(name, number)] ∧
        Line.IsContent line ∧ ¬p.Continues (Text.indent line) ∧
          Line.read (Text.trim line) = .ok (.header name) := by
  cases h with
  | comment hcomment => exact .inl rfl
  | blank hblank => exact .inl (by rw [sections_countBlank])
  | continuation hcontent hopen hcurrent hdeeper =>
    exact .inl (by simp [sections, hcurrent, Section.extend, Section.heading])
  | @header name hcontent hends hread hfresh =>
    exact .inr ⟨name, by simp [sections, Section.empty, Section.heading], hcontent, hends, hread⟩
  | entry hcontent hends hread hcurrent hfresh =>
    exact .inl (by simp [sections, hcurrent, Section.heading])

theorem headings_prefix_of_run {lines : List String} (h : p.run number lines = .ok q) :
    p.sections.map Section.heading <+: q.sections.map Section.heading := by
  induction lines generalizing p number with
  | nil =>
    obtain rfl : p = q := Except.ok.inj h
    exact List.prefix_rfl
  | cons line rest ih =>
    obtain ⟨m, hturn, hrest⟩ := run_cons_eq_ok_iff.1 h
    rcases hturn.headings with hsame | ⟨name, hmore, -⟩
    · rw [← hsame]
      exact ih hrest
    · exact (hmore ▸ List.prefix_append _ _).trans (ih hrest)

/-- The first heading with a name that earlier sections have. -/
def collision? (earlier : List Section) (p : Progress) : Option (String × Nat) :=
  (p.sections.map Section.heading).find? fun heading => earlier.any (·.name == heading.1)

theorem collision?_of_run {lines : List String} {heading : String × Nat}
    (h : p.run number lines = .ok q) (hp : p.collision? earlier = some heading) :
    q.collision? earlier = some heading := by
  obtain ⟨more, hmore⟩ := headings_prefix_of_run h
  rw [collision?, ← hmore, List.find?_append, ← collision?, hp]
  rfl

theorem collision?_eq_none_iff : p.collision? earlier = none ↔
    ∀ name ∈ p.sections.map Section.name, name ∉ earlier.map Section.name := by
  simp [collision?, Section.heading]

theorem exists_of_collision? {heading : String × Nat} (h : p.collision? earlier = some heading) :
    ∃ before sec after, p.sections = before ++ sec :: after ∧ sec.heading = heading ∧
      (∀ other ∈ before, other.name ∉ earlier.map Section.name) ∧
        sec.name ∈ earlier.map Section.name := by
  rw [collision?, List.find?_map, Option.map_eq_some_iff] at h
  obtain ⟨sec, hfind, hheading⟩ := h
  obtain ⟨hold, before, after, hsections, hbefore⟩ := List.find?_eq_some_iff_append.1 hfind
  refine ⟨before, sec, after, hsections, hheading, fun other hother => ?_, ?_⟩
  · simpa [Section.heading] using hbefore other hother
  · simpa [Section.heading] using hold

/-- The turn that brings a name again fails behind the text that has it. -/
theorem Turn.step_behind (h : Turn p number line q) {heading : String × Nat}
    (hp : p.collision? earlier = none) (hq : q.collision? earlier = some heading) :
    (p.behind earlier n).step (number + n) line =
      .error (.duplicateSection (heading.2 + n) heading.1) := by
  rcases h.headings with hsame | ⟨name, hmore, hcontent, hends, hread⟩
  · rw [collision?, hsame, ← collision?, hp] at hq
    cases hq
  · rw [collision?, hmore, List.find?_append, ← collision?, hp, Option.none_or] at hq
    rw [List.find?_singleton] at hq
    split at hq
    · rename_i hold
      obtain rfl := Option.some.inj hq
      have hmem : name ∈ earlier.map Section.name := by simpa using hold
      refine step_eq_error_iff_fault.2 ⟨hcontent, mt continues_behind.1 hends, ?_⟩
      exact .sectionAgain hread (names_behind ▸ List.mem_append_left _ hmem)
    · cases hq

/-- Behind other text a run does the same up to the first name that this text has, too. -/
theorem run_behind {lines : List String} (h : p.run number lines = .ok q)
    (hp : p.collision? earlier = none) :
    (p.behind earlier n).run (number + n) lines =
      match q.collision? earlier with
      | none => .ok (q.behind earlier n)
      | some heading => .error (.duplicateSection (heading.2 + n) heading.1) := by
  induction lines generalizing p number with
  | nil =>
    obtain rfl := Except.ok.inj h
    rw [hp]
    rfl
  | cons line rest ih =>
    obtain ⟨m, hturn, hrest⟩ := run_cons_eq_ok_iff.1 h
    cases hm : m.collision? earlier with
    | none =>
      have hstep := step_eq_ok_iff_turn.2 (hturn.behind (n := n) (collision?_eq_none_iff.1 hm))
      rw [run, hstep, Nat.add_right_comm]
      exact ih hrest hm
    | some heading =>
      rw [run, hturn.step_behind hp hm, collision?_of_run hrest hm]

theorem step_of_bracket (hcontent : Line.IsContent line) (h : line.toList.head? = some '[')
    (hsections : p.sections = q.sections) : p.step number line = q.step number line := by
  have hblank : ∀ c ∈ line.toList.head?, Text.isBlank c = false := by
    rw [h]
    rintro c ⟨⟩
    rfl
  have hbracket := Line.opensBracket_of_head hcontent h
  rw [step_of_leads hcontent (not_continues_of_indent hblank),
    step_of_leads hcontent (not_continues_of_indent hblank), accept, accept]
  cases hread : Line.read (Text.trim line) with
  | error fault => rfl
  | ok parsed =>
    cases parsed with
    | header name => simp only [addSection, hsections]
    | entry key value => simp [Line.opensBracket_of_entry hread] at hbracket

/-- A text that begins with a header leaves nothing open that stands before it. -/
theorem run_of_bracket {lines : List String}
    (h : ∀ line ∈ lines.find? (Line.IsContent ·), line.toList.head? = some '[')
    (hsections : p.sections = q.sections) :
    (p.run number lines).map sections = (q.run number lines).map sections := by
  induction lines generalizing p q number with
  | nil => simp [run, Except.map, hsections]
  | cons line rest ih =>
    by_cases hcontent : Line.IsContent line
    · rw [List.find?_cons_of_pos (by simpa using hcontent)] at h
      rw [run, run, step_of_bracket hcontent (h line rfl) hsections]
    · rw [List.find?_cons_of_neg (by simpa using hcontent)] at h
      by_cases hcomment : Line.isComment (Text.trim line)
      · rw [run, run, step_comment hcomment, step_comment hcomment]
        exact ih h hsections
      · have hblank : Text.trim line = "" := by
          simpa [Line.IsContent, hcomment] using hcontent
        rw [run, run, step_blank hblank, step_blank hblank]
        exact ih h (by rw [sections_countBlank, sections_countBlank, hsections])

end Progress

namespace Keyfile

theorem parse_eq_map_sections (content : String) :
    parse content = ((Progress.start.run 1 (Text.lines content)).map Progress.sections).map mk := by
  rw [parse]
  cases Progress.start.run 1 (Text.lines content) <;> rfl

/-- Behind another keyfile, a text that begins with a header gives its sections with their lines
moved, or else the first one of them that has the name of a section there is an error. -/
theorem parse_append {a b : String} {f g : Keyfile}
    (hend : a = "" ∨ a.toList.getLast? = some '\n')
    (hfirst : ∀ line ∈ (Text.lines b).find? (Line.IsContent ·), line.toList.head? = some '[')
    (ha : parse a = .ok f) (hb : parse b = .ok g) :
    (List.Disjoint f.sectionNames g.sectionNames → parse (a ++ b) =
      .ok ⟨f.sections ++ g.sections.map (Section.moved (Text.lines a).length)⟩) ∧
    (¬List.Disjoint f.sectionNames g.sectionNames →
      ∃ before sec after, g.sections = before ++ sec :: after ∧
        (∀ other ∈ before, other.name ∉ f.sectionNames) ∧ sec.name ∈ f.sectionNames ∧
          parse (a ++ b) =
            .error (.duplicateSection (sec.line + (Text.lines a).length) sec.name)) := by
  obtain ⟨p, hfront, rfl⟩ := map_eq_ok_iff.1 ha
  obtain ⟨q, hback, rfl⟩ := map_eq_ok_iff.1 hb
  have hstart : p.sections = (Progress.start.behind p.sections (Text.lines a).length).sections := by
    rw [Progress.sections_behind]
    exact (List.append_nil _).symm
  have hrun : parse (a ++ b) = ((p.run (1 + (Text.lines a).length) (Text.lines b)).map
      Progress.sections).map mk := by
    rw [parse_eq_map_sections, Text.lines_append hend, Progress.run_append, hfront]
    rfl
  rw [Progress.run_of_bracket hfirst hstart, Progress.run_behind hback rfl] at hrun
  have hnone : q.collision? p.sections = none ↔
      List.Disjoint (sectionNames ⟨p.sections⟩) (sectionNames ⟨q.sections⟩) :=
    Progress.collision?_eq_none_iff.trans List.disjoint_comm
  constructor
  · intro hdisjoint
    rw [hrun, hnone.2 hdisjoint, ← Progress.sections_behind]
    rfl
  · intro hmeet
    cases hcollision : q.collision? p.sections with
    | none => exact absurd (hnone.1 hcollision) hmeet
    | some heading =>
      obtain ⟨before, sec, after, hsections, rfl, hbefore, hold⟩ :=
        Progress.exists_of_collision? hcollision
      rw [hcollision] at hrun
      exact ⟨before, sec, after, hsections, hbefore, hold, hrun⟩

/-- A text with a value that is still open at its end. -/
def frontText (name : String) : String := "[" ++ name ++ "]\nk=1\n\n"

def frontFile (name : String) : Keyfile := ⟨[⟨name, 1, [("k", "1")]⟩]⟩

/-- A text whose first header stands behind a blank line and an indented comment. -/
def backText : String := "\n  ; more\n[B]\nj: 2\n 3\n[A]"

def backFile : Keyfile := ⟨[⟨"B", 3, [("j", "2\n3")]⟩, ⟨"A", 6, []⟩]⟩

theorem parse_append_backText :
    parse (frontText "C" ++ backText) =
      .ok ⟨(frontFile "C").sections ++ backFile.sections.map (Section.moved 3)⟩ ∧
    ∃ before sec after, backFile.sections = before ++ sec :: after ∧
      (∀ other ∈ before, other.name ∉ (frontFile "A").sectionNames) ∧
        sec.name ∈ (frontFile "A").sectionNames ∧
          parse (frontText "A" ++ backText) = .error (.duplicateSection (sec.line + 3) sec.name) :=
  have hother : parse (frontText "C") = .ok (frontFile "C") := by decide +kernel
  have hsame : parse (frontText "A") = .ok (frontFile "A") := by decide +kernel
  have hback : parse backText = .ok backFile := by decide +kernel
  have hfirst : ∀ line ∈ (Text.lines backText).find? (Line.IsContent ·),
      line.toList.head? = some '[' := by decide +kernel
  have hdisjoint : List.Disjoint (frontFile "C").sectionNames backFile.sectionNames := by
    simp [sectionNames, frontFile, backFile]
  have hmeet : ¬List.Disjoint (frontFile "A").sectionNames backFile.sectionNames := by
    simp [sectionNames, frontFile, backFile]
  ⟨(parse_append (.inr (by decide)) hfirst hother hback).1 hdisjoint,
    (parse_append (.inr (by decide)) hfirst hsame hback).2 hmeet⟩

end Keyfile

end DeviceCatalog
