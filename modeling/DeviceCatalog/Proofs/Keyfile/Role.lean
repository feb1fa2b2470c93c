import DeviceCatalog.Proofs.Keyfile.Turn

/-!
# What a line is

The lines before a line decide what it is. A line leads when it is neither blank
nor a comment and does not continue another one. Only the closest leading line
counts: a deeper line behind an entry continues it, and any other line with
content is a header or an entry by its first character.

The reader keeps as much of the closest leading line as it needs. Its open
indentation is there exactly when that line is an entry.
-/
namespace DeviceCatalog

namespace Line

instance : DecidablePred IsContent := fun line =>
  inferInstanceAs (Decidable (isComment (Text.trim line) = false ∧ Text.trim line ≠ ""))

/-- A line with content that starts like a header, behind its indentation. -/
def opensBracket (line : String) : Bool := (Text.trim line).toList.head? == some '['

/-- The closest leading line is an entry, and this line is deeper than it. -/
def continues (leader? : Option String) (line : String) : Bool :=
  leader?.any fun leader => !opensBracket leader && Text.indent leader < Text.indent line

/-- The closest leading line among earlier ones, of which the nearest comes first. -/
def leader? : List String → Option String
  | [] => none
  | line :: earlier =>
    if IsContent line ∧ continues (leader? earlier) line = false then some line
    else leader? earlier

inductive Role where
  | comment
  | blank
  | continuation
  | header
  | entry
  deriving DecidableEq, Repr

/-- What a line is behind earlier lines, of which the nearest comes first. -/
def role (earlier : List String) (line : String) : Role :=
  if isComment (Text.trim line) then .comment
  else if Text.trim line = "" then .blank
  else if continues (leader? earlier) line then .continuation
  else if opensBracket line then .header
  else .entry

variable {earlier : List String} {line name key value : String}

theorem opensBracket_of_header (h : read (Text.trim line) = .ok (.header name)) :
    opensBracket line = true := by
  obtain ⟨inner, tail, htext, -⟩ := readHeader_eq_ok_iff.1 (read_eq_header_iff.1 h)
  simp [opensBracket, htext]

theorem opensBracket_of_entry (h : read (Text.trim line) = .ok (.entry key value)) :
    opensBracket line = false := by
  have hhead := (read_eq_entry_iff.1 h).1
  simpa [opensBracket] using hhead

theorem opensBracket_of_head (hcontent : IsContent line) (h : line.toList.head? = some '[') :
    opensBracket line = true := by
  have hstart : Text.stripStart line.toList = line.toList := by
    apply Text.stripStart_eq_self
    rw [h]
    rintro c ⟨⟩
    rfl
  cases htext : (Text.trim line).toList with
  | nil => exact absurd (String.toList_eq_nil_iff.1 htext) hcontent.2
  | cons c rest =>
    rw [Text.toList_trim, Text.strip, hstart] at htext
    have hhead : c ∈ line.toList.head? := Text.head?_stripEnd _ c (by simp [htext])
    obtain rfl := Option.some.inj (h.symm.trans hhead)
    simp [opensBracket, Text.strip, hstart, htext]

theorem role_comment (h : isComment (Text.trim line) = true) : role earlier line = .comment := by
  simp [role, h]

theorem role_blank (h : Text.trim line = "") : role earlier line = .blank := by
  simp [role, h, isComment]

theorem role_continuation (hcontent : IsContent line)
    (h : continues (leader? earlier) line = true) : role earlier line = .continuation := by
  simp [role, hcontent.1, hcontent.2, h]

theorem role_of_leads (hcontent : IsContent line) (h : continues (leader? earlier) line = false) :
    role earlier line = if opensBracket line then .header else .entry := by
  simp [role, hcontent.1, hcontent.2, h]

theorem role_header (hcontent : IsContent line) (h : continues (leader? earlier) line = false)
    (hread : read (Text.trim line) = .ok (.header name)) : role earlier line = .header := by
  rw [role_of_leads hcontent h, if_pos (opensBracket_of_header hread)]

theorem role_entry (hcontent : IsContent line) (h : continues (leader? earlier) line = false)
    (hread : read (Text.trim line) = .ok (.entry key value)) : role earlier line = .entry := by
  rw [role_of_leads hcontent h, opensBracket_of_entry hread]
  rfl

theorem leader?_of_not_content (h : ¬IsContent line) :
    leader? (line :: earlier) = leader? earlier := by
  simp [leader?, h]

theorem leader?_of_continues (h : continues (leader? earlier) line = true) :
    leader? (line :: earlier) = leader? earlier := by
  simp [leader?, h]

theorem leader?_of_leads (hcontent : IsContent line)
    (h : continues (leader? earlier) line = false) : leader? (line :: earlier) = some line := by
  simp [leader?, hcontent, h]

end Line

namespace Progress

/-- What a state knows of the lines before it, of which the nearest comes first. -/
structure After (earlier : List String) (p : Progress) : Prop where
  getLast?_sections : p.sections.getLast? = p.current
  openIndent : p.openIndent =
    ((Line.leader? earlier).filter fun line => !Line.opensBracket line).map Text.indent
  current_of_open : p.openIndent.isSome → p.current.isSome

namespace After

variable {earlier : List String} {p q : Progress} {number : Nat} {line : String}

theorem start : After [] start := ⟨rfl, rfl, by simp [Progress.start]⟩

/-- The open indentation is all that the state needs to tell a continuation. -/
theorem continues_iff (h : After earlier p) :
    p.Continues (Text.indent line) ↔ Line.continues (Line.leader? earlier) line = true := by
  have hopen : (∃ opened, p.openIndent = some opened ∧ opened < Text.indent line) ↔
      Line.continues (Line.leader? earlier) line = true := by
    rw [h.openIndent, Line.continues]
    cases Line.leader? earlier with
    | none => simp
    | some leader => by_cases hbracket : Line.opensBracket leader <;> simp [hbracket]
  rw [← hopen]
  constructor
  · rintro ⟨opened, sec, hindent, -, hdeeper⟩
    exact ⟨opened, hindent, hdeeper⟩
  · rintro ⟨opened, hindent, hdeeper⟩
    have hcurrent := h.current_of_open (by simp [hindent])
    obtain ⟨sec, hsec⟩ := Option.isSome_iff_exists.1 hcurrent
    exact ⟨opened, sec, hindent, hsec, hdeeper⟩

theorem not_continues_iff (h : After earlier p) :
    ¬p.Continues (Text.indent line) ↔ Line.continues (Line.leader? earlier) line = false := by
  rw [h.continues_iff, Bool.not_eq_true]

theorem pass (h : After earlier p)
    (hleader : Line.leader? (line :: earlier) = Line.leader? earlier) :
    After (line :: earlier) p := by
  refine ⟨h.getLast?_sections, ?_, h.current_of_open⟩
  rw [hleader]
  exact h.openIndent

theorem countBlank (h : After earlier p) : After earlier p.countBlank := by
  rw [countBlank_eq]
  exact ⟨h.getLast?_sections, h.openIndent, h.current_of_open⟩

theorem turn (h : After earlier p) (hturn : Turn p number line q) : After (line :: earlier) q := by
  cases hturn with
  | comment hcomment =>
    exact h.pass (Line.leader?_of_not_content (Line.not_isContent_of_comment hcomment))
  | blank hblank =>
    exact h.countBlank.pass (Line.leader?_of_not_content (Line.not_isContent_of_blank hblank))
  | @continuation opened sec hcontent hopen hcurrent hdeeper =>
    have hcontinues := h.continues_iff.1 ⟨opened, sec, hopen, hcurrent, hdeeper⟩
    apply pass _ (Line.leader?_of_continues hcontinues)
    exact ⟨by simp [sections], h.openIndent, fun _ => rfl⟩
  | header hcontent hends hread hnew =>
    have hleader := Line.leader?_of_leads hcontent (h.not_continues_iff.1 hends)
    refine ⟨by simp [sections], ?_, fun _ => rfl⟩
    simp [hleader, Option.filter_some, Line.opensBracket_of_header hread]
  | entry hcontent hends hread hcurrent hnew =>
    have hleader := Line.leader?_of_leads hcontent (h.not_continues_iff.1 hends)
    refine ⟨by simp [sections], ?_, fun _ => rfl⟩
    simp [hleader, Option.filter_some, Line.opensBracket_of_entry hread]

theorem of_run {lines : List String} (h : Progress.start.run 1 lines = .ok q) :
    After lines.reverse q := by
  refine run_invariant (P := fun lines q => After lines.reverse q) start ?_ h
  intro before p line q hbefore hturn
  rw [List.reverse_concat]
  exact hbefore.turn hturn

end After

end Progress

end DeviceCatalog
