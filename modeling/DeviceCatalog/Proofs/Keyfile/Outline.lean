import DeviceCatalog.Keyfile
import DeviceCatalog.Proofs.Keyfile.Role
import Mathlib.Data.List.DropRight

/-!
# The outline of a keyfile

What the lines of a keyfile mean, said without a reader. Comments are dropped.
Every header line makes a section of the entry lines up to the next header, and
every entry line makes an entry. Its value goes on over the lines behind it, as
far as the last of them that continues it, blank ones in between included.

Reading a text gives the sections of its outline.
-/
namespace DeviceCatalog

namespace Line

/-- The text between the opening bracket and the first closing one. -/
def headerName (text : String) : String :=
  String.ofList (Text.strip (text.toList.tail.takeWhile (· != ']')))

def entryKey (text : String) : String :=
  String.ofList (Text.strip (text.toList.takeWhile (!isDelimiter ·)))

def entryValue (text : String) : String :=
  String.ofList (Text.strip (text.toList.dropWhile (!isDelimiter ·)).tail)

theorem headerName_of_read {text name : String} (h : read text = .ok (.header name)) :
    headerName text = name := by
  obtain ⟨inner, tail, htext, hbracket, -, -, hname⟩ :=
    readHeader_eq_ok_iff.1 (read_eq_header_iff.1 h)
  rw [headerName, htext, List.tail_cons, (cut_header hbracket tail).1, hname]

theorem entry_of_read {text key value : String} (h : read text = .ok (.entry key value)) :
    entryKey text = key ∧ entryValue text = value := by
  obtain ⟨before, delimiter, after, htext, hbefore, hdelimiter, ⟨-, hkey⟩, hvalue⟩ :=
    readEntry_eq_ok_iff.1 (read_eq_entry_iff.1 h).2
  obtain ⟨hfront, hback⟩ := cut_entry hbefore hdelimiter after
  rw [entryKey, entryValue, htext, hfront, hback, hkey, List.tail_cons, hvalue]
  exact ⟨rfl, rfl⟩

end Line

/-- A line that is no comment, with its number, what it is, and its text without outer blanks. -/
structure Mark where
  number : Nat
  role : Line.Role
  text : String
  deriving DecidableEq, Repr

namespace Mark

def leads (mark : Mark) : Bool := mark.role == .header || mark.role == .entry

end Mark

namespace Outline

/-- The marks of lines that stand behind `earlier` ones, of which the nearest comes first. -/
def marks (earlier : List String) : List String → List Mark
  | [] => []
  | line :: rest =>
    if Line.role earlier line = .comment then marks (line :: earlier) rest
    else
      ⟨earlier.length + 1, Line.role earlier line, Text.trim line⟩ :: marks (line :: earlier) rest

/-- The lines behind an entry that its value goes on over. -/
def body (ms : List Mark) : List Mark := (ms.takeWhile (!·.leads)).rdropWhile (·.role = .blank)

/-- What the lines behind an entry add to its value. -/
def continuation (ms : List Mark) : String :=
  String.ofList ((body ms).flatMap fun m => '\n' :: m.text.toList)

/-- One entry for each entry line. -/
def entries : List Mark → List (String × String)
  | [] => []
  | m :: rest =>
    if m.role = .entry then
      (Line.entryKey m.text, Line.entryValue m.text ++ continuation rest) :: entries rest
    else entries rest

/-- The lines in front of the next header. -/
def own (ms : List Mark) : List Mark := ms.takeWhile (·.role != .header)

/-- One section for each header line, with the entries in front of the next one. -/
def sections : List Mark → List Section
  | [] => []
  | m :: rest =>
    if m.role = .header then
      ⟨Line.headerName m.text, m.number, entries (own rest)⟩ :: sections rest
    else sections rest

theorem marks_cons {earlier rest : List String} {line : String} {role : Line.Role}
    (h : Line.role earlier line = role) (hrole : role ≠ .comment) :
    marks earlier (line :: rest) =
      ⟨earlier.length + 1, role, Text.trim line⟩ :: marks (line :: earlier) rest := by
  subst h
  exact if_neg hrole

variable {m : Mark} {ms : List Mark}

theorem rdropWhile_cons {α : Type*} (p : α → Bool) (a : α) (l : List α) :
    (a :: l).rdropWhile p =
      if l.rdropWhile p = [] then [a].rdropWhile p else a :: l.rdropWhile p := by
  simp only [List.rdropWhile, List.reverse_cons, List.dropWhile_append, List.reverse_eq_nil_iff]
  by_cases h : l.reverse.dropWhile p = [] <;> simp [h]

theorem body_of_leads (h : m.leads = true) : body (m :: ms) = [] := by
  simp [body, h]

/-- Blank lines go on with a value only in front of a line that goes on with it. -/
theorem body_cons (h : m.leads = false) : body (m :: ms) =
    if body ms = [] then [m].rdropWhile (·.role = .blank) else m :: body ms := by
  rw [body, List.takeWhile_cons_of_pos (by simp [h]), rdropWhile_cons, ← body]

theorem body_of_continuation (h : m.role = .continuation) : body (m :: ms) = m :: body ms := by
  rw [body_cons (by simp [Mark.leads, h]), List.rdropWhile_singleton]
  by_cases hbody : body ms = [] <;> simp [hbody, h]

theorem body_of_blank (h : m.role = .blank) :
    body (m :: ms) = if body ms = [] then [] else m :: body ms := by
  rw [body_cons (by simp [Mark.leads, h]), List.rdropWhile_singleton]
  simp [h]

theorem own_of_header (h : m.role = .header) : own (m :: ms) = [] := by
  simp [own, h]

theorem own_of_not_header (h : m.role ≠ .header) : own (m :: ms) = m :: own ms := by
  simp [own, h]

/-- A header ends the body of an entry, so only the lines in front of it matter. -/
theorem continuation_own (ms : List Mark) : continuation (own ms) = continuation ms := by
  have hstop : (fun m : Mark => decide ((!m.leads) = true ∧ (m.role != .header) = true)) =
      fun m => !m.leads := by
    funext m
    cases hrole : m.role <;> simp [Mark.leads, hrole]
  rw [continuation, continuation, body, body, own, List.takeWhile_takeWhile, hstop]

theorem entries_eq_append (ms : List Mark) :
    entries ms = entries (own ms) ++ (sections ms).flatMap Section.entries := by
  induction ms with
  | nil => rfl
  | cons m ms ih =>
    by_cases hheader : m.role = .header
    · simp [entries, sections, own_of_header, hheader, ← ih]
    · by_cases hentry : m.role = .entry
      · simp [entries, sections, own_of_not_header, hentry, continuation_own, ← ih]
      · simp [entries, sections, own_of_not_header hheader, hheader, hentry, ← ih]

theorem entries_eq_nil (h : ∀ m ∈ ms, m.role ≠ .entry) : entries ms = [] := by
  induction ms with
  | nil => rfl
  | cons m ms ih =>
    rw [List.forall_mem_cons] at h
    rw [entries, if_neg h.1, ih h.2]

/-- What is still missing from the last value behind a number of blank lines. -/
def pending (blanks : Nat) (ms : List Mark) : String :=
  if body ms = [] then "" else String.ofList (List.replicate blanks '\n') ++ continuation ms

theorem pending_zero (ms : List Mark) : pending 0 ms = continuation ms := by
  by_cases h : body ms = [] <;> simp [pending, continuation, h]

theorem pending_of_leads (blanks : Nat) (h : m.leads = true) : pending blanks (m :: ms) = "" := by
  rw [pending, if_pos (body_of_leads h)]

theorem pending_of_blank (blanks : Nat) (h : m.role = .blank) (htext : m.text = "") :
    pending blanks (m :: ms) = pending (blanks + 1) ms := by
  by_cases hbody : body ms = []
  · simp [pending, body_of_blank h, hbody]
  · rw [← String.toList_inj]
    simp [pending, continuation, body_of_blank h, hbody, htext, List.replicate_succ']

theorem pending_of_continuation (blanks : Nat) (h : m.role = .continuation) :
    pending blanks (m :: ms) =
      String.ofList (List.replicate (blanks + 1) '\n') ++ m.text ++ pending 0 ms := by
  rw [pending_zero, ← String.toList_inj]
  simp [pending, continuation, body_of_continuation h, List.replicate_succ']

end Outline

namespace Section

theorem extendLast_extendLast (first second : String) (entries : List (String × String)) :
    extendLast second (extendLast first entries) = extendLast (first ++ second) entries := by
  rcases List.eq_nil_or_concat entries with rfl | ⟨init, ⟨key, value⟩, rfl⟩
  · rfl
  · simp only [List.concat_eq_append, extendLast_append, String.append_assoc]

theorem extendLast_empty (entries : List (String × String)) : extendLast "" entries = entries := by
  fun_induction extendLast "" entries <;> simp_all

end Section

namespace Outline

/-- A section with all that the lines to come still put into it. Its last entry may be open, with
a number of blank lines behind it. -/
def complete (isOpen : Bool) (blanks : Nat) (ms : List Mark) (sec : Section) : Section :=
  { sec with entries :=
      (if isOpen then Section.extendLast (pending blanks ms) sec.entries else sec.entries) ++
        entries (own ms) }

variable {m : Mark} {ms : List Mark} {isOpen : Bool} {blanks : Nat} {sec : Section}

theorem complete_nil : complete isOpen blanks [] sec = sec := by
  simp [complete, pending, body, own, entries, Section.extendLast_empty]

theorem complete_of_blank (h : m.role = .blank) (htext : m.text = "") :
    complete isOpen blanks (m :: ms) sec =
      complete isOpen (if isOpen then blanks + 1 else blanks) ms sec := by
  cases isOpen <;> simp [complete, pending_of_blank, h, htext, own_of_not_header, entries]

theorem complete_of_continuation (h : m.role = .continuation) :
    complete true blanks (m :: ms) sec =
      complete true 0 ms
        (sec.extend (String.ofList (List.replicate (blanks + 1) '\n') ++ m.text)) := by
  simp [complete, pending_of_continuation, h, own_of_not_header, entries, Section.extend,
    Section.extendLast_extendLast]

theorem complete_of_header (h : m.role = .header) :
    complete isOpen blanks (m :: ms) sec = sec := by
  have hleads : m.leads = true := by simp [Mark.leads, h]
  simp [complete, pending_of_leads, hleads, own_of_header h, entries, Section.extendLast_empty]

theorem complete_empty (name : String) (number : Nat) :
    complete false blanks ms (Section.empty name number) = ⟨name, number, entries (own ms)⟩ :=
  rfl

theorem complete_of_entry (h : m.role = .entry) :
    complete isOpen blanks (m :: ms) sec = complete true 0 ms { sec with
      entries := sec.entries ++ [(Line.entryKey m.text, Line.entryValue m.text)] } := by
  have hleads : m.leads = true := by simp [Mark.leads, h]
  simp [complete, pending_of_leads, hleads, own_of_not_header, entries, h,
    Section.extendLast_empty, Section.extendLast_append, pending_zero, continuation_own]

end Outline

namespace Progress

open Outline

variable {p q : Progress} {m : Mark} {ms : List Mark}

/-- All sections that come of a state and the lines behind it. -/
def outcome (p : Progress) (ms : List Mark) : List Section :=
  p.finished ++ (p.current.map (complete p.openIndent.isSome p.blanks ms)).toList ++
    Outline.sections ms

theorem outcome_nil (p : Progress) : p.outcome [] = p.sections := by
  cases hcurrent : p.current <;> simp [outcome, sections, Outline.sections, hcurrent, complete_nil]

theorem outcome_of_blank (h : m.role = .blank) (htext : m.text = "") :
    p.outcome (m :: ms) = p.countBlank.outcome ms := by
  rw [countBlank_eq]
  cases hcurrent : p.current <;>
    simp [outcome, Outline.sections, hcurrent, h, complete_of_blank, htext]

theorem outcome_of_continuation {sec : Section} (h : m.role = .continuation)
    (hopen : p.openIndent.isSome) (hcurrent : p.current = some sec) :
    p.outcome (m :: ms) = outcome { p with
      current := some (sec.extend (p.breaks ++ m.text)), blanks := 0 } ms := by
  simp [outcome, Outline.sections, hopen, hcurrent, h, complete_of_continuation, breaks]

theorem outcome_of_header (h : m.role = .header) :
    p.outcome (m :: ms) = outcome ⟨p.sections,
      some (Section.empty (Line.headerName m.text) m.number), none, 0⟩ ms := by
  cases hcurrent : p.current <;>
    simp [outcome, sections, Outline.sections, hcurrent, h, complete_of_header, complete_empty]

theorem outcome_of_entry {sec : Section} (h : m.role = .entry) (hcurrent : p.current = some sec)
    (indent : Nat) :
    p.outcome (m :: ms) = outcome ⟨p.finished, some { sec with
      entries := sec.entries ++ [(Line.entryKey m.text, Line.entryValue m.text)] },
        some indent, 0⟩ ms := by
  simp [outcome, Outline.sections, hcurrent, h, complete_of_entry]

/-- No turn changes what comes of the state and the lines from there on. -/
theorem outcome_turn {earlier rest : List String} {line : String} (hafter : After earlier p)
    (h : Turn p (earlier.length + 1) line q) :
    p.outcome (marks earlier (line :: rest)) = q.outcome (marks (line :: earlier) rest) := by
  cases h with
  | comment hcomment => rw [marks, if_pos (Line.role_comment hcomment)]
  | blank hblank =>
    rw [marks_cons (Line.role_blank hblank) (by decide)]
    exact outcome_of_blank rfl hblank
  | @continuation opened sec hcontent hopen hcurrent hdeeper =>
    have hcontinues := hafter.continues_iff.1 ⟨opened, sec, hopen, hcurrent, hdeeper⟩
    rw [marks_cons (Line.role_continuation hcontent hcontinues) (by decide)]
    exact outcome_of_continuation rfl (by simp [hopen]) hcurrent
  | header hcontent hends hread hnew =>
    have hleads := hafter.not_continues_iff.1 hends
    rw [marks_cons (Line.role_header hcontent hleads hread) (by decide), outcome_of_header rfl,
      Line.headerName_of_read hread]
  | entry hcontent hends hread hcurrent hnew =>
    have hleads := hafter.not_continues_iff.1 hends
    have hentry := Line.entry_of_read hread
    rw [marks_cons (Line.role_entry hcontent hleads hread) (by decide),
      outcome_of_entry rfl hcurrent (Text.indent line), hentry.1, hentry.2]

theorem sections_of_run {earlier rest : List String} (hafter : After earlier p)
    (h : p.run (earlier.length + 1) rest = .ok q) :
    q.sections = p.outcome (marks earlier rest) := by
  induction rest generalizing earlier p with
  | nil =>
    rw [← Except.ok.inj h]
    exact (outcome_nil p).symm
  | cons line rest ih =>
    obtain ⟨m, hturn, hrest⟩ := run_cons_eq_ok_iff.1 h
    rw [outcome_turn hafter hturn]
    exact ih (hafter.turn hturn) hrest

/-- Before the first header no line can be an entry. -/
theorem own_marks_of_run {earlier rest : List String} (hafter : After earlier p)
    (hnone : p.current = none) (h : p.run (earlier.length + 1) rest = .ok q) :
    ∀ m ∈ own (marks earlier rest), m.role ≠ .entry := by
  induction rest generalizing earlier p with
  | nil => simp [marks, own]
  | cons line rest ih =>
    obtain ⟨m, hturn, hrest⟩ := run_cons_eq_ok_iff.1 h
    have hnext := hafter.turn hturn
    cases hturn with
    | comment hcomment =>
      rw [marks, if_pos (Line.role_comment hcomment)]
      exact ih hnext hnone hrest
    | blank hblank =>
      rw [marks_cons (Line.role_blank hblank) (by decide), own_of_not_header (by simp),
        List.forall_mem_cons]
      rw [countBlank_eq] at hnext hrest
      exact ⟨by simp, ih hnext hnone hrest⟩
    | continuation hcontent hopen hcurrent hdeeper => simp [hnone] at hcurrent
    | header hcontent hends hread hnew =>
      have hleads := hafter.not_continues_iff.1 hends
      rw [marks_cons (Line.role_header hcontent hleads hread) (by decide), own_of_header rfl]
      exact List.forall_mem_nil _
    | entry hcontent hends hread hcurrent hnew => simp [hnone] at hcurrent

end Progress

namespace Keyfile

/-- The sections of a keyfile are those of its outline, and its entries are all the entries there,
so each header line counts once and each entry line counts once. -/
theorem sections_eq_outline {content : String} {file : Keyfile} (h : parse content = .ok file) :
    file.sections = Outline.sections (Outline.marks [] (Text.lines content)) ∧
      file.sections.flatMap Section.entries =
        Outline.entries (Outline.marks [] (Text.lines content)) := by
  obtain ⟨q, hrun, rfl⟩ := map_eq_ok_iff.1 h
  have hsections := Progress.sections_of_run .start hrun
  have hfirst := Progress.own_marks_of_run .start rfl hrun
  refine ⟨hsections, ?_⟩
  rw [Outline.entries_eq_append, Outline.entries_eq_nil hfirst, List.nil_append]
  exact congrArg (List.flatMap Section.entries) hsections

/-- A value goes on over a line that looks like a header and past a comment and blank lines. The
indented header behind the next entry is not deep enough to continue it. -/
def indentedText : String :=
  "[A]\n  k = a\n\n# c\n    [B]\n   ; d\n\n     x=y\n\n  l: b\n\t[C]\n[D]"

def indentedFile : Keyfile :=
  ⟨[⟨"A", 1, [("k", "a\n\n[B]\n\nx=y"), ("l", "b")]⟩, ⟨"C", 11, []⟩, ⟨"D", 12, []⟩]⟩

theorem sections_eq_outline_indentedText :
    parse indentedText = .ok indentedFile ∧
      indentedFile.sections = Outline.sections (Outline.marks [] (Text.lines indentedText)) ∧
        indentedFile.sections.flatMap Section.entries =
          Outline.entries (Outline.marks [] (Text.lines indentedText)) :=
  have h : parse indentedText = .ok indentedFile := by decide +kernel
  ⟨h, sections_eq_outline h⟩

end Keyfile

end DeviceCatalog
