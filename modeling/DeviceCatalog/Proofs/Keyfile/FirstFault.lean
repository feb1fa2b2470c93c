import DeviceCatalog.Keyfile
import DeviceCatalog.Proofs.Keyfile.Role
import DeviceCatalog.Proofs.Text.Cuts

/-!
# The first fault

A text that is no keyfile fails at its first line that cannot be read behind the
lines before it. These alone are a keyfile, and no line behind the faulty one
matters. What the line says and the sections before it decide which error it is.
-/
namespace DeviceCatalog

namespace Progress

/-- What is wrong with the text of a line that has to be a header or an entry. -/
inductive Fault (p : Progress) (number : Nat) (text : String) : KeyfileError → Prop where
  | unreadable {fault : LineFault} (hread : Line.read text = .error fault) :
      Fault p number text (.invalidLine number fault)
  | sectionAgain {name : String} (hread : Line.read text = .ok (.header name))
      (hold : name ∈ p.sections.map Section.name) :
      Fault p number text (.duplicateSection number name)
  | noSection {key value : String} (hread : Line.read text = .ok (.entry key value))
      (hcurrent : p.current = none) : Fault p number text (.keyOutsideSection number key)
  | keyAgain {key value : String} {sec : Section}
      (hread : Line.read text = .ok (.entry key value)) (hcurrent : p.current = some sec)
      (hold : key ∈ sec.keys) : Fault p number text (.duplicateKey number sec.name key)

variable {p : Progress} {number : Nat} {line text : String} {e : KeyfileError}

theorem addSection_eq_error_iff {name : String} :
    p.addSection number name = .error e ↔
      name ∈ p.sections.map Section.name ∧ .duplicateSection number name = e := by
  unfold addSection
  split <;> simp_all

theorem addEntry_eq_error_iff {indent : Nat} {key value : String} :
    p.addEntry number indent key value = .error e ↔
      p.current = none ∧ .keyOutsideSection number key = e ∨
        ∃ sec, p.current = some sec ∧ key ∈ sec.keys ∧ .duplicateKey number sec.name key = e := by
  unfold addEntry
  cases p.current with
  | none => simp
  | some sec =>
    by_cases hkey : key ∈ sec.keys
    · simp [Section.insert_of_mem_keys hkey, hkey]
    · simp [Section.insert_of_not_mem_keys hkey, hkey]

theorem accept_eq_error_iff_fault {indent : Nat} :
    p.accept number indent text = .error e ↔ Fault p number text e := by
  unfold accept
  constructor
  · intro h
    split at h
    · rename_i fault hread
      obtain rfl := Except.error.inj h
      exact .unreadable hread
    · rename_i name hread
      obtain ⟨hold, rfl⟩ := addSection_eq_error_iff.1 h
      exact .sectionAgain hread hold
    · rename_i key value hread
      rcases addEntry_eq_error_iff.1 h with ⟨hcurrent, rfl⟩ | ⟨sec, hcurrent, hold, rfl⟩
      · exact .noSection hread hcurrent
      · exact .keyAgain hread hcurrent hold
  · intro h
    cases h with
    | unreadable hread => simp [hread]
    | sectionAgain hread hold => simp [hread, addSection_eq_error_iff.2 ⟨hold, rfl⟩]
    | noSection hread hcurrent =>
      simp [hread, addEntry_eq_error_iff.2 (.inl ⟨hcurrent, rfl⟩)]
    | keyAgain hread hcurrent hold =>
      simp [hread, addEntry_eq_error_iff.2 (.inr ⟨_, hcurrent, hold, rfl⟩)]

theorem step_eq_error_iff_fault :
    p.step number line = .error e ↔
      Line.IsContent line ∧ ¬p.Continues (Text.indent line) ∧
        Fault p number (Text.trim line) e := by
  have hends : p.continued? (Text.indent line) (Text.trim line) = none ↔
      ¬p.Continues (Text.indent line) := continued?_eq_none_iff
  have haccept : p.accept number (Text.indent line) (Text.trim line) = .error e ↔
      Fault p number (Text.trim line) e := accept_eq_error_iff_fault
  rw [← hends, ← haccept, step]
  by_cases hcomment : Line.isComment (Text.trim line)
  · simp [Line.IsContent, hcomment]
  · by_cases hblank : Text.trim line = ""
    · simp [Line.IsContent, hblank, Line.isComment]
    · cases p.continued? (Text.indent line) (Text.trim line) <;>
        simp [Line.IsContent, hcomment, hblank]

namespace Fault

theorem line_eq (h : Fault p number text e) : e.line = number := by
  cases h <;> rfl

theorem eq_invalidLine_iff (h : Fault p number text e) {fault : LineFault} :
    e = .invalidLine number fault ↔ Line.read text = .error fault := by
  cases h <;> simp_all

theorem eq_duplicateSection_iff (h : Fault p number text e) {name : String} :
    e = .duplicateSection number name ↔
      Line.read text = .ok (.header name) ∧ name ∈ p.sections.map Section.name := by
  cases h with
  | unreadable hread => simp [hread]
  | sectionAgain hread hold =>
    rw [hread]
    constructor
    · rintro ⟨⟩
      exact ⟨rfl, hold⟩
    · rintro ⟨⟨⟩, -⟩
      rfl
  | noSection hread => simp [hread]
  | keyAgain hread => simp [hread]

theorem eq_keyOutsideSection_iff (h : Fault p number text e) {key : String} :
    e = .keyOutsideSection number key ↔
      (∃ value, Line.read text = .ok (.entry key value)) ∧ p.current = none := by
  cases h with
  | unreadable hread => simp [hread]
  | sectionAgain hread => simp [hread]
  | noSection hread hcurrent => simp [hread, hcurrent]
  | keyAgain hread hcurrent => simp [hcurrent]

theorem eq_duplicateKey_iff (h : Fault p number text e) {name key : String} :
    e = .duplicateKey number name key ↔
      (∃ value, Line.read text = .ok (.entry key value)) ∧
        ∃ sec, p.current = some sec ∧ key ∈ sec.keys ∧ sec.name = name := by
  cases h with
  | unreadable hread => simp [hread]
  | sectionAgain hread => simp [hread]
  | noSection hread hcurrent => simp [hcurrent]
  | @keyAgain again value sec hread hcurrent hold =>
    rw [hread, hcurrent]
    constructor
    · rintro ⟨⟩
      exact ⟨⟨value, rfl⟩, sec, rfl, hold, rfl⟩
    · rintro ⟨⟨_, ⟨⟩⟩, _, ⟨⟩, -, rfl⟩
      rfl

end Fault

theorem exists_fault_of_run {lines : List String} (h : p.run number lines = .error e) :
    ∃ before line after q, lines = before ++ line :: after ∧ p.run number before = .ok q ∧
      q.step (number + before.length) line = .error e := by
  induction lines generalizing p number with
  | nil => simp [run] at h
  | cons line rest ih =>
    rw [run] at h
    cases hstep : p.step number line with
    | error fault =>
      rw [hstep] at h
      exact ⟨[], line, rest, p, rfl, rfl, hstep.trans h⟩
    | ok next =>
      rw [hstep] at h
      obtain ⟨before, faulty, after, q, rfl, hbefore, hfault⟩ := ih h
      refine ⟨line :: before, faulty, after, q, rfl, ?_, ?_⟩
      · rw [run, hstep]
        exact hbefore
      · rwa [List.length_cons, Nat.add_comm before.length, ← Nat.add_assoc]

theorem run_of_fault {before : List String} {q : Progress} (hbefore : p.run number before = .ok q)
    (hfault : q.step (number + before.length) line = .error e) (after : List String) :
    p.run number (before ++ line :: after) = .error e := by
  rw [run_append, hbefore]
  simp [Except.bind, run, hfault]

theorem exists_run_of_run_append {before after : List String} {q : Progress}
    (h : p.run number (before ++ after) = .ok q) : ∃ m, p.run number before = .ok m := by
  rw [run_append] at h
  obtain ⟨m, hm, -⟩ := bind_eq_ok_iff.1 h
  exact ⟨m, hm⟩

end Progress

namespace Keyfile

theorem parse_firstLines (k : Nat) (content : String) :
    parse (Text.firstLines k content) =
      (Progress.start.run 1 ((Text.lines content).take k)).map fun p => ⟨p.sections⟩ := by
  rw [parse, Text.lines_firstLines]

/-- An error that shows at `line`, behind text that is read as `before`. -/
structure FirstFault (content : String) (e : KeyfileError) (before : Keyfile) (line : String) :
    Prop where
  one_le : 1 ≤ e.line
  le_length : e.line ≤ (Text.lines content).length
  getElem?_lines : (Text.lines content)[e.line - 1]? = some line
  parse_before : parse (Text.firstLines (e.line - 1) content) = .ok before
  parse_from : ∀ k, e.line ≤ k → parse (Text.firstLines k content) = .error e
  leads : Line.role ((Text.lines content).take (e.line - 1)).reverse line ∉
    [.comment, .blank, .continuation]
  eq_invalidLine_iff : ∀ fault,
    e = .invalidLine e.line fault ↔ Line.read (Text.trim line) = .error fault
  eq_duplicateSection_iff : ∀ name, e = .duplicateSection e.line name ↔
    Line.read (Text.trim line) = .ok (.header name) ∧ name ∈ before.sectionNames
  eq_keyOutsideSection_iff : ∀ key, e = .keyOutsideSection e.line key ↔
    (∃ value, Line.read (Text.trim line) = .ok (.entry key value)) ∧ before.sections = []
  eq_duplicateKey_iff : ∀ name key, e = .duplicateKey e.line name key ↔
    (∃ value, Line.read (Text.trim line) = .ok (.entry key value)) ∧
      ∃ sec, before.sections.getLast? = some sec ∧ key ∈ sec.keys ∧ sec.name = name

/-- All first lines up to a faulty one fail with its error, however many come after it. -/
theorem parse_firstLines_of_fault {content line : String} {e : KeyfileError}
    {before after : List String} {q : Progress}
    (hlines : Text.lines content = before ++ line :: after)
    (hbefore : Progress.start.run 1 before = .ok q)
    (hstep : q.step (1 + before.length) line = .error e) {k : Nat} (hk : before.length < k) :
    parse (Text.firstLines k content) = .error e := by
  obtain ⟨n, rfl⟩ : ∃ n, k = before.length + (n + 1) := ⟨k - before.length - 1, by omega⟩
  have htake : (Text.lines content).take (before.length + (n + 1)) =
      before ++ line :: after.take n := by
    rw [hlines, List.take_length_add_append, List.take_succ_cons]
  rw [parse_firstLines, htake, Progress.run_of_fault hbefore hstep]
  rfl

theorem firstFault_of_step {content line : String} {e : KeyfileError} {before after : List String}
    {q : Progress} (hlines : Text.lines content = before ++ line :: after)
    (hbefore : Progress.start.run 1 before = .ok q)
    (hstep : q.step (1 + before.length) line = .error e) :
    FirstFault content e ⟨q.sections⟩ line := by
  obtain ⟨hcontent, hends, hfault⟩ := Progress.step_eq_error_iff_fault.1 hstep
  have hafter := Progress.After.of_run hbefore
  have hline : e.line = 1 + before.length := hfault.line_eq
  have hindex : e.line - 1 = before.length := by omega
  have htake : (Text.lines content).take (e.line - 1) = before := by
    rw [hlines, hindex, List.take_left]
  rw [← hline] at hfault
  constructor
  case one_le => omega
  case le_length =>
    rw [hline, hlines, List.length_append, List.length_cons]
    omega
  case getElem?_lines =>
    rw [hlines, hindex, List.getElem?_append_right le_rfl, Nat.sub_self]
    rfl
  case parse_before =>
    rw [parse_firstLines, htake, hbefore]
    rfl
  case parse_from =>
    intro k hk
    exact parse_firstLines_of_fault hlines hbefore hstep (by omega)
  case leads =>
    rw [htake, Line.role_of_leads hcontent (hafter.not_continues_iff.1 hends)]
    split <;> decide
  case eq_invalidLine_iff =>
    intro fault
    exact hfault.eq_invalidLine_iff
  case eq_duplicateSection_iff =>
    intro name
    exact hfault.eq_duplicateSection_iff
  case eq_keyOutsideSection_iff =>
    intro key
    rw [hfault.eq_keyOutsideSection_iff, ← hafter.getLast?_sections, List.getLast?_eq_none_iff]
  case eq_duplicateKey_iff =>
    intro name key
    rw [hfault.eq_duplicateKey_iff, ← hafter.getLast?_sections]

theorem exists_firstFault {content : String} {e : KeyfileError} (h : parse content = .error e) :
    ∃ before line, FirstFault content e before line := by
  obtain ⟨before, line, after, q, hlines, hbefore, hstep⟩ :=
    Progress.exists_fault_of_run (map_eq_error_iff.1 h)
  exact ⟨⟨q.sections⟩, line, firstFault_of_step hlines hbefore hstep⟩

/-- A text that cannot be read has a first fault, and of one that can be read every number of first
lines can be. -/
theorem parse_localized (content : String) :
    (∀ e, parse content = .error e → ∃ before line, FirstFault content e before line) ∧
      ∀ file, parse content = .ok file → ∀ k, ∃ before,
        parse (Text.firstLines k content) = .ok before := by
  refine ⟨fun e => exists_firstFault, fun file h k => ?_⟩
  obtain ⟨q, hrun, -⟩ := map_eq_ok_iff.1 h
  rw [← List.take_append_drop k (Text.lines content)] at hrun
  obtain ⟨m, hm⟩ := Progress.exists_run_of_run_append hrun
  exact ⟨⟨m.sections⟩, by rw [parse_firstLines, hm]; rfl⟩

/-- A key again, behind the same key in another section and before a section again. -/
def faultyText : String := "[A]\nk=1\n[B]\nj=1\n\n  [A]\nk=2\nj=2\n[A]\n"

theorem parse_localized_faultyText :
    parse faultyText = .error (.duplicateKey 8 "B" "j") ∧
      (∃ before line, FirstFault faultyText (.duplicateKey 8 "B" "j") before line) ∧
        ∃ file, parse (Text.firstLines 7 faultyText) = .ok file ∧
          ∀ k, ∃ before, parse (Text.firstLines k (Text.firstLines 7 faultyText)) = .ok before :=
  have herror : parse faultyText = .error (.duplicateKey 8 "B" "j") := by decide +kernel
  have hfront : parse (Text.firstLines 7 faultyText) =
      .ok ⟨[⟨"A", 1, [("k", "1")]⟩, ⟨"B", 3, [("j", "1\n\n[A]"), ("k", "2")]⟩]⟩ := by decide +kernel
  ⟨herror, (parse_localized faultyText).1 _ herror, _, hfront,
    (parse_localized (Text.firstLines 7 faultyText)).2 _ hfront⟩

end Keyfile

end DeviceCatalog
