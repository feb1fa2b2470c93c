import DeviceCatalog.Proofs.Keyfile.Turn
import DeviceCatalog.Proofs.Keyfile.WellFormed
import DeviceCatalog.Proofs.Text.Cuts

/-!
# Writing and reading back

Well-formed sections are read back from the text that they are written as. Each
written line makes the turn that it was written for: a header closes whatever
is open, an entry line opens an entry without indentation, and the lines behind
it, indented by one space or empty, put the rest of its value back.
-/
namespace DeviceCatalog

namespace Line

variable {line text name key first : String}

theorem isContent_of_trim (htrim : Text.trim line = text) (hne : text ≠ "")
    (hcomment : ∀ c ∈ text.toList.head?, c ≠ '#' ∧ c ≠ ';') : IsContent line := by
  rw [IsContent, htrim, isComment_eq_false_iff]
  exact ⟨hcomment, hne⟩

theorem toList_header (name : String) :
    ("[" ++ name ++ "]").toList = '[' :: (name.toList ++ [']']) := by
  simp

theorem isTrimmed_header (name : String) : Text.IsTrimmed ("[" ++ name ++ "]") := by
  rw [Text.IsTrimmed, toList_header, ← List.cons_append, List.getLast?_concat]
  exact ⟨by rintro c ⟨⟩; rfl, by rintro c ⟨⟩; rfl⟩

theorem isContent_header (name : String) : IsContent ("[" ++ name ++ "]") := by
  apply isContent_of_trim (isTrimmed_header name).trim_eq
  · rw [← String.toList_eq_nil_iff.ne, toList_header]
    exact List.cons_ne_nil _ _
  · rw [toList_header]
    rintro c ⟨⟩
    decide

theorem read_header (h : IsSectionName name) : read ("[" ++ name ++ "]") = .ok (.header name) := by
  have hstrip : Text.strip name.toList = name.toList :=
    Text.strip_eq_self h.trimmed.1 h.trimmed.2
  rw [read_eq_header_iff, readHeader_eq_ok_iff]
  refine ⟨name.toList, [], toList_header name, h.no_bracket, by simp, ?_, ?_⟩
  · rw [hstrip]
    exact String.toList_eq_nil_iff.not.2 h.ne_empty
  · rw [hstrip, String.ofList_toList]

theorem toList_entry (key first : String) :
    (key ++ "=" ++ first).toList = key.toList ++ '=' :: first.toList := by
  simp

theorem head?_entry (h : IsKey key) : (key ++ "=" ++ first).toList.head? = key.toList.head? := by
  have hne : key.toList ≠ [] := String.toList_eq_nil_iff.not.2 h.ne_empty
  rw [toList_entry, List.head?_append_of_ne_nil _ hne]

theorem isTrimmed_entry (hkey : IsKey key) (hfirst : Text.IsTrimmed first) :
    Text.IsTrimmed (key ++ "=" ++ first) := by
  refine ⟨head?_entry hkey ▸ hkey.trimmed.1, ?_⟩
  rw [toList_entry, List.getLast?_append, List.getLast?_cons]
  rintro c ⟨⟩
  cases hlast : first.toList.getLast? with
  | none => rfl
  | some d => exact hfirst.2 d hlast

theorem isContent_entry (hkey : IsKey key) (hfirst : Text.IsTrimmed first) :
    IsContent (key ++ "=" ++ first) := by
  apply isContent_of_trim (isTrimmed_entry hkey hfirst).trim_eq
  · rw [← String.toList_eq_nil_iff.ne, toList_entry]
    exact List.append_ne_nil_of_right_ne_nil _ (List.cons_ne_nil _ _)
  · rw [head?_entry hkey]
    exact fun c hc => (hkey.start c hc).2

/-- A key holds no delimiter, so the line is cut at the sign between key and value. -/
theorem read_entry (hkey : IsKey key) (hfirst : Text.IsTrimmed first) :
    read (key ++ "=" ++ first) = .ok (.entry key first) := by
  have hfree : ∀ c ∈ key.toList, isDelimiter c = false :=
    forall_isDelimiter_eq_false_iff.2 hkey.no_delimiter
  have hstrip : Text.strip key.toList = key.toList :=
    Text.strip_eq_self hkey.trimmed.1 hkey.trimmed.2
  rw [read_eq_entry_iff, readEntry_eq_ok_iff, head?_entry hkey]
  refine ⟨fun h => (hkey.start '[' h).1 rfl, key.toList, '=', first.toList, toList_entry key first,
    hfree, rfl, ⟨?_, ?_⟩, ?_⟩
  · rw [hstrip]
    exact String.toList_eq_nil_iff.not.2 hkey.ne_empty
  · rw [hstrip, String.ofList_toList]
  · rw [Text.strip_eq_self hfirst.1 hfirst.2, String.ofList_toList]

end Line

namespace Progress

variable {p : Progress} {number : Nat}

theorem turn_header {name : String} (hname : IsSectionName name)
    (hnew : name ∉ p.sections.map Section.name) :
    Turn p number ("[" ++ name ++ "]") ⟨p.sections, some (Section.empty name number), none, 0⟩ := by
  have htrimmed := Line.isTrimmed_header name
  apply Turn.header (Line.isContent_header name) (not_continues_of_indent htrimmed.1) _ hnew
  rw [htrimmed.trim_eq]
  exact Line.read_header hname

/-- The first line of an entry starts with its key, so it has no indentation. -/
theorem turn_entry {sec : Section} {key first : String} (hcurrent : p.current = some sec)
    (hkey : IsKey key) (hfirst : Text.IsTrimmed first) (hnew : key ∉ sec.keys) :
    Turn p number (key ++ "=" ++ first) ⟨p.finished,
      some { sec with entries := sec.entries ++ [(key, first)] }, some 0, 0⟩ := by
  have htrimmed := Line.isTrimmed_entry hkey hfirst
  have hread : Line.read (Text.trim (key ++ "=" ++ first)) = .ok (.entry key first) := by
    rw [htrimmed.trim_eq]
    exact Line.read_entry hkey hfirst
  have hturn : Turn p number (key ++ "=" ++ first) _ :=
    .entry (Line.isContent_entry hkey hfirst) (not_continues_of_indent htrimmed.1) hread
      hcurrent hnew
  rwa [Text.indent_eq_zero htrimmed.1] at hturn

/-- The state behind a section's last entry, which has no indentation and is still open. -/
def within (finished : List Section) (sec : Section) (key value : String) (blanks : Nat) :
    Progress :=
  ⟨finished, some { sec with entries := sec.entries ++ [(key, value)] }, some 0, blanks⟩

variable {finished : List Section} {sec : Section} {key value segment : String} {blanks : Nat}

theorem turn_empty : Turn (within finished sec key value blanks) number ""
    (within finished sec key value (blanks + 1)) :=
  .blank rfl

theorem turn_segment (hne : segment ≠ "") (htrimmed : Text.IsTrimmed segment)
    (hcomment : ∀ c ∈ segment.toList.head?, c ≠ '#' ∧ c ≠ ';') :
    Turn (within finished sec key value blanks) number (" " ++ segment)
      (within finished sec key
        (value ++ (String.ofList (List.replicate (blanks + 1) '\n') ++ segment)) 0) := by
  have htrim : Text.trim (" " ++ segment) = segment := Text.trim_space htrimmed
  have hcontent : Line.IsContent (" " ++ segment) := Line.isContent_of_trim htrim hne hcomment
  have hdeeper : 0 < Text.indent (" " ++ segment) := by
    rw [Text.indent_space htrimmed.1]
    exact Nat.one_pos
  have hturn : Turn (within finished sec key value blanks) number (" " ++ segment) _ :=
    .continuation hcontent rfl rfl hdeeper
  rwa [htrim, Section.extend, Section.extendLast_append] at hturn

theorem run_cons_of_turn {q : Progress} {line : String} {rest : List String}
    (h : Turn p number line q) : p.run number (line :: rest) = q.run (number + 1) rest := by
  rw [run, step_eq_ok_iff_turn.2 h]

/-- The blank lines before a segment are put back together with it. -/
theorem run_continuationLines {rest : List String}
    (htrimmed : ∀ segment ∈ rest, Text.IsTrimmed segment)
    (hcomment : ∀ segment ∈ rest, ∀ c ∈ segment.toList.head?, c ≠ '#' ∧ c ≠ ';')
    (hlast : rest.getLast? ≠ some "") (hblanks : rest = [] → blanks = 0) :
    (within finished sec key value blanks).run number (rest.map Keyfile.continuationLine) =
      .ok (within finished sec key (value ++ String.ofList (List.replicate blanks '\n' ++
        rest.flatMap fun segment => '\n' :: segment.toList)) 0) := by
  induction rest generalizing value blanks number with
  | nil => simp [run, hblanks rfl]
  | cons segment rest ih =>
    have htrimmed' := List.forall_mem_cons.1 htrimmed
    have hcomment' := List.forall_mem_cons.1 hcomment
    have hlast' : rest.getLast? ≠ some "" := by
      intro h
      rw [List.getLast?_cons, h] at hlast
      exact hlast rfl
    by_cases hempty : segment = ""
    · subst hempty
      have hrest : rest ≠ [] := by
        rintro rfl
        exact hlast rfl
      rw [List.map_cons, Keyfile.continuationLine, if_pos rfl, run_cons_of_turn turn_empty,
        ih htrimmed'.2 hcomment'.2 hlast' (absurd · hrest), List.replicate_succ']
      simp
    · rw [List.map_cons, Keyfile.continuationLine, if_neg hempty,
        run_cons_of_turn (turn_segment hempty htrimmed'.1 hcomment'.1),
        ih htrimmed'.2 hcomment'.2 hlast' fun _ => rfl]
      congr 2
      rw [← String.toList_inj]
      simp [List.replicate_succ']

theorem run_entryLines (hcurrent : p.current = some sec) (hkey : IsKey key)
    (hvalue : IsValue value) (hnew : key ∉ sec.keys) :
    p.run number (Keyfile.entryLines (key, value)) =
      .ok (within p.finished sec key value 0) := by
  have hjoin := Text.joinWith_segments '\n' value
  obtain ⟨htrimmed, hcomment, hlast⟩ := hvalue
  unfold Keyfile.entryLines
  cases hsegments : Text.segments '\n' value with
  | nil => exact absurd hsegments (Text.segments_ne_nil _ _)
  | cons first rest =>
    rw [hsegments] at hjoin htrimmed hcomment hlast
    have htrimmed' := List.forall_mem_cons.1 htrimmed
    rw [run_cons_of_turn (turn_entry hcurrent hkey htrimmed'.1 hnew), ← within,
      run_continuationLines htrimmed'.2 hcomment hlast fun _ => rfl, List.replicate_zero,
      List.nil_append, ← Text.joinWith_cons, hjoin]

theorem run_append_of_eq_ok {q : Progress} {before after : List String}
    (h : p.run number before = .ok q) :
    p.run number (before ++ after) = q.run (number + before.length) after := by
  rw [run_append, h]
  rfl

theorem run_entries {entries : List (String × String)} (number : Nat)
    (hcurrent : p.current = some sec) (hkeys : (sec.keys ++ entries.map Prod.fst).Nodup)
    (hkey : ∀ entry ∈ entries, IsKey entry.1) (hvalue : ∀ entry ∈ entries, IsValue entry.2) :
    ∃ q, p.run number (entries.flatMap Keyfile.entryLines) = .ok q ∧ q.finished = p.finished ∧
      q.current = some { sec with entries := sec.entries ++ entries } := by
  induction entries generalizing p sec number with
  | nil => exact ⟨p, rfl, rfl, by simp [hcurrent]⟩
  | cons entry rest ih =>
    obtain ⟨hkey₁, hkey₂⟩ := List.forall_mem_cons.1 hkey
    obtain ⟨hvalue₁, hvalue₂⟩ := List.forall_mem_cons.1 hvalue
    have hnew : entry.1 ∉ sec.keys := fun h =>
      (List.nodup_append.1 hkeys).2.2 _ h _ (by simp) rfl
    have hkeys' : ({ sec with entries := sec.entries ++ [entry] } : Section).keys ++
        rest.map Prod.fst = sec.keys ++ (entry :: rest).map Prod.fst := by
      simp [Section.keys]
    obtain ⟨q, hrun, hfinished, hq⟩ :=
      ih (p := within p.finished sec entry.1 entry.2 0)
        (number + (Keyfile.entryLines entry).length) rfl (hkeys' ▸ hkeys) hkey₂ hvalue₂
    refine ⟨q, ?_, hfinished, by simpa using hq⟩
    rw [List.flatMap_cons, run_append_of_eq_ok (run_entryLines hcurrent hkey₁ hvalue₁ hnew), hrun]

theorem run_sectionLines (number : Nat) (hsec : sec.WellFormed)
    (hnew : sec.name ∉ p.sections.map Section.name) :
    ∃ q, p.run number (Keyfile.sectionLines sec) = .ok q ∧
      q.sections = p.sections ++ [{ sec with line := number }] := by
  have hkeys : ((Section.empty sec.name number).keys ++ sec.entries.map Prod.fst).Nodup :=
    hsec.keys_nodup
  have hkey : ∀ entry ∈ sec.entries, IsKey entry.1 := fun entry h =>
    hsec.key _ (List.mem_map_of_mem h)
  obtain ⟨q, hrun, hfinished, hcurrent⟩ :=
    run_entries (p := ⟨p.sections, some (Section.empty sec.name number), none, 0⟩)
      (number + 1) rfl hkeys hkey hsec.value
  refine ⟨q, ?_, ?_⟩
  · rw [Keyfile.sectionLines, run_cons_of_turn (turn_header hsec.name hnew), hrun]
  · rw [sections_eq_concat hcurrent, hfinished]
    rfl

end Progress

namespace Keyfile

/-- The sections with the line at which each header stands when they are written from
line `number` on. -/
def numbered (number : Nat) : List Section → List Section
  | [] => []
  | sec :: rest =>
    { sec with line := number } :: numbered (number + (sectionLines sec).length) rest

theorem map_numbered {α : Type*} {f : Section → α} (hf : ∀ sec line, f { sec with line } = f sec)
    (number : Nat) (sections : List Section) :
    (numbered number sections).map f = sections.map f := by
  induction sections generalizing number with
  | nil => rfl
  | cons sec rest ih => rw [numbered, List.map_cons, List.map_cons, hf, ih]

theorem run_sections {sections : List Section} {p : Progress} (number : Nat)
    (hnames : ((p.sections ++ sections).map Section.name).Nodup)
    (hsections : ∀ sec ∈ sections, sec.WellFormed) :
    ∃ q, p.run number (sections.flatMap sectionLines) = .ok q ∧
      q.sections = p.sections ++ numbered number sections := by
  induction sections generalizing p number with
  | nil => exact ⟨p, rfl, by simp [numbered]⟩
  | cons sec rest ih =>
    obtain ⟨hsec, hrest⟩ := List.forall_mem_cons.1 hsections
    have hnew : sec.name ∉ p.sections.map Section.name := by
      rw [List.map_append, List.nodup_append] at hnames
      exact fun h => hnames.2.2 _ h _ (by simp) rfl
    obtain ⟨m, hfirst, hm⟩ := Progress.run_sectionLines number hsec hnew
    have hnames' : ((m.sections ++ rest).map Section.name).Nodup := by
      simpa [hm] using hnames
    obtain ⟨q, hlast, hq⟩ := ih (number + (sectionLines sec).length) hnames' hrest
    refine ⟨q, ?_, ?_⟩
    · rw [List.flatMap_cons, Progress.run_append_of_eq_ok hfirst, hlast]
    · simp [hq, hm, numbered]

theorem not_mem_of_mem_entryLines {entry : String × String} (hkey : IsKey entry.1) {line : String}
    (h : line ∈ entryLines entry) : '\n' ∉ line.toList := by
  have hsegment : ∀ segment ∈ Text.segments '\n' entry.2, '\n' ∉ segment.toList :=
    fun _ => Text.not_mem_of_mem_segments
  unfold entryLines at h
  cases hsegments : Text.segments '\n' entry.2 with
  | nil => exact absurd hsegments (Text.segments_ne_nil _ _)
  | cons first rest =>
    rw [hsegments] at h hsegment
    rcases List.mem_cons.1 h with rfl | h
    · simp [hkey.no_break, hsegment first List.mem_cons_self]
    · obtain ⟨segment, hmem, rfl⟩ := List.mem_map.1 h
      unfold continuationLine
      split
      · simp
      · simp [hsegment segment (List.mem_cons_of_mem _ hmem)]

theorem not_mem_of_mem_sectionLines {sec : Section} (hsec : sec.WellFormed) {line : String}
    (h : line ∈ sectionLines sec) : '\n' ∉ line.toList := by
  rcases List.mem_cons.1 h with rfl | h
  · simp [hsec.name.no_break]
  · obtain ⟨entry, hentry, h⟩ := List.mem_flatMap.1 h
    exact not_mem_of_mem_entryLines (hsec.key _ (List.mem_map_of_mem hentry)) h

theorem lines_render {sections : List Section} (h : WellFormed sections) :
    Text.lines (render sections) = sections.flatMap sectionLines := by
  apply Text.lines_unlines
  intro line hline
  obtain ⟨sec, hsec, hmem⟩ := List.mem_flatMap.1 hline
  exact not_mem_of_mem_sectionLines (h.each sec hsec) hmem

/-- Well-formed sections come back from their text in the same order and with the same entries,
and each knows the line of its header. -/
theorem parse_render {sections : List Section} (h : WellFormed sections) :
    ∃ file, parse (render sections) = .ok file ∧
      file.sections.map (fun sec => (sec.name, sec.entries)) =
        sections.map (fun sec => (sec.name, sec.entries)) ∧
      file.sections = numbered 1 sections := by
  obtain ⟨q, hrun, hq⟩ := run_sections (p := .start) 1 h.names_nodup h.each
  refine ⟨⟨q.sections⟩, ?_, ?_, hq⟩
  · rw [parse, lines_render h, hrun]
    rfl
  · rw [hq]
    exact map_numbered (fun _ _ => rfl) 1 sections

/-- Two sections whose values look like other lines and hold empty ones. -/
def sampleSections : List Section :=
  [⟨"Device [é", 0, [("Näme", "#no comment\n\n[Driver]\nk=v"), ("a b", "")]⟩,
    ⟨"#;=", 7, []⟩, ⟨"Driver", 7, [("Näme", "\n\n= : ;")]⟩]

theorem parse_render_sampleSections :
    WellFormed sampleSections ∧ ∃ file, parse (render sampleSections) = .ok file ∧
      file.sections.map (fun sec => (sec.name, sec.entries)) =
        sampleSections.map (fun sec => (sec.name, sec.entries)) ∧
      file.sections = numbered 1 sampleSections :=
  have h : WellFormed sampleSections := by decide +kernel
  ⟨h, parse_render h⟩

end Keyfile

end DeviceCatalog
