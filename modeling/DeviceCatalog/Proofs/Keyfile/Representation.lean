import DeviceCatalog.Proofs.Keyfile.Turn
import DeviceCatalog.Proofs.Keyfile.WellFormed
import DeviceCatalog.Proofs.Text.Cuts

/-!
# The sections of a keyfile

Whatever text a keyfile was read from, its sections are well formed, they stand
in the order of their headers, and each has the line of its own header. Every
turn of the reader keeps this, also the one that writes behind the last value
without another look at it. Hence a look-up never finds another section or
entry of the same name.
-/
namespace DeviceCatalog

namespace Line

variable {text name key value : String}

theorem isSectionName_of_readHeader (h : readHeader text = .ok name) (hline : '\n' ∉ text.toList) :
    IsSectionName name := by
  obtain ⟨inner, tail, htext, hbracket, -, hne, rfl⟩ := readHeader_eq_ok_iff.1 h
  refine ⟨?_, Text.isTrimmed_strip inner, ?_, ?_⟩
  · rwa [← String.toList_eq_nil_iff.ne, String.toList_ofList]
  · rw [String.toList_ofList]
    exact fun hmem => hbracket (Text.mem_of_mem_strip hmem)
  · rw [String.toList_ofList]
    intro hmem
    simp [htext, Text.mem_of_mem_strip hmem] at hline

theorem isKey_of_readEntry (hread : read text = .ok (.entry key value))
    (hline : '\n' ∉ text.toList) (htrimmed : Text.IsTrimmed text)
    (hcomment : isComment text = false) : IsKey key := by
  obtain ⟨hopen, hentry⟩ := read_eq_entry_iff.1 hread
  obtain ⟨before, delimiter, after, htext, hbefore, -, ⟨hne, rfl⟩, -⟩ :=
    readEntry_eq_ok_iff.1 hentry
  have hfree : ∀ c ∈ Text.strip before, isDelimiter c = false :=
    fun c hc => hbefore c (Text.mem_of_mem_strip hc)
  have hhead : ∀ c ∈ (Text.strip before).head?, c ∈ text.toList.head? := by
    intro c hc
    have hfirst : before.head? = text.toList.head? := by
      rw [htext, List.head?_append_of_ne_nil]
      rintro rfl
      exact hne rfl
    rw [← hfirst]
    have hstart := Text.stripStart_eq_self (hfirst ▸ htrimmed.1)
    rw [Text.strip, hstart] at hc
    exact Text.head?_stripEnd before c hc
  refine ⟨?_, Text.isTrimmed_strip before, ?_, ?_, ?_⟩
  · rwa [← String.toList_eq_nil_iff.ne, String.toList_ofList]
  · rw [String.toList_ofList]
    exact forall_isDelimiter_eq_false_iff.1 hfree
  · rw [String.toList_ofList]
    intro hmem
    simp [htext, Text.mem_of_mem_strip hmem] at hline
  · rw [String.toList_ofList]
    intro c hc
    refine ⟨?_, isComment_eq_false_iff.1 hcomment c (hhead c hc)⟩
    rintro rfl
    exact hopen (hhead _ hc)

theorem isValue_of_readEntry (h : readEntry text = .ok (key, value)) (hline : '\n' ∉ text.toList) :
    IsValue value := by
  obtain ⟨before, delimiter, after, htext, -, -, -, rfl⟩ := readEntry_eq_ok_iff.1 h
  have hbreak : '\n' ∉ (String.ofList (Text.strip after)).toList := by
    rw [String.toList_ofList]
    intro hmem
    simp [htext, Text.mem_of_mem_strip hmem] at hline
  rw [isValue_iff, Text.segments_eq_singleton hbreak]
  simp [Text.isTrimmed_strip]

end Line

theorem IsValue.append {value text : String} (h : IsValue value) (htrimmed : Text.IsTrimmed text)
    (hcomment : ∀ c ∈ text.toList.head?, c ≠ '#' ∧ c ≠ ';') (hbreak : '\n' ∉ text.toList)
    (hne : text ≠ "") (blanks : Nat) :
    IsValue (value ++ (String.ofList (List.replicate (blanks + 1) '\n') ++ text)) := by
  have hsegments : Text.segments '\n'
      (value ++ (String.ofList (List.replicate (blanks + 1) '\n') ++ text)) =
        Text.segments '\n' value ++ (List.replicate blanks "" ++ [text]) := by
    have hcut := Text.segments_append_replicate '\n' value.toList text.toList blanks
    rw [String.ofList_append, String.ofList_append, String.append_assoc] at hcut
    simp only [String.ofList_toList] at hcut
    rw [hcut, Text.segments_eq_singleton hbreak]
  have hlater : ∀ segment ∈ List.replicate blanks "" ++ [text],
      Text.IsTrimmed segment ∧ ∀ c ∈ segment.toList.head?, c ≠ '#' ∧ c ≠ ';' := by
    intro segment hsegment
    rcases List.mem_append.1 hsegment with hsegment | hsegment
    · rw [List.eq_of_mem_replicate hsegment]
      decide
    · rw [List.mem_singleton.1 hsegment]
      exact ⟨htrimmed, hcomment⟩
  rw [isValue_iff, hsegments, List.tail_append_of_ne_nil (Text.segments_ne_nil '\n' value)]
  refine ⟨List.forall_mem_append.2 ⟨h.trimmed, fun s hs => (hlater s hs).1⟩,
    List.forall_mem_append.2 ⟨h.no_comment, fun s hs => (hlater s hs).2⟩, ?_⟩
  simpa [← List.append_assoc] using hne

namespace Section

/-- The section's line is one of `lines`, and the header with its name stands there. -/
def HeadedIn (lines : List String) (sec : Section) : Prop :=
  1 ≤ sec.line ∧ sec.line ≤ lines.length ∧
    ∃ line, lines[sec.line - 1]? = some line ∧ Line.readHeader (Text.trim line) = .ok sec.name

theorem HeadedIn.concat {lines : List String} {sec : Section} (h : sec.HeadedIn lines)
    (line : String) : sec.HeadedIn (lines ++ [line]) := by
  obtain ⟨hpos, hle, header, hheader, hread⟩ := h
  refine ⟨hpos, hle.trans (by simp), header, ?_, hread⟩
  rw [List.getElem?_append_left (by omega), hheader]

theorem wellFormed_empty {name : String} (h : IsSectionName name) (line : Nat) :
    (empty name line).WellFormed :=
  ⟨h, List.nodup_nil, by simp [empty, keys], by simp [empty]⟩

theorem forall_mem_extendLast {P : String → Prop} {text : String}
    {entries : List (String × String)} (h : ∀ entry ∈ entries, P entry.2)
    (htext : ∀ value, P value → P (value ++ text)) :
    ∀ entry ∈ extendLast text entries, P entry.2 := by
  fun_induction extendLast text entries with
  | case1 => exact h
  | case2 key value => simpa using htext value (h _ List.mem_cons_self)
  | case3 entry next rest ih =>
    rw [List.forall_mem_cons] at h ⊢
    exact ⟨h.1, ih h.2⟩

theorem WellFormed.extend {sec : Section} {text : String} (h : sec.WellFormed)
    (htext : ∀ value, IsValue value → IsValue (value ++ text)) :
    (sec.extend text).WellFormed := by
  rw [wellFormed_iff, keys_extend]
  exact ⟨h.name, h.keys_nodup, h.key, forall_mem_extendLast h.value htext⟩

theorem WellFormed.concat {sec : Section} {key value : String} (h : sec.WellFormed)
    (hnew : key ∉ sec.keys) (hkey : IsKey key) (hvalue : IsValue value) :
    ({ sec with entries := sec.entries ++ [(key, value)] } : Section).WellFormed := by
  have hkeys : ({ sec with entries := sec.entries ++ [(key, value)] } : Section).keys =
      sec.keys ++ [key] := List.map_append
  rw [wellFormed_iff, hkeys]
  refine ⟨h.name, ?_, List.forall_mem_append.2 ⟨h.key, by simpa using hkey⟩,
    List.forall_mem_append.2 ⟨h.value, by simpa using hvalue⟩⟩
  exact h.keys_nodup.append (List.nodup_singleton key) (by simpa using hnew)

end Section

namespace Keyfile

/-- What the sections read from `lines` have in common. -/
structure ReadFrom (lines : List String) (sections : List Section) : Prop where
  wellFormed : WellFormed sections
  increasing : (sections.map Section.line).Pairwise (· < ·)
  headed : ∀ sec ∈ sections, sec.HeadedIn lines

namespace ReadFrom

variable {lines : List String} {sections finished : List Section} {line : String} {sec : Section}

theorem nil : ReadFrom [] [] :=
  ⟨⟨List.nodup_nil, by simp⟩, List.Pairwise.nil, by simp⟩

theorem concat (h : ReadFrom lines sections) (line : String) :
    ReadFrom (lines ++ [line]) sections :=
  ⟨h.wellFormed, h.increasing, fun sec hsec => (h.headed sec hsec).concat line⟩

theorem addHeader {name : String} (h : ReadFrom lines sections) (hname : IsSectionName name)
    (hnew : name ∉ sections.map Section.name)
    (hread : Line.readHeader (Text.trim line) = .ok name) :
    ReadFrom (lines ++ [line]) (sections ++ [Section.empty name (1 + lines.length)]) := by
  refine ⟨⟨?_, ?_⟩, ?_, ?_⟩
  · rw [List.map_append]
    exact h.wellFormed.names_nodup.append (List.nodup_singleton name)
      (by simpa [Section.empty] using hnew)
  · exact List.forall_mem_append.2 ⟨h.wellFormed.each,
      by simpa using Section.wellFormed_empty hname (1 + lines.length)⟩
  · rw [List.map_append, List.pairwise_append]
    refine ⟨h.increasing, List.pairwise_singleton _ _, ?_⟩
    intro before hbefore after hafter
    obtain ⟨sec, hsec, rfl⟩ := List.mem_map.1 hbefore
    obtain rfl := List.mem_singleton.1 hafter
    exact Nat.lt_one_add_iff.2 (h.headed sec hsec).2.1
  · refine List.forall_mem_append.2 ⟨(h.concat line).headed, ?_⟩
    rw [List.forall_mem_singleton]
    exact ⟨Nat.le_add_right 1 _, by simp [Section.empty, Nat.add_comm], line,
      by simp [Section.empty], hread⟩

/-- The last section may get other entries, but no other name or line. -/
theorem replaceLast {next : Section} (h : ReadFrom lines (finished ++ [sec]))
    (hnext : next.WellFormed) (hname : next.name = sec.name) (hline : next.line = sec.line) :
    ReadFrom lines (finished ++ [next]) := by
  have heach := List.forall_mem_append.1 h.wellFormed.each
  have hheaded := List.forall_mem_append.1 h.headed
  have hlast : next.HeadedIn lines := by
    rw [Section.HeadedIn, hname, hline]
    exact hheaded.2 sec (List.mem_singleton_self sec)
  refine ⟨⟨?_, ?_⟩, ?_, ?_⟩
  · have hnames := h.wellFormed.names_nodup
    rwa [List.map_append, List.map_singleton, ← hname, ← List.map_singleton,
      ← List.map_append] at hnames
  · exact List.forall_mem_append.2 ⟨heach.1, List.forall_mem_singleton.2 hnext⟩
  · have hlines := h.increasing
    rwa [List.map_append, List.map_singleton, ← hline, ← List.map_singleton,
      ← List.map_append] at hlines
  · exact List.forall_mem_append.2 ⟨hheaded.1, List.forall_mem_singleton.2 hlast⟩

theorem turn {p q : Progress} (h : ReadFrom lines p.sections)
    (hbreak : '\n' ∉ line.toList) (hturn : p.Turn (1 + lines.length) line q) :
    ReadFrom (lines ++ [line]) q.sections := by
  have htrimmed : Text.IsTrimmed (Text.trim line) := Text.isTrimmed_trim line
  have htext : '\n' ∉ (Text.trim line).toList := by
    rw [Text.toList_trim]
    exact fun hmem => hbreak (Text.mem_of_mem_strip hmem)
  cases hturn with
  | comment => exact h.concat line
  | blank => exact p.sections_countBlank ▸ h.concat line
  | @continuation opened sec hcontent hopen hcurrent hdeeper =>
    have hsections := Progress.sections_eq_concat hcurrent
    have hsec : sec.WellFormed := h.wellFormed.each sec (by simp [hsections])
    refine (hsections ▸ h.concat line).replaceLast (hsec.extend fun value hvalue => ?_) rfl rfl
    exact hvalue.append htrimmed (Line.isComment_eq_false_iff.1 hcontent.1) htext hcontent.2 _
  | header hcontent hends hread hnew =>
    have hheader := Line.read_eq_header_iff.1 hread
    have hname := Line.isSectionName_of_readHeader hheader htext
    simpa [Progress.sections] using h.addHeader hname hnew hheader
  | @entry key value sec hcontent hends hread hcurrent hnew =>
    have hsections := Progress.sections_eq_concat hcurrent
    have hsec : sec.WellFormed := h.wellFormed.each sec (by simp [hsections])
    have hkey := Line.isKey_of_readEntry hread htext htrimmed hcontent.1
    have hvalue := Line.isValue_of_readEntry (Line.read_eq_entry_iff.1 hread).2 htext
    exact (hsections ▸ h.concat line).replaceLast (hsec.concat hnew hkey hvalue) rfl rfl

end ReadFrom

theorem readFrom_of_run {lines : List String} {q : Progress}
    (hbreak : ∀ line ∈ lines, '\n' ∉ line.toList) (h : Progress.start.run 1 lines = .ok q) :
    ReadFrom lines q.sections := by
  refine Progress.run_invariant
    (P := fun lines q => (∀ line ∈ lines, '\n' ∉ line.toList) → ReadFrom lines q.sections)
    (fun _ => .nil) ?_ h hbreak
  intro before p line q hbefore hturn hbreak
  obtain ⟨hlines, hline⟩ := List.forall_mem_append.1 hbreak
  exact (hbefore hlines).turn (hline line (List.mem_singleton_self line)) hturn

theorem readFrom_of_parse {content : String} {file : Keyfile} (h : parse content = .ok file) :
    ReadFrom (Text.lines content) file.sections := by
  obtain ⟨q, hrun, rfl⟩ := map_eq_ok_iff.1 h
  exact readFrom_of_run (fun _ => Text.not_mem_of_mem_lines) hrun

theorem sectionNames_nodup_of_parse {content : String} {file : Keyfile}
    (h : parse content = .ok file) : file.sectionNames.Nodup :=
  (readFrom_of_parse h).wellFormed.names_nodup

theorem keys_nodup_of_parse {content : String} {file : Keyfile} (h : parse content = .ok file)
    {sec : Section} (hsec : sec ∈ file.sections) : sec.keys.Nodup :=
  ((readFrom_of_parse h).wellFormed.each sec hsec).keys_nodup

/-- What every keyfile is like that was read from a text, and that its look-ups find everything. -/
theorem parse_representation {content : String} {file : Keyfile} (h : parse content = .ok file) :
    WellFormed file.sections ∧ (file.sections.map Section.line).Pairwise (· < ·) ∧
      ∀ sec ∈ file.sections, sec.HeadedIn (Text.lines content) ∧
        file.section? sec.name = some sec ∧
          ∀ key value, (key, value) ∈ sec.entries → sec.get? key = some value := by
  obtain ⟨hwellFormed, hincreasing, hheaded⟩ := readFrom_of_parse h
  refine ⟨hwellFormed, hincreasing, fun sec hsec => ⟨hheaded sec hsec, ?_, ?_⟩⟩
  · exact (section?_eq_some_iff_mem (sectionNames_nodup_of_parse h)).2 ⟨hsec, rfl⟩
  · intro key value hentry
    exact (Section.get?_eq_some_iff_mem (keys_nodup_of_parse h hsec)).2 hentry

/-- A text with indented lines, comments and a value that is written on from its first line. -/
def sampleText : String :=
  "# list\n\n [ Device ]\t\nName :  a=b \n  ; gone\n\n\t [x]\n[Driver]\r\nNäme=\n"

def sampleFile : Keyfile :=
  ⟨[⟨"Device", 3, [("Name", "a=b\n\n[x]")]⟩, ⟨"Driver", 8, [("Näme", "")]⟩]⟩

theorem parse_representation_sampleText :
    parse sampleText = .ok sampleFile ∧
      WellFormed sampleFile.sections ∧ (sampleFile.sections.map Section.line).Pairwise (· < ·) ∧
        ∀ sec ∈ sampleFile.sections, sec.HeadedIn (Text.lines sampleText) ∧
          sampleFile.section? sec.name = some sec ∧
            ∀ key value, (key, value) ∈ sec.entries → sec.get? key = some value :=
  have h : parse sampleText = .ok sampleFile := by decide +kernel
  ⟨h, parse_representation h⟩

end Keyfile

end DeviceCatalog
