import DeviceCatalog.Proofs.CommandLine.CheckAll

/-!
# One command for three

Checking all of a directory does what validation and the two checks of the
corpus do on their own. Validation finds its files in a way of its own, since
it also takes plain files, but on a directory it finds the same ones, and
otherwise the check of everything is refused. So its exit code is the largest
of the three whatever the argument leads to.
-/
namespace DeviceCatalog.CommandLine

section Tilde

variable {home? : Option String}

theorem expandTilde_of_head {path : String} (h : path.toList.head? ≠ some '~') :
    expandTilde home? path = path := by
  unfold expandTilde
  split
  · simp_all
  · simp_all
  · rfl

theorem head?_append_ne_tilde {cs ds : List Char} (hcs : cs.head? ≠ some '~')
    (hds : ds.head? ≠ some '~') : (cs ++ ds).head? ≠ some '~' := by
  cases cs with
  | nil => exact hds
  | cons c cs => exact hcs

theorem expandTilde_eq_or (h : ∀ home ∈ home?, home.toList.head? ≠ some '~') (path : String) :
    expandTilde home? path = path ∨ (expandTilde home? path).toList.head? ≠ some '~' := by
  unfold expandTilde
  split
  · exact .inr (h _ rfl)
  · right
    rw [String.toList_append, String.toList_ofList]
    exact head?_append_ne_tilde (h _ rfl) (by simp)
  · exact .inl rfl

/-- A tilde is replaced once and for all, unless the home directory starts with one itself. -/
theorem expandTilde_expandTilde (h : ∀ home ∈ home?, home.toList.head? ≠ some '~')
    (path : String) : expandTilde home? (expandTilde home? path) = expandTilde home? path := by
  rcases expandTilde_eq_or h path with hsame | hhead
  · rw [hsame, hsame]
  · exact expandTilde_of_head hhead

theorem expandPath_eq_ok_iff {argument path : RawText} :
    expandPath home? argument = .ok path ↔
      ∃ text, argument.text? = some text ∧ path = expandTilde home? text := by
  rw [expandPath]
  cases argument.text? with
  | none => simp
  | some text => simp [eq_comm]

theorem expandPath_expandPath (h : ∀ home ∈ home?, home.toList.head? ≠ some '~')
    {argument path : RawText} (hpath : expandPath home? argument = .ok path) :
    expandPath home? path = .ok path := by
  obtain ⟨text, -, rfl⟩ := expandPath_eq_ok_iff.1 hpath
  refine expandPath_eq_ok_iff.2 ⟨_, RawText.text?_ofString _, ?_⟩
  rw [expandTilde_expandTilde h]

end Tilde

def exitCodeOf : Except Refusal Report → Nat
  | .ok r => r.exitCode
  | .error _ => 1

section Argument

variable {home? : Option String} {directory? : Option RawText} {view : FileView}
  {directory path : RawText} {arguments : List RawText}

theorem exitCode_run {request : Request} (hparse : parse directory? arguments = .ok request) :
    (run home? directory? view arguments).exitCode =
      exitCodeOf (report home? view request.command request.paths) := by
  rw [run_of_parse hparse, Request.run]
  cases report home? view request.command request.paths with
  | ok r => rfl
  | error refusal => rfl

theorem exitCode_full_eq_max (scan : MatchScan) :
    (CorpusReport.full scan).exitCode =
      max (CorpusReport.ofDuplicates scan).exitCode (CorpusReport.ofReceivers scan).exitCode := by
  have hfailures : (CorpusReport.full scan).hasFailures =
      ((CorpusReport.ofDuplicates scan).hasFailures ||
        (CorpusReport.ofReceivers scan).hasFailures) := by
    simp [CorpusReport.hasFailures, CorpusReport.full, CorpusReport.ofDuplicates,
      CorpusReport.ofReceivers]
  simp only [CorpusReport.exitCode, hfailures]
  cases (CorpusReport.ofDuplicates scan).hasFailures <;>
    cases (CorpusReport.ofReceivers scan).hasFailures <;> rfl

theorem filesFor_validate :
    filesFor home? view .validate [directory] = filesAt home? view directory := by
  rw [filesFor, collectFiles, List.mapM_cons, List.mapM_nil]
  cases filesAt home? view directory with
  | error refusal => rfl
  | ok files => simp [bind, Except.bind, pure, Except.pure, Except.map]

theorem filesAt_of_directory {entries : Except FileFault (List RawText)}
    (hpath : expandPath home? directory = .ok path) (hdirectory : view path = .directory entries) :
    filesAt home? view directory = deviceFiles home? view path := by
  simp only [filesAt, hpath, hdirectory, bind, Except.bind]

/-- Below a directory, all commands that take one argument work on the same files. -/
theorem filesFor_of_directory {entries : Except FileFault (List RawText)}
    (hhome : ∀ home ∈ home?, home.toList.head? ≠ some '~')
    (hpath : expandPath home? directory = .ok path) (hdirectory : view path = .directory entries)
    (command : Command) :
    filesFor home? view command [directory] = deviceFiles home? view directory := by
  by_cases hvalidate : command = .validate
  · rw [hvalidate, filesFor_validate, filesAt_of_directory hpath hdirectory,
      deviceFiles_of_ok hpath, deviceFiles_of_ok (expandPath_expandPath hhome hpath)]
  · exact filesFor_of_ne_validate hvalidate

theorem filesFor_of_error {refusal : Refusal} (h : expandPath home? directory = .error refusal)
    (command : Command) : filesFor home? view command [directory] = .error refusal := by
  by_cases hvalidate : command = .validate
  · rw [hvalidate, filesFor_validate, filesAt, h]
    rfl
  · rw [filesFor_of_ne_validate hvalidate, deviceFiles_of_error h]

/-- Without a directory every command but a validation is refused. -/
theorem exists_report_eq_error {command : Command} (h : command ≠ .validate)
    (hpath : expandPath home? directory = .ok path)
    (hdirectory : (view path).isDirectory = false) :
    ∃ refusal, report home? view command [directory] = .error refusal := by
  rw [report, filesFor_of_ne_validate h, deviceFiles_of_ok hpath, FileView.deviceFiles,
    FileView.openDirectory]
  cases hfound : view path with
  | absent fault => exact ⟨_, rfl⟩
  | file regular content => exact ⟨_, rfl⟩
  | directory entries => simp [hfound, Found.isDirectory] at hdirectory

theorem exitCodeOf_validate_le_one (home? : Option String) (view : FileView)
    (paths : List RawText) : exitCodeOf (report home? view .validate paths) ≤ 1 := by
  rw [report]
  cases filesFor home? view .validate paths with
  | error refusal => exact le_rfl
  | ok files => exact ValidationReport.exitCode_le_one _

theorem exitCodeOf_checkAll_of_refused (hpath : expandPath home? directory = .ok path)
    (hdirectory : (view path).isDirectory = false) :
    exitCodeOf (report home? view .checkAll [directory]) =
      max (exitCodeOf (report home? view .validate [directory]))
        (max (exitCodeOf (report home? view .checkDuplicates [directory]))
          (exitCodeOf (report home? view .checkReceivers [directory]))) := by
  have hrefused (command : Command) (h : command ≠ .validate) :
      exitCodeOf (report home? view command [directory]) = 1 := by
    obtain ⟨refusal, hrefusal⟩ := exists_report_eq_error h hpath hdirectory
    rw [hrefusal, exitCodeOf]
  have hvalidate := exitCodeOf_validate_le_one home? view [directory]
  rw [hrefused .checkAll (by decide), hrefused .checkDuplicates (by decide),
    hrefused .checkReceivers (by decide)]
  omega

/-- Commands that work on the same files, or are refused for the same reason, agree. -/
theorem exitCodeOf_checkAll_of_same {found : Except Refusal (List RawText)}
    (h : ∀ command, filesFor home? view command [directory] = found) :
    exitCodeOf (report home? view .checkAll [directory]) =
      max (exitCodeOf (report home? view .validate [directory]))
        (max (exitCodeOf (report home? view .checkDuplicates [directory]))
          (exitCodeOf (report home? view .checkReceivers [directory]))) := by
  cases found with
  | error refusal => simp only [report_of_refusal (h _), exitCodeOf, max_self]
  | ok files =>
    simp only [report_of_files (h _), exitCodeOf, reportOn, Report.exitCode, exitCode_full_eq_max]

theorem exitCodeOf_checkAll_eq_max (hhome : ∀ home ∈ home?, home.toList.head? ≠ some '~') :
    exitCodeOf (report home? view .checkAll [directory]) =
      max (exitCodeOf (report home? view .validate [directory]))
        (max (exitCodeOf (report home? view .checkDuplicates [directory]))
          (exitCodeOf (report home? view .checkReceivers [directory]))) := by
  cases hpath : expandPath home? directory with
  | error refusal => exact exitCodeOf_checkAll_of_same (filesFor_of_error hpath)
  | ok path =>
    cases hfound : view path with
    | absent fault => exact exitCodeOf_checkAll_of_refused hpath (by rw [hfound]; rfl)
    | file regular content => exact exitCodeOf_checkAll_of_refused hpath (by rw [hfound]; rfl)
    | directory entries =>
      exact exitCodeOf_checkAll_of_same (filesFor_of_directory hhome hpath hfound)

end Argument

/-- Command lines for each command on one and the same argument. An empty one is never accepted. -/
def AskOn (directory? : Option RawText) (arguments : Command → List RawText)
    (directory : RawText) : Prop :=
  ∀ command, ∃ json color, parse directory? (arguments command) =
    if directory = "" then .error .misuse else .ok ⟨command, [directory], json, color⟩

/-- Behind two dashes there are only paths. -/
theorem parse_behind_dashes (directory? : Option RawText) (command : Command)
    (arguments : List RawText) :
    parse directory? (command.token :: "--" :: arguments) =
      (arguments.foldlM Reading.read
        ⟨Reading.noOptions, Reading.noOptions, some command, [], .pathOnly⟩).bind fun r =>
          r.finish (directory?.getD defaultDirectory) := by
  have hcommand : [RawText.ofString command.token, RawText.ofString "--"].foldlM Reading.read
      Reading.start = .ok ⟨Reading.noOptions, Reading.noOptions, some command, [], .pathOnly⟩ := by
    cases command <;> decide +kernel
  change ((([RawText.ofString command.token, RawText.ofString "--"] ++ arguments).foldlM
    Reading.read Reading.start).bind _) = _
  rw [List.foldlM_append, hcommand]
  rfl

theorem askOn_plain (directory? : Option RawText) (directory : RawText) :
    AskOn directory? (fun command => [command.token, "--", directory]) directory := by
  intro command
  refine ⟨false, .auto, ?_⟩
  rw [parse_behind_dashes]
  by_cases hempty : directory = ""
  · simp [Reading.read, Reading.readWord, bind, Except.bind, hempty]
  · simp [Reading.read, Reading.readWord, Reading.finish, Reading.pathsOr, Reading.noOptions, bind,
      pure, Except.bind, Except.pure, Except.map, hempty]

section Asked

variable {home? : Option String} {directory? : Option RawText} {view : FileView}
  {arguments : Command → List RawText} {directory : RawText}

theorem exitCode_run_of_askOn (h : AskOn directory? arguments directory) (command : Command) :
    (run home? directory? view (arguments command)).exitCode =
      if directory = "" then 2 else exitCodeOf (report home? view command [directory]) := by
  obtain ⟨json, color, hparse⟩ := h command
  by_cases hempty : directory = ""
  · rw [if_pos hempty] at hparse ⊢
    rw [run, hparse]
    rfl
  · rw [if_neg hempty] at hparse ⊢
    exact exitCode_run hparse

/-- The check of everything ends as the worst of the three others does. On a directory its report
is made of theirs, unless the directory cannot be read and refuses them all. -/
theorem exitCode_checkAll_eq_max (hhome : ∀ home ∈ home?, home.toList.head? ≠ some '~')
    (hask : AskOn directory? arguments directory) :
    (run home? directory? view (arguments .checkAll)).exitCode =
        max (run home? directory? view (arguments .validate)).exitCode
          (max (run home? directory? view (arguments .checkDuplicates)).exitCode
            (run home? directory? view (arguments .checkReceivers)).exitCode) ∧
      (∀ refusal, expandPath home? directory = .error refusal →
        ∀ command, report home? view command [directory] = .error refusal) ∧
      ∀ path entries, expandPath home? directory = .ok path → view path = .directory entries →
        (∀ fault, entries = .error fault → ∀ command,
          report home? view command [directory] = .error (.catalog (.unreadable path fault))) ∧
        ∀ names, entries = .ok names → ∃ files duplicates receivers,
          report home? view .validate [directory] = .ok (.validation files) ∧
          report home? view .checkDuplicates [directory] = .ok (.corpus duplicates) ∧
          report home? view .checkReceivers [directory] = .ok (.corpus receivers) ∧
          duplicates.skipped = receivers.skipped ∧
          report home? view .checkAll [directory] =
            .ok (.full files ⟨duplicates.duplicates, receivers.receivers, duplicates.skipped⟩) := by
  refine ⟨?_, fun refusal hrefusal command => report_of_refusal (filesFor_of_error hrefusal command),
    fun path entries hpath hdirectory => ⟨?_, ?_⟩⟩
  · simp only [exitCode_run_of_askOn hask]
    by_cases hempty : directory = ""
    · simp only [if_pos hempty, max_self]
    · simp only [if_neg hempty]
      exact exitCodeOf_checkAll_eq_max hhome
  · rintro fault rfl command
    refine report_of_refusal ((filesFor_of_directory hhome hpath hdirectory command).trans ?_)
    exact deviceFiles_of_fault hpath hdirectory
  · rintro names rfl
    have hreport (command : Command) := report_of_files
      ((filesFor_of_directory hhome hpath hdirectory command).trans
        (deviceFiles_of_names hpath hdirectory))
    exact ⟨_, _, _, hreport .validate, hreport .checkDuplicates, hreport .checkReceivers, rfl,
      hreport .checkAll⟩

end Asked

/-- A catalog below the home directory, with a duplicate, a receiver and a file that is skipped. -/
def homeTree : FileTree :=
  .build ["home/db"]
    [("home/db/a.device", "[Device]\nDeviceMatch=usb:046d:c52b;usb:046d:c077\n".toUTF8),
      ("home/db/b.device", "[Device]\nDeviceMatch=usb:046d:c077\n".toUTF8),
      ("home/db/c.device", "[Device]\nName=C\n".toUTF8)]

def homeArguments (command : Command) : List RawText := [command.token, "--", "~/db"]

theorem exitCode_checkAll_homeTree :
    (∀ home ∈ some "home", home.toList.head? ≠ some '~') ∧
      AskOn none homeArguments "~/db" ∧
      (run (some "home") none homeTree.view (homeArguments .checkAll)).exitCode =
        max (run (some "home") none homeTree.view (homeArguments .validate)).exitCode
          (max (run (some "home") none homeTree.view (homeArguments .checkDuplicates)).exitCode
            (run (some "home") none homeTree.view (homeArguments .checkReceivers)).exitCode) ∧
      expandPath (some "home") "~/db" = .ok "home/db" ∧
      homeTree.view "home/db" = .directory (.ok ["a.device", "b.device", "c.device"]) ∧
      ∃ files duplicates receivers,
        report (some "home") homeTree.view .validate ["~/db"] = .ok (.validation files) ∧
        report (some "home") homeTree.view .checkDuplicates ["~/db"] = .ok (.corpus duplicates) ∧
        report (some "home") homeTree.view .checkReceivers ["~/db"] = .ok (.corpus receivers) ∧
        duplicates.skipped = receivers.skipped ∧
        report (some "home") homeTree.view .checkAll ["~/db"] =
          .ok (.full files ⟨duplicates.duplicates, receivers.receivers, duplicates.skipped⟩) :=
  have hhome : ∀ home ∈ some "home", home.toList.head? ≠ some '~' := by simp
  have hask : AskOn none homeArguments "~/db" := askOn_plain none "~/db"
  have hpath : expandPath (some "home") "~/db" = .ok "home/db" := by decide +kernel
  have hdirectory : homeTree.view "home/db" =
      .directory (.ok ["a.device", "b.device", "c.device"]) := by rfl
  have hagree := exitCode_checkAll_eq_max hhome hask
  ⟨hhome, hask, hagree.1, hpath, hdirectory, (hagree.2.2 _ _ hpath hdirectory).2 _ rfl⟩

end DeviceCatalog.CommandLine
