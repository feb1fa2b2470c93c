import DeviceCatalog.Proofs.CommandLine.Agreement

/-!
# What the arguments of a validation stand for

All arguments are resolved before any file is read. The first one that cannot be
resolved refuses the whole command, whichever files the others lead to, and nothing
is printed. Otherwise there is a report of every file in the order of the arguments,
and what it says of a file depends on that file only.

The path of a directory is expanded once more when its files are listed. As long as
the home directory has no tilde in front, that changes nothing.
-/
namespace DeviceCatalog.CommandLine

/-- The files that an argument stands for. -/
inductive Resolves (home? : Option String) (view : FileView) (argument : RawText) :
    List RawText → Prop
  | file {path : RawText} {regular : Bool} {content : Except FileFault ByteArray}
      (hpath : expandPath home? argument = .ok path) (hfound : view path = .file regular content) :
      Resolves home? view argument [path]
  | directory {path place : RawText} {entries : Except FileFault (List RawText)}
      {files : List RawText} (hpath : expandPath home? argument = .ok path)
      (hfound : view path = .directory entries) (hplace : expandPath home? path = .ok place)
      (hfiles : view.deviceFiles place = .ok files) : Resolves home? view argument files

/-- Why an argument refuses a validation. -/
inductive Refuses (home? : Option String) (view : FileView) (argument : RawText) : Refusal → Prop
  | encoding (htext : argument.text? = none) : Refuses home? view argument .invalidEncoding
  | missing {path : RawText} {fault : FileFault} (hpath : expandPath home? argument = .ok path)
      (hfound : view path = .absent fault) : Refuses home? view argument (.noSuchPath path)
  | directory {path place : RawText} {entries : Except FileFault (List RawText)} {e : CatalogError}
      (hpath : expandPath home? argument = .ok path) (hfound : view path = .directory entries)
      (hplace : expandPath home? path = .ok place) (hfiles : view.deviceFiles place = .error e) :
      Refuses home? view argument (.catalog e)

def Missing (home? : Option String) (view : FileView) (argument : RawText) : Prop :=
  ∃ path fault, expandPath home? argument = .ok path ∧ view path = .absent fault

/-- The argument is a text, and the names in a directory that it leads to can be read. -/
def Readable (home? : Option String) (view : FileView) (argument : RawText) : Prop :=
  ∃ path, expandPath home? argument = .ok path ∧
    ∀ entries, view path = .directory entries → ∃ names, entries = .ok names

variable {home? : Option String} {directory? : Option RawText} {view : FileView}
  {argument path : RawText} {arguments files : List RawText} {refusal : Refusal}

theorem exists_expandPath_of_ok (h : expandPath home? argument = .ok path) :
    ∃ place, expandPath home? path = .ok place := by
  obtain ⟨text, -, rfl⟩ := expandPath_eq_ok_iff.1 h
  exact ⟨_, expandPath_eq_ok_iff.2 ⟨_, RawText.text?_ofString _, rfl⟩⟩

theorem expandPath_eq_error_iff :
    expandPath home? argument = .error refusal ↔
      argument.text? = none ∧ refusal = .invalidEncoding := by
  rw [expandPath]
  cases argument.text? with
  | none => simp [eq_comm]
  | some text => simp

theorem Resolves.filesAt_eq (h : Resolves home? view argument files) :
    filesAt home? view argument = .ok files := by
  cases h with
  | file hpath hfound => simp only [filesAt, hpath, hfound, bind, Except.bind]
  | directory hpath hfound hplace hfiles =>
    rw [filesAt_of_directory hpath hfound, deviceFiles_of_ok hplace, hfiles]
    rfl

theorem Refuses.filesAt_eq (h : Refuses home? view argument refusal) :
    filesAt home? view argument = .error refusal := by
  cases h with
  | encoding htext =>
    have herror : expandPath home? argument = .error .invalidEncoding :=
      expandPath_eq_error_iff.2 ⟨htext, rfl⟩
    simp only [filesAt, herror, bind, Except.bind]
  | missing hpath hfound => simp only [filesAt, hpath, hfound, bind, Except.bind]
  | directory hpath hfound hplace hfiles =>
    rw [filesAt_of_directory hpath hfound, deviceFiles_of_ok hplace, hfiles]
    rfl

theorem resolves_or_refuses (home? : Option String) (view : FileView) (argument : RawText) :
    (∃ files, Resolves home? view argument files) ∨ ∃ refusal, Refuses home? view argument refusal := by
  cases hpath : expandPath home? argument with
  | error refusal =>
    exact .inr ⟨_, .encoding (expandPath_eq_error_iff.1 hpath).1⟩
  | ok path =>
    cases hfound : view path with
    | absent fault => exact .inr ⟨_, .missing hpath hfound⟩
    | file regular content => exact .inl ⟨_, .file hpath hfound⟩
    | directory entries =>
      obtain ⟨place, hplace⟩ := exists_expandPath_of_ok hpath
      cases hfiles : view.deviceFiles place with
      | error e => exact .inr ⟨_, .directory hpath hfound hplace hfiles⟩
      | ok files => exact .inl ⟨_, .directory hpath hfound hplace hfiles⟩

theorem filesAt_eq_ok_iff : filesAt home? view argument = .ok files ↔
    Resolves home? view argument files := by
  refine ⟨fun h => ?_, Resolves.filesAt_eq⟩
  rcases resolves_or_refuses home? view argument with ⟨others, hothers⟩ | ⟨refusal, hrefusal⟩
  · obtain rfl := Except.ok.inj (hothers.filesAt_eq.symm.trans h)
    exact hothers
  · rw [hrefusal.filesAt_eq] at h
    cases h

theorem filesAt_eq_error_iff : filesAt home? view argument = .error refusal ↔
    Refuses home? view argument refusal := by
  refine ⟨fun h => ?_, Refuses.filesAt_eq⟩
  rcases resolves_or_refuses home? view argument with ⟨files, hfiles⟩ | ⟨other, hother⟩
  · rw [hfiles.filesAt_eq] at h
    cases h
  · obtain rfl := Except.error.inj (hother.filesAt_eq.symm.trans h)
    exact hother

theorem Resolves.not_refuses (h : Resolves home? view argument files) :
    ¬∃ refusal, Refuses home? view argument refusal := by
  rintro ⟨refusal, hrefuses⟩
  have hsame := h.filesAt_eq.symm.trans hrefuses.filesAt_eq
  cases hsame

/-- The first argument that refuses is the reason for the refusal. -/
theorem collectFiles_eq_error_iff :
    collectFiles home? view arguments = .error refusal ↔
      ∃ argument, IsFirst (fun argument => ∃ refusal, Refuses home? view argument refusal)
        arguments argument ∧ Refuses home? view argument refusal := by
  simp only [collectFiles, map_eq_error_iff, mapM_eq_error_iff, filesAt_eq_error_iff]

theorem collectFiles_eq_ok_iff :
    collectFiles home? view arguments = .ok files ↔
      ∃ groups, List.Forall₂ (Resolves home? view) arguments groups ∧ groups.flatten = files := by
  simp only [collectFiles, map_eq_ok_iff, mapM_eq_ok_iff, filesAt_eq_ok_iff]

theorem Readable.refuses_iff (hhome : ∀ home ∈ home?, home.toList.head? ≠ some '~')
    (h : Readable home? view argument) :
    Refuses home? view argument refusal ↔
      ∃ path fault, expandPath home? argument = .ok path ∧ view path = .absent fault ∧
        refusal = .noSuchPath path := by
  obtain ⟨path, hpath, hnames⟩ := h
  constructor
  · intro hrefuses
    cases hrefuses with
    | encoding htext =>
      rw [expandPath_eq_error_iff.2 ⟨htext, rfl⟩] at hpath
      cases hpath
    | missing hpath' hfound => exact ⟨_, _, hpath', hfound, rfl⟩
    | directory hpath' hfound hplace hfiles =>
      obtain rfl := Except.ok.inj (hpath.symm.trans hpath')
      obtain ⟨names, rfl⟩ := hnames _ hfound
      obtain rfl := Except.ok.inj ((expandPath_expandPath hhome hpath).symm.trans hplace)
      rw [FileView.deviceFiles_of_names hfound] at hfiles
      cases hfiles
  · rintro ⟨path', fault, hpath', hfound, rfl⟩
    exact .missing hpath' hfound

theorem Readable.exists_refuses_iff (hhome : ∀ home ∈ home?, home.toList.head? ≠ some '~')
    (h : Readable home? view argument) :
    (∃ refusal, Refuses home? view argument refusal) ↔ Missing home? view argument := by
  simp only [h.refuses_iff hhome, Missing]
  constructor
  · rintro ⟨refusal, path, fault, hpath, hfound, -⟩
    exact ⟨path, fault, hpath, hfound⟩
  · rintro ⟨path, fault, hpath, hfound⟩
    exact ⟨_, path, fault, hpath, hfound, rfl⟩

/-- Behind two dashes any number of paths is taken as they are. -/
theorem foldlM_read_paths {r : Reading} (hcommand : r.command? = some .validate)
    (hexpecting : r.expecting = .pathOnly) (h : ∀ argument ∈ arguments, argument ≠ "") :
    arguments.foldlM Reading.read r = .ok { r with paths := r.paths ++ arguments } := by
  induction arguments generalizing r with
  | nil => rw [List.append_nil]; rfl
  | cons first rest ih =>
    rw [List.forall_mem_cons] at h
    have hread : r.read first = .ok { r with paths := r.paths ++ [first] } := by
      simp [Reading.read, Reading.readWord, hexpecting, hcommand, h.1, Command.takesMany]
    rw [List.foldlM_cons, hread]
    refine (ih (r := { r with paths := r.paths ++ [first] }) hcommand hexpecting h.2).trans ?_
    simp only [List.append_assoc, List.singleton_append]

theorem parse_validate (directory? : Option RawText) (hne : arguments ≠ [])
    (h : ∀ argument ∈ arguments, argument ≠ "") :
    parse directory? (Command.validate.token :: "--" :: arguments) =
      .ok ⟨.validate, arguments, false, .auto⟩ := by
  rw [parse_behind_dashes, foldlM_read_paths rfl rfl h]
  simp [Reading.finish, Reading.pathsOr, Reading.noOptions, Except.bind, Except.map, hne]

/-- How a validation ends. It is refused because of the first argument that cannot be resolved,
whatever the others lead to, and otherwise it reports on each file of each argument. Where the home
directory has no tilde in front and the arguments are readable, only one that leads nowhere can
refuse it, and a directory is listed at the path that it is found at. -/
theorem run_validate_resolves {commandLine : List RawText} {json : Bool} {color : ColorMode}
    (hparse : parse directory? commandLine = .ok ⟨.validate, arguments, json, color⟩) :
    (∀ argument refusal,
        IsFirst (fun argument => ∃ refusal, Refuses home? view argument refusal) arguments
          argument →
        Refuses home? view argument refusal →
          run home? directory? view commandLine = ⟨1, "", some refusal.message⟩) ∧
      ((∀ argument ∈ arguments, ¬∃ refusal, Refuses home? view argument refusal) →
        ∃ groups files,
          List.Forall₂ (Resolves home? view) arguments groups ∧
          List.Forall₂ (ValidationReport.Records view) groups.flatten files ∧
          run home? directory? view commandLine =
            .ofReport json color (.validation ⟨files⟩) ∧
          (run home? directory? view commandLine).exitCode =
            if ∀ file ∈ files, file.passed = true then 0 else 1) ∧
      ((∀ home ∈ home?, home.toList.head? ≠ some '~') →
        (∀ argument path, expandPath home? argument = .ok path →
          expandPath home? path = .ok path) ∧
        ((∀ argument ∈ arguments, Readable home? view argument) →
          (∀ argument ∈ arguments, (∃ refusal, Refuses home? view argument refusal) ↔
            Missing home? view argument) ∧
          ∀ argument, IsFirst (Missing home? view) arguments argument →
            ∃ path, expandPath home? argument = .ok path ∧
              run home? directory? view commandLine =
                ⟨1, "", some ("No such file or directory: " ++ path.shown)⟩)) := by
  have hrefused : ∀ argument refusal,
      IsFirst (fun argument => ∃ refusal, Refuses home? view argument refusal) arguments argument →
      Refuses home? view argument refusal →
        run home? directory? view commandLine = ⟨1, "", some refusal.message⟩ := by
    intro argument refusal hfirst hrefuses
    refine run_of_report_eq_error hparse (report_of_refusal ?_)
    exact collectFiles_eq_error_iff.2 ⟨argument, hfirst, hrefuses⟩
  refine ⟨hrefused, fun hall => ?_, fun hhome => ⟨fun argument path => expandPath_expandPath hhome,
    fun hreadable => ⟨?_, ?_⟩⟩⟩
  · have hresolves : ∀ argument ∈ arguments, ∃ files, Resolves home? view argument files :=
      fun argument hargument =>
        (resolves_or_refuses home? view argument).resolve_right (hall argument hargument)
    obtain ⟨groups, hgroups⟩ := exists_forall₂ hresolves
    have hreport : report home? view .validate arguments =
        .ok (.validation (.ofPaths view groups.flatten)) :=
      report_of_files (collectFiles_eq_ok_iff.2 ⟨groups, hgroups, rfl⟩)
    have hrun : run home? directory? view commandLine =
        .ofReport json color (.validation (.ofPaths view groups.flatten)) := by
      rw [run_of_parse hparse, Request.run, hreport]
    refine ⟨groups, _, hgroups, ValidationReport.forall₂_records view groups.flatten, hrun, ?_⟩
    rw [hrun]
    exact ValidationReport.exitCode_eq_ite _
  · exact fun argument hargument => (hreadable argument hargument).exists_refuses_iff hhome
  · intro argument hfirst
    have hsame := isFirst_congr (a := argument) fun argument hargument =>
      (hreadable argument hargument).exists_refuses_iff hhome
    obtain ⟨path, fault, hpath, hfound⟩ := hfirst.holds
    exact ⟨path, hpath, hrefused argument _ (hsame.2 hfirst) (.missing hpath hfound)⟩

/-- A valid file, a broken one beside it, and a text outside of the catalog. -/
def notesTree : FileTree :=
  .build ["home/db"]
    [("home/db/a.device",
        "[Device]\nName=A\nDriver=hidpp20\nDeviceMatch=usb:046d:c077\nDeviceType=mouse\n".toUTF8),
      ("home/db/b.device", "Name=B\n".toUTF8), ("notes.txt", "".toUTF8)]

def missingArguments : List RawText := ["home/db/b.device", "~/gone", "~/db", "nowhere"]

def mixedArguments : List RawText := ["notes.txt", "~/db", "home/db/a.device", "~/db"]

theorem run_validate_resolves_notesTree :
    parse none ("validate" :: "--" :: missingArguments) =
        .ok ⟨.validate, missingArguments, false, .auto⟩ ∧
      run (some "home") none notesTree.view ("validate" :: "--" :: missingArguments) =
        ⟨1, "", some "No such file or directory: home/gone"⟩ ∧
      parse none ("validate" :: "--" :: mixedArguments) =
        .ok ⟨.validate, mixedArguments, false, .auto⟩ ∧
      ∃ groups files,
        List.Forall₂ (Resolves (some "home") notesTree.view) mixedArguments groups ∧
        List.Forall₂ (ValidationReport.Records notesTree.view) groups.flatten files ∧
        run (some "home") none notesTree.view ("validate" :: "--" :: mixedArguments) =
          .ofReport false .auto (.validation ⟨files⟩) ∧
        (run (some "home") none notesTree.view ("validate" :: "--" :: mixedArguments)).exitCode =
          if ∀ file ∈ files, file.passed = true then 0 else 1 := by
  have hdb : expandPath (some "home") "~/db" = .ok "home/db" := by decide +kernel
  have hplace : expandPath (some "home") "home/db" = .ok "home/db" := by decide +kernel
  have hgone : expandPath (some "home") "~/gone" = .ok "home/gone" := by decide +kernel
  have ha : expandPath (some "home") "home/db/a.device" = .ok "home/db/a.device" := by
    decide +kernel
  have hb : expandPath (some "home") "home/db/b.device" = .ok "home/db/b.device" := by
    decide +kernel
  have hnotes : expandPath (some "home") "notes.txt" = .ok "notes.txt" := by decide +kernel
  have hfound : notesTree.view "home/db" = .directory (.ok ["a.device", "b.device"]) := by rfl
  have hmissing : parse none ("validate" :: "--" :: missingArguments) =
      .ok ⟨.validate, missingArguments, false, .auto⟩ :=
    parse_validate none (by decide) (by decide)
  have hmixed : parse none ("validate" :: "--" :: mixedArguments) =
      .ok ⟨.validate, mixedArguments, false, .auto⟩ :=
    parse_validate none (by decide) (by decide)
  have hfirst : Refuses (some "home") notesTree.view "~/gone" (.noSuchPath "home/gone") :=
    .missing hgone rfl
  refine ⟨hmissing, (run_validate_resolves hmissing).1 "~/gone" _ ?_ hfirst, hmixed,
    (run_validate_resolves hmixed).2.1 ?_⟩
  · refine ⟨["home/db/b.device"], ["~/db", "nowhere"], rfl, ?_, _, hfirst⟩
    rw [List.forall_mem_singleton]
    exact Resolves.not_refuses (.file hb rfl)
  · simp only [mixedArguments, List.forall_mem_cons]
    exact ⟨Resolves.not_refuses (.file hnotes rfl),
      Resolves.not_refuses (.directory hdb hfound hplace (FileView.deviceFiles_of_names hfound)),
      Resolves.not_refuses (.file ha rfl),
      Resolves.not_refuses (.directory hdb hfound hplace (FileView.deviceFiles_of_names hfound)),
      by simp⟩

/-- A directory below one that is named like the home directory. -/
def tildeTree : FileTree := .build ["~/h/db"] []

/-- A validation can be refused for other reasons than an argument that leads nowhere. -/
theorem run_validate_refuses_present :
    ((tildeTree.view (expandTilde (some "~/h") "~/db")).isDirectory = true ∧
        run (some "~/h") none tildeTree.view ["validate", "~/db"] =
          ⟨1, "", some "Device directory not found: ~/h/h/db"⟩) ∧
      ((FileView.locked "db").isDirectory = true ∧ (FileView.locked "gone").isPresent = false ∧
        run none none FileView.locked ["validate", "db", "gone"] =
          ⟨1, "", some "Failed to read db: Permission denied (os error 13)"⟩) ∧
      run none none FileTree.empty.view ["validate", ⟨[0xff]⟩] =
        ⟨1, "", some "Invalid path encoding"⟩ ∧
      run none none FileTree.empty.view ["validate", ""] = ⟨2, "", none⟩ := by
  decide +kernel

end DeviceCatalog.CommandLine
