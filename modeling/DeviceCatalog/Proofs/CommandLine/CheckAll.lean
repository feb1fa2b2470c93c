import DeviceCatalog.CommandLine.Run
import DeviceCatalog.Proofs.Catalog.Listing
import DeviceCatalog.Proofs.Corpus.Declarations

/-!
# The verdict on a whole catalog

Checking all of a directory succeeds exactly when every listed file is valid, no
declared identity occurs twice, and none belongs to a receiver. Files that the
scan passes over cannot hide anything, since they are never valid.
-/
namespace DeviceCatalog.CommandLine

theorem exitCode_full_eq_zero_iff {files : ValidationReport} {all : CorpusReport} :
    (Report.full files all).exitCode = 0 ↔ files.exitCode = 0 ∧ all.exitCode = 0 := by
  rw [Report.exitCode]
  omega

theorem exitCode_full_le_one (files : ValidationReport) (all : CorpusReport) :
    (Report.full files all).exitCode ≤ 1 :=
  Nat.max_le.2 ⟨files.exitCode_le_one, all.exitCode_le_one⟩

section

variable {home? : Option String} {directory? : Option RawText} {view : FileView}
  {arguments : List RawText} {directory path : RawText} {json : Bool} {color : ColorMode}

theorem run_of_parse {request : Request} (hparse : parse directory? arguments = .ok request) :
    run home? directory? view arguments = request.run home? view := by
  rw [run, hparse]

theorem run_of_report_eq_error {request : Request} {refusal : Refusal}
    (hparse : parse directory? arguments = .ok request)
    (hrefused : report home? view request.command request.paths = .error refusal) :
    run home? directory? view arguments = ⟨1, "", some refusal.message⟩ := by
  rw [run_of_parse hparse, Request.run, hrefused]
  rfl

theorem filesFor_of_ne_validate {command : Command} (h : command ≠ .validate) :
    filesFor home? view command [directory] = deviceFiles home? view directory := by
  cases command with
  | validate => exact absurd rfl h
  | _ => rfl

theorem deviceFiles_of_error {refusal : Refusal}
    (hrefusal : expandPath home? directory = .error refusal) :
    deviceFiles home? view directory = .error refusal := by
  rw [deviceFiles, hrefusal]
  rfl

theorem deviceFiles_of_ok (hpath : expandPath home? directory = .ok path) :
    deviceFiles home? view directory = (view.deviceFiles path).mapError .catalog := by
  rw [deviceFiles, hpath]
  rfl

theorem deviceFiles_of_fault {fault : FileFault} (hpath : expandPath home? directory = .ok path)
    (hdirectory : view path = .directory (.error fault)) :
    deviceFiles home? view directory = .error (.catalog (.unreadable path fault)) := by
  rw [deviceFiles_of_ok hpath, FileView.deviceFiles_of_fault hdirectory]
  rfl

theorem deviceFiles_of_names {names : List RawText} (hpath : expandPath home? directory = .ok path)
    (hdirectory : view path = .directory (.ok names)) :
    deviceFiles home? view directory =
      .ok ((view.listedNames path names).map (Path.join path)) := by
  rw [deviceFiles_of_ok hpath, FileView.deviceFiles_of_names hdirectory]
  rfl

theorem report_of_files {command : Command} {paths files : List RawText}
    (h : filesFor home? view command paths = .ok files) :
    report home? view command paths = .ok (reportOn view files command) := by
  rw [report, h]
  rfl

theorem report_of_refusal {command : Command} {paths : List RawText} {refusal : Refusal}
    (h : filesFor home? view command paths = .error refusal) :
    report home? view command paths = .error refusal := by
  rw [report, h]
  rfl

theorem exitCode_run_checkAll {files : List RawText}
    (hparse : parse directory? arguments = .ok ⟨.checkAll, [directory], json, color⟩)
    (hfiles : deviceFiles home? view directory = .ok files) :
    (run home? directory? view arguments).exitCode =
      (Report.full (.ofPaths view files) (.full (.collect view files))).exitCode := by
  have hreport : report home? view .checkAll [directory] =
      .ok (.full (.ofPaths view files) (.full (.collect view files))) :=
    report_of_files ((filesFor_of_ne_validate (by decide)).trans hfiles)
  rw [run_of_parse hparse, Request.run, hreport]
  rfl

/-- How a check of everything ends, for any view of files and any directory in it. -/
theorem checkAll_exitCode_eq_zero_iff_clean
    (hparse : parse directory? arguments = .ok ⟨.checkAll, [directory], json, color⟩) :
    (∀ refusal, expandPath home? directory = .error refusal →
        run home? directory? view arguments = ⟨1, "", some refusal.message⟩) ∧
      ∀ path entries, expandPath home? directory = .ok path → view path = .directory entries →
        (∀ fault, entries = .error fault →
          view.deviceFiles path = .error (.unreadable path fault) ∧
            run home? directory? view arguments =
              ⟨1, "", some (CatalogError.unreadable path fault).message⟩) ∧
        ∀ names, entries = .ok names →
          ∃ files, view.deviceFiles path = .ok files ∧
            (view.Lawful → view.IsListing path names files) ∧
            ((run home? directory? view arguments).exitCode = 0 ↔ view.Clean files) ∧
            (¬view.Clean files → (run home? directory? view arguments).exitCode = 1) := by
  have hchecked : filesFor home? view .checkAll [directory] = deviceFiles home? view directory :=
    filesFor_of_ne_validate (by decide)
  refine ⟨fun refusal hrefusal => ?_, fun path entries hpath hdirectory => ⟨?_, ?_⟩⟩
  · have hfiles := hchecked.trans (deviceFiles_of_error hrefusal)
    exact run_of_report_eq_error hparse (report_of_refusal hfiles)
  · rintro fault rfl
    have hfiles := hchecked.trans (deviceFiles_of_fault hpath hdirectory)
    exact ⟨FileView.deviceFiles_of_fault hdirectory,
      run_of_report_eq_error hparse (report_of_refusal hfiles)⟩
  · rintro names rfl
    have hfiles := deviceFiles_of_names hpath hdirectory
    refine ⟨_, FileView.deviceFiles_of_names hdirectory, fun hlawful => ?_, ?_⟩
    · exact FileView.isListing_listedNames (hlawful.slashFree _ _ hdirectory)
        (hlawful.nodup _ _ hdirectory)
    generalize (view.listedNames path names).map (Path.join path) = files at hfiles
    have hclean : (run home? directory? view arguments).exitCode = 0 ↔ view.Clean files := by
      rw [exitCode_run_checkAll hparse hfiles, exitCode_full_eq_zero_iff,
        FileView.clean_iff_exitCodes]
    refine ⟨hclean, fun hdirty => ?_⟩
    have hle := exitCode_full_le_one (.ofPaths view files) (.full (.collect view files))
    rw [← exitCode_run_checkAll hparse hfiles] at hle
    have hne := mt hclean.1 hdirty
    omega

end

def sampleTree : FileTree :=
  .build ["db"]
    [("db/a.device",
        "[Device]\nName=A\nDriver=hidpp20\nDeviceMatch=usb:046d:c077\nDeviceType=mouse\n".toUTF8),
      ("db/b.device",
        "[Device]\nName=B\nDriver=hidpp20\nDeviceMatch=usb:046d:c07d\nDeviceType=mouse\n".toUTF8)]

theorem checkAll_sampleTree :
    parse none ["check-all", "--json", "db"] = .ok ⟨.checkAll, ["db"], true, .auto⟩ ∧
      expandPath none "db" = .ok "db" ∧
      sampleTree.view "db" = .directory (.ok ["a.device", "b.device"]) ∧
      ∃ files, sampleTree.view.deviceFiles "db" = .ok files ∧
        sampleTree.view.IsListing "db" ["a.device", "b.device"] files ∧
        ((run none none sampleTree.view ["check-all", "--json", "db"]).exitCode = 0 ↔
          sampleTree.view.Clean files) ∧
        (¬sampleTree.view.Clean files →
          (run none none sampleTree.view ["check-all", "--json", "db"]).exitCode = 1) :=
  have hparse : parse none ["check-all", "--json", "db"] = .ok ⟨.checkAll, ["db"], true, .auto⟩ :=
    rfl
  have hpath : expandPath none "db" = .ok "db" := by decide +kernel
  have hdirectory : sampleTree.view "db" = .directory (.ok ["a.device", "b.device"]) := by rfl
  have ⟨files, hfiles, hlisting, hverdict⟩ :=
    ((checkAll_exitCode_eq_zero_iff_clean hparse).2 _ _ hpath hdirectory).2 _ rfl
  ⟨hparse, hpath, hdirectory, files, hfiles, hlisting (FileTree.wellNamed_build _ _).lawful,
    hverdict⟩

end DeviceCatalog.CommandLine
