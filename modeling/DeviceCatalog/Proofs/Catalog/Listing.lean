import DeviceCatalog.Proofs.Catalog.Outcomes
import DeviceCatalog.Proofs.Files.Enumeration
import DeviceCatalog.Proofs.Files.Naming

/-!
# The listing of a directory

A directory that can be read has a listing of every file in it with a name for data
files, each of them once. Paths are in the order of their names, byte by byte, and
that is the order of whole paths, too, since they all have the same components in
front. So the listing does not depend on the order in which the directory gives its
names. Reports show a listed file by its base name, and only names that are UTF-8
are told apart by that.
-/
namespace DeviceCatalog

section Sorting

theorem pairwise_mergeSort_names (names : List RawText) :
    (names.mergeSort (· ≤ ·)).Pairwise (· ≤ ·) := by
  have h : (names.mergeSort (· ≤ ·)).Pairwise fun a b => decide (a ≤ b) = true :=
    List.pairwise_mergeSort (by simpa using fun a b c => RawText.le_trans)
      (by simpa using RawText.le_total) names
  simpa using h

end Sorting

namespace Path

/-- Whole paths are compared by components, and components by bytes. -/
def Precedes (path other : RawText) : Prop := components path < components other

theorem precedes_join {name next : RawText} (hslash : slash ∉ name.bytes)
    (hname : isDeviceName name = true) (hslash' : slash ∉ next.bytes)
    (hname' : isDeviceName next = true) (h : name < next) (directory : RawText) :
    Precedes (join directory name) (join directory next) := by
  rw [Precedes, components_join_of_isDeviceName hslash hname,
    components_join_of_isDeviceName hslash' hname']
  exact List.append_left_lt (List.cons_lt_cons_iff.2 (.inl h))

end Path

namespace FileView

variable {view other : FileView} {directory : RawText} {names : List RawText}

theorem mem_listedNames_iff {name : RawText} :
    name ∈ view.listedNames directory names ↔
      name ∈ names ∧ Path.isDeviceName name = true ∧
        (view (Path.join directory name)).isFile = true := by
  rw [listedNames, (List.mergeSort_perm _ _).mem_iff, List.mem_filter, Bool.and_eq_true]

theorem pairwise_listedNames (hnodup : names.Nodup) :
    (view.listedNames directory names).Pairwise (· < ·) := by
  have hdistinct : (view.listedNames directory names).Nodup :=
    (List.mergeSort_perm _ _).nodup_iff.2 (hnodup.filter _)
  refine ((pairwise_mergeSort_names _).and hdistinct).imp ?_
  rintro name next ⟨hle, hne⟩
  exact RawText.lt_of_le_of_ne hle hne

/-- What is listed of a directory with the given names. -/
structure IsListing (view : FileView) (directory : RawText) (names files : List RawText) :
    Prop where
  mem_iff : ∀ path, path ∈ files ↔ ∃ stem : RawText, stem ≠ "" ∧ stem ++ ".device" ∈ names ∧
    path = Path.join directory (stem ++ ".device") ∧ (view path).isFile = true
  increasing : files.Pairwise fun path next => Path.lastName path < Path.lastName next
  precedes : files.Pairwise Path.Precedes
  join_lastName : ∀ path ∈ files, Path.join directory (Path.lastName path) = path
  /-- The base name of a path is its name in the directory exactly if that is UTF-8. -/
  baseName_eq_iff : ∀ path ∈ files,
    (Path.baseName path : RawText) = Path.lastName path ↔ (Path.lastName path).text?.isSome
  /-- No two paths with such names share a base name. -/
  eq_of_baseName_eq : ∀ path ∈ files, ∀ next ∈ files, (Path.lastName path).text?.isSome →
    (Path.lastName next).text?.isSome → Path.baseName path = Path.baseName next → path = next
  isDeviceFile : ∀ path ∈ files, Path.isDeviceFile path = true

theorem isListing_listedNames (hslash : Path.SlashFree names) (hnodup : names.Nodup) :
    view.IsListing directory names
      ((view.listedNames directory names).map (Path.join directory)) := by
  have hlisted : ∀ name ∈ view.listedNames directory names,
      Path.slash ∉ name.bytes ∧ Path.isDeviceName name = true := by
    intro name hname
    obtain ⟨hmem, hdevice, -⟩ := mem_listedNames_iff.1 hname
    exact ⟨hslash name hmem, hdevice⟩
  have hlast : ∀ name ∈ view.listedNames directory names,
      Path.lastName (Path.join directory name) = name :=
    fun name hname => Path.lastName_join (hlisted name hname).1 (hlisted name hname).2 directory
  have hsorted : (view.listedNames directory names).Pairwise (· < ·) := pairwise_listedNames hnodup
  constructor
  case mem_iff =>
    intro path
    simp only [List.mem_map, mem_listedNames_iff, Path.isDeviceName_eq_true_iff]
    constructor
    · rintro ⟨name, ⟨hmem, ⟨stem, hstem, rfl⟩, hfile⟩, rfl⟩
      exact ⟨stem, hstem, hmem, rfl, hfile⟩
    · rintro ⟨stem, hstem, hmem, rfl, hfile⟩
      exact ⟨stem ++ ".device", ⟨hmem, ⟨stem, hstem, rfl⟩, hfile⟩, rfl⟩
  case increasing =>
    rw [List.pairwise_map]
    refine hsorted.imp_of_mem fun hname hnext hlt => ?_
    rwa [hlast _ hname, hlast _ hnext]
  case precedes =>
    rw [List.pairwise_map]
    refine hsorted.imp_of_mem fun hname hnext hlt => ?_
    exact Path.precedes_join (hlisted _ hname).1 (hlisted _ hname).2 (hlisted _ hnext).1
      (hlisted _ hnext).2 hlt directory
  case join_lastName =>
    rw [List.forall_mem_map]
    intro name hname
    rw [hlast name hname]
  case baseName_eq_iff => exact fun path _ => RawText.ofString_shown_eq_iff
  case eq_of_baseName_eq =>
    simp only [List.forall_mem_map]
    intro name hname next hnext hutf hutf' hsame
    rw [hlast name hname] at hutf
    rw [hlast next hnext] at hutf'
    rw [Path.baseName, Path.baseName, hlast name hname, hlast next hnext] at hsame
    rw [← RawText.ofString_shown_eq_iff.2 hutf, ← RawText.ofString_shown_eq_iff.2 hutf', hsame]
  case isDeviceFile =>
    rw [List.forall_mem_map]
    intro name hname
    exact Path.isDeviceFile_join (hlisted name hname).1 (hlisted name hname).2 directory

/-- A directory with a file that can be read, though the names in the directory cannot. -/
def locked : FileView := fun path =>
  if path = "db" then .directory (.error (.other "Permission denied (os error 13)"))
  else if path = "db/x.device" then .file true (.ok .empty)
  else .absent .notFound

end FileView

namespace FileTree

/-- The same nodes, enumerated from the last one to the first. -/
def reversed (tree : FileTree) : FileTree where
  nodes := tree.nodes.reverse
  nodup := by
    rw [List.map_reverse]
    exact List.nodup_reverse.2 tree.nodup

section Masked

variable {tree : FileTree} {location : List RawText} {directory path : RawText}

end Masked

end FileTree

end DeviceCatalog
