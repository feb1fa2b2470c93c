import DeviceCatalog.Files.Tree
import DeviceCatalog.Proofs.Lookup
import DeviceCatalog.Proofs.Text.Cuts

/-!
# The names that a directory gives

A directory gives each of its names once, no name holds a slash, and the order in
which the names come means nothing. A tree keeps its nodes in some order, and two
trees with the same nodes differ in the order of the names only.
-/
namespace DeviceCatalog

namespace Found

/-- The same answer, but for the order in which a directory gives its names. -/
inductive Alike : Found → Found → Prop where
  | same (found : Found) : Alike found found
  | reordered {names others : List RawText} (h : names.Perm others) :
    Alike (.directory (.ok names)) (.directory (.ok others))

end Found

def Path.SlashFree (names : List RawText) : Prop := ∀ name ∈ names, Path.slash ∉ name.bytes

namespace FileView

def Alike (view other : FileView) : Prop := ∀ path, (view path).Alike (other path)

/-- What holds of the names in every directory. -/
structure Lawful (view : FileView) : Prop where
  nodup : ∀ directory names, view directory = .directory (.ok names) → names.Nodup
  slashFree : ∀ directory names, view directory = .directory (.ok names) → Path.SlashFree names

end FileView

namespace FileTree

variable {tree other : FileTree} {location names : List RawText} {path : RawText}

theorem nameInside?_eq_some_iff {place : List RawText} {name : RawText} :
    nameInside? location place = some name ↔ place = location ++ [name] := by
  simp only [nameInside?, Option.filter_eq_some_iff, List.getLast?_eq_some_iff, decide_eq_true_eq]
  constructor
  · rintro ⟨⟨before, rfl⟩, hbefore⟩
    rw [← hbefore, List.dropLast_concat]
  · rintro rfl
    exact ⟨⟨location, rfl⟩, List.dropLast_concat⟩

theorem mem_namesInside_iff {name : RawText} :
    name ∈ tree.namesInside location ↔ location ++ [name] ∈ tree.nodes.map Prod.fst := by
  simp only [namesInside, List.mem_filterMap, nameInside?_eq_some_iff, exists_eq_right]

theorem nodup_namesInside (tree : FileTree) (location : List RawText) :
    (tree.namesInside location).Nodup := by
  refine List.Nodup.filterMap ?_ tree.nodup
  intro place place' name hplace hplace'
  rw [nameInside?_eq_some_iff.1 hplace, nameInside?_eq_some_iff.1 hplace']

theorem followAbove_eq_directory {parts : List RawText}
    (h : followAbove parts = .directory (.ok names)) : names = [] := by
  fun_induction followAbove parts with
  | case1 => exact (Except.ok.inj (Found.directory.inj h)).symm
  | case2 part rest hstay ih => exact ih h
  | case3 => cases h

theorem follow_eq_directory {parts : List RawText}
    (h : tree.follow location parts = .directory (.ok names)) :
    names = [] ∨ ∃ place, names = tree.namesInside place := by
  fun_induction follow tree location parts with
  | case1 location =>
    rw [found] at h
    split at h
    · cases h
    · cases h
    · exact .inr ⟨location, (Except.ok.inj (Found.directory.inj h)).symm⟩
  | case2 => cases h
  | case3 => cases h
  | case4 location part rest hthere hstay ih => exact ih h
  | case5 => exact .inl (followAbove_eq_directory h)
  | case6 location rest hthere hstay hinside ih => exact ih h
  | case7 => cases h
  | case8 location part rest hthere hstay hup hdown ih => exact ih h

theorem view_eq_directory (h : tree.view path = .directory (.ok names)) :
    names = [] ∨ ∃ place, names = tree.namesInside place := by
  rw [view] at h
  split at h
  · cases h
  · split at h
    · exact .inl (followAbove_eq_directory h)
    · exact follow_eq_directory h

def WellNamed (tree : FileTree) : Prop := ∀ place ∈ tree.nodes.map Prod.fst, Path.SlashFree place

theorem WellNamed.lawful (h : tree.WellNamed) : FileView.Lawful tree.view := by
  constructor
  case nodup =>
    intro directory names hdirectory
    rcases view_eq_directory hdirectory with rfl | ⟨place, rfl⟩
    · exact List.nodup_nil
    · exact nodup_namesInside tree place
  case slashFree =>
    intro directory names hdirectory name hname
    rcases view_eq_directory hdirectory with rfl | ⟨place, rfl⟩
    · exact absurd hname List.not_mem_nil
    · exact h _ (mem_namesInside_iff.1 hname) name (by simp)

section Building

variable {node : FileNode}

theorem WellNamed.put (h : tree.WellNamed) (hlocation : Path.SlashFree location) :
    (tree.put location node).WellNamed := by
  intro place hplace
  simp only [FileTree.put, List.map_append, List.mem_append, List.map_cons, List.map_nil,
    List.mem_singleton] at hplace
  rcases hplace with hold | rfl
  · exact h place ((List.filter_sublist.map Prod.fst).mem hold)
  · exact hlocation

theorem WellNamed.addDirectory (h : tree.WellNamed) (hlocation : Path.SlashFree location) :
    (tree.addDirectory location).WellNamed := by
  rw [FileTree.addDirectory]
  refine List.foldlRecOn _ _ h fun tree htree n _ => ?_
  split
  · exact htree
  · exact htree.put fun part hpart => hlocation part (List.mem_of_mem_take hpart)

theorem WellNamed.addFile (h : tree.WellNamed) (hlocation : Path.SlashFree location)
    (content : ByteArray) : (tree.addFile location content).WellNamed := by
  have hparent : Path.SlashFree location.dropLast :=
    fun part hpart => hlocation part ((List.dropLast_sublist location).mem hpart)
  exact (h.addDirectory hparent).put hlocation

theorem slashFree_locationOf (path : RawText) : Path.SlashFree (locationOf path) := by
  have hempty : Path.SlashFree [] := fun name hname => absurd hname List.not_mem_nil
  refine List.foldlRecOn _ _ hempty fun location hlocation part hpart => ?_
  split
  · exact fun inner hinner => hlocation inner ((List.dropLast_sublist location).mem hinner)
  · intro inner hinner
    rcases List.mem_append.1 hinner with hinner | hinner
    · exact hlocation inner hinner
    · obtain rfl := List.mem_singleton.1 hinner
      obtain ⟨piece, hpiece, rfl⟩ := List.mem_map.1 (List.mem_of_mem_filter hpart)
      exact Text.not_mem_of_mem_splitOn hpiece

theorem wellNamed_build (directories : List RawText) (files : List (RawText × ByteArray)) :
    (build directories files).WellNamed := by
  have hempty : empty.WellNamed := by simp [WellNamed, empty]
  refine List.foldlRecOn _ _ ?_ fun tree htree file _ =>
    htree.addFile (slashFree_locationOf file.1) file.2
  exact List.foldlRecOn _ _ hempty fun tree htree directory _ =>
    htree.addDirectory (slashFree_locationOf directory)

end Building

section Reordering

variable (h : tree.nodes.Perm other.nodes)
include h

end Reordering

end FileTree

end DeviceCatalog
