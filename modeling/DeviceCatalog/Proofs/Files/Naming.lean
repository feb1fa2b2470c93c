import DeviceCatalog.Files.View
import DeviceCatalog.Proofs.Text.Raw

/-!
# Names in a directory

The path of a name inside a directory has the components of the directory and then
the name, so its last component gives the name back. The names of data files can
never be mistaken for a step to the same directory or to the one above.
-/
namespace DeviceCatalog.Path

theorem pieces_append_slash (before after : List UInt8) :
    pieces ⟨before ++ slash :: after⟩ = pieces ⟨before⟩ ++ pieces ⟨after⟩ := by
  rw [pieces, List.splitOn_append_cons_self, List.map_append, pieces, pieces]

theorem components_append_slash (before after : List UInt8) :
    components ⟨before ++ slash :: after⟩ = components ⟨before⟩ ++ components ⟨after⟩ := by
  rw [components, pieces_append_slash, List.filter_append, components, components]

theorem components_nil : components ⟨[]⟩ = [] := rfl

theorem components_eq_singleton {name : RawText} (hslash : slash ∉ name.bytes) (hempty : name ≠ "")
    (hpoint : name ≠ ".") : components name = [name] := by
  rw [components, pieces, List.splitOn_eq_singleton hslash]
  simp [hempty, hpoint]

theorem components_join {name : RawText} (hslash : slash ∉ name.bytes) (hempty : name ≠ "")
    (hpoint : name ≠ ".") (directory : RawText) :
    components (join directory name) = components directory ++ [name] := by
  have hname := components_eq_singleton hslash hempty hpoint
  rw [join]
  split
  · rename_i hend
    rcases hend with rfl | hend
    · exact hname
    · obtain ⟨before, hbefore⟩ := List.getLast?_eq_some_iff.1 hend
      have hdirectory : directory = ⟨before ++ slash :: []⟩ := by rw [← hbefore]
      have hjoin : directory ++ name = ⟨before ++ slash :: name.bytes⟩ := by
        rw [hdirectory]
        exact congrArg RawText.mk (List.append_assoc ..)
      rw [hjoin, components_append_slash, hname, hdirectory, components_append_slash,
        components_nil, List.append_nil]
  · have hjoin : directory ++ "/" ++ name = ⟨directory.bytes ++ slash :: name.bytes⟩ :=
      congrArg RawText.mk (List.append_assoc ..)
    rw [hjoin, components_append_slash, hname]

theorem isDeviceName_eq_true_iff {name : RawText} :
    isDeviceName name = true ↔ ∃ stem : RawText, stem ≠ "" ∧ name = stem ++ extension := by
  rw [isDeviceName, Bool.and_eq_true, List.isSuffixOf_iff_suffix, decide_eq_true_eq]
  constructor
  · rintro ⟨⟨stem, hstem⟩, hlength⟩
    refine ⟨⟨stem⟩, ?_, ?_⟩
    · intro hempty
      obtain rfl : stem = [] := congrArg RawText.bytes hempty
      rw [← hstem] at hlength
      exact Nat.lt_irrefl _ hlength
    · exact congrArg RawText.mk hstem.symm
  · rintro ⟨stem, hstem, rfl⟩
    have hpos : 0 < stem.bytes.length := by
      refine List.length_pos_iff.2 fun hnil => hstem ?_
      exact congrArg RawText.mk hnil
    refine ⟨⟨stem.bytes, rfl⟩, ?_⟩
    rw [RawText.bytes_append, List.length_append]
    omega

theorem components_join_of_isDeviceName {name : RawText} (hslash : slash ∉ name.bytes)
    (hname : isDeviceName name = true) (directory : RawText) :
    components (join directory name) = components directory ++ [name] := by
  refine components_join hslash ?_ ?_ directory <;>
    · rintro rfl
      exact absurd hname (by decide)

theorem fileName?_join {name : RawText} (hslash : slash ∉ name.bytes)
    (hname : isDeviceName name = true) (directory : RawText) :
    fileName? (join directory name) = some name := by
  have hpoints : name ≠ ".." := by
    rintro rfl
    exact absurd hname (by decide)
  rw [fileName?, components_join_of_isDeviceName hslash hname, List.getLast?_concat]
  simp [hpoints]

theorem lastName_join {name : RawText} (hslash : slash ∉ name.bytes)
    (hname : isDeviceName name = true) (directory : RawText) :
    lastName (join directory name) = name := by
  rw [lastName, fileName?_join hslash hname, Option.getD_some]

theorem isDeviceFile_join {name : RawText} (hslash : slash ∉ name.bytes)
    (hname : isDeviceName name = true) (directory : RawText) :
    isDeviceFile (join directory name) = true := by
  rw [isDeviceFile, fileName?_join hslash hname, Option.any_some, hname]

end DeviceCatalog.Path
