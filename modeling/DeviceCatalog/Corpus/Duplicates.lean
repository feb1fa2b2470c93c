import DeviceCatalog.Text.Basic

/-!
# Duplicate match entries

Files are recorded one after the other. The first file that declares an entry
keeps it, and every later declaration of the same entry is a duplicate that
names this first file. Entries are compared as they are written.
-/
namespace DeviceCatalog

structure Duplicate where
  entry : String
  firstFile : String
  secondFile : String
  deriving DecidableEq, Repr

structure DuplicateIndex where
  /-- Each entry seen so far with the file that declared it first. -/
  firstSeen : List (String × String)
  duplicates : List Duplicate
  deriving DecidableEq, Repr

namespace DuplicateIndex

def empty : DuplicateIndex := ⟨[], []⟩

def record (index : DuplicateIndex) (file entry : String) : DuplicateIndex :=
  match index.firstSeen.lookup entry with
  | some first => { index with duplicates := index.duplicates ++ [⟨entry, first, file⟩] }
  | none => { index with firstSeen := index.firstSeen ++ [(entry, file)] }

/-- Records the entries of a match value. Empty segments stand for nothing. -/
def addFile (index : DuplicateIndex) (file value : String) : DuplicateIndex :=
  (Text.filledSegments ';' value).foldl (fun index entry => index.record file entry) index

def addFiles (index : DuplicateIndex) (files : List (String × String)) : DuplicateIndex :=
  files.foldl (fun index (file, value) => index.addFile file value) index

def entryCount (index : DuplicateIndex) : Nat := index.firstSeen.length

def isDuplicate (index : DuplicateIndex) (entry : String) : Bool :=
  index.duplicates.any (·.entry == entry)

theorem record_count (index : DuplicateIndex) (file entry : String) :
    (index.record file entry).entryCount + (index.record file entry).duplicates.length =
      index.entryCount + index.duplicates.length + 1 := by
  unfold record entryCount
  split <;> simp <;> omega

end DuplicateIndex

end DeviceCatalog
