import DeviceCatalog.Files.View

/-!
# File trees

A tree maps locations, lists of names from the working directory down, to
directories and files. A path is followed one component at a time: each
component has to be looked up in a directory, and two points lead one location
up. The tree holds only what is below the working directory. An absolute path
starts above it, where only points lead anywhere.
-/
namespace DeviceCatalog

inductive FileNode where
  | directory
  | file (content : ByteArray)

structure FileTree where
  nodes : List (List RawText × FileNode)
  nodup : (nodes.map Prod.fst).Nodup

namespace FileTree

def empty : FileTree := ⟨[], by simp⟩

/-- The node at a location. The working directory itself is always there. -/
def at? (tree : FileTree) (location : List RawText) : Option FileNode :=
  if location = [] then some .directory else tree.nodes.lookup location

/-- The name of a location that is directly inside another one. -/
def nameInside? (location place : List RawText) : Option RawText :=
  place.getLast?.filter fun _ => place.dropLast = location

def namesInside (tree : FileTree) (location : List RawText) : List RawText :=
  (tree.nodes.map Prod.fst).filterMap (nameInside? location)

def found (tree : FileTree) (location : List RawText) : Found :=
  match tree.at? location with
  | none => .absent .notFound
  | some (.file content) => .file true (.ok content)
  | some .directory => .directory (.ok (tree.namesInside location))

def nameLimit : Nat := 255

/-- A path with this many bytes is too long. -/
def pathLimit : Nat := 4096

/-- Why a name is not in a directory that does not hold it. -/
def missingName (name : RawText) : FileFault :=
  if nameLimit < name.bytes.length then .tooLong else .notFound

/-- Follows components above the working directory, where no name is known. -/
def followAbove : List RawText → Found
  | [] => .directory (.ok [])
  | part :: rest =>
    if part = "" ∨ part = "." ∨ part = ".." then followAbove rest
    else .absent (missingName part)

/-- Follows the components of a path from a location on. -/
def follow (tree : FileTree) (location : List RawText) : List RawText → Found
  | [] => tree.found location
  | part :: rest =>
    match tree.at? location with
    | none => .absent .notFound
    | some (.file _) => .absent .notADirectory
    | some .directory =>
      if part = "" ∨ part = "." then tree.follow location rest
      else if part = ".." then
        if location = [] then followAbove rest else tree.follow location.dropLast rest
      else if (tree.at? (location ++ [part])).isNone then .absent (missingName part)
      else tree.follow (location ++ [part]) rest

/-- What makes a path unusable whatever stands in the tree. -/
def pathFault? (path : RawText) : Option FileFault :=
  if 0 ∈ path.bytes then some .holdsNul
  else if pathLimit ≤ path.bytes.length then some .tooLong
  else if path = "" then some .notFound
  else none

def view (tree : FileTree) : FileView := fun path =>
  match pathFault? path with
  | some fault => .absent fault
  | none =>
    if path.bytes.head? = some Path.slash then followAbove (Path.pieces path)
    else tree.follow [] (Path.pieces path)

/-- The tree with the node at a location and all else unchanged. -/
def put (tree : FileTree) (location : List RawText) (node : FileNode) : FileTree where
  nodes := tree.nodes.filter (·.1 ≠ location) ++ [(location, node)]
  nodup := by
    have h : ((tree.nodes.filter (·.1 ≠ location)).map Prod.fst).Nodup :=
      tree.nodup.sublist (List.filter_sublist.map _)
    simpa [List.nodup_append] using h

/-- The tree with a directory at a location and wherever one is missing above it. -/
def addDirectory (tree : FileTree) (location : List RawText) : FileTree :=
  (List.range (location.length + 1)).foldl
    (fun tree n =>
      match tree.at? (location.take n) with
      | some _ => tree
      | none => tree.put (location.take n) .directory)
    tree

def addFile (tree : FileTree) (location : List RawText) (content : ByteArray) : FileTree :=
  (tree.addDirectory location.dropLast).put location (.file content)

/-- The location that a path names below the working directory. -/
def locationOf (path : RawText) : List RawText :=
  (Path.components path).foldl
    (fun location (part : RawText) =>
      if part = ".." then location.dropLast else location ++ [part])
    []

/-- The tree with the given directories and files, and with the directories that lead to them. -/
def build (directories : List RawText) (files : List (RawText × ByteArray)) : FileTree :=
  let bare := directories.foldl (fun tree path => tree.addDirectory (locationOf path)) empty
  files.foldl (fun tree (path, content) => tree.addFile (locationOf path) content) bare

end FileTree

end DeviceCatalog
