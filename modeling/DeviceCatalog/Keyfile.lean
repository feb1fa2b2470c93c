import DeviceCatalog.Keyfile.Progress
import DeviceCatalog.Text.Basic

/-!
# Keyfiles

A keyfile is a list of sections with different names. It is read from the
lines of a text. Writing puts every section under its header, an entry on one
line, and each further line of a value on a line of its own behind one space.
-/
namespace DeviceCatalog

structure Keyfile where
  sections : List Section
  deriving DecidableEq, Repr

namespace Keyfile

def parse (content : String) : Except KeyfileError Keyfile :=
  (Progress.start.run 1 (Text.lines content)).map fun p => ⟨p.sections⟩

def section? (file : Keyfile) (name : String) : Option Section :=
  file.sections.find? (·.name == name)

def hasSection (file : Keyfile) (name : String) : Bool := (file.section? name).isSome

def sectionNames (file : Keyfile) : List String := file.sections.map Section.name

theorem hasSection_iff_mem {file : Keyfile} {name : String} :
    file.hasSection name = true ↔ name ∈ file.sectionNames := by
  simp [hasSection, section?, sectionNames]

/-- The lines of a value after its first one. An empty line stays empty. -/
def continuationLine (segment : String) : String := if segment = "" then "" else " " ++ segment

def entryLines (entry : String × String) : List String :=
  match Text.segments '\n' entry.2 with
  | first :: rest => (entry.1 ++ "=" ++ first) :: rest.map continuationLine
  | [] => [entry.1 ++ "="]

def sectionLines (sec : Section) : List String :=
  ("[" ++ sec.name ++ "]") :: sec.entries.flatMap entryLines

def render (sections : List Section) : String := Text.unlines (sections.flatMap sectionLines)

end Keyfile

end DeviceCatalog
