import DeviceCatalog.Keyfile.Line
import DeviceCatalog.Keyfile.Section

/-!
# Reading a keyfile line by line

The state between two lines holds the sections read so far, the indentation of
the last entry while that entry may still be continued, and the number of blank
lines since it was last extended. A line indented deeper than the open entry
continues its value, whatever the line looks like. Comments change nothing,
and blank lines count only inside a value.
-/
namespace DeviceCatalog

/-- Why a text is not a keyfile. Every case has the line at which it shows. -/
inductive KeyfileError where
  | invalidLine (line : Nat) (fault : LineFault)
  | keyOutsideSection (line : Nat) (key : String)
  | duplicateSection (line : Nat) (sectionName : String)
  | duplicateKey (line : Nat) (sectionName key : String)
  deriving DecidableEq, Repr

namespace KeyfileError

def line : KeyfileError → Nat
  | invalidLine line _ => line
  | keyOutsideSection line _ => line
  | duplicateSection line _ => line
  | duplicateKey line _ _ => line

def message : KeyfileError → String
  | invalidLine line fault => s!"Parse error on line {line}: " ++ fault.message
  | keyOutsideSection line key => s!"Key '{key}' on line {line} appears before any section header"
  | duplicateSection line sectionName => s!"Section [{sectionName}] on line {line} already exists"
  | duplicateKey line sectionName key =>
    s!"Key '{key}' on line {line} already exists in section [{sectionName}]"

end KeyfileError

structure Progress where
  finished : List Section
  current : Option Section
  openIndent : Option Nat
  blanks : Nat
  deriving DecidableEq, Repr

namespace Progress

def start : Progress := ⟨[], none, none, 0⟩

/-- All sections so far, in the order of their headers. -/
def sections (p : Progress) : List Section := p.finished ++ p.current.toList

def countBlank (p : Progress) : Progress :=
  if p.openIndent.isSome then { p with blanks := p.blanks + 1 } else p

/-- The state after a line that continues the open entry, if it does. -/
def continued? (p : Progress) (indent : Nat) (text : String) : Option Progress :=
  match p.openIndent, p.current with
  | some opened, some sec =>
    if opened < indent then
      let breaks := String.ofList (List.replicate (p.blanks + 1) '\n')
      some { p with current := some (sec.extend (breaks ++ text)), blanks := 0 }
    else none
  | _, _ => none

def addSection (p : Progress) (number : Nat) (name : String) : Except KeyfileError Progress :=
  if name ∈ p.sections.map Section.name then .error (.duplicateSection number name)
  else .ok ⟨p.sections, some (Section.empty name number), none, 0⟩

def addEntry (p : Progress) (number indent : Nat) (key value : String) :
    Except KeyfileError Progress :=
  match p.current with
  | none => .error (.keyOutsideSection number key)
  | some sec =>
    match sec.insert key value with
    | (extended, true) => .ok ⟨p.finished, some extended, some indent, 0⟩
    | (_, false) => .error (.duplicateKey number sec.name key)

/-- The state after a header or an entry. -/
def accept (p : Progress) (number indent : Nat) (text : String) : Except KeyfileError Progress :=
  match Line.read text with
  | .error fault => .error (.invalidLine number fault)
  | .ok (.header name) => p.addSection number name
  | .ok (.entry key value) => p.addEntry number indent key value

/-- The state after the line with the given number. -/
def step (p : Progress) (number : Nat) (line : String) : Except KeyfileError Progress :=
  let text := Text.trim line
  if Line.isComment text then .ok p
  else if text = "" then .ok p.countBlank
  else
    match p.continued? (Text.indent line) text with
    | some next => .ok next
    | none => p.accept number (Text.indent line) text

/-- The state after lines that are numbered from `number` on. -/
def run (p : Progress) (number : Nat) : List String → Except KeyfileError Progress
  | [] => .ok p
  | line :: rest =>
    match p.step number line with
    | .ok next => next.run (number + 1) rest
    | .error e => .error e

theorem run_append (p : Progress) (number : Nat) (before after : List String) :
    p.run number (before ++ after) =
      (p.run number before).bind fun q => q.run (number + before.length) after := by
  induction before generalizing p number with
  | nil => rfl
  | cons line rest ih =>
    simp only [List.cons_append, run]
    split
    · rw [ih, List.length_cons,
        show number + 1 + rest.length = number + (rest.length + 1) by omega]
    · rfl

end Progress

end DeviceCatalog
