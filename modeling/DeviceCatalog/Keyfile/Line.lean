import DeviceCatalog.Text.Basic
import DeviceCatalog.Text.Quoted

/-!
# Lines of a keyfile

A line is a header, a name in brackets, or an entry, a key and a value on both
sides of the first equals sign or colon. Only spaces and tabs may follow a
header. A line that is neither has a fault, which names what was expected and
the text that stood in its place.
-/
namespace DeviceCatalog

inductive Expectation where
  | openingBracket
  | closingBracket
  | endOfLine
  | key
  | delimiter
  | word
  deriving DecidableEq, Repr

namespace Expectation

/-- The name of the rule that a line breaks, as messages give it. -/
def rule : Expectation → String
  | openingBracket => "Char"
  | closingBracket => "TakeUntil"
  | endOfLine => "Eof"
  | key => "TakeTill1"
  | delimiter => "OneOf"
  | word => "Verify"

end Expectation

structure LineFault where
  expected : Expectation
  rest : String
  deriving DecidableEq, Repr

namespace LineFault

def message (fault : LineFault) : String :=
  "Error(Error \x7b input: " ++ Text.quote fault.rest ++ ", code: " ++ fault.expected.rule ++
    " \x7d)"

end LineFault

inductive Line where
  | header (name : String)
  | entry (key value : String)
  deriving DecidableEq, Repr

namespace Line

/-- A comment line starts with a number sign or a semicolon. -/
def isComment (text : String) : Bool :=
  match text.toList with
  | c :: _ => c == '#' || c == ';'
  | [] => false

def isDelimiter (c : Char) : Bool := c == '=' || c == ':'

def isSpacing (c : Char) : Bool := c == ' ' || c == '\t'

/-- The word in `cs`, which must hold more than blanks. -/
def word (cs : List Char) : Except LineFault String :=
  if Text.strip cs = [] then .error ⟨.word, ""⟩ else .ok (String.ofList (Text.strip cs))

/-- Reads the name of a header up to the first closing bracket. -/
def readHeader (text : String) : Except LineFault String :=
  match text.toList with
  | '[' :: cs =>
    match cs.dropWhile (· != ']') with
    | [] => .error ⟨.closingBracket, String.ofList cs⟩
    | _ :: rest =>
      match rest.dropWhile isSpacing with
      | [] => word (cs.takeWhile (· != ']'))
      | c :: more => .error ⟨.endOfLine, String.ofList (c :: more)⟩
  | _ => .error ⟨.openingBracket, text⟩

/-- Reads the key up to the first delimiter, and the value behind it. -/
def readEntry (text : String) : Except LineFault (String × String) :=
  match text.toList.takeWhile (!isDelimiter ·), text.toList.dropWhile (!isDelimiter ·) with
  | [], _ => .error ⟨.key, text⟩
  | _ :: _, [] => .error ⟨.delimiter, ""⟩
  | c :: cs, _ :: value =>
    (word (c :: cs)).map fun key => (key, String.ofList (Text.strip value))

def read (text : String) : Except LineFault Line :=
  match text.toList with
  | '[' :: _ => (readHeader text).map header
  | _ => (readEntry text).map fun (key, value) => entry key value

end Line

end DeviceCatalog
