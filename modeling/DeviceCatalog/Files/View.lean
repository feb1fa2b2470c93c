import DeviceCatalog.Text.Raw

/-!
# Paths and what they lead to

Slashes separate the components of a path. Empty components and single points
lead nowhere and are passed over, and two points lead to the directory above.

A view answers what stands at a path: nothing for a reason, a file with its
bytes, or a directory with the names of all that is directly inside it. What is
there need not be readable. All checks of the catalog see files only through
such a view.
-/
namespace DeviceCatalog

namespace Path

def slash : UInt8 := 0x2f

/-- The pieces of a path between its slashes, empty ones included. -/
def pieces (path : RawText) : List RawText := (path.bytes.splitOn slash).map RawText.mk

/-- The pieces that lead somewhere. -/
def components (path : RawText) : List RawText :=
  (pieces path).filter fun piece => piece ≠ "" ∧ piece ≠ "."

/-- The last component, if it is a name. -/
def fileName? (path : RawText) : Option RawText :=
  (components path).getLast?.filter fun name => name ≠ ".."

/-- The last name on the way of a path, or else the whole path. -/
def lastName (path : RawText) : RawText := (fileName? path).getD path

/-- The name that reports use for a file. -/
def baseName (path : RawText) : String := (lastName path).shown

/-- Data files have names that end like this. -/
def extension : RawText := ".device"

/-- Whether a name is more than the extension and ends in it. -/
def isDeviceName (name : RawText) : Bool :=
  extension.bytes.isSuffixOf name.bytes && extension.bytes.length < name.bytes.length

def isDeviceFile (path : RawText) : Bool := (fileName? path).any isDeviceName

/-- The path of a name inside a directory. -/
def join (directory name : RawText) : RawText :=
  if directory = "" ∨ directory.bytes.getLast? = some slash then directory ++ name
  else directory ++ "/" ++ name

end Path

/-- Why nothing is found at a path, or why what is found cannot be read as a text. -/
inductive FileFault where
  | notFound
  | notADirectory
  | isADirectory
  | tooLong
  | holdsNul
  | notText
  /-- Any other reason, in the words of the system. -/
  | other (message : String)
  deriving DecidableEq, Repr

namespace FileFault

def message : FileFault → String
  | notFound => "No such file or directory (os error 2)"
  | notADirectory => "Not a directory (os error 20)"
  | isADirectory => "Is a directory (os error 21)"
  | tooLong => "File name too long (os error 36)"
  | holdsNul => "file name contained an unexpected NUL byte"
  | notText => "stream did not contain valid UTF-8"
  | other message => message

end FileFault

/-- What stands at a path. A file is regular unless it is a pipe, a device or the like. -/
inductive Found where
  | absent (fault : FileFault)
  | file (regular : Bool) (content : Except FileFault ByteArray)
  | directory (names : Except FileFault (List RawText))

namespace Found

def isPresent : Found → Bool
  | absent _ => false
  | _ => true

def isDirectory : Found → Bool
  | directory _ => true
  | _ => false

def isFile : Found → Bool
  | file regular _ => regular
  | _ => false

/-- The text of a file, whose bytes have to be UTF-8. -/
def text : Found → Except FileFault String
  | absent fault => .error fault
  | directory _ => .error .isADirectory
  | file _ (.error fault) => .error fault
  | file _ (.ok content) =>
    match String.fromUTF8? content with
    | some s => .ok s
    | none => .error .notText

end Found

abbrev FileView := RawText → Found

end DeviceCatalog
