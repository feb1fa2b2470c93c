import DeviceCatalog.CommandLine.Run

/-!
# The program

The paths that a request can lead to are looked up on disk first. The command
then runs on what was found, and its outcome is printed.
-/
namespace DeviceCatalog.Main

open CommandLine

def faultOf : IO.Error → FileFault
  | .inappropriateType .. => .notADirectory
  | .permissionDenied .. => .other "Permission denied (os error 13)"
  | _ => .notFound

/-- Runs an action, or says why it fails. -/
def attempt {α : Type} (action : IO α) : IO (Except FileFault α) := do
  try
    return .ok (← action)
  catch e =>
    return .error (faultOf e)

def isRegular (path : RawText) : IO Bool := do
  match ← attempt do (← IO.FS.realPath path.shown).metadata with
  | .ok place => return place.type == .file
  | .error _ => return false

def probe (path : RawText) : IO Found := do
  match ← attempt (IO.FS.realPath path.shown) with
  | .error fault => return .absent fault
  | .ok place =>
    if ← place.isDir then
      return .directory (← attempt do
        return (← place.readDir).toList.map fun entry => RawText.ofString entry.fileName)
    else
      return .file (← isRegular path) (← attempt (IO.FS.readBinFile place))

/-- The paths that arguments lead to, with a leading tilde replaced once or twice. -/
def reachable (home? : Option String) (paths : List RawText) : List RawText :=
  let expand (path : RawText) := (expandPath home? path).toOption
  let once := paths.filterMap expand
  once ++ once.filterMap expand

/-- Looks up paths, and the device files inside those that are directories. -/
def snapshot (paths : List RawText) : IO (List (RawText × Found)) := do
  let mut known := []
  for path in paths do
    let found ← probe path
    known := (path, found) :: known
    if let .directory (.ok names) := found then
      for file in (names.filter Path.isDeviceName).map (Path.join path) do
        if ← isRegular file then
          known := (file, ← probe file) :: known
  return known

def viewOf (known : List (RawText × Found)) : FileView := fun path =>
  (known.lookup path).getD (.absent .notFound)

end DeviceCatalog.Main

open DeviceCatalog DeviceCatalog.Main DeviceCatalog.CommandLine in
def main (arguments : List String) : IO UInt32 := do
  let home? ← IO.getEnv "HOME"
  let directory? := (← IO.getEnv "RATBAG_DEVICE_DIR").map RawText.ofString
  let outcome ←
    match parse directory? (arguments.map RawText.ofString) with
    | .error stop => pure (Outcome.ofStop stop)
    | .ok request =>
      pure (request.run home? (viewOf (← snapshot (reachable home? request.paths))))
  IO.print outcome.output
  if let some message := outcome.fatal? then
    IO.eprintln ("Error: " ++ message)
  if outcome.exitCode = 2 then
    IO.eprint usageText
  return outcome.exitCode.toUInt32
