import DeviceCatalog.Binary64.Shortest

/-!
# Violations

A violation says why one device file is refused. Each case keeps the pieces
that its message names, and its kind is a short name that reports carry beside
the message. The limits on DPI values are part of the messages: a range starts
low, ends high and moves in small steps, and a listed value is bounded from
above only.
-/
namespace DeviceCatalog

namespace Dpi

def startLimit : Nat := 400

def endFloor : Nat := 2000

def endLimit : Nat := 36000

def stepLimit : Nat := 100

def listLimit : Nat := 12000

end Dpi

/-- Why a value does not have the form that its field asks for. -/
inductive FormatFault where
  | partCount (entry : String)
  | unknownBus (bus : String)
  | notHex (id : String)
  | notPlainHex (id : String) (value : UInt16)
  | notARange
  | startUnreadable
  | endUnreadable
  | stepUnreadable
  | startOutside (start : Nat)
  | endOutside (stop : Nat)
  | stepOutside (step : Binary64)
  | notCanonical (canonical : String)
  | notADpi (entry : String)
  | dpiOutside (dpi : Nat)
  | notHexadecimal
  | indexOutside
  | notAnInteger
  | countOutside
  | suffixLength (sectionName : String)
  deriving DecidableEq, Repr

def firmwareVersionLength : Nat := 4

namespace FormatFault

open Numeral Dpi

/-- A value beside the closed interval that it lies outside of. -/
def outside (what : String) (value low high : Nat) : String :=
  what ++ decimal value ++ " outside [" ++ decimal low ++ ", " ++ decimal high ++ "]"

def reason : FormatFault → String
  | partCount entry => s!"'{entry}' must have exactly 3 ':'-separated parts"
  | unknownBus bus => s!"unknown bus type '{bus}'"
  | notHex id => s!"'{id}' is not a hex ID"
  | notPlainHex id value => "'" ++ id ++ "' must be written as '" ++ hex4 value ++ "'"
  | notARange => "expected 'min:max@steps'"
  | startUnreadable => "minimum is not a number"
  | endUnreadable => "maximum is not a number"
  | stepUnreadable => "step size is not a number"
  | startOutside start => outside "minimum " start 0 startLimit
  | endOutside stop => outside "maximum " stop endFloor endLimit
  | stepOutside step =>
    "step size " ++ step.positional ++ " outside (0, " ++ decimal stepLimit ++ "]"
  | notCanonical canonical => s!"must be written as '{canonical}'"
  | notADpi entry => s!"'{entry}' is not a DPI value"
  | dpiOutside dpi => outside "" dpi 0 listLimit
  | notHexadecimal => "not a hexadecimal number"
  | indexOutside => "must be in (0, 0xff]"
  | notAnInteger => "not an integer"
  | countOutside => "must be in (0, 10)"
  | suffixLength sectionName =>
    "section [" ++ sectionName ++ "] needs a " ++ decimal firmwareVersionLength ++
      "-character suffix"

end FormatFault

inductive Violation where
  | format (field value : String) (fault : FormatFault)
  | order (value : String) (previous current : Nat)
  | unknownValue (field value : String)
  | unknownKey (sectionName key : String)
  | conflict (sectionName first second : String)
  | missingSection (sectionName : String)
  | missingKey (sectionName key : String)
  | unsupportedDriver (driver : String)
  | unexpectedSection (sectionName driver : String)
  | illegalName (path characters : String)
  deriving DecidableEq, Repr

namespace Violation

def message : Violation → String
  | format field value fault => s!"Invalid {field} '{value}': " ++ fault.reason
  | order value previous current =>
    s!"DpiList '{value}' is not strictly increasing (" ++ Numeral.decimal previous ++
      " followed by " ++ Numeral.decimal current ++ ")"
  | unknownValue field value => s!"Unknown {field} '{value}'"
  | unknownKey sectionName key => s!"Unknown key '{key}' in section [{sectionName}]"
  | conflict sectionName first second =>
    s!"Keys '{first}' and '{second}' are mutually exclusive in section [{sectionName}]"
  | missingSection sectionName => s!"Missing section [{sectionName}]"
  | missingKey sectionName key => s!"Missing required key '{key}' in section [{sectionName}]"
  | unsupportedDriver driver => s!"Unsupported driver section [Driver/{driver}]"
  | unexpectedSection sectionName driver =>
    s!"Unexpected section [{sectionName}] for driver '{driver}'"
  | illegalName path characters =>
    s!"Data file name '{path}' contains illegal characters: '{characters}'"

def kind : Violation → String
  | format .. => "format"
  | order .. => "order"
  | unknownValue .. => "unknown-value"
  | unknownKey .. => "unknown-key"
  | conflict .. => "conflict"
  | missingSection .. => "missing-section"
  | missingKey .. => "missing-key"
  | unsupportedDriver .. => "unsupported-driver"
  | unexpectedSection .. => "unexpected-section"
  | illegalName .. => "illegal-name"

end Violation

end DeviceCatalog
