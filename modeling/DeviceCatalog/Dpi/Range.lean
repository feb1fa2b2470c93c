import DeviceCatalog.Text.Basic
import DeviceCatalog.Violation

/-!
# DPI ranges

A range runs from a start to an end in steps that may have a fraction. Its
text is `min:max@steps`, and only this one spelling of a range is read back.
-/
namespace DeviceCatalog

structure DpiRange where
  min : Nat
  max : Nat
  steps : Binary64
  deriving DecidableEq, Repr

namespace DpiRange

/-- Whole steps have no point. Other steps below a tenth of a thousandth have an exponent, and all
others are written out. -/
def stepsText (steps : Binary64) : String :=
  if steps.isIntegral then Numeral.decimal steps.clampedWhole
  else if steps.isBelow ⟨1, -4⟩ then steps.scientific
  else steps.positional

def text (r : DpiRange) : String :=
  Numeral.decimal r.min ++ ":" ++ Numeral.decimal r.max ++ "@" ++ stepsText r.steps

def isDigits (s : String) : Bool := s ≠ "" && s.toList.all Char.isDigit

def isDigitsOrPoints (s : String) : Bool :=
  s ≠ "" && s.toList.all fun c => c.isDigit || c == '.'

/-- The three numerals of a value in the form `min:max@steps`. -/
def parts? (value : String) : Option (String × String × String) :=
  match Text.segments ':' value with
  | [start, rest] =>
    match Text.segments '@' rest with
    | [stop, steps] =>
      if isDigits start && isDigits stop && isDigitsOrPoints steps then some (start, stop, steps)
      else none
    | _ => none
  | _ => none

def bound? (numeral : String) : Option Nat := Numeral.natural? 10 0x100000000 numeral

def limitFault? (r : DpiRange) : Option FormatFault :=
  if Dpi.startLimit < r.min then some (.startOutside r.min)
  else if r.max < Dpi.endFloor ∨ Dpi.endLimit < r.max then some (.endOutside r.max)
  else if !r.steps.inInterval Dpi.stepLimit then some (.stepOutside r.steps)
  else none

/-- The range that the numerals of a value give, whatever its limits and its spelling. -/
def numbers (value : String) : Except FormatFault DpiRange :=
  match parts? value with
  | none => .error .notARange
  | some (startText, stopText, stepsText) =>
    match bound? startText, bound? stopText, Decimal.read? stepsText with
    | none, _, _ => .error .startUnreadable
    | _, none, _ => .error .endUnreadable
    | _, _, none => .error .stepUnreadable
    | some start, some stop, some steps => .ok ⟨start, stop, Binary64.ofDecimal steps⟩

/-- The fault of a value, or the range that it spells in the only permitted way. -/
def check (value : String) : Except FormatFault DpiRange :=
  match numbers value with
  | .error fault => .error fault
  | .ok r =>
    match limitFault? r with
    | some fault => .error fault
    | none => if r.text = value then .ok r else .error (.notCanonical r.text)

def read (value : String) : Except Violation DpiRange :=
  (check value).mapError (.format "DpiRange" value)

end DpiRange

end DeviceCatalog
