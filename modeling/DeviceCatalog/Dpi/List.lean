import DeviceCatalog.Text.Basic
import DeviceCatalog.Violation

/-!
# DPI lists

A list names single values in increasing order, separated by semicolons. A
last semicolon and blanks around a value are allowed.
-/
namespace DeviceCatalog

structure DpiList where
  values : List Nat
  deriving DecidableEq, Repr

namespace DpiList

def text (l : DpiList) : String := Text.joinWith ';' (l.values.map Numeral.decimal)

def readEntry (value entry : String) : Except Violation Nat :=
  match Numeral.natural? 10 0x100000000 (Text.trim entry) with
  | none => .error (.format "DpiList" value (.notADpi entry))
  | some dpi =>
    if Dpi.listLimit < dpi then .error (.format "DpiList" value (.dpiOutside dpi)) else .ok dpi

/-- Whether a value may follow the one before it. -/
def follows (value : String) (previous : Option Nat) (dpi : Nat) : Except Violation Unit :=
  match previous with
  | some before => if dpi ≤ before then .error (.order value before dpi) else .ok ()
  | none => .ok ()

/-- Reads the values that come after `previous`. -/
def readFrom (value : String) (previous : Option Nat) : List String → Except Violation (List Nat)
  | [] => .ok []
  | entry :: rest => do
    let dpi ← readEntry value entry
    follows value previous dpi
    let others ← readFrom value (some dpi) rest
    return dpi :: others

def read (value : String) : Except Violation DpiList :=
  (readFrom value none (Text.terminatedSegments ';' value)).map DpiList.mk

end DpiList

end DeviceCatalog
