import DeviceCatalog.Vocabulary

/-!
# Words of the device section

The bus a device is attached to, its kind, and the places where it has lights.
-/
namespace DeviceCatalog

inductive BusType where
  | usb | bluetooth
  deriving DecidableEq, Repr

namespace BusType

def token : BusType → String
  | usb => "usb"
  | bluetooth => "bluetooth"

instance : Vocabulary BusType where
  label := "bus type"
  all := [usb, bluetooth]
  token := token
  complete a := by cases a <;> decide
  token_injective a b h := by cases a <;> cases b <;> simp_all [token]

end BusType

inductive DeviceType where
  | mouse | keyboard | other
  deriving DecidableEq, Repr

namespace DeviceType

def token : DeviceType → String
  | mouse => "mouse"
  | keyboard => "keyboard"
  | other => "other"

instance : Vocabulary DeviceType where
  label := "DeviceType"
  all := [mouse, keyboard, other]
  token := token
  complete a := by cases a <;> decide
  token_injective a b h := by cases a <;> cases b <;> simp_all [token]

end DeviceType

inductive LedType where
  | logo | side | battery | dpi | switches
  deriving DecidableEq, Repr

namespace LedType

def token : LedType → String
  | logo => "logo"
  | side => "side"
  | battery => "battery"
  | dpi => "dpi"
  | switches => "switches"

instance : Vocabulary LedType where
  label := "LedTypes"
  all := [logo, side, battery, dpi, switches]
  token := token
  complete a := by cases a <;> decide
  token_injective a b h := by cases a <;> cases b <;> simp_all [token]

end LedType

end DeviceCatalog
