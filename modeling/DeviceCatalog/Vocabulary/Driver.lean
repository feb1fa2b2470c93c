import DeviceCatalog.Vocabulary

/-!
# Values of the driver sections

The index of a device behind its receiver is one byte in hexadecimal, and
profiles and lights are counted in one decimal digit. Neither may be zero. The
profile layouts of HID++ 1.0 mice, and the behaviour flags and light effects
that the asus and steelseries drivers know, are words.
-/
namespace DeviceCatalog

namespace DeviceIndex

/-- The digits behind the mark of a hexadecimal number, if it has one. -/
def dropMark : List Char → List Char
  | '0' :: 'x' :: cs => cs
  | '0' :: 'X' :: cs => cs
  | cs => cs

def read (value : String) : Except Violation Nat :=
  match Numeral.natural? 16 0x100000000 (String.ofList (dropMark value.toList)) with
  | none => .error (.format "DeviceIndex" value .notHexadecimal)
  | some n =>
    if 0 < n ∧ n ≤ 0xff then .ok n else .error (.format "DeviceIndex" value .indexOutside)

end DeviceIndex

namespace SmallCount

/-- Reads the count in the field `field`. -/
def read (field value : String) : Except Violation Nat :=
  match Numeral.integer? value with
  | none => .error (.format field value .notAnInteger)
  | some n =>
    if 1 ≤ n ∧ n < 10 then .ok n.toNat else .error (.format field value .countOutside)

end SmallCount

inductive ProfileType where
  | g9 | g500 | g700
  deriving DecidableEq, Repr

namespace ProfileType

def token : ProfileType → String
  | g9 => "G9"
  | g500 => "G500"
  | g700 => "G700"

instance : Vocabulary ProfileType where
  label := "ProfileType"
  all := [g9, g500, g700]
  token := token
  complete a := by cases a <;> decide
  token_injective a b h := by cases a <;> cases b <;> simp_all [token]

end ProfileType

/-- A behaviour that the asus driver has to know about a device. -/
inductive AsusFlag where
  | doubleDpi | strixProfile | rawBrightness | separateXyDpi | separateLeds | buttonsSecondary
  deriving DecidableEq, Repr

namespace AsusFlag

def token : AsusFlag → String
  | doubleDpi => "DOUBLE_DPI"
  | strixProfile => "STRIX_PROFILE"
  | rawBrightness => "RAW_BRIGHTNESS"
  | separateXyDpi => "SEPARATE_XY_DPI"
  | separateLeds => "SEPARATE_LEDS"
  | buttonsSecondary => "BUTTONS_SECONDARY"

instance : Vocabulary AsusFlag where
  label := "asus quirk"
  all := [doubleDpi, strixProfile, rawBrightness, separateXyDpi, separateLeds, buttonsSecondary]
  token := token
  complete a := by cases a <;> decide
  token_injective a b h := by cases a <;> cases b <;> simp_all [token]

end AsusFlag

inductive AsusLedMode where
  | on | breathing | cycle
  deriving DecidableEq, Repr

namespace AsusLedMode

def token : AsusLedMode → String
  | on => "ON"
  | breathing => "BREATHING"
  | cycle => "CYCLE"

instance : Vocabulary AsusLedMode where
  label := "asus LED mode"
  all := [on, breathing, cycle]
  token := token
  complete a := by cases a <;> decide
  token_injective a b h := by cases a <;> cases b <;> simp_all [token]

end AsusLedMode

/-- A steelseries device that the driver treats in its own way. -/
inductive SteelseriesFlag where
  | rival100 | senseiRaw
  deriving DecidableEq, Repr

namespace SteelseriesFlag

def token : SteelseriesFlag → String
  | rival100 => "Rival100"
  | senseiRaw => "SenseiRAW"

instance : Vocabulary SteelseriesFlag where
  label := "steelseries quirk"
  all := [rival100, senseiRaw]
  token := token
  complete a := by cases a <;> decide
  token_injective a b h := by cases a <;> cases b <;> simp_all [token]

end SteelseriesFlag

end DeviceCatalog
