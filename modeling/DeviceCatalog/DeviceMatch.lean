import DeviceCatalog.Vocabulary.Device

/-!
# Device identities

A device is known by its bus and by the vendor and product numbers that it
reports. A match value lists such identities, separated by semicolons. Each has
one spelling, the bus and two groups of four lower-case hexadecimal digits.
-/
namespace DeviceCatalog

structure DeviceMatch where
  bus : BusType
  vendor : UInt16
  product : UInt16
  deriving DecidableEq, Repr

namespace DeviceMatch

def text (m : DeviceMatch) : String :=
  Text.joinWith ':' [m.bus.token, Numeral.hex4 m.vendor, Numeral.hex4 m.product]

/-- Reads a number in its four digits and refuses any other spelling. -/
def readId (value id : String) : Except Violation UInt16 :=
  match Numeral.natural? 16 0x10000 id with
  | none => .error (.format "DeviceMatch" value (.notHex id))
  | some n =>
    if Numeral.hex4 (UInt16.ofNat n) = id then .ok (UInt16.ofNat n)
    else .error (.format "DeviceMatch" value (.notPlainHex id (UInt16.ofNat n)))

def readEntry (value entry : String) : Except Violation DeviceMatch :=
  match Text.segments ':' entry with
  | [busWord, vendorId, productId] =>
    match Vocabulary.find? busWord with
    | none => .error (.format "DeviceMatch" value (.unknownBus busWord))
    | some bus => do
      let vendor ← readId value vendorId
      let product ← readId value productId
      return ⟨bus, vendor, product⟩
  | _ => .error (.format "DeviceMatch" value (.partCount entry))

/-- The identities of a match value. Empty segments stand for nothing. -/
def readAll (value : String) : Except Violation (List DeviceMatch) :=
  (Text.filledSegments ';' value).mapM (readEntry value)

end DeviceMatch

end DeviceCatalog
