import DeviceCatalog.Keyfile
import DeviceCatalog.Schema.Registry

/-!
# Validation of a device file

The device section names the driver, and the driver decides what each other
section is. The device section is checked first. Then every section has to have
a place in the file, and only after that the contents of the driver sections
are looked at, in file order.
-/
namespace DeviceCatalog

/-- What a section is in the file of a given driver. -/
inductive SectionShape where
  | device
  | driver (schema : SectionSchema)
  | unsupportedDriver
  | sinowealthDevice (version : String)
  | unexpected
  deriving DecidableEq, Repr

namespace SectionShape

def deviceName : String := "Device"

def driverName (driver : String) : String := "Driver/" ++ driver

/-- What stands before the firmware version in the section names of the sinowealth driver. -/
def sinowealthStem : String := "Driver/sinowealth/devices/"

/-- The firmware version that a section name gives in the file of a driver. -/
def firmwareVersion? (name driver : String) : Option String :=
  if driver = "sinowealth" then
    (sinowealthStem.toList.isPrefixOf? name.toList).map String.ofList
  else none

def classify (name driver : String) : SectionShape :=
  if name = deviceName then device
  else
    match firmwareVersion? name driver with
    | some version => sinowealthDevice version
    | none =>
      if name ≠ driverName driver then unexpected
      else
        match SectionSchema.forDriver? driver with
        | some schema => .driver schema
        | none => unsupportedDriver

end SectionShape

def checkSinowealthDevice (sec : Section) (version : String) : Except Violation Unit :=
  if version.length ≠ firmwareVersionLength then
    .error (.format "firmware version" version (.suffixLength sec.name))
  else SectionSchema.sinowealthDevice.check sec

namespace Keyfile

/-- The first section that has no place in a file of the driver. -/
def misplaced? (driver : String) (sections : List Section) : Option Section :=
  sections.find? fun sec => SectionShape.classify sec.name driver = .unexpected

def checkContent (driver : String) (sec : Section) : Except Violation Unit :=
  match SectionShape.classify sec.name driver with
  | .device | .unexpected => .ok ()
  | .driver schema => schema.check sec
  | .unsupportedDriver => .error (.unsupportedDriver driver)
  | .sinowealthDevice version => checkSinowealthDevice sec version

/-- Checks the layout of a file and then its driver sections. -/
def checkDriver (driver : String) (sections : List Section) : Except Violation Unit :=
  match misplaced? driver sections with
  | some sec => .error (.unexpectedSection sec.name driver)
  | none => sections.forM (checkContent driver)

def driverOf (device : Section) : String := (device.get? "Driver").getD ""

/-- The first violation in a device file, if it has any. -/
def validate (file : Keyfile) : Except Violation Unit :=
  match file.section? SectionShape.deviceName with
  | none => .error (.missingSection SectionShape.deviceName)
  | some device =>
    match SectionSchema.device.check device with
    | .error violation => .error violation
    | .ok () => checkDriver (driverOf device) file.sections

end Keyfile

end DeviceCatalog
