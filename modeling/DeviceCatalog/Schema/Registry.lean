import DeviceCatalog.Schema

/-!
# The registry of schemas

One schema for the device section, one for the section of each supported
driver, and one for the sections that the sinowealth driver keeps for each
firmware version.
-/
namespace DeviceCatalog.SectionSchema

def device : SectionSchema where
  name := "Device"
  required := ["Name", "Driver", "DeviceMatch", "DeviceType"]
  rules := [⟨"Name", .text⟩, ⟨"Driver", .text⟩, ⟨"DeviceMatch", .deviceMatch⟩,
    ⟨"DeviceType", .deviceType⟩, ⟨"LedTypes", .ledTypes⟩]
  exclusive := []

def asus : SectionSchema where
  name := "asus"
  required := []
  rules := [⟨"ButtonMapping", .text⟩, ⟨"ButtonMappingSecondary", .text⟩, ⟨"Buttons", .text⟩,
    ⟨"DpiRange", .dpiRange⟩, ⟨"Dpis", .text⟩, ⟨"Leds", .text⟩, ⟨"LedModes", .asusLedModes⟩,
    ⟨"Profiles", .text⟩, ⟨"Quirks", .asusFlags⟩, ⟨"Wireless", .text⟩]
  exclusive := []

def hidpp10 : SectionSchema where
  name := "hidpp10"
  required := []
  rules := [⟨"Profiles", .smallCount⟩, ⟨"ProfileType", .profileType⟩, ⟨"DpiRange", .dpiRange⟩,
    ⟨"DpiList", .dpiList⟩, ⟨"DeviceIndex", .deviceIndex⟩, ⟨"Leds", .smallCount⟩]
  exclusive := [("DpiRange", "DpiList")]

def hidpp20 : SectionSchema where
  name := "hidpp20"
  required := []
  rules := [⟨"Buttons", .text⟩, ⟨"DeviceIndex", .deviceIndex⟩, ⟨"Leds", .text⟩,
    ⟨"ReportRate", .text⟩, ⟨"Quirk", .text⟩]
  exclusive := []

def steelseries : SectionSchema where
  name := "steelseries"
  required := []
  rules := [⟨"Buttons", .text⟩, ⟨"DeviceVersion", .text⟩, ⟨"DpiList", .dpiList⟩,
    ⟨"DpiRange", .dpiRange⟩, ⟨"Leds", .text⟩, ⟨"MacroLength", .text⟩, ⟨"Quirk", .steelseriesFlag⟩]
  exclusive := [("DpiRange", "DpiList")]

def sinowealthDevice : SectionSchema where
  name := "sinowealth device"
  required := ["DeviceName", "LedType"]
  rules := [⟨"DeviceName", .text⟩, ⟨"LedType", .text⟩, ⟨"Buttons", .text⟩, ⟨"Profiles", .text⟩,
    ⟨"SensorType", .text⟩]
  exclusive := []

def forDriver? (driver : String) : Option SectionSchema :=
  [asus, hidpp10, hidpp20, steelseries].find? (·.name == driver)

theorem forDriver?_name {driver : String} {schema : SectionSchema}
    (h : forDriver? driver = some schema) : schema.name = driver := by
  simpa using List.find?_some h

end DeviceCatalog.SectionSchema
