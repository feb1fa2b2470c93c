import DeviceCatalog.DeviceMatch

/-!
# Wireless receivers

A receiver is no input device. The devices paired with it are found through
it, so no device file may claim the identity of a receiver. Match entries are
compared with the written identities of the known receivers.
-/
namespace DeviceCatalog

structure Receiver where
  product : UInt16
  name : String
  deriving DecidableEq, Repr

namespace Receiver

/-- The vendor number of Logitech. -/
def vendor : UInt16 := 0x046d

def all : List Receiver :=
  [⟨0xc50c, "S510 receiver"⟩, ⟨0xc517, "S510 receiver 2"⟩, ⟨0xc512, "Cordless Desktop LX500"⟩,
    ⟨0xc513, "MX3000 receiver"⟩, ⟨0xc51b, "27MHz mouse receiver"⟩, ⟨0xc52b, "Unifying receiver"⟩,
    ⟨0xc52f, "Nano receiver"⟩, ⟨0xc532, "Unifying receiver 2"⟩, ⟨0xc534, "Nano receiver 2"⟩,
    ⟨0xc539, "Lightspeed receiver 1"⟩, ⟨0xc53f, "Lightspeed receiver 1.1"⟩,
    ⟨0xc53a, "Powerplay receiver"⟩, ⟨0xc545, "Lightspeed receiver 1.2"⟩,
    ⟨0xc547, "Lightspeed receiver 1.3"⟩, ⟨0xc548, "Bolt receiver"⟩]

def identity (r : Receiver) : DeviceMatch := ⟨.usb, vendor, r.product⟩

/-- The receiver whose identity is written as the entry. -/
def find? (entry : String) : Option Receiver := all.find? (·.identity.text == entry)

theorem find?_identity {entry : String} {r : Receiver} (h : find? entry = some r) :
    r.identity.text = entry := by
  simpa using List.find?_some h

end Receiver

/-- A receiver that a file declares as a device. -/
structure ReceiverHit where
  entry : String
  file : String
  receiver : String
  deriving DecidableEq, Repr

namespace ReceiverHit

def text (hit : ReceiverHit) : String :=
  "Receiver ID " ++ hit.entry ++ " found in file " ++ hit.file

def scan (file value : String) : List ReceiverHit :=
  (Text.segments ';' value).filterMap fun entry =>
    (Receiver.find? entry).map fun r => ⟨entry, file, r.name⟩

end ReceiverHit

end DeviceCatalog
