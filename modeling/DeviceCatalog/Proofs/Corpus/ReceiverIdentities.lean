import DeviceCatalog.Corpus.Receivers
import DeviceCatalog.Proofs.DeviceMatch.Spelling

/-!
# Receivers by identity

Entries are compared with written receiver identities. An identity has one
spelling, so this finds the receivers among the identities of a match value,
one hit for each of them and in the same order.
-/
namespace DeviceCatalog

/-- Whether an identity is that of one of Logitech's receivers, which are all on the USB bus. -/
def DeviceMatch.IsReceiver (m : DeviceMatch) : Prop :=
  m.bus = .usb ∧ m.vendor = 0x046d ∧ m.product ∈ Receiver.all.map Receiver.product

instance : DecidablePred DeviceMatch.IsReceiver := fun m =>
  inferInstanceAs (Decidable (m.bus = .usb ∧ m.vendor = 0x046d ∧ _))

namespace Receiver

theorem find?_text (m : DeviceMatch) : find? m.text = all.find? fun r => r.identity = m := by
  have hsame (r : Receiver) : (r.identity.text == m.text) = decide (r.identity = m) := by
    rw [Bool.eq_iff_iff, beq_iff_eq, decide_eq_true_iff, DeviceMatch.text_injective.eq_iff]
  simp only [find?, hsame]

theorem find?_empty : find? "" = none := by
  rw [find?, List.find?_eq_none]
  intro r _
  simpa using r.identity.text_ne_empty

theorem exists_identity_iff {m : DeviceMatch} : (∃ r ∈ all, r.identity = m) ↔ m.IsReceiver := by
  constructor
  · rintro ⟨r, hr, rfl⟩
    exact ⟨rfl, rfl, List.mem_map_of_mem hr⟩
  · rintro ⟨hbus, hvendor, hproduct⟩
    obtain ⟨r, hr, hproduct⟩ := List.mem_map.1 hproduct
    refine ⟨r, hr, ?_⟩
    obtain ⟨bus, vendor, product⟩ := m
    simp only at hbus hvendor hproduct
    rw [identity, hbus, hvendor, hproduct]
    rfl

theorem exists_find?_of_isReceiver {m : DeviceMatch} (h : m.IsReceiver) :
    ∃ r ∈ all, r.identity = m ∧ find? m.text = some r := by
  have hsome : (all.find? fun r => r.identity = m).isSome := by
    simpa using exists_identity_iff.2 h
  obtain ⟨r, hr⟩ := Option.isSome_iff_exists.1 hsome
  exact ⟨r, List.mem_of_find?_eq_some hr, by simpa using List.find?_some hr, (find?_text m).trans hr⟩

theorem find?_text_of_not_isReceiver {m : DeviceMatch} (h : ¬m.IsReceiver) :
    find? m.text = none := by
  rw [find?_text, List.find?_eq_none]
  intro r hr hsame
  exact h (exists_identity_iff.1 ⟨r, hr, by simpa using hsame⟩)

/-- Whether an entry is read as the identity of a receiver and as nothing besides. -/
def isEntry (entry : String) : Bool :=
  match DeviceMatch.readAll entry with
  | .ok [m] => m.IsReceiver
  | _ => false

theorem isEntry_eq_true_iff {entry : String} :
    isEntry entry = true ↔ ∃ m, DeviceMatch.readAll entry = .ok [m] ∧ m.IsReceiver := by
  unfold isEntry
  split
  · rename_i m hread
    simp [hread]
  · rename_i hother
    refine ⟨fun h => absurd h (by simp), ?_⟩
    rintro ⟨m, hm, -⟩
    exact absurd hm (hother m)

theorem isEntry_of_find? {entry : String} {r : Receiver} (h : find? entry = some r) :
    isEntry entry = true := by
  rw [← find?_identity h, isEntry_eq_true_iff]
  exact ⟨r.identity, (DeviceMatch.readAll_eq_singleton_iff r.identity.semicolon_not_mem_text).2 rfl,
    exists_identity_iff.1 ⟨r, List.mem_of_find?_eq_some h, rfl⟩⟩

end Receiver

namespace ReceiverHit

/-- An empty segment is no receiver, so only the filled ones count. -/
theorem scan_eq_filledSegments (file value : String) :
    scan file value = (Text.filledSegments ';' value).filterMap fun entry =>
      (Receiver.find? entry).map fun r => ⟨entry, file, r.name⟩ := by
  rw [scan, Text.filledSegments, List.filterMap_filter]
  congr 1
  funext entry
  by_cases hentry : entry = ""
  · simp [hentry, Receiver.find?_empty]
  · simp [hentry]

theorem scan_of_readAll {value : String} {ms : List DeviceMatch}
    (h : DeviceMatch.readAll value = .ok ms) (file : String) :
    scan file value = ms.filterMap fun m =>
      (Receiver.all.find? fun r => r.identity = m).map fun r => ⟨m.text, file, r.name⟩ := by
  rw [scan_eq_filledSegments, DeviceMatch.readAll_eq_ok_iff.1 h, List.filterMap_map]
  simp only [Function.comp_def, Receiver.find?_text]

theorem scan_eq_nil_iff {value : String} {ms : List DeviceMatch}
    (h : DeviceMatch.readAll value = .ok ms) (file : String) :
    scan file value = [] ↔ ∀ m ∈ ms, ¬m.IsReceiver := by
  rw [scan_of_readAll h, List.filterMap_eq_nil_iff]
  refine forall_congr' fun m => imp_congr_right fun _ => ?_
  rw [← Receiver.exists_identity_iff, Option.map_eq_none_iff, List.find?_eq_none]
  simp

/-- A hit for an entry of a file, with the name that is listed for the product of its identity. -/
def Shows (file entry : String) (m : DeviceMatch) (hit : ReceiverHit) : Prop :=
  ∃ r ∈ Receiver.all, r.product = m.product ∧ hit = ⟨entry, file, r.name⟩

theorem exists_shows_of_isReceiver {m : DeviceMatch} (h : m.IsReceiver) (file : String) :
    ∃ hit, ((Receiver.find? m.text).map fun r => ⟨m.text, file, r.name⟩) = some hit ∧
      Shows file m.text m hit := by
  obtain ⟨r, hr, rfl, hfind⟩ := Receiver.exists_find?_of_isReceiver h
  exact ⟨⟨_, file, r.name⟩, by rw [hfind, Option.map_some], r, hr, rfl, rfl⟩

/-- Each segment that is read as the identity of a receiver gives one hit, in order, and nothing
else does. Where the whole value can be read, these are the receivers among its identities. -/
theorem scan_shows_receivers (file value : String) :
    List.Forall₂
        (fun entry hit => ∃ m, DeviceMatch.readAll entry = .ok [m] ∧ Shows file entry m hit)
        ((Text.segments ';' value).filter Receiver.isEntry) (scan file value) ∧
      ∀ ms, DeviceMatch.readAll value = .ok ms →
        List.Forall₂ (fun m hit => Shows file m.text m hit)
          (ms.filter fun m => m.IsReceiver) (scan file value) := by
  constructor
  · apply forall₂_filter_filterMap
    · intro entry hentry hreceiver
      obtain ⟨m, hread, hm⟩ := Receiver.isEntry_eq_true_iff.1 hreceiver
      obtain rfl := (DeviceMatch.readAll_eq_singleton_iff (Text.not_mem_of_mem_segments hentry)).1 hread
      obtain ⟨hit, hhit, hshows⟩ := exists_shows_of_isReceiver hm file
      exact ⟨hit, hhit, m, hread, hshows⟩
    · intro entry _ hother
      rw [Option.map_eq_none_iff, Option.eq_none_iff_forall_ne_some]
      intro r hr
      rw [Receiver.isEntry_of_find? hr] at hother
      cases hother
  · intro ms hms
    rw [scan_eq_filledSegments, DeviceMatch.readAll_eq_ok_iff.1 hms, List.filterMap_map]
    apply forall₂_filter_filterMap
    · intro m _ hm
      exact exists_shows_of_isReceiver (of_decide_eq_true hm) file
    · intro m _ hm
      rw [Function.comp_apply, Receiver.find?_text_of_not_isReceiver (of_decide_eq_false hm)]
      rfl

/-- Two receivers, and the product number of one of them on another bus. -/
def pairedValue : String := "usb:046d:c548;bluetooth:046d:c548;;usb:046d:c52b"

theorem scan_shows_pairedReceivers :
    DeviceMatch.readAll pairedValue =
        .ok [⟨.usb, 0x046d, 0xc548⟩, ⟨.bluetooth, 0x046d, 0xc548⟩, ⟨.usb, 0x046d, 0xc52b⟩] ∧
      List.Forall₂ (fun m hit => Shows "a" m.text m hit)
        [⟨.usb, 0x046d, 0xc548⟩, ⟨.usb, 0x046d, 0xc52b⟩] (scan "a" pairedValue) ∧
      scan "a" pairedValue =
        [⟨"usb:046d:c548", "a", "Bolt receiver"⟩, ⟨"usb:046d:c52b", "a", "Unifying receiver"⟩] :=
  have hread : DeviceMatch.readAll pairedValue =
      .ok [⟨.usb, 0x046d, 0xc548⟩, ⟨.bluetooth, 0x046d, 0xc548⟩, ⟨.usb, 0x046d, 0xc52b⟩] := by
    decide +kernel
  ⟨hread, (scan_shows_receivers "a" pairedValue).2 _ hread, by decide +kernel⟩

end ReceiverHit

end DeviceCatalog
