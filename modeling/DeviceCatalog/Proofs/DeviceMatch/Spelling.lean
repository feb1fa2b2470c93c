import DeviceCatalog.DeviceMatch
import DeviceCatalog.Proofs.Sequencing
import DeviceCatalog.Proofs.Text.Cuts

/-!
# The spelling of device identities

An identifier of sixteen bits is read from its four lower-case digits and from
nothing else, so an identity has exactly one spelling. A match value is accepted
exactly when its filled segments are the spellings of the identities read.
-/
namespace DeviceCatalog

namespace Numeral

theorem digit?_digitChar {d : Nat} (h : d < 16) : digit? 16 (Nat.digitChar d) = some d := by
  have hall : ∀ d : Fin 16, digit? 16 (Nat.digitChar d) = some d.val := by decide
  exact hall ⟨d, h⟩

theorem digitChar_ne {d : Nat} {c : Char} (h : d < 16) (hc : digit? 16 c = none) :
    Nat.digitChar d ≠ c := by
  rintro rfl
  rw [digit?_digitChar h] at hc
  exact Option.some_ne_none d hc

theorem natural?_hex4 (n : UInt16) : natural? 16 0x10000 (hex4 n) = some n.toNat := by
  have hn : n.toNat < 65536 := n.toNat_lt
  have hlead : Nat.digitChar (n.toNat / 4096 % 16) ≠ '+' :=
    digitChar_ne (by omega) (by decide)
  have hvalue : (((n.toNat / 4096 % 16) * 16 + n.toNat / 256 % 16) * 16 + n.toNat / 16 % 16) * 16 +
      n.toNat % 16 = n.toNat := by omega
  simp [natural?, hex4, dropPlus, hlead, digits?, digitsFrom?, digit?_digitChar, Nat.mod_lt, hvalue,
    hn]

theorem not_mem_hex4 {c : Char} (hc : digit? 16 c = none) (n : UInt16) :
    c ∉ (hex4 n).toList := by
  have hne (k : Nat) : c ≠ Nat.digitChar (k % 16) :=
    (digitChar_ne (Nat.mod_lt _ (by omega)) hc).symm
  simp [hex4, hne]

end Numeral

namespace DeviceMatch

theorem readId_eq_ok_iff {value id : String} {n : UInt16} :
    readId value id = .ok n ↔ Numeral.hex4 n = id := by
  constructor
  · intro h
    unfold readId at h
    split at h
    · simp at h
    · split at h
      · rename_i hspelled
        rw [← Except.ok.inj h, hspelled]
      · simp at h
  · rintro rfl
    simp [readId, Numeral.natural?_hex4]

theorem segments_text (m : DeviceMatch) :
    Text.segments ':' m.text = [m.bus.token, Numeral.hex4 m.vendor, Numeral.hex4 m.product] := by
  have hcolon : ∀ n : UInt16, ':' ∉ (Numeral.hex4 n).toList := Numeral.not_mem_hex4 (by decide)
  have hbus : ':' ∉ m.bus.token.toList := by cases m.bus <;> decide
  rw [text, Text.segments_joinWith _ (by simp)]
  intro word hword
  simp only [List.mem_cons, List.not_mem_nil, or_false] at hword
  rcases hword with rfl | rfl | rfl
  · exact hbus
  · exact hcolon m.vendor
  · exact hcolon m.product

theorem readEntry_eq_ok_iff {value entry : String} {m : DeviceMatch} :
    readEntry value entry = .ok m ↔ m.text = entry := by
  constructor
  · intro h
    unfold readEntry at h
    split at h
    · rename_i busWord vendorId productId hparts
      split at h
      · simp at h
      · rename_i bus hbus
        obtain ⟨vendor, hvendor, h⟩ := bind_eq_ok_iff.1 h
        obtain ⟨product, hproduct, h⟩ := bind_eq_ok_iff.1 h
        rw [← Except.ok.inj h]
        have hword : bus.token = busWord := Vocabulary.find?_eq_some_iff.1 hbus
        rw [← Text.joinWith_segments ':' entry, hparts, text, hword,
          readId_eq_ok_iff.1 hvendor, readId_eq_ok_iff.1 hproduct]
    · simp at h
  · rintro rfl
    have hbus : Vocabulary.find? m.bus.token = some m.bus := Vocabulary.find?_token m.bus
    have hid (n : UInt16) : readId value (Numeral.hex4 n) = .ok n := readId_eq_ok_iff.2 rfl
    simp only [readEntry, segments_text, hbus, hid]
    rfl

theorem text_injective : Function.Injective text := by
  intro m n h
  have hread : readEntry "" n.text = .ok m := readEntry_eq_ok_iff.2 h
  rw [readEntry_eq_ok_iff.2 rfl] at hread
  exact (Except.ok.inj hread).symm

theorem text_ne_empty (m : DeviceMatch) : m.text ≠ "" := by
  intro h
  have hparts := segments_text m
  rw [h] at hparts
  simp [Text.segments] at hparts

theorem readAll_eq_ok_iff {value : String} {ms : List DeviceMatch} :
    readAll value = .ok ms ↔ Text.filledSegments ';' value = ms.map text :=
  mapM_eq_ok_iff_eq_map fun _ _ => readEntry_eq_ok_iff

theorem semicolon_not_mem_text (m : DeviceMatch) : ';' ∉ m.text.toList := by
  have hid : ∀ n : UInt16, ';' ∉ (Numeral.hex4 n).toList := Numeral.not_mem_hex4 (by decide)
  have hbus : ';' ∉ m.bus.token.toList := by cases m.bus <;> decide
  simp [text, Text.joinWith_cons, hid, hbus]

theorem readAll_eq_singleton_iff {entry : String} (h : ';' ∉ entry.toList) {m : DeviceMatch} :
    readAll entry = .ok [m] ↔ entry = m.text := by
  rw [readAll_eq_ok_iff, Text.filledSegments, Text.segments_eq_singleton h]
  by_cases hempty : entry = ""
  · simp [hempty, m.text_ne_empty.symm]
  · simp [hempty]

end DeviceMatch

end DeviceCatalog
