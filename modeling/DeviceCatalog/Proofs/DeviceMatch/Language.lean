import DeviceCatalog.Proofs.DeviceMatch.Spelling
import DeviceCatalog.Proofs.Text.Spread

/-!
# The language of match values

Which texts are match values can be said without the reader: every filled segment
has the name of a bus and two groups of four lower-case hexadecimal digits. Such
a text has one list of identities, and joining their spellings gives it back, up
to semicolons that separate nothing.
-/
namespace DeviceCatalog

namespace Numeral

def IsLowerHex (c : Char) : Prop := ('0' ≤ c ∧ c ≤ '9') ∨ ('a' ≤ c ∧ c ≤ 'f')

instance : DecidablePred IsLowerHex := fun c =>
  inferInstanceAs (Decidable (('0' ≤ c ∧ c ≤ '9') ∨ ('a' ≤ c ∧ c ≤ 'f')))

def IsHexGroup (s : String) : Prop := s.toList.length = 4 ∧ ∀ c ∈ s.toList, IsLowerHex c

theorem isLowerHex_digitChar {d : Nat} (h : d < 16) : IsLowerHex (Nat.digitChar d) := by
  have hall : ∀ d : Fin 16, IsLowerHex (Nat.digitChar d) := by decide
  exact hall ⟨d, h⟩

theorem exists_digitChar_eq {c : Char} (h : IsLowerHex c) : ∃ d < 16, Nat.digitChar d = c := by
  have hall : ∀ n : Fin 103, IsLowerHex (Char.ofNat n) →
      ∃ d < 16, Nat.digitChar d = Char.ofNat n := by decide
  have hlast : c ≤ 'f' := h.elim (fun hc => Char.le_trans hc.2 (by decide)) And.right
  have hcode : c.toNat < 103 := Nat.lt_succ_of_le hlast
  have hc := hall ⟨c.toNat, hcode⟩
  rw [Char.ofNat_toNat] at hc
  exact hc h

theorem isHexGroup_iff {s : String} : IsHexGroup s ↔ ∃ n, hex4 n = s := by
  constructor
  · rintro ⟨hlength, hdigits⟩
    obtain ⟨a, b, c, d, hs⟩ := List.length_eq_four.1 hlength
    rw [hs] at hdigits
    simp only [List.forall_mem_cons] at hdigits
    obtain ⟨ha, hb, hc, hd, -⟩ := hdigits
    obtain ⟨k, hk, rfl⟩ := exists_digitChar_eq ha
    obtain ⟨l, hl, rfl⟩ := exists_digitChar_eq hb
    obtain ⟨m, hm, rfl⟩ := exists_digitChar_eq hc
    obtain ⟨n, hn, rfl⟩ := exists_digitChar_eq hd
    refine ⟨UInt16.ofNat (((k * 16 + l) * 16 + m) * 16 + n), ?_⟩
    have hvalue : (UInt16.ofNat (((k * 16 + l) * 16 + m) * 16 + n)).toNat =
        ((k * 16 + l) * 16 + m) * 16 + n := by
      rw [UInt16.toNat_ofNat']
      omega
    have hfirst : (((k * 16 + l) * 16 + m) * 16 + n) / 4096 % 16 = k := by omega
    have hsecond : (((k * 16 + l) * 16 + m) * 16 + n) / 256 % 16 = l := by omega
    have hthird : (((k * 16 + l) * 16 + m) * 16 + n) / 16 % 16 = m := by omega
    have hfourth : (((k * 16 + l) * 16 + m) * 16 + n) / 1 % 16 = n := by omega
    rw [← String.toList_inj, hs, hex4, hvalue, String.toList_ofList]
    simp only [hfirst, hsecond, hthird, hfourth]
  · rintro ⟨n, rfl⟩
    refine ⟨by simp [hex4], ?_⟩
    have hdigit (k : Nat) : IsLowerHex (Nat.digitChar (k % 16)) :=
      isLowerHex_digitChar (Nat.mod_lt _ (by decide))
    simp [hex4, hdigit]

end Numeral

namespace DeviceMatch

/-- The name of a bus and two groups of four hexadecimal digits, with colons between them. -/
def IsSpelling (s : String) : Prop :=
  ∃ bus vendor product, s = bus ++ ":" ++ vendor ++ ":" ++ product ∧
    (bus = "usb" ∨ bus = "bluetooth") ∧ Numeral.IsHexGroup vendor ∧ Numeral.IsHexGroup product

theorem text_eq (m : DeviceMatch) :
    m.text = m.bus.token ++ ":" ++ Numeral.hex4 m.vendor ++ ":" ++ Numeral.hex4 m.product := by
  rw [← String.toList_inj]
  simp [text, Text.joinWith_cons]

theorem token_eq_iff {word : String} :
    (∃ bus : BusType, bus.token = word) ↔ word = "usb" ∨ word = "bluetooth" := by
  constructor
  · rintro ⟨bus, rfl⟩
    cases bus with
    | usb => exact .inl rfl
    | bluetooth => exact .inr rfl
  · rintro (rfl | rfl)
    · exact ⟨.usb, rfl⟩
    · exact ⟨.bluetooth, rfl⟩

theorem isSpelling_iff {s : String} : IsSpelling s ↔ ∃ m : DeviceMatch, m.text = s := by
  constructor
  · rintro ⟨busWord, vendorId, productId, rfl, hbus, hvendor, hproduct⟩
    obtain ⟨bus, rfl⟩ := token_eq_iff.2 hbus
    obtain ⟨vendor, rfl⟩ := Numeral.isHexGroup_iff.1 hvendor
    obtain ⟨product, rfl⟩ := Numeral.isHexGroup_iff.1 hproduct
    exact ⟨⟨bus, vendor, product⟩, text_eq _⟩
  · rintro ⟨m, rfl⟩
    exact ⟨_, _, _, text_eq m, token_eq_iff.1 ⟨m.bus, rfl⟩, Numeral.isHexGroup_iff.2 ⟨_, rfl⟩,
      Numeral.isHexGroup_iff.2 ⟨_, rfl⟩⟩

theorem exists_map_text_eq_iff {words : List String} :
    (∃ ms : List DeviceMatch, words = ms.map text) ↔ ∀ word ∈ words, IsSpelling word := by
  constructor
  · rintro ⟨ms, rfl⟩ word hword
    obtain ⟨m, -, rfl⟩ := List.mem_map.1 hword
    exact isSpelling_iff.2 ⟨m, rfl⟩
  · intro h
    obtain ⟨ms, hms⟩ := exists_forall₂ fun word hword => isSpelling_iff.1 (h word hword)
    have hwords : List.Forall₂ (· = ·) words (ms.map text) :=
      List.forall₂_map_right_iff.2 (hms.imp fun _ _ hword => hword.symm)
    rw [List.forall₂_eq_eq_eq] at hwords
    exact ⟨ms, hwords⟩

theorem exists_format_of_readId {value id : String} {e : Violation}
    (h : readId value id = .error e) : ∃ fault, e = .format "DeviceMatch" value fault := by
  unfold readId at h
  split at h
  · exact ⟨_, (Except.error.inj h).symm⟩
  · split at h
    · cases h
    · exact ⟨_, (Except.error.inj h).symm⟩

/-- Whatever is wrong with an entry, the violation is one of form and names the whole value. -/
theorem exists_format_of_readEntry {value entry : String} {e : Violation}
    (h : readEntry value entry = .error e) : ∃ fault, e = .format "DeviceMatch" value fault := by
  unfold readEntry at h
  split at h
  · split at h
    · exact ⟨_, (Except.error.inj h).symm⟩
    · rcases bind_eq_error_iff.1 h with hvendor | ⟨vendor, -, h⟩
      · exact exists_format_of_readId hvendor
      · rcases bind_eq_error_iff.1 h with hproduct | ⟨product, -, h⟩
        · exact exists_format_of_readId hproduct
        · cases h
  · exact ⟨_, (Except.error.inj h).symm⟩

theorem exists_format_of_readAll {value : String} {e : Violation}
    (h : readAll value = .error e) : ∃ fault, e = .format "DeviceMatch" value fault := by
  obtain ⟨entry, -, hentry⟩ := mapM_eq_error_iff.1 h
  exact exists_format_of_readEntry hentry

/-- The match values are the texts whose filled segments are spellings of identities. Each is read
as the identities that these spell, and every other text is refused for its form. -/
theorem readAll_exact (value : String) :
    (∀ ms, readAll value = .ok ms ↔ Text.filledSegments ';' value = ms.map text) ∧
      ((∃ ms, readAll value = .ok ms) ↔
        ∀ segment ∈ Text.filledSegments ';' value, IsSpelling segment) ∧
      (∀ ms, Text.Spreads ';' (ms.map text) value.toList → readAll value = .ok ms) ∧
      (∀ ms, readAll (Text.joinWith ';' (ms.map text)) = .ok ms) ∧
      ((¬∃ ms : List DeviceMatch, Text.filledSegments ';' value = ms.map text) →
        ∃ fault, readAll value = .error (.format "DeviceMatch" value fault)) := by
  have hspread : ∀ (ms : List DeviceMatch) (cs : List Char),
      Text.Spreads ';' (ms.map text) cs → readAll (String.ofList cs) = .ok ms := by
    intro ms cs hcs
    apply readAll_eq_ok_iff.2
    apply hcs.filledSegments_eq
    rw [List.forall_mem_map]
    exact fun m _ => ⟨m.text_ne_empty, m.semicolon_not_mem_text⟩
  refine ⟨fun ms => readAll_eq_ok_iff, ?_, ?_, ?_, ?_⟩
  · simp only [readAll_eq_ok_iff, exists_map_text_eq_iff]
  · intro ms hms
    rw [← String.ofList_toList (s := value)]
    exact hspread ms _ hms
  · intro ms
    rw [← String.ofList_toList (s := Text.joinWith ';' _)]
    exact hspread ms _ (Text.spreads_joinWith ';' _)
  · intro hnone
    cases hread : readAll value with
    | ok ms => exact absurd ⟨ms, readAll_eq_ok_iff.1 hread⟩ hnone
    | error e =>
      obtain ⟨fault, rfl⟩ := exists_format_of_readAll hread
      exact ⟨fault, rfl⟩

/-- Two identities with more semicolons than they need. -/
def looseValue : String := ";usb:046d:c077;;bluetooth:0000:ffff;"

theorem readAll_exact_looseValue :
    Text.Spreads ';' [text ⟨.usb, 0x046d, 0xc077⟩, text ⟨.bluetooth, 0, 0xffff⟩]
        looseValue.toList ∧
      readAll looseValue = .ok [⟨.usb, 0x046d, 0xc077⟩, ⟨.bluetooth, 0, 0xffff⟩] ∧
      (∀ segment ∈ Text.filledSegments ';' looseValue, IsSpelling segment) ∧
      (¬∃ ms : List DeviceMatch, Text.filledSegments ';' "usb:046D:c077" = ms.map text) ∧
      ∃ fault, readAll "usb:046D:c077" = .error (.format "DeviceMatch" "usb:046D:c077" fault) := by
  have hspread : Text.Spreads ';' [text ⟨.usb, 0x046d, 0xc077⟩, text ⟨.bluetooth, 0, 0xffff⟩]
      looseValue.toList :=
    .extra (.next _ (.extra (.next _ .none)))
  have hread : readAll looseValue = .ok [⟨.usb, 0x046d, 0xc077⟩, ⟨.bluetooth, 0, 0xffff⟩] :=
    (readAll_exact looseValue).2.2.1 _ hspread
  have hrefused : ¬∃ ms : List DeviceMatch,
      Text.filledSegments ';' "usb:046D:c077" = ms.map text := by
    rintro ⟨ms, hms⟩
    have herror : readAll "usb:046D:c077" =
        .error (.format "DeviceMatch" "usb:046D:c077" (.notPlainHex "046D" 0x046d)) := by
      decide +kernel
    rw [readAll_eq_ok_iff.2 hms] at herror
    cases herror
  exact ⟨hspread, hread, (readAll_exact looseValue).2.1.1 ⟨_, hread⟩, hrefused,
    (readAll_exact "usb:046D:c077").2.2.2.2 hrefused⟩

end DeviceMatch

end DeviceCatalog
