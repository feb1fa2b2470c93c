import DeviceCatalog.Vocabulary.Driver
import DeviceCatalog.Proofs.Numeral.Hexadecimal

/-!
# The language of device indices

An index is a byte other than zero in hexadecimal digits, behind a mark or
without one. Nothing else is read as one, except that a plus sign may stand
between the mark and the digits.
-/
namespace DeviceCatalog.DeviceIndex

open Numeral

/-- What may stand in front of a hexadecimal number. -/
def marks : List String := ["", "0x", "0X"]

/-- A mark, a sign and the digits of a byte that is not zero. -/
def IsIndex (sign value : String) (n : Nat) : Prop :=
  ∃ mark ∈ marks, ∃ digits, value = mark ++ sign ++ digits ∧ IsHexDigits digits.toList ∧
    hexValue digits.toList = n ∧ 1 ≤ n ∧ n ≤ 0xff

theorem exists_mark (cs : List Char) : ∃ mark ∈ marks, cs = mark.toList ++ dropMark cs := by
  unfold dropMark
  split
  · exact ⟨"0x", by decide, rfl⟩
  · exact ⟨"0X", by decide, rfl⟩
  · exact ⟨"", by decide, rfl⟩

theorem dropMark_append {mark : String} (hmark : mark ∈ marks) {cs : List Char}
    (hlower : 'x' ∉ cs) (hupper : 'X' ∉ cs) : dropMark (mark.toList ++ cs) = cs := by
  simp only [marks, List.mem_cons, List.not_mem_nil, or_false] at hmark
  rcases hmark with rfl | rfl | rfl
  · change dropMark cs = cs
    unfold dropMark
    split
    · simp at hlower
    · simp at hupper
    · rfl
  · rfl
  · rfl

theorem isIndex_iff {sign value : String} {n : Nat} (hlower : 'x' ∉ sign.toList)
    (hupper : 'X' ∉ sign.toList) :
    IsIndex sign value n ↔ ∃ cs, dropMark value.toList = sign.toList ++ cs ∧ IsHexDigits cs ∧
      hexValue cs = n ∧ 1 ≤ n ∧ n ≤ 0xff := by
  constructor
  · rintro ⟨mark, hmark, digits, rfl, hdigits, hn⟩
    refine ⟨digits.toList, ?_, hdigits, hn⟩
    rw [String.toList_append, String.toList_append, List.append_assoc]
    apply dropMark_append hmark
    · simpa [hlower] using hdigits.not_mem (by decide)
    · simpa [hupper] using hdigits.not_mem (by decide)
  · rintro ⟨cs, hrest, hdigits, hn⟩
    obtain ⟨mark, hmark, hsplit⟩ := exists_mark value.toList
    refine ⟨mark, hmark, String.ofList cs, ?_, by simpa using hdigits, by simpa using hn⟩
    rw [← String.toList_inj, hsplit, hrest]
    simp

theorem read_eq_ok_iff_natural? {value : String} {n : Nat} :
    read value = .ok n ↔
      natural? 16 0x100000000 (String.ofList (dropMark value.toList)) = some n ∧
        1 ≤ n ∧ n ≤ 0xff := by
  unfold read
  cases natural? 16 0x100000000 (String.ofList (dropMark value.toList)) with
  | none => simp
  | some m =>
    simp only [Option.some.injEq]
    split
    · rename_i hm
      rw [Except.ok.injEq]
      exact ⟨fun h => ⟨h, h ▸ hm⟩, And.left⟩
    · rename_i hm
      exact ⟨fun h => absurd h (by simp), fun h => absurd (h.1 ▸ h.2) hm⟩

theorem read_eq_ok_iff {value : String} {n : Nat} :
    read value = .ok n ↔ IsIndex "" value n ∨ IsIndex "+" value n := by
  rw [isIndex_iff (by decide) (by decide), isIndex_iff (by decide) (by decide),
    read_eq_ok_iff_natural?, natural?_eq_some_iff, String.toList_ofList, ← exists_or]
  simp only [digits?_sixteen_eq_some_iff]
  constructor
  · rintro ⟨⟨cs, hrest, ⟨hdigits, hvalue⟩, -⟩, hn⟩
    exact ⟨cs, hrest.imp (⟨·, hdigits, hvalue, hn⟩) (⟨·, hdigits, hvalue, hn⟩)⟩
  · rintro ⟨cs, ⟨hrest, hdigits, hvalue, hn⟩ | ⟨hrest, hdigits, hvalue, hn⟩⟩
    · exact ⟨⟨cs, .inl hrest, ⟨hdigits, hvalue⟩, by omega⟩, hn⟩
    · exact ⟨⟨cs, .inr hrest, ⟨hdigits, hvalue⟩, by omega⟩, hn⟩

theorem exists_format_of_read {value : String} {e : Violation} (h : read value = .error e) :
    ∃ fault, e = .format "DeviceIndex" value fault := by
  unfold read at h
  split at h
  · exact ⟨_, (Except.error.inj h).symm⟩
  · split at h
    · cases h
    · exact ⟨_, (Except.error.inj h).symm⟩

theorem plus_not_mem_of_isIndex {value : String} {n : Nat} (h : IsIndex "" value n) :
    '+' ∉ value.toList := by
  obtain ⟨mark, hmark, digits, rfl, hdigits, -⟩ := h
  have hmarks : ∀ mark ∈ marks, '+' ∉ mark.toList := by decide
  simpa [hmarks mark hmark] using hdigits.not_mem (by decide)

/-- The texts of an index are those of a byte that is not zero in hexadecimal digits, up to a plus
sign in front of the digits. Every other text is refused for its form. -/
theorem read_index_exact (value : String) :
    (∀ n, read value = .ok n ↔ IsIndex "" value n ∨ IsIndex "+" value n) ∧
      ('+' ∉ value.toList → ∀ n, read value = .ok n ↔ IsIndex "" value n) ∧
      ((∀ n, ¬IsIndex "" value n ∧ ¬IsIndex "+" value n) →
        ∃ fault, read value = .error (.format "DeviceIndex" value fault)) := by
  refine ⟨fun n => read_eq_ok_iff, fun hplus n => ?_, fun hnone => ?_⟩
  · rw [read_eq_ok_iff, or_iff_left]
    rintro ⟨mark, -, digits, rfl, -⟩
    simp at hplus
  · cases hread : read value with
    | ok n => exact absurd (read_eq_ok_iff.1 hread) (not_or.2 (hnone n))
    | error e =>
      obtain ⟨fault, rfl⟩ := exists_format_of_read hread
      exact ⟨fault, rfl⟩

theorem read_index_exact_paddedMarks :
    IsIndex "" "0X000fF" 0xff ∧ read "0X000fF" = .ok 0xff ∧
      (∀ n, ¬IsIndex "" "0x0x1" n ∧ ¬IsIndex "+" "0x0x1" n) ∧
      ∃ fault, read "0x0x1" = .error (.format "DeviceIndex" "0x0x1" fault) := by
  have hindex : IsIndex "" "0X000fF" 0xff := ⟨"0X", by decide, "000fF", by decide +kernel⟩
  have hrefused : read "0x0x1" = .error (.format "DeviceIndex" "0x0x1" .notHexadecimal) := by
    decide +kernel
  have hnone : ∀ n, ¬IsIndex "" "0x0x1" n ∧ ¬IsIndex "+" "0x0x1" n := by
    intro n
    rw [← not_or, ← (read_index_exact "0x0x1").1, hrefused]
    simp
  exact ⟨hindex, ((read_index_exact "0X000fF").2.1 (by decide) 0xff).2 hindex, hnone,
    (read_index_exact "0x0x1").2.2 hnone⟩

/-- A sign is read although it belongs to no index. -/
theorem exists_read_signed_index :
    ¬(∀ value n, read value = .ok n ↔ IsIndex "" value n) ∧
      read "+1" = .ok 1 ∧ read "0x+1" = .ok 1 ∧ (∀ n, ¬IsIndex "" "+1" n) ∧
      ∀ n, ¬IsIndex "" "0x+1" n := by
  have hsigned : read "+1" = .ok 1 := by decide +kernel
  have hnone : ∀ n, ¬IsIndex "" "+1" n := fun n h => plus_not_mem_of_isIndex h (by decide)
  exact ⟨fun h => hnone 1 ((h "+1" 1).1 hsigned), hsigned, by decide +kernel, hnone,
    fun n h => plus_not_mem_of_isIndex h (by decide)⟩

end DeviceCatalog.DeviceIndex
