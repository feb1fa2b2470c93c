import DeviceCatalog.Numeral
import Mathlib.Data.List.Basic
import Mathlib.Data.List.Induction

/-!
# Decimal digits

Decimal digits are read as their positional value, whatever zeros stand in front
of them. A numeral that has no such zero is the one in which its number is
written.
-/
namespace DeviceCatalog.Numeral

def IsDigits (cs : List Char) : Prop := cs ≠ [] ∧ ∀ c ∈ cs, c.isDigit = true

instance : DecidablePred IsDigits := fun cs =>
  decidable_of_iff (cs ≠ [] ∧ cs.all Char.isDigit = true) (and_congr_right' List.all_eq_true)

/-- Decimal digits without a zero in front that could be left out. -/
structure IsPlain (cs : List Char) : Prop where
  digits : IsDigits cs
  lead : cs.head? = some '0' → cs = ['0']

instance : DecidablePred IsPlain := fun _ =>
  decidable_of_iff (_ ∧ _) ⟨fun h => ⟨h.1, h.2⟩, fun h => ⟨h.digits, h.lead⟩⟩

variable {c : Char} {cs : List Char} {n limit : Nat}

theorem IsDigits.not_mem (h : IsDigits cs) (hc : c.isDigit = false) : c ∉ cs := by
  intro hmem
  rw [h.2 c hmem] at hc
  cases hc

theorem digit?_ten_eq_some_iff {d : Nat} :
    digit? 10 c = some d ↔ c.isDigit = true ∧ c.toNat - '0'.toNat = d := by
  have h0 : '0'.toNat = 48 := rfl
  have h9 : '9'.toNat = 57 := rfl
  have hrange : c.isDigit = true ↔ '0' ≤ c ∧ c ≤ '9' := Char.isDigit_iff_toNat
  rw [digit?, Option.filter_eq_some_iff, digitValue?, hrange]
  split
  · rename_i hc
    have hle : c.toNat ≤ '9'.toNat := hc.2
    simp only [Option.some.injEq, decide_eq_true_eq, hc, true_and, and_iff_left_iff_imp]
    omega
  · rename_i hc
    have hletter : ∀ v : Nat, some (v + 10) = some d → ¬d < 10 := by
      intro v hv
      have := Option.some.inj hv
      omega
    simp only [hc, false_and, iff_false, decide_eq_true_eq, not_and]
    split
    · exact hletter _
    · split
      · exact hletter _
      · simp

theorem digitsFrom?_ten_eq_some_iff {acc : Nat} :
    digitsFrom? 10 acc cs = some n ↔
      (∀ c ∈ cs, c.isDigit = true) ∧ Nat.ofDigitChars 10 cs acc = n := by
  induction cs generalizing acc with
  | nil => simp [digitsFrom?]
  | cons c cs ih =>
    rw [List.forall_mem_cons, Nat.ofDigitChars_cons, digitsFrom?]
    cases hc : digit? 10 c with
    | none =>
      have hno : c.isDigit ≠ true := fun h =>
        Option.some_ne_none _ ((digit?_ten_eq_some_iff.2 ⟨h, rfl⟩).symm.trans hc)
      simp [hno]
    | some d =>
      obtain ⟨hdigit, hd⟩ := digit?_ten_eq_some_iff.1 hc
      rw [hd, Nat.mul_comm 10 acc, and_assoc, and_iff_right hdigit]
      exact ih

theorem digits?_ten_eq_some_iff :
    digits? 10 cs = some n ↔ IsDigits cs ∧ Nat.ofDigitChars 10 cs 0 = n := by
  rw [digits?, IsDigits, and_assoc, ← digitsFrom?_ten_eq_some_iff]
  split <;> simp_all

/-- A numeral is made of digits, which a plus sign may precede. -/
theorem natural?_eq_some_iff {base : Nat} {s : String} :
    natural? base limit s = some n ↔
      ∃ cs, (s.toList = cs ∨ s.toList = '+' :: cs) ∧ digits? base cs = some n ∧ n < limit := by
  rw [natural?, Option.filter_eq_some_iff, decide_eq_true_eq]
  constructor
  · rintro ⟨hdigits, hn⟩
    refine ⟨dropPlus s.toList, ?_, hdigits, hn⟩
    unfold dropPlus
    split
    · rename_i cs hs
      exact .inr hs
    · exact .inl rfl
  · rintro ⟨cs, hs, hdigits, hn⟩
    have hdrop : dropPlus s.toList = cs := by
      rcases hs with hs | hs
      · rw [hs, dropPlus]
        rintro rest rfl
        have hplus : digits? base ('+' :: rest) = none := rfl
        rw [hplus] at hdigits
        cases hdigits
      · rw [hs]
        rfl
    rw [hdrop]
    exact ⟨hdigits, hn⟩

theorem natural?_ten_eq_some_iff {s : String} :
    natural? 10 limit s = some n ↔
      ∃ cs, (s.toList = cs ∨ s.toList = '+' :: cs) ∧ IsDigits cs ∧
        Nat.ofDigitChars 10 cs 0 = n ∧ n < limit := by
  simp only [natural?_eq_some_iff, digits?_ten_eq_some_iff, and_assoc]

theorem isDigits_toDigits (n : Nat) : IsDigits (Nat.toDigits 10 n) :=
  ⟨Nat.toDigits_ne_nil, fun _ => Nat.isDigit_of_mem_toDigits (by decide) (by decide)⟩

theorem isPlain_toDigits (n : Nat) : IsPlain (Nat.toDigits 10 n) := by
  refine ⟨isDigits_toDigits n, ?_⟩
  induction n using Nat.strongRecOn with
  | ind n ih =>
    intro hlead
    by_cases hn : n < 10
    · rw [Nat.toDigits_of_lt_base hn] at hlead ⊢
      rw [Option.some.inj hlead]
    · rw [Nat.toDigits_of_base_le (by decide) (Nat.le_of_not_lt hn),
        List.head?_append_of_ne_nil _ Nat.toDigits_ne_nil] at hlead
      have htenth := ih (n / 10) (by omega) hlead
      have hzero : n / 10 = 0 := by
        rw [← Nat.ofDigitChars_ten_toDigits (n := n / 10), htenth]
        rfl
      omega

/-- A plain numeral is the one in which its value is written. -/
theorem toDigits_ofDigitChars (h : IsPlain cs) :
    Nat.toDigits 10 (Nat.ofDigitChars 10 cs 0) = cs := by
  induction cs using List.reverseRec with
  | nil => exact absurd rfl h.digits.1
  | append_singleton cs c ih =>
    have hc : c.isDigit = true := h.digits.2 c (by simp)
    have hlt : c.toNat - '0'.toNat < 10 := digit?_lt (digit?_ten_eq_some_iff.2 ⟨hc, rfl⟩)
    have hchar : Nat.toDigits 10 (c.toNat - '0'.toNat) = [c] := by
      have hrange := Char.isDigit_iff_toNat.1 hc
      have hback : Nat.digitChar (c.toNat - '0'.toNat) = c := by
        rw [← Char.toNat_inj, Nat.toNat_digitChar_of_lt_ten hlt]
        have h0 : '0'.toNat = 48 := rfl
        omega
      rw [Nat.toDigits_of_lt_base hlt, hback]
    rw [Nat.ofDigitChars_append, Nat.ofDigitChars_cons, Nat.ofDigitChars_nil]
    by_cases hcs : cs = []
    · rw [hcs, Nat.ofDigitChars_nil, Nat.mul_zero, Nat.zero_add, hchar, List.nil_append]
    · have hhead : cs.head? ≠ some '0' := by
        intro hzero
        have hone := h.lead (by rw [List.head?_append_of_ne_nil _ hcs, hzero])
        simp [hcs, List.append_eq_cons_iff] at hone
      have hplain : IsPlain cs :=
        ⟨⟨hcs, fun d hd => h.digits.2 d (by simp [hd])⟩, fun hzero => absurd hzero hhead⟩
      have hpos : 0 < Nat.ofDigitChars 10 cs 0 := by
        apply Nat.pos_of_ne_zero
        intro hzero
        have hdigits := ih hplain
        rw [hzero] at hdigits
        rw [← hdigits] at hhead
        exact hhead rfl
      rw [← Nat.toDigits_append_toDigits (by decide) hpos hlt, ih hplain, hchar]

theorem toList_decimal (n : Nat) : (decimal n).toList = Nat.toDigits 10 n := String.toList_ofList

theorem decimal_eq_iff {s : String} :
    decimal n = s ↔ IsPlain s.toList ∧ Nat.ofDigitChars 10 s.toList 0 = n := by
  constructor
  · rintro rfl
    rw [toList_decimal]
    exact ⟨isPlain_toDigits n, Nat.ofDigitChars_ten_toDigits⟩
  · rintro ⟨hplain, rfl⟩
    rw [← String.toList_inj, toList_decimal, toDigits_ofDigitChars hplain]

theorem natural?_decimal (h : n < limit) : natural? 10 limit (decimal n) = some n :=
  natural?_ten_eq_some_iff.2
    ⟨_, .inl (toList_decimal n), isDigits_toDigits n, Nat.ofDigitChars_ten_toDigits, h⟩

theorem not_mem_decimal (hc : c.isDigit = false) (n : Nat) : c ∉ (decimal n).toList := by
  rw [toList_decimal]
  exact (isDigits_toDigits n).not_mem hc

end DeviceCatalog.Numeral
