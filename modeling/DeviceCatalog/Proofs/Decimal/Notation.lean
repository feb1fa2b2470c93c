import DeviceCatalog.Decimal
import DeviceCatalog.Proofs.Numeral.Digits
import Mathlib.Algebra.Field.Rat
import Mathlib.Algebra.GroupWithZero.Basic
import Mathlib.Tactic.FieldSimp
import Mathlib.Tactic.Ring

/-!
# Positional notation

A decimal number has many coefficients and exponents, and one value. Positional
notation is read back as a number of the same value. Of a coefficient that does
not end in a zero it leaves out every zero that could be left out.
-/
namespace DeviceCatalog.Decimal

open Numeral (IsDigits)

variable {d : Decimal} {cs whole fraction : List Char}

/-- The number that a coefficient and an exponent stand for. -/
def value (d : Decimal) : ℚ := d.coefficient * 10 ^ d.exponent

theorem value_eq_div (d : Decimal) : d.value = d.numerator / d.denominator := by
  obtain ⟨n, hn | hn⟩ := d.exponent.eq_nat_or_neg
  · simp [value, numerator, denominator, hn]
  · simp [value, numerator, denominator, hn, div_eq_mul_inv]

theorem value_normalize (d : Decimal) : d.normalize.value = d.value := by
  fun_induction normalize d with
  | case1 d h ih =>
    have htenth : d.coefficient = d.coefficient / 10 * 10 := by omega
    calc
      _ = ((d.coefficient / 10 : ℕ) : ℚ) * 10 ^ (d.exponent + 1) := ih
      _ = ((d.coefficient / 10 * 10 : ℕ) : ℚ) * 10 ^ d.exponent := by
        rw [zpow_add_one₀ (by norm_num)]
        push_cast
        ring
      _ = d.value := by rw [← htenth, value]
  | case2 d h => rfl

theorem normalize_coefficient_mod_ten (h : d.coefficient ≠ 0) :
    d.normalize.coefficient % 10 ≠ 0 := by
  fun_induction normalize d with
  | case1 d hten ih => exact ih (by simp only; omega)
  | case2 d hten => exact fun hzero => hten ⟨h, hzero⟩

/-- Digits around one point at most, without a zero that could be left out. -/
inductive IsPlain : List Char → Prop where
  | whole {cs : List Char} : Numeral.IsPlain cs → IsPlain cs
  | point {whole fraction : List Char} :
    Numeral.IsPlain whole → IsDigits fraction → fraction.getLast? ≠ some '0' →
      IsPlain (whole ++ '.' :: fraction)

theorem IsPlain.ne_nil (h : IsPlain cs) : cs ≠ [] := by
  cases h with
  | whole h => exact h.digits.1
  | point => simp

theorem IsPlain.isDigit_or_eq_point (h : IsPlain cs) :
    ∀ c ∈ cs, (c.isDigit || c == '.') = true := by
  have hdigit {ds : List Char} (hds : IsDigits ds) : ∀ c ∈ ds, (c.isDigit || c == '.') = true :=
    fun c hc => by rw [hds.2 c hc, Bool.true_or]
  cases h with
  | whole h => exact hdigit h.digits
  | point hwhole hfraction _ =>
    rw [List.forall_mem_append, List.forall_mem_cons]
    exact ⟨hdigit hwhole.digits, by decide, hdigit hfraction⟩

theorem read?_digits (h : IsDigits cs) :
    read? (String.ofList cs) = some ⟨Nat.ofDigitChars 10 cs 0, 0⟩ := by
  rw [read?, String.toList_ofList, List.splitOn_eq_singleton (h.not_mem (by decide))]
  simp [Numeral.digits?_ten_eq_some_iff.2 ⟨h, rfl⟩]

theorem read?_point (hwhole : IsDigits whole) (hfraction : IsDigits fraction) :
    read? (String.ofList (whole ++ '.' :: fraction)) =
      some ⟨Nat.ofDigitChars 10 (whole ++ fraction) 0, -fraction.length⟩ := by
  have hdigits : IsDigits (whole ++ fraction) :=
    ⟨by simp [hwhole.1], List.forall_mem_append.2 ⟨hwhole.2, hfraction.2⟩⟩
  rw [read?, String.toList_ofList, List.splitOn_append_cons_self,
    List.splitOn_eq_singleton (hwhole.not_mem (by decide)),
    List.splitOn_eq_singleton (hfraction.not_mem (by decide))]
  simp [Numeral.digits?_ten_eq_some_iff.2 ⟨hdigits, rfl⟩]

theorem isPlain_digits (d : Decimal) : Numeral.IsPlain d.digits :=
  Numeral.isPlain_toDigits d.coefficient

theorem isDigits_digits (d : Decimal) : IsDigits d.digits := d.isPlain_digits.digits

theorem ofDigitChars_digits (d : Decimal) : Nat.ofDigitChars 10 d.digits 0 = d.coefficient :=
  Nat.ofDigitChars_ten_toDigits

theorem isDigit_of_mem_zeros (n : Nat) : ∀ c ∈ List.replicate n '0', c.isDigit = true :=
  fun c hc => by rw [List.eq_of_mem_replicate hc]; rfl

theorem ofDigitChars_zeros_append (n : Nat) (cs : List Char) :
    Nat.ofDigitChars 10 (List.replicate n '0' ++ cs) 0 = Nat.ofDigitChars 10 cs 0 := by
  induction n with
  | zero => rfl
  | succ n ih => rw [List.replicate_succ, List.cons_append, Nat.ofDigitChars_cons]; exact ih

theorem ofDigitChars_append_zeros (n : Nat) (cs : List Char) :
    Nat.ofDigitChars 10 (cs ++ List.replicate n '0') 0 = Nat.ofDigitChars 10 cs 0 * 10 ^ n := by
  induction n with
  | zero => simp
  | succ n ih =>
    rw [List.replicate_succ', ← List.append_assoc, Nat.ofDigitChars_append, ih,
      Nat.ofDigitChars_cons, Nat.ofDigitChars_nil, pow_succ]
    simp only [Nat.sub_self, Nat.add_zero]
    ring

theorem positional_of_nonneg (h : 0 ≤ d.exponent) :
    d.positional = String.ofList (d.digits ++ List.replicate d.exponent.toNat '0') := by
  have hplaces : (-d.exponent).toNat = 0 := by omega
  simp [positional, hplaces]

/-- What stands around the point of a number with decimal places. -/
structure Halves (d : Decimal) (whole fraction : List Char) : Prop where
  plain : Numeral.IsPlain whole
  digits : IsDigits fraction
  length_eq : (fraction.length : Int) = -d.exponent
  ofDigitChars_eq : Nat.ofDigitChars 10 (whole ++ fraction) 0 = d.coefficient
  getLast?_eq : fraction.getLast? = d.digits.getLast?

/-- The digits that do not reach the point have zeros in front of them. -/
theorem halves_zeros (h : d.digits.length ≤ (-d.exponent).toNat) (hneg : d.exponent < 0) :
    Halves d ['0'] (List.replicate ((-d.exponent).toNat - d.digits.length) '0' ++ d.digits) where
  plain := by decide
  digits :=
    ⟨by simp [d.digits_ne_nil],
      List.forall_mem_append.2 ⟨isDigit_of_mem_zeros _, d.isDigits_digits.2⟩⟩
  length_eq := by
    simp only [List.length_append, List.length_replicate]
    omega
  ofDigitChars_eq := by
    rw [List.cons_append, List.nil_append, ← List.cons_append, ← List.replicate_succ,
      ofDigitChars_zeros_append, ofDigitChars_digits]
  getLast?_eq := List.getLast?_append_of_ne_nil _ d.digits_ne_nil

/-- The digits that reach over the point are cut in two. -/
theorem halves_cut {lead : Nat} (hlead : lead ≠ 0)
    (h : d.digits.length = lead + (-d.exponent).toNat) (hneg : d.exponent < 0) :
    Halves d (d.digits.take lead) (d.digits.drop lead) where
  plain := by
    refine ⟨⟨?_, fun c hc => d.isDigits_digits.2 c (List.mem_of_mem_take hc)⟩, fun hzero => ?_⟩
    · rw [Ne, List.take_eq_nil_iff]
      exact not_or.2 ⟨hlead, d.digits_ne_nil⟩
    · rw [List.head?_take, if_neg hlead] at hzero
      have hone : d.digits = ['0'] := d.isPlain_digits.lead hzero
      rw [hone, List.take_of_length_le (Nat.one_le_iff_ne_zero.2 hlead)]
  digits :=
    ⟨List.ne_nil_of_length_pos (by rw [List.length_drop]; omega),
      fun c hc => d.isDigits_digits.2 c (List.mem_of_mem_drop hc)⟩
  length_eq := by
    rw [List.length_drop]
    omega
  ofDigitChars_eq := by rw [List.take_append_drop, ofDigitChars_digits]
  getLast?_eq := by rw [List.getLast?_drop, if_neg (by omega)]

theorem exists_halves_of_neg (h : d.exponent < 0) :
    ∃ whole fraction, d.positional = String.ofList (whole ++ '.' :: fraction) ∧
      Halves d whole fraction := by
  have hplaces : (-d.exponent).toNat ≠ 0 := by omega
  by_cases hlead : d.digits.length - (-d.exponent).toNat = 0
  · refine ⟨_, _, ?_, halves_zeros (by omega) h⟩
    simp [positional, hplaces, hlead]
  · refine ⟨_, _, ?_, halves_cut hlead (by omega) h⟩
    simp [positional, hplaces, hlead]

theorem isDigits_digits_append_zeros (d : Decimal) (n : Nat) :
    IsDigits (d.digits ++ List.replicate n '0') :=
  ⟨by simp [d.digits_ne_nil],
    List.forall_mem_append.2 ⟨d.isDigits_digits.2, isDigit_of_mem_zeros n⟩⟩

theorem read?_positional (d : Decimal) : ∃ e, read? d.positional = some e ∧ e.value = d.value := by
  obtain h | h := Int.lt_or_le d.exponent 0
  · obtain ⟨whole, fraction, htext, hhalves⟩ := exists_halves_of_neg h
    refine ⟨_, htext ▸ read?_point hhalves.plain.digits hhalves.digits, ?_⟩
    rw [hhalves.ofDigitChars_eq, hhalves.length_eq, neg_neg]
  · refine ⟨_, positional_of_nonneg h ▸ read?_digits (d.isDigits_digits_append_zeros _), ?_⟩
    rw [ofDigitChars_append_zeros, ofDigitChars_digits]
    obtain ⟨n, hn⟩ := Int.eq_ofNat_of_zero_le h
    simp [value, hn]

theorem head?_digits_ne_zero (h : d.coefficient ≠ 0) : d.digits.head? ≠ some '0' := by
  intro hzero
  have hone : d.digits = ['0'] := d.isPlain_digits.lead hzero
  have hvalue := d.ofDigitChars_digits
  rw [hone] at hvalue
  exact h hvalue.symm

theorem getLast?_digits_ne_zero (h : d.coefficient % 10 ≠ 0) : d.digits.getLast? ≠ some '0' := by
  intro hzero
  obtain ⟨cs, hcs⟩ := List.getLast?_eq_some_iff.1 hzero
  have hvalue := d.ofDigitChars_digits
  rw [hcs, Nat.ofDigitChars_append, Nat.ofDigitChars_cons, Nat.ofDigitChars_nil] at hvalue
  apply h
  rw [← hvalue]
  simp

theorem isPlain_positional (h : d.coefficient % 10 ≠ 0) : IsPlain d.positional.toList := by
  obtain hneg | hnonneg := Int.lt_or_le d.exponent 0
  · obtain ⟨whole, fraction, htext, hhalves⟩ := exists_halves_of_neg hneg
    rw [htext, String.toList_ofList]
    exact .point hhalves.plain hhalves.digits (hhalves.getLast?_eq ▸ getLast?_digits_ne_zero h)
  · rw [positional_of_nonneg hnonneg, String.toList_ofList]
    refine .whole ⟨d.isDigits_digits_append_zeros _, fun hzero => ?_⟩
    rw [List.head?_append_of_ne_nil _ d.digits_ne_nil] at hzero
    exact absurd hzero (head?_digits_ne_zero fun hzero => h (by rw [hzero]))

theorem e_mem_scientific (d : Decimal) : 'e' ∈ d.scientific.toList := by
  simp [scientific]

end DeviceCatalog.Decimal
