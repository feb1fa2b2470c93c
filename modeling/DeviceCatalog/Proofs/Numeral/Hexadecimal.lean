import DeviceCatalog.Proofs.Numeral.Digits
import Mathlib.Data.Nat.Digits.Defs

/-!
# Hexadecimal digits

A hexadecimal digit is worth its place among the sixteen, whichever case a
letter is written in. Hexadecimal digits are read as their positional value,
whatever zeros stand in front of them.
-/
namespace DeviceCatalog.Numeral

def hexDigits : List Char := "0123456789abcdef".toList

def IsHexDigit (c : Char) : Prop := c.toLower ∈ hexDigits

instance : DecidablePred IsHexDigit := fun c => inferInstanceAs (Decidable (c.toLower ∈ hexDigits))

def IsHexDigits (cs : List Char) : Prop := cs ≠ [] ∧ ∀ c ∈ cs, IsHexDigit c

instance : DecidablePred IsHexDigits := fun cs =>
  decidable_of_iff (cs ≠ [] ∧ cs.all (fun c => decide (IsHexDigit c)) = true)
    (and_congr_right' (by simp))

def hexValue (cs : List Char) : Nat :=
  Nat.ofDigits 16 (cs.reverse.map fun c => hexDigits.idxOf c.toLower)

variable {c : Char} {cs : List Char} {d n : Nat}

theorem IsHexDigits.not_mem (h : IsHexDigits cs) (hc : ¬IsHexDigit c) : c ∉ cs :=
  fun hmem => hc (h.2 c hmem)

theorem toNat_lt_of_isHexDigit (h : IsHexDigit c) : c.toNat < 128 := by
  have hall : hexDigits.all (fun d => d.toNat < 128) = true := by decide
  by_contra hcode
  have hlower : c.toLower = c := by
    have hletter : ¬(c.val ≥ 'A'.val ∧ c.val ≤ 'Z'.val) := by
      rintro ⟨-, hle⟩
      have hlast : c.toNat ≤ 'Z'.toNat := hle
      have hz : 'Z'.toNat = 90 := rfl
      omega
    exact dif_neg hletter
  rw [IsHexDigit, hlower] at h
  exact hcode (by simpa using List.all_eq_true.1 hall c h)

theorem toNat_lt_of_digit? {base : Nat} (h : digit? base c = some d) : c.toNat < 128 := by
  by_contra hcode
  have hbeyond (last : Char) (hlast : last.toNat < 128) : ¬c ≤ last :=
    fun hle => hcode (Nat.lt_of_le_of_lt hle hlast)
  have hnone : digitValue? c = none := by
    rw [digitValue?, if_neg fun hc => hbeyond '9' (by decide) hc.2,
      if_neg fun hc => hbeyond 'f' (by decide) hc.2, if_neg fun hc => hbeyond 'F' (by decide) hc.2]
  rw [digit?, hnone] at h
  cases h

theorem digit?_sixteen_eq_some_iff :
    digit? 16 c = some d ↔ IsHexDigit c ∧ hexDigits.idxOf c.toLower = d := by
  have hall : ∀ n : Fin 128, digit? 16 (Char.ofNat n) =
      if IsHexDigit (Char.ofNat n) then some (hexDigits.idxOf (Char.ofNat n).toLower)
      else none := by
    decide +kernel
  have hcode (hlt : c.toNat < 128) : digit? 16 c =
      if IsHexDigit c then some (hexDigits.idxOf c.toLower) else none := by
    have hc := hall ⟨c.toNat, hlt⟩
    rwa [Char.ofNat_toNat] at hc
  constructor
  · intro h
    rw [hcode (toNat_lt_of_digit? h)] at h
    simpa using h
  · rintro ⟨hdigit, rfl⟩
    rw [hcode (toNat_lt_of_isHexDigit hdigit), if_pos hdigit]

theorem digitsFrom?_sixteen_eq_some_iff {acc : Nat} :
    digitsFrom? 16 acc cs = some n ↔
      (∀ c ∈ cs, IsHexDigit c) ∧ acc * 16 ^ cs.length + hexValue cs = n := by
  induction cs generalizing acc with
  | nil => simp [digitsFrom?, hexValue]
  | cons c cs ih =>
    rw [List.forall_mem_cons, digitsFrom?]
    cases hc : digit? 16 c with
    | none =>
      have hno : ¬IsHexDigit c := fun h =>
        Option.some_ne_none _ ((digit?_sixteen_eq_some_iff.2 ⟨h, rfl⟩).symm.trans hc)
      simp [hno]
    | some d =>
      obtain ⟨hdigit, hd⟩ := digit?_sixteen_eq_some_iff.1 hc
      have hvalue : hexValue (c :: cs) = hexValue cs + 16 ^ cs.length * d := by
        simp [hexValue, Nat.ofDigits_append, hd]
      have hsum : acc * 16 ^ (c :: cs).length + hexValue (c :: cs) =
          (acc * 16 + d) * 16 ^ cs.length + hexValue cs := by
        rw [hvalue, List.length_cons]
        ring
      rw [hsum, and_assoc, and_iff_right hdigit]
      exact ih

theorem digits?_sixteen_eq_some_iff :
    digits? 16 cs = some n ↔ IsHexDigits cs ∧ hexValue cs = n := by
  have hread : digitsFrom? 16 0 cs = some n ↔ (∀ c ∈ cs, IsHexDigit c) ∧ hexValue cs = n := by
    rw [digitsFrom?_sixteen_eq_some_iff, Nat.zero_mul, Nat.zero_add]
  rw [digits?, IsHexDigits, and_assoc, ← hread]
  split <;> simp_all

end DeviceCatalog.Numeral
