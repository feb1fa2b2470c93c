import DeviceCatalog.Binary64.Basic
import DeviceCatalog.Proofs.Decimal.Notation
import Mathlib.Algebra.Order.Field.Rat
import Mathlib.Order.Monotone.Basic
import Mathlib.Tactic.Linarith
import Mathlib.Tactic.NormNum
import Mathlib.Tactic.Positivity

/-!
# The values of doubles

Magnitudes grow with their ranks, so that ranks are compared where values are
meant. What a decimal number is rounded to depends on its value only, and a value
that a double has is rounded to this double.
-/
namespace DeviceCatalog.Binary64

variable {x : Binary64} {d e : Decimal} {rank limit : Nat}

def IsFinite (x : Binary64) : Prop := x.rank < infiniteRank

instance : DecidablePred IsFinite := fun x => inferInstanceAs (Decidable (x.rank < infiniteRank))

/-- The number that a finite double stands for. -/
def value (x : Binary64) : ℚ := (if x.negative then -1 else 1) * (units x.rank / one)

/-- The next rank has the next significand, or the scale doubles. -/
theorem units_lt_units_succ (rank : Nat) : units rank < units (rank + 1) := by
  have hpow : 0 < 2 ^ scale rank := Nat.pow_pos (by decide)
  have hstep : (scale (rank + 1) = scale rank ∧ significand (rank + 1) = significand rank + 1) ∨
      (scale (rank + 1) = scale rank + 1 ∧ significand (rank + 1) * 2 = significand rank + 1) := by
    simp only [scale, significand, binade]
    omega
  simp only [units, Nat.pow_eq]
  obtain ⟨hscale, hsig⟩ | ⟨hscale, hsig⟩ := hstep
  · rw [hscale, hsig, Nat.add_mul]
    omega
  · rw [hscale, pow_succ', ← Nat.mul_assoc, hsig, Nat.add_mul]
    omega

theorem strictMono_units : StrictMono units := strictMono_nat_of_lt_succ units_lt_units_succ

theorem units_zero : units 0 = 0 := by decide

theorem units_infiniteRank : units infiniteRank = 2 ^ 1024 * one := by decide +kernel

theorem one_cast_pos : (0 : ℚ) < one := Nat.cast_pos.2 one_pos

theorem value_of_negative_eq_false (h : x.negative = false) : x.value = units x.rank / one := by
  rw [value, h, if_neg Bool.false_ne_true, one_mul]

theorem value_pos_iff : 0 < x.value ↔ x.negative = false ∧ 0 < x.rank := by
  have hunits : 0 < units x.rank ↔ 0 < x.rank :=
    (units_zero ▸ strictMono_units.lt_iff_lt : units 0 < units x.rank ↔ 0 < x.rank)
  cases hsign : x.negative with
  | false =>
    rw [value_of_negative_eq_false hsign, div_pos_iff_of_pos_right one_cast_pos, Nat.cast_pos,
      hunits]
    simp
  | true =>
    have hnonneg : (0 : ℚ) ≤ units x.rank / one := by positivity
    rw [value, hsign, if_pos rfl]
    simp only [reduceCtorEq, false_and, iff_false]
    linarith

theorem inInterval_iff (h : limit < 2 ^ 1024) :
    x.inInterval limit = true ↔ x.IsFinite ∧ 0 < x.value ∧ x.value ≤ limit := by
  rw [inInterval, Bool.and_eq_true, Bool.and_eq_true, value_pos_iff, Bool.not_eq_true',
    decide_eq_true_eq, decide_eq_true_eq]
  constructor
  · rintro ⟨⟨hsign, hrank⟩, hle⟩
    have hfinite : units x.rank < units infiniteRank := by
      rw [units_infiniteRank]
      exact hle.trans_lt (Nat.mul_lt_mul_of_pos_right h one_pos)
    refine ⟨strictMono_units.lt_iff_lt.1 hfinite, ⟨hsign, hrank⟩, ?_⟩
    rw [value_of_negative_eq_false hsign, div_le_iff₀ one_cast_pos]
    exact_mod_cast hle
  · rintro ⟨-, ⟨hsign, hrank⟩, hle⟩
    rw [value_of_negative_eq_false hsign, div_le_iff₀ one_cast_pos] at hle
    exact ⟨⟨hsign, hrank⟩, by exact_mod_cast hle⟩

theorem isIntegral_iff (h : x.negative = false) :
    x.isIntegral = true ↔ x.IsFinite ∧ ∃ n : ℕ, x.value = n := by
  rw [isIntegral, Bool.and_eq_true, decide_eq_true_eq, beq_iff_eq, ← Nat.dvd_iff_mod_eq_zero,
    value_of_negative_eq_false h]
  apply and_congr_right'
  simp only [div_eq_iff one_cast_pos.ne']
  constructor
  · rintro ⟨n, hn⟩
    exact ⟨n, by rw [hn, mul_comm]; push_cast; rfl⟩
  · rintro ⟨n, hn⟩
    exact ⟨n, by rw [mul_comm]; exact_mod_cast hn⟩

theorem clampedWhole_eq {n : ℕ} (h : x.negative = false) (hvalue : x.value = n)
    (hn : n ≤ 0xffffffffffffffff) : x.clampedWhole = n := by
  rw [value_of_negative_eq_false h, div_eq_iff one_cast_pos.ne'] at hvalue
  have hunits : units x.rank = n * one := by exact_mod_cast hvalue
  rw [clampedWhole, h, if_neg Bool.false_ne_true, hunits, Nat.mul_div_cancel _ one_pos,
    Nat.min_eq_right hn]

theorem rankOf_tenThousandth :
    units (rankOf ⟨1, -4⟩ - 1) * 10000 < one ∧ one ≤ units (rankOf ⟨1, -4⟩) * 10000 := by
  decide +kernel

theorem isBelow_tenThousandth_iff (h : x.negative = false) :
    x.isBelow ⟨1, -4⟩ = true ↔ x.value < 1 / 10000 := by
  obtain ⟨hbelow, habove⟩ := rankOf_tenThousandth
  have hvalue : x.value < 1 / 10000 ↔ units x.rank * 10000 < one := by
    rw [value_of_negative_eq_false h, div_lt_div_iff₀ one_cast_pos (by norm_num), one_mul]
    exact_mod_cast Iff.rfl
  rw [isBelow, decide_eq_true_eq, hvalue]
  constructor
  · intro hlt
    have hle : units x.rank ≤ units (rankOf ⟨1, -4⟩ - 1) :=
      strictMono_units.monotone (Nat.le_sub_one_of_lt hlt)
    exact (Nat.mul_le_mul_right _ hle).trans_lt hbelow
  · intro hlt
    by_contra hge
    have hle : units (rankOf ⟨1, -4⟩) ≤ units x.rank :=
      strictMono_units.monotone (Nat.le_of_not_lt hge)
    exact Nat.lt_irrefl _ ((habove.trans (Nat.mul_le_mul_right _ hle)).trans_lt hlt)

theorem roundDiv_mul_right {k : Nat} (hk : 0 < k) (n d : Nat) :
    roundDiv (n * k) (d * k) = roundDiv n d := by
  have hleft : 2 * (n % d * k) < d * k ↔ 2 * (n % d) < d := by
    rw [← Nat.mul_assoc, Nat.mul_lt_mul_right hk]
  have hright : d * k < 2 * (n % d * k) ↔ d < 2 * (n % d) := by
    rw [← Nat.mul_assoc, Nat.mul_lt_mul_right hk]
  simp only [roundDiv, Nat.mul_div_mul_right _ _ hk, Nat.mul_mod_mul_right, hleft, hright]

theorem nearestRank_mul_right {k : Nat} (hk : 0 < k) (n d : Nat) :
    nearestRank (n * k) (d * k) = nearestRank n d := by
  simp only [nearestRank, Nat.mul_div_mul_right _ _ hk, Nat.mul_right_comm d k,
    roundDiv_mul_right hk]

theorem nearestRank_congr {n d m k : Nat} (hd : 0 < d) (hk : 0 < k) (h : n * k = m * d) :
    nearestRank n d = nearestRank m k :=
  calc
    _ = nearestRank (n * k) (d * k) := (nearestRank_mul_right hk n d).symm
    _ = nearestRank (m * d) (k * d) := by rw [h, Nat.mul_comm d k]
    _ = nearestRank m k := nearestRank_mul_right hd m k

theorem denominator_cast_pos (d : Decimal) : (0 : ℚ) < d.denominator :=
  Nat.cast_pos.2 d.denominator_pos

theorem rankOf_eq_of_value_eq (h : d.value = e.value) : rankOf d = rankOf e := by
  apply nearestRank_congr d.denominator_pos e.denominator_pos
  rw [d.value_eq_div, e.value_eq_div,
    div_eq_div_iff (denominator_cast_pos d).ne' (denominator_cast_pos e).ne'] at h
  have hcross : d.numerator * e.denominator = e.numerator * d.denominator := by exact_mod_cast h
  rw [Nat.mul_right_comm, hcross, Nat.mul_right_comm]

theorem rankOf_eq_of_value_eq_units (h : d.value = units rank / one) (hrank : rank ≤ infiniteRank) :
    rankOf d = rank := by
  rw [d.value_eq_div, div_eq_div_iff (denominator_cast_pos d).ne' one_cast_pos.ne'] at h
  have hcross : d.numerator * one = units rank * d.denominator := by exact_mod_cast h
  rw [rankOf, hcross, nearestRank_units d.denominator_pos, Nat.min_eq_right hrank]

theorem ofDecimal_eq (hfinite : x.IsFinite) (h : x.negative = false) (hvalue : d.value = x.value) :
    ofDecimal d = x := by
  have hrank : rankOf d = x.rank :=
    rankOf_eq_of_value_eq_units (hvalue.trans (value_of_negative_eq_false h)) (Nat.le_of_lt hfinite)
  cases x
  simp_all [ofDecimal]

end DeviceCatalog.Binary64
