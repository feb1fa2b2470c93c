import DeviceCatalog.Decimal

/-!
# Binary numbers of 64 bits

A double is a sign and a rank. The rank is the place of the magnitude among
all magnitudes in increasing order, which is also the number in its lower 63
bits. Every finite magnitude is a whole number of units of `2 ^ -1074`, so
values are compared and rounded in natural numbers.
-/
namespace DeviceCatalog

structure Binary64 where
  negative : Bool
  rank : Nat
  rank_lt : rank < 0x8000000000000000
  deriving DecidableEq, Repr

namespace Binary64

def ofBits (bits : UInt64) : Binary64 :=
  ⟨decide (0x8000000000000000 ≤ bits.toNat), bits.toNat % 0x8000000000000000,
    Nat.mod_lt _ (by decide)⟩

/-- The number of magnitudes with the same exponent, which is two to the 52. -/
def binade : Nat := 0x10000000000000

/-- The rank of infinity. Higher ranks are not numbers. -/
def infiniteRank : Nat := 2047 * binade

/-- The power of two that scales the significand of a rank. -/
def scale (rank : Nat) : Nat := rank / binade - 1

def significand (rank : Nat) : Nat := rank - scale rank * binade

/-- The magnitude of a finite rank, in units of `2 ^ -1074`. -/
def units (rank : Nat) : Nat := significand rank * Nat.pow 2 (scale rank)

@[irreducible] def places : Nat := 1074

def one : Nat := Nat.pow 2 places

theorem one_pos : 0 < one := Nat.pow_pos (by decide)

theorem significand_lt (rank : Nat) : significand rank < 2 * binade := by
  simp only [significand, scale, binade]
  omega

theorem rank_eq (rank : Nat) : rank = scale rank * binade + significand rank := by
  simp only [significand, scale, binade]
  omega

/-- A significand of 53 bits keeps that many in front of its scale. -/
theorem log2_mul_pow {m : Nat} (lo : binade ≤ m) (hi : m < 2 * binade) (s : Nat) :
    (m * Nat.pow 2 s).log2 = 52 + s := by
  have hs : 0 < Nat.pow 2 s := Nat.pow_pos (by decide)
  have hne : m * Nat.pow 2 s ≠ 0 :=
    Nat.mul_ne_zero (by simp only [binade] at lo; omega) (Nat.pos_iff_ne_zero.1 hs)
  apply (Nat.log2_eq_iff hne).2
  rw [Nat.pow_succ, Nat.pow_add, Nat.mul_right_comm]
  exact ⟨Nat.mul_le_mul_right _ lo, Nat.mul_lt_mul_of_pos_right (Nat.mul_comm 2 binade ▸ hi) hs⟩

theorem log2_units (rank : Nat) : (units rank).log2 - 52 = scale rank := by
  by_cases h : rank < binade
  · have hs : scale rank = 0 := by simp only [scale, binade] at *; omega
    have hu : units rank = rank := by simp [units, significand, hs]
    rw [hu, hs]
    by_cases h0 : rank = 0
    · subst h0; decide
    · have hlog : rank.log2 < 52 := (Nat.log2_lt h0).2 h
      omega
  · have lo : binade ≤ significand rank := by simp only [significand, scale, binade] at *; omega
    rw [units, log2_mul_pow lo (significand_lt rank)]
    omega

/-- A quotient rounded to the nearest natural number, a tie to the even one. -/
def roundDiv (n d : Nat) : Nat :=
  let q := n / d
  let r := n % d
  if 2 * r < d then q else if d < 2 * r then q + 1 else q + q % 2

theorem roundDiv_mul {d : Nat} (h : 0 < d) (n : Nat) : roundDiv (n * d) d = n := by
  simp [roundDiv, Nat.mul_div_cancel _ h, h]

/-- The rank nearest to `n / d` units, a tie to the even rank, infinity from half a unit in the
last place above the greatest finite magnitude on. -/
def nearestRank (n d : Nat) : Nat :=
  let s := (n / d).log2 - 52
  min infiniteRank (s * binade + roundDiv n (d * Nat.pow 2 s))

theorem nearestRank_le (n d : Nat) : nearestRank n d ≤ infiniteRank := Nat.min_le_left _ _

theorem nearestRank_lt (n d : Nat) : nearestRank n d < 0x8000000000000000 :=
  Nat.lt_of_le_of_lt (nearestRank_le n d) (by decide)

/-- A magnitude that has a rank is rounded to that rank. -/
theorem nearestRank_units {d : Nat} (hd : 0 < d) (rank : Nat) :
    nearestRank (units rank * d) d = min infiniteRank rank := by
  rw [nearestRank]
  simp only [Nat.mul_div_cancel _ hd, log2_units]
  congr 1
  conv => rhs; rw [rank_eq rank]
  congr 1
  have : units rank * d = significand rank * (d * Nat.pow 2 (scale rank)) := by
    rw [units, Nat.mul_assoc, Nat.mul_comm d]
  rw [this]
  exact roundDiv_mul (Nat.mul_pos hd (Nat.pow_pos (by decide))) _

def rankOf (d : Decimal) : Nat := nearestRank (d.numerator * one) d.denominator

def ofDecimal (d : Decimal) : Binary64 := ⟨false, rankOf d, nearestRank_lt _ _⟩

def isNaN (x : Binary64) : Bool := infiniteRank < x.rank

def isInfinite (x : Binary64) : Bool := x.rank == infiniteRank

def isIntegral (x : Binary64) : Bool := x.rank < infiniteRank && units x.rank % one == 0

/-- The whole part of a finite number, brought into the range of 64 bits. -/
def clampedWhole (x : Binary64) : Nat :=
  if x.negative then 0 else min 0xffffffffffffffff (units x.rank / one)

def inInterval (limit : Nat) (x : Binary64) : Bool :=
  !x.negative && 0 < x.rank && units x.rank ≤ limit * one

/-- Nearer to zero than the double nearest to `d`. -/
def isBelow (d : Decimal) (x : Binary64) : Bool := x.rank < (ofDecimal d).rank

end Binary64

end DeviceCatalog
