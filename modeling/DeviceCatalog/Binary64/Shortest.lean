import DeviceCatalog.Binary64.Basic

/-!
# Shortest decimal forms

The form of a double is the decimal number with the fewest digits that reads
back as it. For a given number of digits only the two neighbours of the value
on that decimal grid can be the nearest, so these two are tested for one digit,
then for two, and so on. Seventeen digits always suffice, and the exact
expansion stands behind them.
-/
namespace DeviceCatalog.Binary64

def readsBack (rank : Nat) (d : Decimal) : Bool := rankOf d == rank

/-- The magnitude of a rank divided by `10 ^ exponent`, as a fraction. -/
def gridFraction (rank : Nat) (exponent : Int) : Nat × Nat :=
  (units rank * Nat.pow 10 (-exponent).toNat, one * Nat.pow 10 exponent.toNat)

/-- Of the two neighbours of `n / d` on the grid of `10 ^ exponent` an accepted one: the nearer one
if both are accepted, and the upper one on a tie. -/
def neighbour? (accept : Decimal → Bool) (n d : Nat) (exponent : Int) : Option Decimal :=
  if accept ⟨n / d, exponent⟩ then
    if accept ⟨n / d + 1, exponent⟩ && d ≤ 2 * (n % d) then some ⟨n / d + 1, exponent⟩
    else some ⟨n / d, exponent⟩
  else if accept ⟨n / d + 1, exponent⟩ then some ⟨n / d + 1, exponent⟩
  else none

theorem accept_of_neighbour? {accept : Decimal → Bool} {n d : Nat} {exponent : Int} {x : Decimal}
    (h : neighbour? accept n d exponent = some x) : accept x = true := by
  unfold neighbour? at h
  split at h
  · split at h <;> simp_all
  · split at h <;> simp_all

def onGrid? (rank : Nat) (exponent : Int) : Option Decimal :=
  neighbour? (readsBack rank) (gridFraction rank exponent).1 (gridFraction rank exponent).2 exponent

theorem readsBack_of_onGrid? {rank : Nat} {exponent : Int} {d : Decimal}
    (h : onGrid? rank exponent = some d) : readsBack rank d = true :=
  accept_of_neighbour? h

/-- The number of digits in front of the point of a positive magnitude, negative when zeros follow
the point. -/
def order (rank : Nat) : Int :=
  (Nat.toDigits 10 (units rank * Nat.pow 10 324 / one)).length - 324

/-- The exact expansion: a unit needs as many decimal places as binary ones. -/
def exact (rank : Nat) : Decimal := ⟨units rank * Nat.pow 5 places, -places⟩

theorem readsBack_exact {rank : Nat} (h : rank ≤ infiniteRank) :
    readsBack rank (exact rank) = true := by
  have hn : (exact rank).numerator = units rank * Nat.pow 5 places := by
    simp [exact, Decimal.numerator]
  have hd : (exact rank).denominator = Nat.pow 5 places * one := by
    simp only [exact, Decimal.denominator, Int.neg_neg, Int.toNat_natCast]
    exact Nat.mul_pow 5 2 places
  simp only [readsBack, beq_iff_eq, rankOf]
  rw [hn, hd, Nat.mul_assoc]
  exact (nearestRank_units (Nat.mul_pos (Nat.pow_pos (by decide)) one_pos) rank).trans
    (Nat.min_eq_right h)

/-- The decimal number with the fewest digits that reads back as the rank. -/
def shortest (rank : Nat) : Decimal :=
  let found := (List.range 17).findSome? fun n => onGrid? rank (order rank - (n + 1 : Nat))
  (found.getD (exact rank)).normalize

/-- A form of a double with the given notation for its magnitude. -/
def textWith (notate : Decimal → String) (x : Binary64) : String :=
  if x.isNaN then "NaN"
  else
    let magnitude :=
      if x.isInfinite then "inf"
      else if x.rank = 0 then notate ⟨0, 0⟩
      else notate (shortest x.rank)
    if x.negative then "-" ++ magnitude else magnitude

def positional (x : Binary64) : String := x.textWith Decimal.positional

def scientific (x : Binary64) : String := x.textWith Decimal.scientific

end DeviceCatalog.Binary64
