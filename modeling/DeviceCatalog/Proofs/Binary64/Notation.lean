import DeviceCatalog.Binary64.Shortest
import DeviceCatalog.Proofs.Binary64.Value

/-!
# The notation of doubles

The shortest decimal form of a double is rounded back to it. So positional
notation is read back as the same double, and it has no zero that could be left
out.
-/
namespace DeviceCatalog.Binary64

variable {x : Binary64} {rank : Nat}

theorem exists_normalize_eq_shortest (h : rank ≤ infiniteRank) :
    ∃ d : Decimal, d.normalize = shortest rank ∧ rankOf d = rank := by
  cases hfound : (List.range 17).findSome? fun n => onGrid? rank (order rank - (n + 1 : Nat)) with
  | none =>
    refine ⟨exact rank, ?_, beq_iff_eq.1 (readsBack_exact h)⟩
    simp only [shortest, hfound, Option.getD_none]
  | some d =>
    obtain ⟨_, -, hgrid⟩ := List.exists_of_findSome?_eq_some hfound
    refine ⟨d, ?_, beq_iff_eq.1 (readsBack_of_onGrid? hgrid)⟩
    simp only [shortest, hfound, Option.getD_some]

theorem rankOf_shortest (h : rank ≤ infiniteRank) : rankOf (shortest rank) = rank := by
  obtain ⟨d, hd, hrank⟩ := exists_normalize_eq_shortest h
  rw [← hd, rankOf_eq_of_value_eq d.value_normalize, hrank]

theorem rankOf_eq_zero {d : Decimal} (h : d.coefficient = 0) : rankOf d = 0 :=
  rankOf_eq_of_value_eq_units (by simp [Decimal.value, h, units_zero]) (Nat.zero_le _)

theorem shortest_coefficient_mod_ten (hpos : 0 < rank) (h : rank ≤ infiniteRank) :
    (shortest rank).coefficient % 10 ≠ 0 := by
  obtain ⟨d, hd, hrank⟩ := exists_normalize_eq_shortest h
  rw [← hd]
  apply Decimal.normalize_coefficient_mod_ten
  intro hzero
  rw [← hrank, rankOf_eq_zero hzero] at hpos
  exact Nat.lt_irrefl 0 hpos

theorem textWith_of_pos (notate : Decimal → String) (hfinite : x.IsFinite) (hpos : 0 < x.value) :
    x.textWith notate = notate (shortest x.rank) := by
  obtain ⟨hsign, hrank⟩ := value_pos_iff.1 hpos
  have hnan : x.isNaN = false := decide_eq_false (Nat.not_lt.2 (Nat.le_of_lt hfinite))
  have hinf : x.isInfinite = false := beq_eq_false_iff_ne.2 (Nat.ne_of_lt hfinite)
  simp [textWith, hnan, hinf, hsign, Nat.pos_iff_ne_zero.1 hrank]

theorem exists_read?_positional (hfinite : x.IsFinite) (hpos : 0 < x.value) :
    ∃ d, Decimal.read? x.positional = some d ∧ ofDecimal d = x := by
  obtain ⟨d, hread, hvalue⟩ := Decimal.read?_positional (shortest x.rank)
  refine ⟨d, (congrArg _ (textWith_of_pos _ hfinite hpos)).trans hread, ?_⟩
  have hrank : rankOf d = x.rank :=
    (rankOf_eq_of_value_eq hvalue).trans (rankOf_shortest (Nat.le_of_lt hfinite))
  have hsign := (value_pos_iff.1 hpos).1
  cases x
  simp_all [ofDecimal]

theorem isPlain_positional (hfinite : x.IsFinite) (hpos : 0 < x.value) :
    Decimal.IsPlain x.positional.toList := by
  rw [positional, textWith_of_pos _ hfinite hpos]
  exact Decimal.isPlain_positional
    (shortest_coefficient_mod_ten (value_pos_iff.1 hpos).2 (Nat.le_of_lt hfinite))

theorem e_mem_scientific (hfinite : x.IsFinite) (hpos : 0 < x.value) :
    'e' ∈ x.scientific.toList := by
  rw [scientific, textWith_of_pos _ hfinite hpos]
  exact Decimal.e_mem_scientific _

end DeviceCatalog.Binary64
