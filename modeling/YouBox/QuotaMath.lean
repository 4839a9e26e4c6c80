import YouBox.TextQuota

/-!
# Rounding, saturation and multipliers

How the conversions of a price to a quota behave: they keep the order, they keep
what is not negative so, and the result fits the quota columns. The other ratios
of a request multiply by one positive factor.
-/

namespace YouBox

theorem roundHalfAway_of_nonneg {x : ℚ} (h : 0 ≤ x) : roundHalfAway x = ⌊x + 1 / 2⌋ :=
  if_pos h

theorem roundHalfAway_nonneg {x : ℚ} (h : 0 ≤ x) : 0 ≤ roundHalfAway x := by
  rw [roundHalfAway_of_nonneg h]
  exact Int.floor_nonneg.2 (by linarith)

theorem roundHalfAway_mono {x y : ℚ} (hx : 0 ≤ x) (h : x ≤ y) :
    roundHalfAway x ≤ roundHalfAway y := by
  rw [roundHalfAway_of_nonneg hx, roundHalfAway_of_nonneg (hx.trans h)]
  exact Int.floor_le_floor (by linarith)

theorem decimalDiv_nonneg {x y : ℚ} (hx : 0 ≤ x) (hy : 0 ≤ y) : 0 ≤ decimalDiv x y := by
  unfold decimalDiv
  have hround : 0 ≤ roundHalfAway (x / y * 10 ^ 16) := roundHalfAway_nonneg (by positivity)
  have hcast : (0 : ℚ) ≤ (roundHalfAway (x / y * 10 ^ 16) : ℚ) := by exact_mod_cast hround
  positivity

theorem saturateQuota_mono {x y : Int} (h : x ≤ y) : saturateQuota x ≤ saturateQuota y := by
  unfold saturateQuota
  omega

theorem saturateQuota_le (x : Int) : saturateQuota x ≤ 2147483647 := by
  unfold saturateQuota
  omega

theorem saturateQuota_of_nonneg {x : Int} (h : 0 ≤ x) : saturateQuota x = min x 2147483647 := by
  unfold saturateQuota
  omega

theorem quotaFromDecimal_le (d : ℚ) : quotaFromDecimal d ≤ 2147483647 :=
  saturateQuota_le _

theorem quotaFromDecimal_nonneg {d : ℚ} (h : 0 ≤ d) : 0 ≤ quotaFromDecimal d := by
  have hround := roundHalfAway_nonneg h
  unfold quotaFromDecimal
  rw [saturateQuota_of_nonneg hround]
  omega

theorem quotaFromDecimal_mono {x y : ℚ} (hx : 0 ≤ x) (h : x ≤ y) :
    quotaFromDecimal x ≤ quotaFromDecimal y :=
  saturateQuota_mono (roundHalfAway_mono hx h)

/-- What the other ratios multiply a price by. -/
def PriceData.otherRatioMultiplier (p : PriceData) : ℚ :=
  (p.otherRatios.filter fun ratio => 0 < ratio ∧ ratio ≠ 1).prod

theorem otherRatioMultiplier_pos (p : PriceData) : 0 < p.otherRatioMultiplier := by
  refine List.prod_pos fun ratio hratio => ?_
  simp only [List.mem_filter, decide_eq_true_eq] at hratio
  exact hratio.2.1

theorem applyOtherRatiosToDecimal_eq (p : PriceData) (value : ℚ) :
    p.applyOtherRatiosToDecimal value = value * p.otherRatioMultiplier := by
  unfold PriceData.applyOtherRatiosToDecimal PriceData.otherRatioMultiplier
  induction p.otherRatios generalizing value with
  | nil => simp
  | cons ratio rest ih =>
    rw [List.foldl_cons, ih]
    by_cases hratio : 0 < ratio ∧ ratio ≠ 1
    · rw [if_pos hratio, List.filter_cons_of_pos (by simpa using hratio), List.prod_cons]
      ring
    · rw [if_neg hratio, List.filter_cons_of_neg (by simpa using hratio)]

end YouBox
