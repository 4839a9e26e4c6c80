import YouBox.Civil
import YouBox.MachineInt
import YouBox.SubPeriods

/-!
# The reset loop by the clock

`maybeResetUserSubscriptionWithPlanTx` on a server whose zone is a fixed offset, with
the calendar of `Civil` and with the product of the custom period as the `int64` it
is: `time.Duration(seconds) * time.Second` wraps from 9223372037 seconds on, and a
plan may have any positive number of them.

What the loop does is said of any function that computes the next time. One that
goes from each boundary to the next one brings the loop to an end, at the last
boundary that is not after `now` (`Strides.run`). One that stays where it is keeps it
going for ever, and one that goes back ends it before it started.
-/

namespace YouBox.ResetClock

open YouBox (wrap64)

/-! ## The code -/

/-- What `Duration(seconds) * Second` adds to a time of whole seconds, in seconds. -/
def customStep (seconds : Int) : Int := wrap64 (seconds * 1000000000) / 1000000000

/-- `next`, before it is compared with the end. -/
def nextTime (off : Int) (plan : SubscriptionPlan) (base : Int) : Int :=
  match plan.quotaResetPeriod with
  | .never => 0
  | .daily => Civil.nextDay off base
  | .weekly => Civil.nextMonday off base
  | .monthly => Civil.nextMonth off base
  | .custom =>
    if plan.quotaResetCustomSeconds ≤ 0 then 0
    else base + customStep plan.quotaResetCustomSeconds

/-- A time after the end counts as none. -/
def clip (endUnix next : Int) : Int :=
  if endUnix > 0 ∧ next > endUnix then 0 else next

def calcNextResetTime (off : Int) (base : Int) (plan : SubscriptionPlan) (endUnix : Int) : Int :=
  clip endUnix (nextTime off plan base)

/-- `for next > 0 && next <= now`; `none` if it has not ended after `fuel` tests. -/
def resetLoop (calcNext : Int → Int) (now : Int) : Nat → ResetLoop → Option ResetLoop
  | 0, _ => none
  | fuel + 1, st =>
    if 0 < st.next ∧ st.next ≤ now then
      resetLoop calcNext now fuel ⟨true, st.next, calcNext st.next⟩
    else some st

/-- The row afterwards, and whether its usage was set to zero. -/
structure Outcome where
  row : UserSubscription
  zeroed : Bool

/-- What follows the loop. -/
def afterLoop (sub : UserSubscription) (st : ResetLoop) : Outcome :=
  if st.advanced then
    ⟨{ sub with amountUsed := 0, lastResetTime := st.base, nextResetTime := st.next }, true⟩
  else if sub.nextResetTime = 0 ∧ 0 < st.next then
    ⟨{ sub with nextResetTime := st.next, lastResetTime := st.base }, false⟩
  else ⟨sub, false⟩

/-- The call, with `fuel` tests of the loop. -/
def maybeResetUserSubscriptionWithPlan (off now : Int) (sub : UserSubscription)
    (plan : SubscriptionPlan) (fuel : Nat) : Option Outcome :=
  if 0 < sub.nextResetTime ∧ now < sub.nextResetTime then some ⟨sub, false⟩
  else if plan.quotaResetPeriod = .never then some ⟨sub, false⟩
  else
    let base := resetBase sub
    (resetLoop (fun t => calcNextResetTime off t plan sub.endTime) now fuel
      ⟨false, base, calcNextResetTime off base plan sub.endTime⟩).map (afterLoop sub)

/-! ## The loop -/

/-- The last second that a boundary of the subscription can have passed at. -/
def limit (endUnix now : Int) : Int :=
  if 0 < endUnix then min now endUnix else now

variable {endUnix next now : Int}

theorem clip_due_iff :
    0 < clip endUnix next ∧ clip endUnix next ≤ now ↔ 0 < next ∧ next ≤ limit endUnix now := by
  unfold clip limit
  split <;> split <;> omega

theorem clip_of_due (h : next ≤ limit endUnix now) : clip endUnix next = next := by
  unfold limit at h
  unfold clip
  split at h <;> split <;> omega

theorem clip_beyond (hpos : 0 < next) (h : limit endUnix now < next) :
    clip endUnix next = 0 ∨
      now < clip endUnix next ∧ (0 < endUnix → clip endUnix next ≤ endUnix) := by
  unfold limit at h
  unfold clip
  split at h <;> split <;> omega

variable {last lim start step : Int} {next : Int → Int}

section Loop

variable {calcNext : Int → Int} {now : Int}

variable {st : ResetLoop}

theorem resetLoop_stops (h : ¬ (0 < st.next ∧ st.next ≤ now)) (fuel : Nat) :
    resetLoop calcNext now (fuel + 1) st = some st := by
  unfold resetLoop
  rw [if_neg h]

theorem resetLoop_goes (h : 0 < st.next ∧ st.next ≤ now) (fuel : Nat) :
    resetLoop calcNext now (fuel + 1) st
      = resetLoop calcNext now fuel ⟨true, st.next, calcNext st.next⟩ := by
  conv_lhs => unfold resetLoop
  rw [if_pos h]

variable {n : Nat} {out : ResetLoop}

theorem resetLoop_unique {m : Nat} {a b : ResetLoop} (ha : resetLoop calcNext now n st = some a)
    (hb : resetLoop calcNext now m st = some b) : a = b := by
  induction n generalizing m st with
  | zero => cases ha
  | succ n ih =>
    cases m with
    | zero => cases hb
    | succ m =>
      by_cases hdue : 0 < st.next ∧ st.next ≤ now
      · rw [resetLoop_goes hdue] at ha hb
        exact ih ha hb
      · rw [resetLoop_stops hdue] at ha hb
        exact Option.some.inj (ha.symm.trans hb)

theorem resetLoop_stuck {t : Int} (hdue : 0 < t ∧ t ≤ now) (hcalc : calcNext t = t) (n : Nat)
    (advanced : Bool) (base : Int) : resetLoop calcNext now n ⟨advanced, base, t⟩ = none := by
  induction n generalizing advanced base with
  | zero => rfl
  | succ n ih => rw [resetLoop_goes hdue, hcalc, ih]

theorem resetLoop_advanced (hst : st.advanced = true) (h : resetLoop calcNext now n st = some out) :
    out.advanced = true := by
  induction n generalizing st with
  | zero => cases h
  | succ n ih =>
    by_cases hdue : 0 < st.next ∧ st.next ≤ now
    · rw [resetLoop_goes hdue] at h
      exact ih rfl h
    · rw [resetLoop_stops hdue] at h
      cases h
      exact hst

theorem resetLoop_back (hback : ∀ t, 0 < calcNext t → calcNext t < t) (hbase : st.base < start)
    (hnext : 0 < st.next → st.next < start) (h : resetLoop calcNext now n st = some out) :
    out.base < start := by
  induction n generalizing st with
  | zero => cases h
  | succ n ih =>
    by_cases hdue : 0 < st.next ∧ st.next ≤ now
    · rw [resetLoop_goes hdue] at h
      have hlt := hnext hdue.1
      exact ih hlt (fun hpos => (hback st.next hpos).trans hlt) h
    · rw [resetLoop_stops hdue] at h
      cases h
      exact hbase

end Loop

/-! ## Walks from boundary to boundary -/

/-- From the times `R`, the function goes to the next of the times `B`. -/
structure Strides (next : Int → Int) (R B : Int → Prop) : Prop where
  closed : ∀ {t}, R t → R (next t)
  gt : ∀ {t}, R t → t < next t
  hit : ∀ {t}, R t → B (next t)
  least : ∀ {t b}, R t → B b → t < b → next t ≤ b

theorem Strides.run {R B : Int → Prop} (h : Strides next R B) {t : Int} (hR : R t)
    (hpos : 0 < next t) (hdue : next t ≤ limit endUnix now) (advanced : Bool) :
    ∃ fuel last, B last ∧ t < last ∧ last ≤ limit endUnix now ∧ R last ∧
      limit endUnix now < next last ∧
      resetLoop (fun t => clip endUnix (next t)) now fuel ⟨advanced, t, clip endUnix (next t)⟩
        = some ⟨true, last, clip endUnix (next last)⟩ := by
  induction hgap : (limit endUnix now - next t).toNat using Nat.strong_induction_on
    generalizing t advanced with
  | _ gap ih =>
    have hR' := h.closed hR
    have hgt := h.gt hR'
    by_cases hmore : next (next t) ≤ limit endUnix now
    · obtain ⟨fuel, last, hB, hlt, hlimit, hRlast, hbeyond, hloop⟩ :=
        ih _ (by omega) hR' (by omega) hmore true rfl
      refine ⟨fuel + 1, last, hB, (h.gt hR).trans hlt, hlimit, hRlast, hbeyond, ?_⟩
      rw [resetLoop_goes (clip_due_iff.2 ⟨hpos, hdue⟩), clip_of_due hdue]
      exact hloop
    · refine ⟨2, next t, h.hit hR, h.gt hR, hdue, hR', not_le.1 hmore, ?_⟩
      rw [resetLoop_goes (clip_due_iff.2 ⟨hpos, hdue⟩), clip_of_due hdue,
        resetLoop_stops (fun hc => hmore (clip_due_iff.1 hc).2)]

theorem Strides.last_greatest {R B : Int → Prop} (h : Strides next R B) {b : Int} (hR : R last)
    (hbeyond : lim < next last) (hb : B b) (hlimit : b ≤ lim) : b ≤ last := by
  by_contra hlt
  have := h.least hR hb (not_le.1 hlt)
  omega

/-- Whole multiples of a period after a start. -/
def Multiples (start step : Int) (least : Int) (t : Int) : Prop :=
  ∃ i : Int, least ≤ i ∧ t = start + i * step

theorem strides_multiples (hstep : 0 < step) (start : Int) :
    Strides (fun t => t + step) (Multiples start step 0) (Multiples start step 1) where
  closed := by
    rintro t ⟨i, hi, rfl⟩
    exact ⟨i + 1, by omega, by ring⟩
  gt := fun _ => by omega
  hit := by
    rintro t ⟨i, hi, rfl⟩
    exact ⟨i + 1, by omega, by ring⟩
  least := by
    rintro t b ⟨i, hi, rfl⟩ ⟨j, hj, rfl⟩ hlt
    have hij : i < j := by
      by_contra hle
      have := mul_le_mul_of_nonneg_right (not_lt.1 hle) hstep.le
      omega
    have := mul_le_mul_of_nonneg_right (show i + 1 ≤ j from hij) hstep.le
    rw [add_mul, one_mul] at this
    omega

theorem multiples_last (hstep : 0 < step) (hlast : Multiples start step 1 last)
    (hlimit : last ≤ lim) (hbeyond : lim < last + step) :
    last = start + (lim - start) / step * step := by
  obtain ⟨i, -, rfl⟩ := hlast
  have hdiv : (lim - start) / step = i := by
    rw [Int.ediv_eq_iff_of_pos hstep]
    constructor <;> nlinarith
  rw [hdiv]

end YouBox.ResetClock
