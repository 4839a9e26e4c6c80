import Mathlib

/-!
# Subscription rows and their periodic reset

The rows of `user_subscriptions`, `subscription_plans` and
`subscription_pre_consume_records` as far as the modelled functions read
them, and `maybeResetUserSubscriptionWithPlanTx`, the reset every
pre-consume runs on a candidate before it looks at its usage.

Go's calendar is a parameter: `Calendar` gives the next local midnight,
the next Monday and the next first of a month, each strictly later than
its argument (all the reset loop needs to stop, and all that is assumed of
the server's time zone), and `AddDate` for years and months. A custom period
counts in seconds here; `ResetClock` takes it as the machine word the code
makes of it.
-/

namespace YouBox

/-! ## Rows -/

inductive SubStatus where
  | active
  | expired
  | cancelled
deriving DecidableEq

structure UserSubscription where
  id : Nat
  userId : Nat
  planId : Nat
  amountTotal : Int
  amountUsed : Int
  startTime : Int
  endTime : Int
  status : SubStatus
  lastResetTime : Int
  nextResetTime : Int
  upgradeGroup : String
  prevUserGroup : String
  downgradeGroup : String
  allowWalletOverflow : Bool
deriving DecidableEq

inductive RecordStatus where
  | consumed
  | refunded
deriving DecidableEq

/-- A row of `subscription_pre_consume_records`: the idempotency record of
one pre-consume, keyed by the request id. -/
structure SubscriptionPreConsumeRecord where
  requestId : String
  userId : Nat
  userSubscriptionId : Nat
  preConsumed : Int
  status : RecordStatus
deriving DecidableEq

/-- `NormalizeResetPeriod`: any other string in the column means `never`. -/
inductive ResetPeriod where
  | never
  | daily
  | weekly
  | monthly
  | custom
deriving DecidableEq

/-- `duration_unit`; `other` is any string `calcPlanEndTime` refuses. -/
inductive DurationUnit where
  | year
  | month
  | day
  | hour
  | custom
  | other (unit : String)
deriving DecidableEq

/-- A row of `subscription_plans`, with `upgradeGroup` and `downgradeGroup`
already trimmed and `allowWalletOverflow` already defaulted. -/
structure SubscriptionPlan where
  id : Nat
  title : String
  durationUnit : DurationUnit
  durationValue : Int
  customSeconds : Int
  maxPurchasePerUser : Int
  upgradeGroup : String
  downgradeGroup : String
  allowWalletOverflow : Bool
  totalAmount : Int
  quotaResetPeriod : ResetPeriod
  quotaResetCustomSeconds : Int
deriving DecidableEq

/-! ## Time -/

/-- Go's local calendar, on Unix seconds. -/
structure Calendar where
  nextDay : Int → Int
  nextMonday : Int → Int
  nextMonth : Int → Int
  addYears : Int → Int → Int
  addMonths : Int → Int → Int
  lt_nextDay : ∀ t, t < nextDay t
  lt_nextMonday : ∀ t, t < nextMonday t
  lt_nextMonth : ∀ t, t < nextMonth t

theorem lt_day_later (t : Int) : t < t + 86400 := by omega

theorem lt_week_later (t : Int) : t < t + 604800 := by omega

theorem lt_thirty_days_later (t : Int) : t < t + 2592000 := by omega

/-- `calcPlanEndTime`, with `none` for its errors. -/
def calcPlanEndTime (cal : Calendar) (start : Int) (plan : SubscriptionPlan) : Option Int :=
  if plan.durationValue ≤ 0 ∧ plan.durationUnit ≠ .custom then none
  else
    match plan.durationUnit with
    | .year => some (cal.addYears start plan.durationValue)
    | .month => some (cal.addMonths start plan.durationValue)
    | .day => some (start + plan.durationValue * 86400)
    | .hour => some (start + plan.durationValue * 3600)
    | .custom => if plan.customSeconds ≤ 0 then none else some (start + plan.customSeconds)
    | .other _ => none

/-! ## The reset -/

/-- The boundary after `base`, before the plan's end is looked at. -/
def Calendar.boundary (cal : Calendar) (base : Int) (plan : SubscriptionPlan) :
    Option Int :=
  match plan.quotaResetPeriod with
  | .never => none
  | .daily => some (cal.nextDay base)
  | .weekly => some (cal.nextMonday base)
  | .monthly => some (cal.nextMonth base)
  | .custom =>
    if plan.quotaResetCustomSeconds ≤ 0 then none
    else some (base + plan.quotaResetCustomSeconds)

/-- `calcNextResetTime`: `0` stands for "no further reset". -/
def calcNextResetTime (cal : Calendar) (base : Int) (plan : SubscriptionPlan)
    (endUnix : Int) : Int :=
  match cal.boundary base plan with
  | none => 0
  | some next => if endUnix > 0 ∧ next > endUnix then 0 else next

/-- State of the loop in `maybeResetUserSubscriptionWithPlanTx`. -/
structure ResetLoop where
  advanced : Bool
  base : Int
  next : Int

/-- `for next > 0 && next <= now { ... }`, at most `fuel` rounds. -/
def resetLoop (cal : Calendar) (plan : SubscriptionPlan) (endUnix now : Int) :
    Nat → ResetLoop → ResetLoop
  | 0, st => st
  | fuel + 1, st =>
    if 0 < st.next ∧ st.next ≤ now then
      resetLoop cal plan endUnix now fuel
        ⟨true, st.next, calcNextResetTime cal st.next plan endUnix⟩
    else st

/-- Where the loop of `maybeResetUserSubscriptionWithPlanTx` ends: it walks
the period boundaries from the last reset (or the start) up to `now`. -/
def resetWalk (cal : Calendar) (now : Int) (sub : UserSubscription)
    (plan : SubscriptionPlan) : ResetLoop :=
  let base := if sub.lastResetTime ≤ 0 then sub.startTime else sub.lastResetTime
  resetLoop cal plan sub.endTime now ((now - base).toNat + 1)
    ⟨false, base, calcNextResetTime cal base plan sub.endTime⟩

/-- `maybeResetUserSubscriptionWithPlanTx`: the row it saves, or `none`
when it saves nothing. -/
def maybeResetUserSubscriptionWithPlan (cal : Calendar) (now : Int)
    (sub : UserSubscription) (plan : SubscriptionPlan) : Option UserSubscription :=
  if 0 < sub.nextResetTime ∧ now < sub.nextResetTime then none
  else if plan.quotaResetPeriod = .never then none
  else
    let st := resetWalk cal now sub plan
    if st.advanced then
      some { sub with
        amountUsed := 0, lastResetTime := st.base, nextResetTime := st.next }
    else if sub.nextResetTime = 0 ∧ 0 < st.next then
      some { sub with nextResetTime := st.next, lastResetTime := st.base }
    else none

/-- The reset zeroes the usage. -/
def resetZeroes (cal : Calendar) (now : Int) (sub : UserSubscription)
    (plan : SubscriptionPlan) : Bool :=
  !decide (0 < sub.nextResetTime ∧ now < sub.nextResetTime)
    && !decide (plan.quotaResetPeriod = .never) && (resetWalk cal now sub plan).advanced

/-- The row as the caller sees it after the reset. -/
def afterReset (cal : Calendar) (now : Int) (sub : UserSubscription)
    (plan : SubscriptionPlan) : UserSubscription :=
  (maybeResetUserSubscriptionWithPlan cal now sub plan).getD sub

theorem calcNextResetTime_gt (cal : Calendar) {base : Int}
    {plan : SubscriptionPlan} {endUnix : Int}
    (h : 0 < calcNextResetTime cal base plan endUnix) :
    base < calcNextResetTime cal base plan endUnix := by
  have hb : ∀ next, cal.boundary base plan = some next → base < next := by
    intro next hnext
    unfold Calendar.boundary at hnext
    split at hnext
    · cases hnext
    · obtain rfl := Option.some.inj hnext; exact cal.lt_nextDay base
    · obtain rfl := Option.some.inj hnext; exact cal.lt_nextMonday base
    · obtain rfl := Option.some.inj hnext; exact cal.lt_nextMonth base
    · split at hnext
      · cases hnext
      · obtain rfl := Option.some.inj hnext; omega
  unfold calcNextResetTime at h ⊢
  cases hc : cal.boundary base plan with
  | none => rw [hc] at h; simp at h
  | some next =>
    rw [hc] at h
    simp only at h ⊢
    split at h
    · omega
    · rename_i hend
      rw [if_neg hend]
      exact hb next hc

/-- What the reset can do to a row: nothing but its usage and its two
reset times changes, and the usage is kept or zeroed. -/
theorem afterReset_spec (cal : Calendar) (now : Int) (sub : UserSubscription)
    (plan : SubscriptionPlan) :
    ∃ last next, afterReset cal now sub plan =
        { sub with
          amountUsed := if resetZeroes cal now sub plan then 0 else sub.amountUsed
          lastResetTime := last
          nextResetTime := next } := by
  unfold afterReset maybeResetUserSubscriptionWithPlan resetZeroes
  generalize resetWalk cal now sub plan = st
  split
  · rename_i hearly
    exact ⟨sub.lastResetTime, sub.nextResetTime, by simp [hearly]⟩
  · rename_i hlate
    split
    · rename_i hnever
      exact ⟨sub.lastResetTime, sub.nextResetTime, by simp [hnever]⟩
    · rename_i hperiod
      simp only
      split
      · rename_i hadv
        exact ⟨st.base, st.next, by simp [hlate, hperiod, hadv]⟩
      · rename_i hadv
        split
        · exact ⟨st.base, st.next, by simp [hadv]⟩
        · exact ⟨sub.lastResetTime, sub.nextResetTime, by simp [hadv]⟩

end YouBox
