import YouBox.Store
import YouBox.TopUp

/-!
# Subscription orders

`CompleteSubscriptionOrder` as a transaction that runs interleaved with others
on the same order: SELECT the order, check it, build the subscription from the
plan (`CreateUserSubscriptionFromPlanTx`), mirror the payment in `top_ups`
(`upsertSubscriptionTopUpTx`), save the order as successful, commit.

`top_ups.trade_no` is unique, so two transactions that both insert the mirror
row cannot both commit; a transaction that reads the mirror row of another one
that has committed meanwhile updates it instead, and nothing stops it from
creating a second subscription.

The module ends with the result for both kinds of order.
-/

namespace YouBox

/-! ## Rows -/

structure SubscriptionOrder where
  userId : Nat
  planId : Nat
  money : ℚ
  paymentMethod : String
  paymentProvider : PaymentProvider
  status : TopUpStatus
  createTime : Int
  completeTime : Int
  providerPayload : String
deriving DecidableEq

inductive OrderErr where
  | orderNotFound
  | providerMismatch
  | statusInvalid
  | planNotFound
  /-- `invalid plan`, `invalid user id` -/
  | invalidArgs
  /-- `已达到该套餐购买上限` -/
  | purchaseLimit
  | invalidDuration
  | db
deriving DecidableEq

/-- The arguments of one call; an empty string skips the check or the update it
is for. -/
structure CompleteCall where
  providerPayload : String
  expectedProvider : Option PaymentProvider
  actualPaymentMethod : String

def SubscriptionOrder.complete (o : SubscriptionOrder) (call : CompleteCall) (now : Int) :
    SubscriptionOrder :=
  { o with
    status := .success
    completeTime := now
    providerPayload :=
      if call.providerPayload ≠ "" then call.providerPayload else o.providerPayload
    paymentMethod :=
      if call.actualPaymentMethod ≠ "" then call.actualPaymentMethod else o.paymentMethod }

/-- The subscription a plan gives at time `now`; its id is the database's. -/
def subscriptionFromPlan (cal : Calendar) (now endUnix : Int) (userId : Nat)
    (plan : SubscriptionPlan) (prevGroup : String) : UserSubscription :=
  let nextReset := calcNextResetTime cal now plan endUnix
  { id := 0
    userId := userId
    planId := plan.id
    amountTotal := plan.totalAmount
    amountUsed := 0
    startTime := now
    endTime := endUnix
    status := .active
    lastResetTime := if 0 < nextReset then now else 0
    nextResetTime := nextReset
    upgradeGroup := plan.upgradeGroup
    prevUserGroup := prevGroup
    downgradeGroup := plan.downgradeGroup
    allowWalletOverflow := plan.allowWalletOverflow }

/-! ## The transaction -/

/-- What the transactions on one order share: the order, the mirror row of its
trade number, the group of its user, how many other subscriptions of the plan
the user has, and the subscriptions created for the order. -/
structure OrderDB where
  order : SubscriptionOrder
  topUp : Option TopUp
  group : String
  others : Nat
  created : List UserSubscription

/-- What a transaction will have written when it commits: the order `o` it
read, completed at `now`, and the rest. -/
structure OrderWrites where
  o : SubscriptionOrder
  now : Int
  group : Option String
  sub : UserSubscription
  topUp : TopUp
  insertsTopUp : Bool
deriving DecidableEq

/-- Where a transaction stands; `o` is the order as its SELECT read it. -/
inductive OrderPc where
  | select
  | readPlan (o : SubscriptionOrder)
  | count (o : SubscriptionOrder) (plan : SubscriptionPlan)
  | readGroup (o : SubscriptionOrder) (plan : SubscriptionPlan)
  | createSub (o : SubscriptionOrder) (plan : SubscriptionPlan) (current : String)
  | readTopUp (o : SubscriptionOrder) (group : Option String) (sub : UserSubscription)
  | writeTopUp (w : OrderWrites)
  | saveOrder (w : OrderWrites)
  | commit (w : OrderWrites)
  | ended (err : Option OrderErr)
deriving DecidableEq

/-- `upsertSubscriptionTopUpTx` between its read and its write. -/
def mirrorTopUp (o : SubscriptionOrder) (now : Int) (found : Option TopUp) : Option TopUp :=
  match found with
  | none => some ⟨o.userId, 0, o.money, o.paymentMethod, .unset, o.createTime, now, .success⟩
  | some t =>
    if t.paymentMethod ≠ "" ∧ t.paymentMethod ≠ o.paymentMethod then none
    else some { t with
      money := o.money
      paymentMethod := o.paymentMethod
      createTime := if t.createTime = 0 then o.createTime else t.createTime
      completeTime := now
      status := .success }

/-- The group is read only if the plan changes it. -/
def afterCount (o : SubscriptionOrder) (plan : SubscriptionPlan) : OrderPc :=
  if plan.upgradeGroup ≠ "" then .readGroup o plan else .createSub o plan ""

/-- The user's subscriptions are counted only if the plan limits them. -/
def afterPlan (o : SubscriptionOrder) (plan : SubscriptionPlan) : OrderPc :=
  if 0 < plan.maxPurchasePerUser then .count o plan else afterCount o plan

def CompleteCall.next (call : CompleteCall) (env : Env) (tick : Tick) (s : OrderDB) :
    OrderPc → Option (OrderDB × OrderPc)
  | .select =>
    if tick.fails then some (s, .ended (some .orderNotFound))
    else if call.expectedProvider.any (· ≠ s.order.paymentProvider) then
      some (s, .ended (some .providerMismatch))
    else if s.order.status = .success then some (s, .ended none)
    else if s.order.status ≠ .pending then some (s, .ended (some .statusInvalid))
    else some (s, .readPlan s.order)
  | .readPlan o =>
    if tick.fails then some (s, .ended (some .db))
    else
      match env.plans o.planId with
      | none => some (s, .ended (some .planNotFound))
      | some plan =>
        if plan.id = 0 ∨ o.userId = 0 then some (s, .ended (some .invalidArgs))
        else some (s, afterPlan o plan)
  | .count o plan =>
    if tick.fails then some (s, .ended (some .db))
    else if (s.others + s.created.length : Int) ≥ plan.maxPurchasePerUser then
      some (s, .ended (some .purchaseLimit))
    else some (s, afterCount o plan)
  | .readGroup o plan =>
    if tick.fails then some (s, .ended (some .db))
    else some (s, .createSub o plan s.group)
  | .createSub o plan current =>
    match calcPlanEndTime env.cal tick.now plan with
    | none => some (s, .ended (some .invalidDuration))
    | some endUnix =>
      let moves := plan.upgradeGroup ≠ "" ∧ current ≠ plan.upgradeGroup
      let sub := subscriptionFromPlan env.cal tick.now endUnix o.userId plan
        (if moves then current else "")
      if tick.fails then some (s, .ended (some .db))
      else some (s, .readTopUp o (if moves then some plan.upgradeGroup else none) sub)
  | .readTopUp o group sub =>
    if tick.fails then some (s, .ended (some .db))
    else
      match mirrorTopUp o tick.now s.topUp with
      | none => some (s, .ended (some .providerMismatch))
      | some t =>
        some (s, .writeTopUp ⟨o, tick.now, group, sub, t, s.topUp.isNone⟩)
  | .writeTopUp w =>
    if tick.fails then some (s, .ended (some .db)) else some (s, .saveOrder w)
  | .saveOrder w =>
    if tick.fails then some (s, .ended (some .db)) else some (s, .commit w)
  | .commit w =>
    -- the unique index on trade_no: of two inserts only one commits
    if tick.fails ∨ (w.insertsTopUp ∧ s.topUp.isSome) then some (s, .ended (some .db))
    else some ({ s with
      order := w.o.complete call w.now
      topUp := some w.topUp
      group := w.group.getD s.group
      created := w.sub :: s.created }, .ended none)
  | .ended _ => none

def orderMachine (env : Env) : Sched.Machine OrderDB (CompleteCall × OrderPc) Tick where
  next tick s l := (l.1.next env tick s l.2).map fun r => (r.1, l.1, r.2)

/-- The transaction has read the order as pending and has not ended. -/
def OrderPc.open : OrderPc → Prop
  | .select => False
  | .ended _ => False
  | _ => True

instance : DecidablePred OrderPc.open
  | .select => .isFalse id
  | .ended _ => .isFalse id
  | .readPlan _ => .isTrue trivial
  | .count _ _ => .isTrue trivial
  | .readGroup _ _ => .isTrue trivial
  | .createSub _ _ _ => .isTrue trivial
  | .readTopUp _ _ _ => .isTrue trivial
  | .writeTopUp _ => .isTrue trivial
  | .saveOrder _ => .isTrue trivial
  | .commit _ => .isTrue trivial

def CompleteCall.Selects (l : CompleteCall × OrderPc) : Prop := l.2 = .select

def CompleteCall.Open (l : CompleteCall × OrderPc) : Prop := l.2.open

instance : DecidablePred CompleteCall.Selects := fun l => inferInstanceAs (Decidable (l.2 = _))

instance : DecidablePred CompleteCall.Open := fun l => inferInstanceAs (Decidable l.2.open)

theorem CompleteCall.next_cases {call : CompleteCall} {env : Env} {tick : Tick}
    {s s' : OrderDB} {pc pc' : OrderPc} (h : call.next env tick s pc = some (s', pc')) :
    (s' = s ∧ (pc'.open → pc.open ∨ (pc = .select ∧ s.order.status = .pending)))
      ∨ ∃ w, pc = .commit w ∧ pc' = .ended none
        ∧ s' = { s with
            order := w.o.complete call w.now
            topUp := some w.topUp
            group := w.group.getD s.group
            created := w.sub :: s.created } := by
  have stay : ∀ {q : OrderPc}, some (s, q) = some (s', pc') → pc.open →
      s' = s ∧ (pc'.open → pc.open ∨ (pc = .select ∧ s.order.status = .pending)) := by
    intro q hq hopen
    cases hq
    exact ⟨rfl, fun _ => Or.inl hopen⟩
  have stop : ∀ {err : Option OrderErr}, some (s, OrderPc.ended err) = some (s', pc') →
      s' = s ∧ (pc'.open → pc.open ∨ (pc = .select ∧ s.order.status = .pending)) := by
    intro err hq
    cases hq
    exact ⟨rfl, fun ho => ho.elim⟩
  cases pc with
  | select =>
    simp only [CompleteCall.next] at h
    split at h
    · exact Or.inl (stop h)
    split at h
    · exact Or.inl (stop h)
    split at h
    · exact Or.inl (stop h)
    split at h
    · exact Or.inl (stop h)
    · rename_i hpending
      cases h
      exact Or.inl ⟨rfl, fun _ => Or.inr ⟨rfl, not_not.mp hpending⟩⟩
  | readPlan o =>
    simp only [CompleteCall.next] at h
    split at h
    · exact Or.inl (stop h)
    · cases hp : env.plans o.planId with
      | none => rw [hp] at h; exact Or.inl (stop h)
      | some plan =>
        rw [hp] at h
        simp only at h
        split at h
        · exact Or.inl (stop h)
        · exact Or.inl (stay h trivial)
  | count o plan =>
    simp only [CompleteCall.next] at h
    split at h
    · exact Or.inl (stop h)
    split at h
    · exact Or.inl (stop h)
    · exact Or.inl (stay h trivial)
  | readGroup o plan =>
    simp only [CompleteCall.next] at h
    split at h
    · exact Or.inl (stop h)
    · exact Or.inl (stay h trivial)
  | createSub o plan current =>
    simp only [CompleteCall.next] at h
    cases he : calcPlanEndTime env.cal tick.now plan with
    | none => rw [he] at h; exact Or.inl (stop h)
    | some endUnix =>
      rw [he] at h
      simp only at h
      split at h
      · exact Or.inl (stop h)
      · exact Or.inl (stay h trivial)
  | readTopUp o group sub =>
    simp only [CompleteCall.next] at h
    split at h
    · exact Or.inl (stop h)
    · cases hm : mirrorTopUp o tick.now s.topUp with
      | none => rw [hm] at h; exact Or.inl (stop h)
      | some t => rw [hm] at h; exact Or.inl (stay h trivial)
  | writeTopUp w =>
    simp only [CompleteCall.next] at h
    split at h
    · exact Or.inl (stop h)
    · exact Or.inl (stay h trivial)
  | saveOrder w =>
    simp only [CompleteCall.next] at h
    split at h
    · exact Or.inl (stop h)
    · exact Or.inl (stay h trivial)
  | commit w =>
    simp only [CompleteCall.next] at h
    split at h
    · exact Or.inl (stop h)
    · cases h
      exact Or.inr ⟨w, rfl, rfl, rfl⟩
  | ended err => cases h

theorem orderMachine_next {env : Env} {tick : Tick} {s s' : OrderDB}
    {l l' : CompleteCall × OrderPc} (h : (orderMachine env).next tick s l = some (s', l')) :
    l'.1 = l.1 ∧ l.1.next env tick s l.2 = some (s', l'.2) := by
  simp only [orderMachine, Option.map_eq_some_iff] at h
  obtain ⟨r, hr, heq⟩ := h
  obtain ⟨rfl, rfl⟩ := Prod.mk.inj heq
  exact ⟨rfl, hr⟩

theorem order_oneShot (env : Env) :
    Sched.OneShot (orderMachine env) CompleteCall.Selects CompleteCall.Open
      (fun s => s.order.status = .pending) (fun s => s.created.length) :=
  .of_cases fun h => by
    rcases CompleteCall.next_cases (orderMachine_next h).2 with hquiet | ⟨w, hpc, hpc', rfl⟩
    · exact Or.inl hquiet
    · unfold CompleteCall.Open
      rw [hpc, hpc']
      exact Or.inr ⟨trivial, id, by simp [SubscriptionOrder.complete], rfl⟩

/-- Any completions of an order that has no subscription yet. -/
def orderStart (o : SubscriptionOrder) (topUp : Option TopUp) (group : String) (others : Nat)
    (calls : List CompleteCall) : Sched.Conf OrderDB (CompleteCall × OrderPc) :=
  ⟨⟨o, topUp, group, others, []⟩, calls.map fun c => (c, .select)⟩

/-! ## At most once -/

theorem orders_fulfilled_once (quotaPerUnit : ℚ) (env : Env) :
    (∀ (t : TopUp) (calls : List TopUpCall) (c : Sched.Conf TopUpDB (TopUpCall × FulfilPc)),
      Sched.Steps (topUpMachine quotaPerUnit)
        (Sched.Exclusive TopUpCall.Selects TopUpCall.Open) (topUpStart t calls) c →
      c.store.credits.length ≤ 1)
    ∧ ∀ (o : SubscriptionOrder) (topUp : Option TopUp) (group : String)
        (others : Nat) (calls : List CompleteCall)
        (c : Sched.Conf OrderDB (CompleteCall × OrderPc)),
      Sched.Steps (orderMachine env) (Sched.Exclusive CompleteCall.Selects CompleteCall.Open)
        (orderStart o topUp group others calls) c →
      c.store.created.length ≤ 1 := by
  constructor
  · intro t calls c h
    exact topUp_credited_once h
  · intro o topUp group others calls c h
    refine (order_oneShot env).uses_le_one rfl ?_ h
    intro l hl
    obtain ⟨call, -, rfl⟩ := List.mem_map.mp hl
    exact id

/-! An order of 5 units paid through Waffo, with a webhook and an administrator
on it; and a subscription order with two webhooks. -/

def waffoOrder : TopUp := ⟨7, 5, 5, "waffo", .waffo, 1, 0, .pending⟩

def tick : Tick := ⟨false, 10⟩

def paidOrder : SubscriptionOrder := ⟨7, 1, 5, "card", .stripe, .pending, 1, 0, ""⟩

def stripeHook : CompleteCall := ⟨"payload", some .stripe, ""⟩

def planEnv : Env where
  batchUpdateEnabled := false
  trustQuota := 0
  cal := ⟨(· + 86400), (· + 604800), (· + 2592000), (· + · * 31536000), (· + · * 2592000),
    lt_day_later, lt_week_later, lt_thirty_days_later⟩
  plans n := if n = 1 then some ⟨1, "basic", .day, 30, 0, 0, "", "", true, 1000, .never, 0⟩
    else none
  dbNow := 10
  now := 10

theorem orders_fulfilled_once_in_turn :
    (∃ c, Sched.Steps (topUpMachine 500000)
        (Sched.Exclusive TopUpCall.Selects TopUpCall.Open)
        (topUpStart waffoOrder [.rechargeWaffo, .manualCompleteTopUp]) c
      ∧ c.store.credits = [2500000] ∧ c.store.credits.length ≤ 1)
    ∧ ∃ c, Sched.Steps (orderMachine planEnv)
        (Sched.Exclusive CompleteCall.Selects CompleteCall.Open)
        (orderStart paidOrder none "default" 0 [stripeHook, stripeHook]) c
      ∧ c.store.created.length = 1 ∧ c.store.created.length ≤ 1 := by
  constructor
  · exact Sched.exists_of_run_and ([0, 0, 0, 0, 1].map (·, tick)) (by decide +kernel)
      fun c hc _ => (orders_fulfilled_once _ planEnv).1 _ _ c hc
  · exact Sched.exists_of_run_and ([0, 0, 0, 0, 0, 0, 0, 1].map (·, tick)) (by decide)
      fun c hc _ => (orders_fulfilled_once 500000 _).2 _ _ _ _ _ c hc

/-- Both read the order as pending before either commits. -/
theorem orders_fulfilled_twice :
    (∃ c, Sched.Steps (topUpMachine 500000) Sched.free
        (topUpStart waffoOrder [.rechargeWaffo, .manualCompleteTopUp]) c
      ∧ c.store.credits = [2500000, 2500000])
    ∧ ∃ c, Sched.Steps (orderMachine planEnv) Sched.free
        (orderStart paidOrder none "default" 0 [stripeHook, stripeHook]) c
      ∧ c.store.created.length = 2 := by
  constructor
  · exact Sched.exists_of_run ([0, 1, 0, 0, 0, 1, 1, 1].map (·, tick)) (by decide +kernel)
  · exact Sched.exists_of_run
      ([0, 1, 0, 0, 0, 0, 0, 0, 1, 1, 1, 1, 1, 1].map (·, tick)) (by decide)

end YouBox
