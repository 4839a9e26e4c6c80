import YouBox.SubConsume
import YouBox.SubOrder

/-!
# The life of a subscription

What happens to the rows of `user_subscriptions` outside of consumption: a
purchase creates them (`CreateUserSubscriptionFromPlanTx`), the reset task
(`ResetDueSubscriptions`) and the administrator (`resetUserSubscriptionTx`)
reset their usage, and they end by expiring (`ExpireDueSubscriptions`) or at
the administrator's hands (`AdminInvalidateUserSubscription`,
`AdminDeleteUserSubscription`). A purchase may move the user to another group,
and the end of a subscription may move the user back.

Every function is one transaction, or a sequence of them, run by one client;
one that fails leaves the store as it was.
-/

namespace YouBox

/-- The subscription tables and the `group` column of `users`; `nextId` is the
next value of the subscriptions' auto-increment key. -/
structure SubStore where
  subs : List UserSubscription
  records : List SubscriptionPreConsumeRecord
  groups : Nat → String
  nextId : Nat

def SubStore.setGroup (s : SubStore) (userId : Nat) (group : String) : SubStore :=
  { s with groups := Function.update s.groups userId group }

/-! ## Purchase -/

def countByPlan (subs : List UserSubscription) (userId planId : Nat) : Nat :=
  subs.countP (fun x => x.userId == userId && x.planId == planId)

/-- The purchase moves the user to the plan's group. -/
def movesGroup (plan : SubscriptionPlan) (current : String) : Bool :=
  plan.upgradeGroup != "" && current != plan.upgradeGroup

/-- The plan with its groups as `strings.TrimSpace` leaves them. -/
def SubscriptionPlan.trimGroups (plan : SubscriptionPlan) : SubscriptionPlan :=
  { plan with
    upgradeGroup := trimSpace plan.upgradeGroup
    downgradeGroup := trimSpace plan.downgradeGroup }

def createUserSubscriptionFromPlan (cal : Calendar) (now : Int) (userId : Nat)
    (row : SubscriptionPlan) (s : SubStore) : Except OrderErr SubStore :=
  let plan := row.trimGroups
  if plan.id = 0 ∨ userId = 0 then .error .invalidArgs
  else if 0 < plan.maxPurchasePerUser ∧
      (countByPlan s.subs userId plan.id : Int) ≥ plan.maxPurchasePerUser then
    .error .purchaseLimit
  else
    match calcPlanEndTime cal now plan with
    | none => .error .invalidDuration
    | some endUnix =>
      let current := s.groups userId
      let moves := movesGroup plan current
      let sub := subscriptionFromPlan cal now endUnix userId plan (if moves then current else "")
      let s' := if moves then s.setGroup userId plan.upgradeGroup else s
      .ok { s' with
        subs := { sub with id := s.nextId } :: s.subs
        nextId := s.nextId + 1 }

/-! ## Resets -/

/-- `resetUserSubscriptionTx`: the row it saves. -/
def resetUserSubscription (cal : Calendar) (sub : UserSubscription) (plan : SubscriptionPlan)
    (now : Int) (advanceResetTime : Bool) : UserSubscription :=
  if advanceResetTime then
    let nextReset := calcNextResetTime cal now plan sub.endTime
    { sub with
      amountUsed := 0
      nextResetTime := nextReset
      -- no next period: the last reset is cleared instead of stamped `now`
      lastResetTime := if 0 < nextReset then now else 0 }
  else { sub with amountUsed := 0 }

/-- `plan_id = ? AND status = 'active' AND end_time > ?`. -/
def resettable (now : Int) (planId : Nat) (x : UserSubscription) : Bool :=
  x.planId == planId && x.status == .active && now < x.endTime

def adminResetUserSubscriptionsByPlan (env : Env) (userId planId : Nat)
    (advanceResetTime : Bool) (s : SubStore) : Except SubErr SubStore :=
  if userId = 0 ∨ planId = 0 then .error .invalidUserId
  else
    match env.plans planId with
    | none => .error .notFound
    | some plan =>
      let matched := fun x : UserSubscription =>
        x.userId == userId && resettable env.dbNow plan.id x
      if s.subs.any matched then
        .ok { s with subs := s.subs.map (fun x =>
          if matched x then resetUserSubscription env.cal x plan env.dbNow advanceResetTime
          else x) }
      else .error .noActiveSubscription

def adminResetPlanSubscriptions (env : Env) (planId : Nat) (advanceResetTime : Bool)
    (s : SubStore) : Except SubErr SubStore :=
  if planId = 0 then .error .notFound
  else
    match env.plans planId with
    | none => .error .notFound
    | some plan =>
      .ok { s with subs := s.subs.map (fun x =>
        if resettable env.dbNow plan.id x then
          resetUserSubscription env.cal x plan env.dbNow advanceResetTime
        else x) }

/-- The default of a `limit` argument. -/
def rowLimit (limit : Int) : Nat :=
  if limit ≤ 0 then 200 else limit.toNat

/-- The reset of one due subscription, in a transaction of its own that reads
the row again. -/
def resetOne (env : Env) (subs : List UserSubscription) (sub : UserSubscription) :
    List UserSubscription :=
  match env.plans sub.planId with
  | none => subs
  | some plan =>
    match findSub subs sub.id with
    | none => subs
    | some locked =>
      if 0 < locked.nextResetTime ∧ locked.nextResetTime ≤ env.dbNow then
        match maybeResetUserSubscriptionWithPlan env.cal env.dbNow locked plan with
        | none => subs
        | some row => saveSub subs row
      else subs

/-- `ResetDueSubscriptions`, when the first `done` of its transactions commit
and the next one fails. -/
def resetDueSubscriptions (env : Env) (limit : Int) (done : Nat) (s : SubStore) : SubStore :=
  let due := (s.subs.filter (fun x => 0 < x.nextResetTime && x.nextResetTime ≤ env.dbNow
    && x.status == .active)).insertionSort (fun a b => a.nextResetTime ≤ b.nextResetTime)
  { s with subs := ((due.take (rowLimit limit)).take done).foldl (resetOne env) s.subs }

/-! ## The end of a subscription -/

/-- Another upgraded subscription of the same user is active. -/
def otherActiveUpgraded (now : Int) (sub : UserSubscription) (subs : List UserSubscription) :
    Bool :=
  subs.any (fun x => x.userId == sub.userId && x.status == .active && now < x.endTime
    && x.id != sub.id && x.upgradeGroup != "")

/-- Where the end of `sub` sends a user who is in `current`; `""` is nowhere. -/
def downgradeTarget (sub : UserSubscription) (current : String) : String :=
  if trimSpace sub.downgradeGroup ≠ "" then trimSpace sub.downgradeGroup
  else if current ≠ trimSpace sub.upgradeGroup then ""
  else trimSpace sub.prevUserGroup

/-- `if target == "" || target == currentGroup { return }`, and the UPDATE. -/
def SubStore.moveTo (s : SubStore) (userId : Nat) (target : String) : SubStore :=
  if target = "" ∨ target = s.groups userId then s else s.setGroup userId target

def downgradeUserGroupForSubscription (now : Int) (sub : UserSubscription) (s : SubStore) :
    SubStore :=
  if trimSpace sub.downgradeGroup = "" ∧ trimSpace sub.upgradeGroup = "" then s
  else if otherActiveUpgraded now sub s.subs then s
  else s.moveTo sub.userId (downgradeTarget sub (s.groups sub.userId))

def adminInvalidateUserSubscription (now : Int) (id : Nat) (s : SubStore) : Except SubErr SubStore :=
  if id = 0 then .error .invalidUserSubscriptionId
  else
    match findSub s.subs id with
    | none => .error .notFound
    | some sub =>
      let row := { sub with status := .cancelled, endTime := now }
      .ok (downgradeUserGroupForSubscription now row { s with subs := saveSub s.subs row })

def adminDeleteUserSubscription (now : Int) (id : Nat) (s : SubStore) : Except SubErr SubStore :=
  if id = 0 then .error .invalidUserSubscriptionId
  else
    match findSub s.subs id with
    | none => .error .notFound
    | some sub =>
      let s' := downgradeUserGroupForSubscription now sub s
      .ok { s' with subs := s'.subs.filter (fun x => x.id != id) }

/-- `status = 'active' AND end_time > 0 AND end_time <= ?`. -/
def expires (now : Int) (x : UserSubscription) : Bool :=
  x.status == .active && 0 < x.endTime && x.endTime ≤ now

/-- `ORDER BY end_time desc, id desc`. -/
def laterEnd (a b : UserSubscription) : Prop :=
  b.endTime < a.endTime ∨ (a.endTime = b.endTime ∧ b.id ≤ a.id)

instance : DecidableRel laterEnd := fun _ _ =>
  inferInstanceAs (Decidable (_ ∨ _))

/-- The expired subscription that ended last, of those that say something about
groups. -/
def lastExpired (userId : Nat) (subs : List UserSubscription) : Option UserSubscription :=
  ((subs.filter (fun x => x.userId == userId && x.status == .expired
    && (x.downgradeGroup != "" || x.upgradeGroup != ""))).insertionSort laterEnd).head?

/-- Where the task sends the user; it asks for both groups where
`downgradeUserGroupForSubscriptionTx` only compares one. -/
def expiredTarget (sub : UserSubscription) (current : String) : String :=
  if trimSpace sub.downgradeGroup = "" ∧
      (trimSpace sub.upgradeGroup = "" ∨ trimSpace sub.prevUserGroup = "") then ""
  else downgradeTarget sub current

def expireRows (now : Int) (userId : Nat) (subs : List UserSubscription) :
    List UserSubscription :=
  subs.map (fun x =>
    if x.userId == userId && expires now x then { x with status := .expired } else x)

/-- The transaction of `ExpireDueSubscriptions` for one user. -/
def expireUser (now : Int) (s : SubStore) (userId : Nat) : SubStore :=
  let s' := { s with subs := expireRows now userId s.subs }
  if s'.subs.any (fun x => x.userId == userId && x.status == .active && now < x.endTime
      && x.upgradeGroup != "") then s'
  else
    match lastExpired userId s'.subs with
    | none => s'
    | some sub => s'.moveTo userId (expiredTarget sub (s'.groups userId))

/-- The users `ExpireDueSubscriptions` has work for. -/
def dueUsers (now : Int) (limit : Int) (subs : List UserSubscription) : List Nat :=
  ((((subs.filter (expires now)).insertionSort soonerEnd).take (rowLimit limit)).map
    (·.userId)).filter (fun u => u != 0)

/-- `ExpireDueSubscriptions`. The users are visited in the order of a Go map,
and a failing transaction ends the call: `visited` is the order, up to there. -/
def expireDueSubscriptions (now : Int) (limit : Int) (visited : List Nat) (s : SubStore) :
    SubStore :=
  (visited.filter (fun u => u ∈ dueUsers now limit s.subs)).foldl (expireUser now) s

/-- A calendar whose periods all have one length, for concrete runs. -/
def flatCalendar : Calendar where
  nextDay t := t + 86400
  nextMonday t := t + 604800
  nextMonth t := t + 2592000
  addYears t n := t + n * 31536000
  addMonths t n := t + n * 2592000
  lt_nextDay := lt_day_later
  lt_nextMonday := lt_week_later
  lt_nextMonth := lt_thirty_days_later

end YouBox
