import YouBox.MachineInt
import YouBox.SubLife
import YouBox.SubRefund

/-!
# Usage within bounds

Every writer of `AmountUsed` over sequential runs, with the arithmetic of the
code's `int64`: `wrap64` stands where the source adds or subtracts two amounts.

A subscription with a total refuses whatever does not fit, and
`PostConsumeUserSubscriptionDelta` sets a negative sum to zero, so that an
addition that wraps is harmless there. `PreConsumeUserSubscription` checks
nothing for a subscription without a total: there the sum can wrap to a
negative usage. `usage_within_bounds` says that this is the only way to leave
the bounds.
-/

namespace YouBox

/-! ## Consumption -/

/-- `if sub.AmountTotal > 0 { remain := ...; if remain < amount { continue } }`. -/
def hasRoom (amount : Int) (sub : UserSubscription) : Bool :=
  !(0 < sub.amountTotal && wrap64 (sub.amountTotal - sub.amountUsed) < amount)

/-- The candidate loop of `PreConsumeUserSubscription` up to the candidate it
charges: the rows it resets on the way, and that candidate. -/
def pickRow (env : Env) (fault : Option PreStmt) (amount : Int) :
    List UserSubscription → Except SubErr Picked
  | [] => .error (.quotaInsufficient amount)
  | candidate :: rest =>
    if fault = some .readPlan then .error .db
    else
      match env.plans candidate.planId with
      | none => .error .notFound
      | some plan =>
        let reset := maybeResetUserSubscriptionWithPlan env.cal env.dbNow candidate plan
        if fault = some .saveReset ∧ reset.isSome then .error .db
        else if hasRoom amount (reset.getD candidate) then
          .ok ⟨reset.toList, reset.getD candidate⟩
        else
          match pickRow env fault amount rest with
          | .error e => .error e
          | .ok p => .ok { p with resets := reset.toList ++ p.resets }

/-- `PreConsumeUserSubscription` on the store. -/
def SubStore.preConsumeUserSubscription (env : Env) (fault : Option PreStmt) (requestId : String)
    (userId : Nat) (amount : Int) (s : SubStore) : Except SubErr (SubscriptionPreConsumeResult × SubStore) :=
  if userId = 0 then .error .invalidUserId
  else if blank requestId then .error .emptyRequestId
  else if amount ≤ 0 then .error .amountNotPositive
  else if fault = some .begin ∨ fault = some .readRecord then .error .db
  else
    match findRecord s.records requestId with
    | some existing =>
      if existing.status = .refunded then .error .alreadyRefunded
      else if fault = some .readExisting then .error .db
      else
        match findSub s.subs existing.userSubscriptionId with
        | none => .error .notFound
        | some sub =>
          if fault = some .commit then .error .db
          else .ok (⟨sub.id, existing.preConsumed, sub.amountTotal, sub.amountUsed,
            sub.amountUsed⟩, s)
    | none =>
      if fault = some .readSubs then .error .noActiveSubscription
      else if candidates env.dbNow userId s.subs = [] then .error .noActiveSubscription
      else
        match pickRow env fault amount (candidates env.dbNow userId s.subs) with
        | .error e => .error e
        | .ok p =>
          if fault = some .createRecord ∨ fault = some .saveSub ∨ fault = some .commit
          then .error .db
          else
            let used := wrap64 (p.chosen.amountUsed + amount)
            .ok (⟨p.chosen.id, amount, p.chosen.amountTotal, p.chosen.amountUsed, used⟩,
              { s with
                subs := saveSub (p.resets.foldl saveSub s.subs) (p.chosen.withUsed used)
                records :=
                  ⟨requestId, userId, p.chosen.id, amount, .consumed⟩ :: s.records })

/-- `newUsed` of `PostConsumeUserSubscriptionDelta`. -/
def newUsed64 (used delta : Int) : Int :=
  if wrap64 (used + delta) < 0 then 0 else wrap64 (used + delta)

/-- `PostConsumeUserSubscriptionDelta` on the store. -/
def SubStore.postConsumeUserSubscriptionDelta (fails : Bool) (id : Nat) (delta : Int)
    (s : SubStore) : Except SubErr SubStore :=
  if id = 0 then .error .invalidUserSubscriptionId
  else if delta = 0 then .ok s
  else if fails then .error .db
  else
    match findSub s.subs id with
    | none => .error .notFound
    | some sub =>
      let used := newUsed64 sub.amountUsed delta
      if 0 < sub.amountTotal ∧ used > sub.amountTotal then
        .error (.usedExceedsTotal used sub.amountTotal)
      else .ok { s with subs := saveSub s.subs (sub.withUsed used) }

/-- `RefundSubscriptionPreConsume` on the store; the inner transaction stays
committed when the outer one fails. -/
def SubStore.refundSubscriptionPreConsume (fault : Option RefundStmt) (requestId : String)
    (s : SubStore) : Option SubErr × SubStore :=
  if blank requestId then (some .emptyRequestId, s)
  else if fault = some .begin ∨ fault = some .readRecord then (some .db, s)
  else
    match findRecord s.records requestId with
    | none => (some .notFound, s)
    | some record =>
      if record.status = .refunded then
        (if fault = some .commit then some .db else none, s)
      else if record.preConsumed ≤ 0 then
        if fault = some .saveRecord ∨ fault = some .commit then (some .db, s)
        else (none, { s with records := saveRecord s.records record.refund })
      else
        match s.postConsumeUserSubscriptionDelta (fault == some .inner)
            record.userSubscriptionId (wrap64 (-record.preConsumed)) with
        | .error e => (some e, s)
        | .ok s₁ =>
          if fault = some .saveRecord ∨ fault = some .commit then (some .db, s₁)
          else (none, { s₁ with records := saveRecord s₁.records record.refund })

/-! ## Runs -/

/-- Everything that writes `AmountUsed`. -/
inductive UsageOp where
  | create (userId : Nat) (plan : SubscriptionPlan)
  | preConsume (fault : Option PreStmt) (requestId : String) (userId : Nat) (amount : Int)
  | postConsume (fails : Bool) (id : Nat) (delta : Int)
  | refund (fault : Option RefundStmt) (requestId : String)
  | resetDue (limit : Int) (done : Nat)
  | adminResetUser (userId planId : Nat) (advanceResetTime : Bool)
  | adminResetPlan (planId : Nat) (advanceResetTime : Bool)

/-- What an operation that may fail leaves of the store. -/
def SubStore.keep {ε : Type} (s : SubStore) : Except ε SubStore → SubStore
  | .error _ => s
  | .ok s' => s'

/-- One operation, with the clock, the calendar and the plans it finds. -/
def SubStore.use (s : SubStore) (op : Env × UsageOp) : SubStore :=
  match op.2 with
  | .create userId plan => s.keep (createUserSubscriptionFromPlan op.1.cal op.1.dbNow userId plan s)
  | .preConsume fault requestId userId amount =>
    s.keep ((s.preConsumeUserSubscription op.1 fault requestId userId amount).map (·.2))
  | .postConsume fails id delta => s.keep (s.postConsumeUserSubscriptionDelta fails id delta)
  | .refund fault requestId => (s.refundSubscriptionPreConsume fault requestId).2
  | .resetDue limit done => resetDueSubscriptions op.1 limit done s
  | .adminResetUser userId planId adv =>
    s.keep (adminResetUserSubscriptionsByPlan op.1 userId planId adv s)
  | .adminResetPlan planId adv => s.keep (adminResetPlanSubscriptions op.1 planId adv s)

/-! ## The bounds, row by row -/

/-- `AmountUsed >= 0` and, when `AmountTotal > 0`, `AmountUsed <= AmountTotal`. -/
def InBounds (x : UserSubscription) : Prop := 0 ≤ x.amountUsed ∧ withinTotal x

/-- A row in bounds whose total is an `int64`. -/
def RowOk (x : UserSubscription) : Prop := InBounds x ∧ x.amountTotal < 2 ^ 63

variable {x : UserSubscription} {env : Env} {subs : List UserSubscription} {fault : Option PreStmt}
  {amount : Int} {userId : Nat} {s s' : SubStore} {requestId : String}
  {res : SubscriptionPreConsumeResult}

attribute [local irreducible] trimSpace

theorem rowOk_zero (hused : x.amountUsed = 0) (htotal : x.amountTotal < 2 ^ 63) : RowOk x := by
  refine ⟨⟨by rw [hused], ?_⟩, htotal⟩
  intro hpos
  rw [hused]
  exact hpos.le

theorem rowOk_dueRow (h : RowOk x) : RowOk (dueRow env x) := by
  obtain ⟨last, next, hrow⟩ := dueRow_spec env x
  by_cases hz : dueZeroes env x = true
  · refine rowOk_zero ?_ ?_
    · rw [hrow]; simp [hz]
    · rw [hrow]; exact h.2
  · rw [hrow]
    simpa [hz, RowOk, InBounds, withinTotal] using h

theorem rowOk_saveSub {row : UserSubscription} (hrow : RowOk row) (h : ∀ x ∈ subs, RowOk x) :
    ∀ x ∈ saveSub subs row, RowOk x := by
  intro x hx
  obtain ⟨y, hy, rfl⟩ := List.mem_map.mp hx
  split
  · exact hrow
  · exact h y hy

theorem rowOk_foldl_saveSub {rows : List UserSubscription} (hrows : ∀ x ∈ rows, RowOk x)
    (h : ∀ x ∈ subs, RowOk x) : ∀ x ∈ rows.foldl saveSub subs, RowOk x := by
  induction rows generalizing subs with
  | nil => exact h
  | cons row rest ih =>
    exact ih (fun x hx => hrows x (List.mem_cons_of_mem row hx))
      (rowOk_saveSub (hrows row List.mem_cons_self) h)

/-- The first candidate with room, which is the one a pre-consume charges. -/
def chargedCandidate (env : Env) (amount : Int) (cands : List UserSubscription) :
    Option UserSubscription :=
  cands.find? (fun c => hasRoom amount (dueRow env c))

theorem pickRow_ok {cands : List UserSubscription} {p : Picked}
    (h : pickRow env fault amount cands = .ok p) :
    (∃ c, chargedCandidate env amount cands = some c ∧ p.chosen = dueRow env c) ∧
      ∀ r ∈ p.resets, ∃ c ∈ cands, r = dueRow env c := by
  induction cands generalizing p with
  | nil => cases h
  | cons c rest ih =>
    unfold pickRow at h
    split at h
    · cases h
    cases hplan : env.plans c.planId with
    | none => rw [hplan] at h; cases h
    | some plan =>
      rw [hplan] at h
      simp only at h
      have hdue : (maybeResetUserSubscriptionWithPlan env.cal env.dbNow c plan).getD c
          = dueRow env c := by
        simp only [dueRow, hplan, afterReset]
      have hreset : ∀ r ∈ (maybeResetUserSubscriptionWithPlan env.cal env.dbNow c
          plan).toList, r = dueRow env c := by
        intro r hr
        rw [← hdue, Option.mem_toList.mp hr]
        rfl
      rw [hdue] at h
      split at h
      · cases h
      · split at h
        · rename_i hroom
          cases h
          refine ⟨⟨c, ?_, rfl⟩, fun r hr => ⟨c, List.mem_cons_self, hreset r hr⟩⟩
          simp [chargedCandidate, hroom]
        · rename_i hfull
          cases hrec : pickRow env fault amount rest with
          | error e => rw [hrec] at h; cases h
          | ok q =>
            rw [hrec] at h
            cases h
            obtain ⟨⟨c', hc', hch⟩, hres⟩ := ih hrec
            refine ⟨⟨c', ?_, hch⟩, fun r hr => ?_⟩
            · simpa [chargedCandidate, hfull] using hc'
            · rcases List.mem_append.mp hr with hr | hr
              · exact ⟨c, List.mem_cons_self, hreset r hr⟩
              · obtain ⟨c'', hc'', hr'⟩ := hres r hr
                exact ⟨c'', List.mem_cons_of_mem c hc'', hr'⟩

/-- The charge of a row in bounds with room for it stays in bounds, unless the
row has no total and the sum is no `int64` any more. -/
theorem rowOk_charge {sub : UserSubscription} (h : RowOk sub) (hpos : 0 < amount)
    (hroom : hasRoom amount sub = true)
    (hfits : sub.amountTotal ≤ 0 → sub.amountUsed + amount < 2 ^ 63) :
    RowOk (sub.withUsed (wrap64 (sub.amountUsed + amount))) := by
  obtain ⟨⟨hnn, hwithin⟩, htotal⟩ := h
  by_cases hlim : 0 < sub.amountTotal
  · have hle := hwithin hlim
    have hremain : wrap64 (sub.amountTotal - sub.amountUsed)
        = sub.amountTotal - sub.amountUsed := wrap64_of_fits (by omega) (by omega)
    simp only [hasRoom, hremain, hlim, decide_true, Bool.true_and, Bool.not_eq_true',
      decide_eq_false_iff_not] at hroom
    have hsum : wrap64 (sub.amountUsed + amount) = sub.amountUsed + amount :=
      wrap64_of_fits (by omega) (by omega)
    rw [hsum]
    refine ⟨⟨?_, fun _ => ?_⟩, htotal⟩
    · rw [withUsed_amountUsed]; omega
    · rw [withUsed_amountUsed, withUsed_amountTotal]; omega
  · have hsum : wrap64 (sub.amountUsed + amount) = sub.amountUsed + amount :=
      wrap64_of_fits (by omega) (hfits (by omega))
    rw [hsum]
    refine ⟨⟨?_, fun hpos' => absurd hpos' hlim⟩, htotal⟩
    rw [withUsed_amountUsed]; omega

/-! ## One operation -/

/-- What keeps an operation in bounds: the charge of a pre-consume, where it
falls on a subscription without a total, is still an `int64`. Plans have an
`int64` total. -/
def UsageFits (s : SubStore) (op : Env × UsageOp) : Prop :=
  match op.2 with
  | .create _ plan => plan.totalAmount < 2 ^ 63
  | .preConsume _ requestId userId amount =>
    findRecord s.records requestId = none →
      ∀ c ∈ chargedCandidate op.1 amount (candidates op.1.dbNow userId s.subs),
        c.amountTotal ≤ 0 → (dueRow op.1 c).amountUsed + amount < 2 ^ 63
  | _ => True

theorem dueRow_amountTotal (env : Env) (x : UserSubscription) :
    (dueRow env x).amountTotal = x.amountTotal := by
  obtain ⟨_, _, h⟩ := dueRow_spec env x
  rw [h]

variable {cal : Calendar} {now : Int} {plan : SubscriptionPlan}

theorem create_rowOk (htotal : plan.totalAmount < 2 ^ 63) (hs : ∀ x ∈ s.subs, RowOk x)
    (h : createUserSubscriptionFromPlan cal now userId plan s = .ok s') :
    ∀ x ∈ s'.subs, RowOk x := by
  simp only [createUserSubscriptionFromPlan] at h
  split at h
  · cases h
  split at h
  · cases h
  split at h
  · cases h
  · cases h
    intro x hx
    rcases List.mem_cons.mp hx with rfl | hx
    · exact rowOk_zero rfl htotal
    · exact hs x hx

/-- A pre-consume whose request is recorded leaves the store alone. Under a new request id
it writes the due resets of candidates, and the charge of the first one with room. -/
theorem preConsume_writes
    (h : s.preConsumeUserSubscription env fault requestId userId amount = .ok (res, s')) :
    s' = s ∨ (findRecord s.records requestId = none ∧ 0 < amount ∧ ∃ p : Picked,
      pickRow env fault amount (candidates env.dbNow userId s.subs) = .ok p ∧
      s'.subs = saveSub (p.resets.foldl saveSub s.subs)
        (p.chosen.withUsed (wrap64 (p.chosen.amountUsed + amount)))) := by
  unfold SubStore.preConsumeUserSubscription at h
  by_cases hid : userId = 0
  · rw [if_pos hid] at h
    cases h
  by_cases hblank : blank requestId = true
  · rw [if_neg hid, if_pos hblank] at h
    cases h
  by_cases hamount : amount ≤ 0
  · rw [if_neg hid, if_neg hblank, if_pos hamount] at h
    cases h
  rw [if_neg hid, if_neg hblank, if_neg hamount] at h
  split at h
  · cases h
  cases hrec : findRecord s.records requestId with
  | some existing =>
    rw [hrec] at h
    simp only at h
    repeat' split at h
    all_goals cases h
    exact Or.inl rfl
  | none =>
    rw [hrec] at h
    simp only at h
    split at h
    · cases h
    split at h
    · cases h
    cases hpick : pickRow env fault amount (candidates env.dbNow userId s.subs) with
    | error e => rw [hpick] at h; cases h
    | ok p =>
      rw [hpick] at h
      simp only at h
      split at h
      · cases h
      · cases h
        exact Or.inr ⟨rfl, not_le.mp hamount, p, rfl, rfl⟩

theorem preConsume_rowOk (hfits : UsageFits s (env, .preConsume fault requestId userId amount))
    (hs : ∀ x ∈ s.subs, RowOk x)
    (h : s.preConsumeUserSubscription env fault requestId userId amount = .ok (res, s')) :
    ∀ x ∈ s'.subs, RowOk x := by
  rcases preConsume_writes h with rfl | ⟨hrec, hpos, p, hpick, hsubs⟩
  · exact hs
  · obtain ⟨⟨c, hc, hchosen⟩, hresets⟩ := pickRow_ok hpick
    have hcand : ∀ c ∈ candidates env.dbNow userId s.subs, RowOk (dueRow env c) := by
      intro c hc
      exact rowOk_dueRow (hs c (candidates_mem hc).1)
    have hroom : hasRoom amount (dueRow env c) = true := by
      unfold chargedCandidate at hc
      simpa using List.find?_some hc
    have hcharge := rowOk_charge (hcand c (List.mem_of_find?_eq_some hc)) hpos hroom
      (fun hunl => hfits hrec c hc (by rwa [dueRow_amountTotal] at hunl))
    rw [hsubs, hchosen]
    refine rowOk_saveSub hcharge (rowOk_foldl_saveSub ?_ hs)
    intro r hr
    obtain ⟨c', hc', rfl⟩ := hresets r hr
    exact hcand c' hc'

theorem postConsume_rowOk {fails : Bool} {id : Nat} {delta : Int} (hs : ∀ x ∈ s.subs, RowOk x)
    (h : s.postConsumeUserSubscriptionDelta fails id delta = .ok s') :
    ∀ x ∈ s'.subs, RowOk x := by
  unfold SubStore.postConsumeUserSubscriptionDelta at h
  split at h
  · cases h
  split at h
  · obtain rfl := Except.ok.inj h; exact hs
  split at h
  · cases h
  cases hf : findSub s.subs id with
  | none => rw [hf] at h; cases h
  | some sub =>
    rw [hf] at h
    simp only at h
    split at h
    · cases h
    · rename_i hover
      cases h
      refine rowOk_saveSub ⟨⟨?_, fun hpos => ?_⟩, (hs sub (findSub_mem hf)).2⟩ hs
      · rw [withUsed_amountUsed, newUsed64]
        split <;> omega
      · rw [withUsed_amountTotal] at hpos ⊢
        rw [withUsed_amountUsed]
        by_contra hgt
        exact hover ⟨hpos, by omega⟩

theorem refund_rowOk {fault : Option RefundStmt} (hs : ∀ x ∈ s.subs, RowOk x) :
    ∀ x ∈ (s.refundSubscriptionPreConsume fault requestId).2.subs, RowOk x := by
  unfold SubStore.refundSubscriptionPreConsume
  split
  · exact hs
  split
  · exact hs
  cases findRecord s.records requestId with
  | none => exact hs
  | some record =>
    simp only
    split
    · exact hs
    split
    · split
      · exact hs
      · exact hs
    · cases hp : s.postConsumeUserSubscriptionDelta (fault == some .inner)
          record.userSubscriptionId (wrap64 (-record.preConsumed)) with
      | error e => exact hs
      | ok s₁ =>
        have hrows := postConsume_rowOk hs hp
        simp only
        split
        · exact hrows
        · exact hrows

theorem resetOne_rowOk (sub : UserSubscription) (hs : ∀ x ∈ subs, RowOk x) :
    ∀ x ∈ resetOne env subs sub, RowOk x := by
  unfold resetOne
  split
  · exact hs
  rename_i plan hplan
  split
  · exact hs
  rename_i locked hlocked
  split
  · split
    · exact hs
    · rename_i row hrow
      refine rowOk_saveSub ?_ hs
      have hspec := afterReset_spec env.cal env.dbNow locked plan
      rw [afterReset, hrow] at hspec
      obtain ⟨last, next, hspec⟩ := hspec
      have hlk := hs locked (findSub_mem hlocked)
      rw [Option.getD_some] at hspec
      rw [hspec]
      by_cases hz : resetZeroes env.cal env.dbNow locked plan = true
      · exact rowOk_zero (by simp [hz]) hlk.2
      · simpa [hz, RowOk, InBounds, withinTotal] using hlk
  · exact hs

theorem resets_rowOk {due : List UserSubscription} (hs : ∀ x ∈ subs, RowOk x) :
    ∀ x ∈ due.foldl (resetOne env) subs, RowOk x := by
  induction due generalizing subs with
  | nil => exact hs
  | cons sub rest ih => exact ih (resetOne_rowOk sub hs)

theorem resetUserSubscription_rowOk {adv : Bool} (h : RowOk x) :
    RowOk (resetUserSubscription cal x plan now adv) := by
  cases adv with
  | true => exact rowOk_zero rfl h.2
  | false => exact rowOk_zero rfl h.2

theorem rowOk_map {f : UserSubscription → UserSubscription} (hf : ∀ x, RowOk x → RowOk (f x))
    (hs : ∀ x ∈ subs, RowOk x) : ∀ x ∈ subs.map f, RowOk x := by
  intro x hx
  obtain ⟨y, hy, rfl⟩ := List.mem_map.mp hx
  exact hf y (hs y hy)

theorem use_rowOk (s : SubStore) (op : Env × UsageOp) (hs : ∀ x ∈ s.subs, RowOk x)
    (hfits : UsageFits s op) : ∀ x ∈ (s.use op).subs, RowOk x := by
  obtain ⟨env, op⟩ := op
  cases op with
  | create userId plan =>
    simp only [SubStore.use]
    cases h : createUserSubscriptionFromPlan env.cal env.dbNow userId plan s with
    | error e => exact hs
    | ok s' => exact create_rowOk hfits hs h
  | preConsume fault requestId userId amount =>
    simp only [SubStore.use]
    cases h : s.preConsumeUserSubscription env fault requestId userId amount with
    | error e => exact hs
    | ok p => exact preConsume_rowOk hfits hs h
  | postConsume fails id delta =>
    simp only [SubStore.use]
    cases h : s.postConsumeUserSubscriptionDelta fails id delta with
    | error e => exact hs
    | ok s' => exact postConsume_rowOk hs h
  | refund fault requestId => exact refund_rowOk hs
  | resetDue limit done =>
    exact resets_rowOk hs
  | adminResetUser userId planId adv =>
    simp only [SubStore.use, adminResetUserSubscriptionsByPlan]
    split
    · exact hs
    split
    · exact hs
    split
    · refine rowOk_map (fun x hx => ?_) hs
      split
      · exact resetUserSubscription_rowOk hx
      · exact hx
    · exact hs
  | adminResetPlan planId adv =>
    simp only [SubStore.use, adminResetPlanSubscriptions]
    split
    · exact hs
    split
    · exact hs
    · refine rowOk_map (fun x hx => ?_) hs
      split
      · exact resetUserSubscription_rowOk hx
      · exact hx

/-! ## Every run -/

/-- **Usage stays within bounds** in every run in which no pre-consume takes a
subscription without a total past the largest `int64`; and a pre-consume under
a request id already recorded changes nothing, in any store. -/
theorem usage_within_bounds (s : SubStore) (ops : List (Env × UsageOp)) (hs : s.subs = [])
    (h : Sched.Meets SubStore.use UsageFits s ops) :
    (∀ x ∈ (ops.foldl SubStore.use s).subs, InBounds x) ∧
      ∀ (env : Env) (fault : Option PreStmt) (requestId : String) (userId : Nat) (amount : Int),
        (findRecord (ops.foldl SubStore.use s).records requestId).isSome →
        (ops.foldl SubStore.use s).use (env, .preConsume fault requestId userId amount)
          = ops.foldl SubStore.use s := by
  have hstart : ∀ x ∈ s.subs, RowOk x := by
    rw [hs]
    exact fun x hx => absurd hx List.not_mem_nil
  have hrows : ∀ x ∈ (ops.foldl SubStore.use s).subs, RowOk x :=
    Sched.Meets.invariant use_rowOk hstart h
  refine ⟨fun x hx => (hrows x hx).1, ?_⟩
  intro env fault requestId userId amount hrec
  generalize ops.foldl SubStore.use s = s' at hrec ⊢
  simp only [SubStore.use]
  cases hp : s'.preConsumeUserSubscription env fault requestId userId amount with
  | error e => rfl
  | ok p =>
    rcases preConsume_writes hp with hsame | ⟨hnone, -⟩
    · exact hsame
    · rw [hnone] at hrec
      cases hrec

/-- A plan without a total, and one with a total of 1000, both for thirty days
and without resets. -/
def unlimitedPlan : SubscriptionPlan :=
  ⟨1, "unlimited", .day, 30, 0, 0, "", "", true, 0, .never, 0⟩

def limitedPlan : SubscriptionPlan := { unlimitedPlan with id := 2, totalAmount := 1000 }

def usageEnv (now : Int) : Env where
  batchUpdateEnabled := false
  trustQuota := 0
  cal := flatCalendar
  plans id := if id = 1 then some unlimitedPlan else if id = 2 then some limitedPlan else none
  dbNow := now
  now := now

def emptySubStore : SubStore := ⟨[], [], fun _ => "default", 1⟩

attribute [local semireducible] trimSpace

/-- On a subscription without a total, a charge of one more than the largest
`int64` leaves a negative usage. -/
theorem unlimited_usage_wraps :
    ¬ ∀ ops : List (Env × UsageOp), ∀ x ∈ (ops.foldl SubStore.use emptySubStore).subs,
      InBounds x := by
  intro h
  have hrun := h
    [(usageEnv 100, .create 7 unlimitedPlan), (usageEnv 101, .postConsume false 1 (2 ^ 63 - 1)),
      (usageEnv 102, .preConsume none "r" 7 1)]
    ⟨1, 7, 1, 0, -(2 ^ 63), 100, 2592100, .active, 0, 0, "", "", "", true⟩ (by decide)
  have hneg := hrun.1
  norm_num at hneg

theorem limited_usage_in_bounds :
    limitedPlan.totalAmount < 2 ^ 63 ∧ (∀ x ∈ ([(usageEnv 100, UsageOp.create 7 limitedPlan),
        (usageEnv 101, .preConsume none "r" 7 900), (usageEnv 102, .postConsume false 1 (-950)),
        (usageEnv 103, .preConsume none "q" 7 2000)].foldl SubStore.use emptySubStore).subs,
      InBounds x) :=
  ⟨by decide, (usage_within_bounds emptySubStore _ rfl (by
    have htotal : limitedPlan.totalAmount < 2 ^ 63 := by decide
    refine ⟨htotal, ?_, trivial, ?_, trivial⟩
    · intro _ c hc hunl
      have hcand : chargedCandidate (usageEnv 101) 900 (candidates 101 7
        (emptySubStore.use (usageEnv 100, UsageOp.create 7 limitedPlan)).subs) = some
          ⟨1, 7, 2, 1000, 0, 100, 2592100, .active, 0, 0, "", "", "", true⟩ := by decide
      obtain rfl := Option.some.inj (hcand.symm.trans hc)
      norm_num at hunl
    · intro _ c hc
      have hcand : chargedCandidate (usageEnv 103) 2000 (candidates 103 7
        (([(usageEnv 100, UsageOp.create 7 limitedPlan),
          (usageEnv 101, .preConsume none "r" 7 900),
          (usageEnv 102, .postConsume false 1 (-950))].foldl SubStore.use emptySubStore).subs))
          = none := by decide
      exact absurd (hcand.symm.trans hc) (by simp))).1⟩

end YouBox
