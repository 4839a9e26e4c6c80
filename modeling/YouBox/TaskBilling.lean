import YouBox.BillingRun

/-!
# What a task's quota is worth

`RelayTask` from the first attempt to the inserted row, and the two functions
that move a task's money later, `RecalculateTaskQuota` and `RefundTaskQuota`.
They trust one number, `task.Quota`, which the submission writes from the
price and not from what was charged: the error of `SettleBilling` is only
logged.

`TakesInFull` is what the settlement of the submission needs of the funding
source. If it does not get it the row records an amount that was never taken;
if it does, the source holds `task.Quota` from then on, whatever later
adjustments are refused, and a refund brings the amount held to zero
(`task_quota_charged_iff`).

The row is followed in memory, as the code does within a pass; whether the
column is written back does not move money.
-/

namespace YouBox

/-! ## Submission -/

/-- The session of a request, on `relayInfo.Billing`, beside its relay info. -/
structure Submission where
  info : RelayInfo
  billing : Option BillingSession

/-- What one attempt meets: whether it ends before the pre-consume, what the
price helpers say, and the `result.Quota` it ends with unless it fails. -/
structure SubmitAttempt where
  rejected : Bool := false
  freeModel : Bool := false
  /-- `info.QuotaClamp` is set: the price did not fit. -/
  clamped : Bool := false
  quota : Int
  opening : OpenAnswers := {}
  result : Option Int

/-- The session, unless the request is refused; of the error only that there
is one is read. -/
def preConsumeBilling (env : Env) (a : OpenAnswers) (clamped : Bool) (quota : Int)
    (info : RelayInfo) (db : DB) : Option BillingSession × DB :=
  if clamped then (none, db)
  else if quota < 0 then (none, db)
  else
    match newBillingSession env a info quota db with
    | (.error _, db') => (none, db')
    | (.ok s, db') => (some s, db')

/-- One attempt: the result's quota, unless it fails. -/
def relayTaskSubmit (env : Env) (att : SubmitAttempt) (st : Submission) (db : DB) :
    Option Int × Submission × DB :=
  if att.rejected then (none, st, db)
  else
    match st.billing with
    | some _ => (att.result, st, db)
    | none =>
      if att.freeModel then (att.result, st, db)
      else
        let info : RelayInfo := { st.info with forcePreConsume := true }
        match preConsumeBilling env att.opening att.clamped att.quota info db with
        | (none, db') => (none, ⟨info, none⟩, db')
        -- the session works on the request's own relay info
        | (some s, db') => (att.result, ⟨s.relayInfo, some s⟩, db')

/-- The attempts of one request, up to the first that succeeds. -/
def submitAttempts (env : Env) : List SubmitAttempt → Submission → DB →
    Option Int × Submission × DB
  | [], st, db => (none, st, db)
  | att :: rest, st, db =>
    match relayTaskSubmit env att st db with
    | (some quota, r) => (some quota, r)
    | (none, st', db') => submitAttempts env rest st' db'

inductive PostConsumeErr where
  | subscriptionIdMissing
  | cause (c : Cause)

/-- The first half of `PostConsumeQuota`. -/
def postConsumeSource (env : Env) (a : Answers) (info : RelayInfo) (quota : Int) (db : DB) :
    Except PostConsumeErr (RelayInfo × DB) :=
  match info.billingSource with
  | some .subscription =>
    if info.subscriptionId = 0 then .error .subscriptionIdMissing
    else if quota = 0 then .ok (info, db)
    else
      match postConsumeUserSubscriptionDelta a.subWrite info.subscriptionId quota db with
      | .error e => .error (.cause (.sub e))
      | .ok db' =>
        .ok ({ info with subscriptionPostDelta := info.subscriptionPostDelta + quota }, db')
  | _ =>
    match (if 0 < quota then decreaseUserQuota env a.walletWrite info.userId quota false db
      else increaseUserQuota env a.walletWrite info.userId (-quota) false db) with
    | .error e => .error (.cause (.quota e))
    | .ok db' => .ok (info, db')

def postConsumeQuota (env : Env) (a : Answers) (info : RelayInfo) (quota : Int) (db : DB) :
    Option PostConsumeErr × RelayInfo × DB :=
  match postConsumeSource env a info quota db with
  | .error e => (some e, info, db)
  | .ok (info', db₁) =>
    if info'.isPlayground then (none, info', db₁)
    else
      match (if 0 < quota then decreaseTokenQuota env a.tokenWrite info'.tokenId quota db₁
        else increaseTokenQuota env a.tokenWrite info'.tokenId (-quota) db₁) with
      | .error e => (some (.cause (.quota e)), info', db₁)
      | .ok db₂ => (none, info', db₂)

def settleBilling (env : Env) (a : Answers) (actualQuota : Int) (st : Submission) (db : DB) :
    Option PostConsumeErr × Submission × DB :=
  match st.billing with
  | some s =>
    let r := s.settle env a actualQuota db
    (r.1.map .cause, ⟨r.2.1.relayInfo, some r.2.1⟩, r.2.2)
  | none =>
    let quotaDelta := actualQuota - st.info.finalPreConsumedQuota
    if quotaDelta = 0 then (none, st, db)
    else
      let r := postConsumeQuota env a st.info quotaDelta db
      (r.1, ⟨r.2.1, none⟩, r.2.2)

/-- The fields of a task that its billing reads and writes. -/
structure BilledTask where
  userId : Nat
  tokenId : Nat
  billingSource : Option Source
  subscriptionId : Nat
  quota : Int
deriving DecidableEq

/-- `RelayTask`: the task it inserts, if an attempt succeeded. A settlement
that fails is only logged. -/
def relayTask (env : Env) (attempts : List SubmitAttempt) (a : Answers) (info : RelayInfo)
    (db : DB) : Option BilledTask × DB :=
  match submitAttempts env attempts ⟨info, none⟩ db with
  | (none, st, db₁) =>
    match st.billing with
    | none => (none, db₁)
    | some s => (none, (s.refund env a db₁).2)
  | (some quota, st, db₁) =>
    let r := settleBilling env a quota st db₁
    (some ⟨r.2.1.info.userId, r.2.1.info.tokenId, r.2.1.info.billingSource,
      r.2.1.info.subscriptionId, quota⟩, r.2.2)

/-! ## Adjustments -/

def taskIsSubscription (t : BilledTask) : Bool :=
  t.billingSource == some .subscription && t.subscriptionId != 0

def taskAdjustFunding (env : Env) (a : Answers) (t : BilledTask) (delta : Int) (db : DB) :
    Except Cause DB :=
  if taskIsSubscription t then
    (postConsumeUserSubscriptionDelta a.subWrite t.subscriptionId delta db).mapError .sub
  else if 0 < delta then
    (decreaseUserQuota env a.walletWrite t.userId delta false db).mapError .quota
  else (increaseUserQuota env a.walletWrite t.userId (-delta) false db).mapError .quota

/-- `a.readToken` says that `resolveTokenKey` finds no key. -/
def taskAdjustTokenQuota (env : Env) (a : Answers) (t : BilledTask) (delta : Int) (db : DB) : DB :=
  if t.tokenId = 0 ∨ delta = 0 then db
  else if a.readToken then db
  else if 0 < delta then orKeep (decreaseTokenQuota env a.tokenWrite t.tokenId delta db) db
  else orKeep (increaseTokenQuota env a.tokenWrite t.tokenId (-delta) db) db

def refundTaskQuota (env : Env) (a : Answers) (t : BilledTask) (db : DB) : DB :=
  if t.quota = 0 then db
  else
    match taskAdjustFunding env a t (-t.quota) db with
    | .error _ => db
    | .ok db₁ => taskAdjustTokenQuota env a t (-t.quota) db₁

def recalculateTaskQuota (env : Env) (a : Answers) (actualQuota : Int) (t : BilledTask) (db : DB) :
    BilledTask × DB :=
  if actualQuota ≤ 0 then (t, db)
  else
    let quotaDelta := actualQuota - t.quota
    if quotaDelta = 0 then (t, db)
    else
      match taskAdjustFunding env a t quotaDelta db with
      | .error _ => (t, db)
      | .ok db₁ =>
        ({ t with quota := actualQuota }, taskAdjustTokenQuota env a t quotaDelta db₁)

def recalculateAll (env : Env) : List (Int × Answers) → BilledTask → DB → BilledTask × DB
  | [], t, db => (t, db)
  | (actualQuota, a) :: rest, t, db =>
    let r := recalculateTaskQuota env a actualQuota t db
    recalculateAll env rest r.1 r.2

/-! ## What is held for a task -/

/-- The source the task's adjustments go to. -/
def BilledTask.funding (t : BilledTask) : Funding :=
  if taskIsSubscription t then .subscription ⟨"", t.userId, 0, t.subscriptionId, 0, 0, 0⟩
  else .wallet t.userId 0

/-- After the recalculations: the quota is the net amount taken since `before`,
and a refund that is not refused brings that amount to zero. -/
def QuotaCharged (env : Env) (before : DB) (t : BilledTask) (db : DB) : Prop :=
  taken env before.books db.books t.funding = t.quota
    ∧ ∀ a, taken env before.books (refundTaskQuota env a t db).books t.funding = 0
      ∨ ((∃ e, taskAdjustFunding env a t (-t.quota) db = .error e)
        ∧ refundTaskQuota env a t db = db)

/-- The source accepts `delta`, and in full: a wallet whose write goes through,
a subscription that stays within its total and does not run into zero. -/
def Funding.takesInFull (env : Env) (a : Answers) (delta : Int) (f : Funding) (db : DB) : Bool :=
  match f with
  | .wallet _ _ => env.batchUpdateEnabled || !a.walletWrite
  | .subscription f =>
    !a.subWrite && (findSub db.subs f.subscriptionId).any fun row =>
      decide (¬ overTotal row delta ∧ 0 ≤ row.amountUsed + delta)

/-- The condition on the settlement of a submission that ends with `quota`, in
the state before it. -/
def SettlementTaken (env : Env) (a : Answers) (quota : Int) (st : Submission) (db : DB) : Prop :=
  match st.billing with
  | some s => quota = s.preConsumedQuota
      ∨ s.funding.takesInFull env a (quota - s.preConsumedQuota) db = true
  | none => quota = 0 ∨ (Funding.wallet st.info.userId 0).takesInFull env a quota db = true

/-! ## Sources -/

/-- The two are charged on the same row. -/
def Funding.SameSource : Funding → Funding → Prop
  | .wallet u _, .wallet v _ => u = v
  | .subscription f, .subscription g => f.subscriptionId = g.subscriptionId
  | _, _ => False

section Sources

variable {env : Env} {a : Answers} {b₀ b : Books} {db db' : DB} {n delta : Int} {f g : Funding}

theorem Funding.SameSource.holds (h : f.SameSource g) (hold : Holds env b₀ f db n) :
    Holds env b₀ g db n := by
  cases f with
  | wallet u c =>
    cases g with
    | wallet v c' =>
      obtain rfl : u = v := h
      exact hold
    | subscription g => exact h.elim
  | subscription f =>
    cases g with
    | wallet v c' => exact h.elim
    | subscription g =>
      have hid : f.subscriptionId = g.subscriptionId := h
      unfold Holds at hold ⊢
      simp only at hold ⊢
      rw [← hid]
      exact hold

theorem Funding.SameSource.taken_eq (h : f.SameSource g) : taken env b₀ b g = taken env b₀ b f := by
  cases f with
  | wallet u c =>
    cases g with
    | wallet v c' =>
      obtain rfl : u = v := h
      rfl
    | subscription g => exact h.elim
  | subscription f =>
    cases g with
    | wallet v c' => exact h.elim
    | subscription g =>
      have hid : f.subscriptionId = g.subscriptionId := h
      simp only [taken, hid]

theorem taken_congr {b' : Books} (hwallet : b'.wallet = b.wallet) (hsubs : b'.subs = b.subs) :
    taken env b₀ b' f = taken env b₀ b f := by
  cases f with
  | wallet u c => simp only [taken, hwallet]
  | subscription f => simp only [taken, hsubs]

theorem writeUserQuota_in_full {u : Nat} {quota d : Int} (hq : 0 ≤ quota)
    (hfull : (env.batchUpdateEnabled || !a.walletWrite) = true) :
    ∃ db', writeUserQuota env a.walletWrite u quota d false db = .ok db' := by
  unfold writeUserQuota
  rw [if_neg (by omega)]
  split
  · exact ⟨_, rfl⟩
  · rename_i hbatch
    have hwrite : a.walletWrite = false := by
      simp only [Bool.not_false, Bool.true_and, Bool.not_eq_true] at hbatch
      simpa [hbatch] using hfull
    rw [if_neg (by rw [hwrite]; exact Bool.false_ne_true)]
    exact ⟨_, rfl⟩

theorem writeUserQuota_refused {u : Nat} {quota d : Int}
    (hnot : (env.batchUpdateEnabled || !a.walletWrite) = false) :
    ∃ e, writeUserQuota env a.walletWrite u quota d false db = .error e := by
  simp only [Bool.or_eq_false_iff, Bool.not_eq_false'] at hnot
  unfold writeUserQuota
  split
  · exact ⟨_, rfl⟩
  · rw [hnot.1, hnot.2]
    exact ⟨_, rfl⟩

theorem settle_in_full (hold : Holds env b₀ f db n) (hd : delta ≠ 0)
    (hfull : f.takesInFull env a delta db = true) :
    ∃ db', f.settle env a delta db = .ok db' ∧ Holds env b₀ f db' (n + delta) := by
  unfold Funding.settle
  rw [if_neg hd]
  cases f with
  | wallet u c =>
    simp only
    split
    · rename_i hpos
      obtain ⟨db', hdec⟩ := @writeUserQuota_in_full env a db u delta (-delta) hpos.le hfull
      refine ⟨db', ?_, (writeUserQuota_holds hold hdec).1⟩
      rw [decreaseUserQuota, hdec]
      rfl
    · obtain ⟨db', hinc⟩ := @writeUserQuota_in_full env a db u (-delta) (-delta) (by omega) hfull
      refine ⟨db', ?_, (writeUserQuota_holds hold hinc).1⟩
      rw [increaseUserQuota, hinc]
      rfl
  | subscription f =>
    simp only [Funding.takesInFull, Bool.and_eq_true, Bool.not_eq_true'] at hfull
    obtain ⟨hwrite, hany⟩ := hfull
    obtain ⟨hid, hopen, row, hrow, hin, hused⟩ := hold
    rw [hrow] at hany
    obtain ⟨hover, hzero⟩ := of_decide_eq_true hany
    have hpost := postConsume_succeeds hid hd hrow hover
    refine ⟨_, ?_, (postConsume_holds_of_used ?_ ⟨hid, hopen, row, hrow, hin, hused⟩ hpost).1⟩
    · simp only [hwrite, hpost]
      rfl
    · omega

theorem settle_not_in_full (hold : Holds env b₀ f db n) (hd : delta ≠ 0)
    (hnot : f.takesInFull env a delta db = false) :
    (∃ e, f.settle env a delta db = .error e)
      ∨ ∃ db', f.settle env a delta db = .ok db' ∧ taken env b₀ db'.books f ≠ n + delta := by
  unfold Funding.settle
  rw [if_neg hd]
  cases f with
  | wallet u c =>
    simp only
    split
    · obtain ⟨e, hdec⟩ := @writeUserQuota_refused env a db u delta (-delta) hnot
      exact Or.inl ⟨_, by rw [decreaseUserQuota, hdec]; rfl⟩
    · obtain ⟨e, hinc⟩ := @writeUserQuota_refused env a db u (-delta) (-delta) hnot
      exact Or.inl ⟨_, by rw [increaseUserQuota, hinc]; rfl⟩
  | subscription f =>
    obtain ⟨hid, hopen, row, hrow, hin, hused⟩ := hold
    simp only
    cases hpost : postConsumeUserSubscriptionDelta a.subWrite f.subscriptionId delta db with
    | error e => exact Or.inl ⟨_, rfl⟩
    | ok db' =>
      refine Or.inr ⟨db', rfl, ?_⟩
      have hwrite : a.subWrite = false := by
        by_contra hfails
        unfold postConsumeUserSubscriptionDelta at hpost
        rw [if_neg hid, if_neg hd, if_pos (by simpa using hfails)] at hpost
        cases hpost
      obtain ⟨sub, hsub, hover, rfl⟩ := postConsume_ok hd hpost
      obtain rfl : row = sub := Option.some.inj (hrow.symm.trans hsub)
      -- within the total, so it was the zero it ran into
      have hneg : row.amountUsed + delta < 0 := by
        by_contra hzero
        simp only [Funding.takesInFull, hwrite, hrow, Option.any_some] at hnot
        simp [hover, not_lt.mp hzero] at hnot
      have hrowid : row.id = f.subscriptionId := findSub_id hrow
      have hself : findSub (saveSub db.subs (row.withUsed (newUsed row.amountUsed delta)))
          f.subscriptionId = some (row.withUsed (newUsed row.amountUsed delta)) := by
        rw [← hrowid] at hrow ⊢
        exact findSub_saveSub_self hrow
      have hnew : newUsed row.amountUsed delta = 0 := by
        rw [newUsed_eq]
        omega
      rw [hnew] at hself ⊢
      simp only [taken, usedIn, books_subs, hself, Option.map_some, Option.getD_some,
        withUsed_amountUsed]
      omega

end Sources

/-! ## The task's own adjustments -/

variable {before db' : DB} {env : Env} {n quota : Int} {info : RelayInfo} {st : Submission}

section Adjustments

variable {env : Env} {a : Answers} {t : BilledTask} {b₀ : Books} {db db' : DB} {delta : Int}

theorem taskAdjustFunding_holds (hn : 0 ≤ n + delta) (hold : Holds env b₀ t.funding db n)
    (h : taskAdjustFunding env a t delta db = .ok db') :
    Holds env b₀ t.funding db' (n + delta) := by
  unfold taskAdjustFunding at h
  unfold BilledTask.funding at hold ⊢
  split at h
  · rename_i hsub
    rw [if_pos hsub] at hold ⊢
    exact (postConsume_holds hn hold (ok_of_mapError h)).1
  · rename_i hsub
    rw [if_neg hsub] at hold ⊢
    split at h
    · exact (writeUserQuota_holds hold (ok_of_mapError h)).1
    · exact (writeUserQuota_holds hold (ok_of_mapError h)).1

theorem orKeep_token {fails : Bool} {id : Nat} {d : Int} :
    (orKeep (writeTokenQuota env fails id quota d db) db).books.wallet = db.books.wallet
      ∧ (orKeep (writeTokenQuota env fails id quota d db) db).subs = db.subs := by
  cases hw : writeTokenQuota env fails id quota d db with
  | error e => exact ⟨rfl, rfl⟩
  | ok db₁ =>
    obtain ⟨-, hb⟩ := writeTokenQuota_books hw
    simp only [orKeep]
    exact ⟨by rw [hb, Books.addToken_wallet], congrArg Books.subs hb⟩

theorem taskAdjustTokenQuota_frame :
    (taskAdjustTokenQuota env a t delta db).books.wallet = db.books.wallet
      ∧ (taskAdjustTokenQuota env a t delta db).subs = db.subs := by
  unfold taskAdjustTokenQuota
  split
  · exact ⟨rfl, rfl⟩
  split
  · exact ⟨rfl, rfl⟩
  split
  · exact orKeep_token
  · exact orKeep_token

theorem recalculate_holds {actual : Int} (hold : Holds env b₀ t.funding db t.quota) :
    Holds env b₀ (recalculateTaskQuota env a actual t db).1.funding
      (recalculateTaskQuota env a actual t db).2 (recalculateTaskQuota env a actual t db).1.quota := by
  unfold recalculateTaskQuota
  split
  · exact hold
  simp only
  split
  · exact hold
  cases hadj : taskAdjustFunding env a t (actual - t.quota) db with
  | error e => exact hold
  | ok db₁ =>
    have hmoved := taskAdjustFunding_holds (by omega) hold hadj
    rw [show t.quota + (actual - t.quota) = actual by omega] at hmoved
    obtain ⟨hwallet, hsubs⟩ := @taskAdjustTokenQuota_frame env a t db₁ (actual - t.quota)
    exact hmoved.of_same hwallet hsubs

theorem recalculateAll_holds {calls : List (Int × Answers)}
    (hold : Holds env b₀ t.funding db t.quota) :
    Holds env b₀ (recalculateAll env calls t db).1.funding (recalculateAll env calls t db).2
      (recalculateAll env calls t db).1.quota := by
  induction calls generalizing t db with
  | nil => exact hold
  | cons call rest ih =>
    unfold recalculateAll
    exact ih (recalculate_holds hold)

theorem Holds.quotaCharged (hold : Holds env before.books t.funding db t.quota) :
    QuotaCharged env before t db := by
  refine ⟨hold.taken_eq, fun a => ?_⟩
  unfold refundTaskQuota
  by_cases hz : t.quota = 0
  · rw [if_pos hz, hold.taken_eq]
    exact Or.inl hz
  rw [if_neg hz]
  cases hadj : taskAdjustFunding env a t (-t.quota) db with
  | error e => exact Or.inr ⟨⟨e, rfl⟩, rfl⟩
  | ok db₁ =>
    have hmoved := taskAdjustFunding_holds (by omega) hold hadj
    rw [show t.quota + -t.quota = 0 by omega] at hmoved
    obtain ⟨hwallet, hsubs⟩ := @taskAdjustTokenQuota_frame env a t db₁ (-t.quota)
    exact Or.inl (hmoved.of_same hwallet hsubs).taken_eq

end Adjustments

/-! ## The submission -/

section Opening

variable {env : Env} {a : Answers} {info : RelayInfo} {quota : Int} {db db' : DB}
  {s : BillingSession}

/-- The request's relay info names the source its session was opened on. -/
def BillingSession.Named (s : BillingSession) : Prop :=
  s.relayInfo.billingSource = some s.funding.source

theorem syncRelayInfo_named (s : BillingSession) : s.syncRelayInfo.Named := by
  unfold BillingSession.Named BillingSession.syncRelayInfo
  split <;> rfl

theorem preConsume_named {s₀ : BillingSession} (h : s₀.preConsume env a quota db = (.ok s, db')) :
    s.Named := by
  have hboth : ∀ (q : Int) (s₁ : BillingSession),
      s₁.preConsumeBoth env a q db = (.ok s, db') → s.Named := by
    intro q s₁ hb
    unfold BillingSession.preConsumeBoth at hb
    simp only at hb
    split at hb
    · cases (Prod.mk.inj hb).1
    split at hb
    · cases (Prod.mk.inj hb).1
    · obtain rfl := Except.ok.inj (Prod.mk.inj hb).1
      exact syncRelayInfo_named _
  unfold BillingSession.preConsume at h
  split at h
  · exact hboth _ _ h
  · exact hboth _ _ h

theorem tryWallet_named (h : tryWallet env a info quota db = (.ok s, db')) : s.Named := by
  unfold tryWallet at h
  split at h
  · cases (Prod.mk.inj h).1
  split at h
  · cases (Prod.mk.inj h).1
  split at h
  · cases (Prod.mk.inj h).1
  · exact preConsume_named h

theorem trySubscription_named (h : trySubscription env a info quota db = (.ok s, db')) :
    s.Named :=
  preConsume_named h

theorem newBillingSession_named {a : OpenAnswers}
    (h : newBillingSession env a info quota db = (.ok s, db')) : s.Named := by
  unfold newBillingSession at h
  cases hpref : normalizeBillingPreference info.billingPreference with
  | subscriptionOnly =>
    rw [hpref] at h
    exact trySubscription_named h
  | walletOnly =>
    rw [hpref] at h
    exact tryWallet_named h
  | walletFirst =>
    rw [hpref] at h
    simp only at h
    rcases hr : tryWallet env a.wallet info quota db with ⟨e | s₁, db₁⟩
    · simp only [hr] at h
      split at h
      · exact trySubscription_named h
      · cases (Prod.mk.inj h).1
    · simp only [hr] at h
      obtain rfl := Except.ok.inj (Prod.mk.inj h).1
      exact tryWallet_named hr
  | subscriptionFirst =>
    rw [hpref] at h
    simp only at h
    split at h
    · cases (Prod.mk.inj h).1
    · exact tryWallet_named h
    · rcases hr : trySubscription env a.subscription info quota db with ⟨e | s₁, db₁⟩
      · simp only [hr] at h
        split at h
        · split at h
          · cases (Prod.mk.inj h).1
          · exact tryWallet_named h
          · cases (Prod.mk.inj h).1
        · cases (Prod.mk.inj h).1
      · simp only [hr] at h
        obtain rfl := Except.ok.inj (Prod.mk.inj h).1
        exact trySubscription_named hr

end Opening

/-- A request that nothing has been charged for yet, under a new id. -/
structure RelayInfo.Fresh (info : RelayInfo) (db : DB) : Prop where
  preConsumed : info.finalPreConsumedQuota = 0
  source : info.billingSource = none
  record : findRecord db.records info.requestId = none

/-- Where a request stands between its attempts: without a session nothing has
moved, with one the source holds its pre-consumed quota. -/
def Submitted (env : Env) (before : DB) (st : Submission) (db : DB) : Prop :=
  match st.billing with
  | none => db = before ∧ st.info.Fresh before
  | some s => st.info = s.relayInfo ∧ s.Named
      ∧ (s.funding.source = .wallet → s.funding = .wallet st.info.userId s.preConsumedQuota)
      ∧ ∃ info, Balanced env info before.books s db

/-- The answers to an attempt leave its rollbacks alone. -/
def SubmitAttempt.RollsBack (att : SubmitAttempt) : Prop :=
  att.opening.wallet.rollback = false ∧ att.opening.subscription.rollback = false

attribute [local irreducible] newBillingSession

theorem preConsumeBilling_submitted {a : OpenAnswers} {clamped : Bool} {b : Option BillingSession}
    (hwf : before.WF) (hw : a.wallet.rollback = false) (hs : a.subscription.rollback = false)
    (hfresh : info.Fresh before)
    (h : preConsumeBilling env a clamped quota info before = (b, db')) :
    match b with
    | none => db' = before
    | some s => Submitted env before ⟨s.relayInfo, some s⟩ db' := by
  unfold preConsumeBilling at h
  split at h
  · cases h
    rfl
  split at h
  · cases h
    rfl
  rename_i hneg
  have hopened : OpenedOrUntouched env info before (newBillingSession env a info quota before) :=
    newBillingSession_opened (by omega) hwf.ids hfresh.record hw hs
  split at h
  · rename_i e db₁ hnew
    rw [hnew] at hopened
    cases h
    exact hopened
  · rename_i s db₁ hnew
    rw [hnew] at hopened
    obtain ⟨rfl, rfl⟩ := Prod.mk.inj h
    have hopened : Opened env info before.books db₁.books s := hopened
    refine ⟨rfl, newBillingSession_named hnew, fun hsource => ?_, info, opened_balanced hwf hopened⟩
    have hheld := hopened.counters.held
    cases hf : s.funding with
    | subscription f => rw [hf] at hsource; cases hsource
    | wallet u consumed =>
      rw [hf] at hheld
      simp only at hheld ⊢
      rw [hheld.1, hheld.2, hopened.counters.userId]

attribute [local semireducible] newBillingSession

theorem relayTaskSubmit_submitted {att : SubmitAttempt} {db : DB} (hwf : before.WF)
    (hroll : att.RollsBack) (hst : Submitted env before st db) :
    Submitted env before (relayTaskSubmit env att st db).2.1 (relayTaskSubmit env att st db).2.2 := by
  unfold relayTaskSubmit
  split
  · exact hst
  cases hb : st.billing with
  | some s =>
    simp only
    exact hst
  | none =>
    unfold Submitted at hst
    rw [hb] at hst
    obtain ⟨rfl, hfresh⟩ := hst
    have hstay : Submitted env db st db := by
      unfold Submitted
      rw [hb]
      exact ⟨rfl, hfresh⟩
    have hforced : RelayInfo.Fresh { st.info with forcePreConsume := true } db :=
      ⟨hfresh.preConsumed, hfresh.source, hfresh.record⟩
    simp only
    split
    · exact hstay
    rcases hpre : preConsumeBilling env att.opening att.clamped att.quota
      { st.info with forcePreConsume := true } db with ⟨_ | s, db'⟩
    · have hsame : db' = db := preConsumeBilling_submitted hwf hroll.1 hroll.2 hforced hpre
      exact ⟨hsame, hforced⟩
    · exact preConsumeBilling_submitted hwf hroll.1 hroll.2 hforced hpre

theorem submitAttempts_submitted {env : Env} {before db : DB} {attempts : List SubmitAttempt}
    {st : Submission} (hwf : before.WF) (hroll : ∀ att ∈ attempts, att.RollsBack)
    (hst : Submitted env before st db) :
    Submitted env before (submitAttempts env attempts st db).2.1
      (submitAttempts env attempts st db).2.2 := by
  induction attempts generalizing st db with
  | nil => exact hst
  | cons att rest ih =>
    have hone := relayTaskSubmit_submitted hwf (hroll att List.mem_cons_self) hst
    have hrest : ∀ x ∈ rest, x.RollsBack := fun x hx => hroll x (List.mem_cons_of_mem _ hx)
    unfold submitAttempts
    rcases hr : relayTaskSubmit env att st db with ⟨_ | q, st', db'⟩
    · rw [hr] at hone
      exact ih hrest hone
    · rw [hr] at hone
      exact hone

/-! ## The settlement -/

section Settlement

variable {env : Env} {a : Answers} {quota : Int} {before db : DB}

variable {s : BillingSession}

theorem settle_source (hset : s.settled = false) (hfs : s.fundingSettled = false) :
    ((quota = s.preConsumedQuota ∨ ∃ e, s.funding.settle env a (quota - s.preConsumedQuota) db
        = .error e) ∧ (s.settle env a quota db).2.2 = db)
      ∨ ∃ db₁, s.funding.settle env a (quota - s.preConsumedQuota) db = .ok db₁
        ∧ (s.settle env a quota db).2.2.books.wallet = db₁.books.wallet
        ∧ (s.settle env a quota db).2.2.subs = db₁.subs := by
  unfold BillingSession.settle
  rw [if_neg (by simp [hset])]
  simp only
  by_cases hz : quota - s.preConsumedQuota = 0
  · rw [if_pos hz]
    exact Or.inl ⟨Or.inl (by omega), rfl⟩
  rw [if_neg hz, if_neg (by simp [hfs])]
  cases hfund : s.funding.settle env a (quota - s.preConsumedQuota) db with
  | error e => exact Or.inl ⟨Or.inr ⟨e, rfl⟩, rfl⟩
  | ok db₁ =>
    refine Or.inr ⟨db₁, rfl, ?_⟩
    simp only
    split
    · exact ⟨rfl, rfl⟩
    · rename_i db₂ htok
      have hbooks := settleToken_ok htok
      exact ⟨by rw [hbooks, Books.addToken_wallet], congrArg Books.subs hbooks⟩

theorem settle_relayInfo :
    (s.settle env a quota db).2.1.relayInfo.userId = s.relayInfo.userId
      ∧ (s.settle env a quota db).2.1.relayInfo.billingSource = s.relayInfo.billingSource
      ∧ (s.settle env a quota db).2.1.relayInfo.subscriptionId = s.relayInfo.subscriptionId := by
  have hnote : ∀ (d : Int) (x : BillingSession),
      (x.notePostDelta d).relayInfo.userId = x.relayInfo.userId
        ∧ (x.notePostDelta d).relayInfo.billingSource = x.relayInfo.billingSource
        ∧ (x.notePostDelta d).relayInfo.subscriptionId = x.relayInfo.subscriptionId := by
    intro d x
    unfold BillingSession.notePostDelta
    split <;> exact ⟨rfl, rfl, rfl⟩
  unfold BillingSession.settle
  split
  · exact ⟨rfl, rfl, rfl⟩
  simp only
  split
  · exact ⟨rfl, rfl, rfl⟩
  split
  · exact ⟨rfl, rfl, rfl⟩
  split
  · exact hnote _ _
  · exact hnote _ _

theorem taskFunding_same {userId tokenId subId : Nat} {src : Option Source}
    (hsrc : src = some s.funding.source)
    (hwallet : s.funding.source = .wallet → s.funding = .wallet userId s.preConsumedQuota)
    (hsub : ∀ f, s.funding = .subscription f → subId = f.subscriptionId ∧ f.subscriptionId ≠ 0) :
    s.funding.SameSource (BilledTask.funding ⟨userId, tokenId, src, subId, n⟩) := by
  subst hsrc
  unfold BilledTask.funding taskIsSubscription
  cases hf : s.funding with
  | wallet u c =>
    have hw := hwallet (by rw [hf]; rfl)
    rw [hf] at hw
    obtain ⟨rfl, -⟩ := Funding.wallet.inj hw
    exact rfl
  | subscription f =>
    obtain ⟨hid, hnz⟩ := hsub f hf
    simp only [Funding.source, hid, beq_self_eq_true, Bool.true_and, bne_iff_ne, ne_eq, hnz,
      not_false_eq_true, if_true]
    exact rfl

theorem postConsumeSource_wallet (hsrc : info.billingSource = none) (hz : quota ≠ 0) :
    postConsumeSource env a info quota db
      = match (Funding.wallet info.userId 0).settle env a quota db with
        | .error c => .error (.cause c)
        | .ok db' => .ok (info, db') := by
  unfold postConsumeSource Funding.settle
  simp only [hsrc, if_neg hz]
  by_cases hpos : 0 < quota
  · simp only [if_pos hpos]
    cases decreaseUserQuota env a.walletWrite info.userId quota false db <;> rfl
  · simp only [if_neg hpos]
    cases increaseUserQuota env a.walletWrite info.userId (-quota) false db <;> rfl

theorem postConsumeQuota_source {info : RelayInfo} (hsrc : info.billingSource = none)
    (hz : quota ≠ 0) :
    (postConsumeQuota env a info quota db).2.1 = info
      ∧ (((∃ e, (Funding.wallet info.userId 0).settle env a quota db = .error e)
          ∧ (postConsumeQuota env a info quota db).2.2 = db)
        ∨ ∃ db₁, (Funding.wallet info.userId 0).settle env a quota db = .ok db₁
          ∧ (postConsumeQuota env a info quota db).2.2.books.wallet = db₁.books.wallet
          ∧ (postConsumeQuota env a info quota db).2.2.subs = db₁.subs) := by
  unfold postConsumeQuota
  rw [postConsumeSource_wallet hsrc hz]
  cases hfund : (Funding.wallet info.userId 0).settle env a quota db with
  | error e => exact ⟨rfl, Or.inl ⟨⟨e, rfl⟩, rfl⟩⟩
  | ok db₁ =>
    simp only
    split
    · exact ⟨rfl, Or.inr ⟨db₁, rfl, rfl, rfl⟩⟩
    split
    · exact ⟨rfl, Or.inr ⟨db₁, rfl, rfl, rfl⟩⟩
    · rename_i db₂ htok
      have hbooks : ∃ d, db₂.books = db₁.books.addToken info.tokenId d := by
        split at htok
        · exact ⟨_, (writeTokenQuota_books htok).2⟩
        · exact ⟨_, (writeTokenQuota_books htok).2⟩
      obtain ⟨d, hbooks⟩ := hbooks
      exact ⟨rfl, Or.inr ⟨db₁, rfl, by rw [hbooks, Books.addToken_wallet],
        congrArg Books.subs hbooks⟩⟩

/-- The source of a request before its settlement, and what it holds. -/
structure Settles (env : Env) (a : Answers) (quota : Int) (before : DB) (f : Funding) (n : Int)
    (db db' : DB) : Prop where
  held : Holds env before.books f db n
  moved : ((quota = n ∨ ∃ e, f.settle env a (quota - n) db = .error e) ∧ db' = db)
    ∨ ∃ db₁, f.settle env a (quota - n) db = .ok db₁
      ∧ db'.books.wallet = db₁.books.wallet ∧ db'.subs = db₁.subs

variable {f : Funding}

theorem Settles.holds (h : Settles env a quota before f n db db')
    (hfull : quota = n ∨ f.takesInFull env a (quota - n) db = true) :
    Holds env before.books f db' quota := by
  by_cases hz : quota = n
  · subst hz
    rcases h.moved with ⟨-, rfl⟩ | ⟨db₁, hok, hwallet, hsubs⟩
    · exact h.held
    · unfold Funding.settle at hok
      rw [if_pos (by omega)] at hok
      cases hok
      exact h.held.of_same hwallet hsubs
  · have hfull : f.takesInFull env a (quota - n) db = true := hfull.resolve_left hz
    obtain ⟨db₂, hok, hheld⟩ := settle_in_full h.held (by omega) hfull
    rw [show n + (quota - n) = quota by omega] at hheld
    rcases h.moved with ⟨hq | ⟨e, herr⟩, -⟩ | ⟨db₁, hok', hwallet, hsubs⟩
    · exact absurd hq hz
    · rw [hok] at herr
      cases herr
    · obtain rfl : db₂ = db₁ := Except.ok.inj (hok.symm.trans hok')
      exact hheld.of_same hwallet hsubs

theorem Settles.not_taken (h : Settles env a quota before f n db db') (hz : quota ≠ n)
    (hnot : f.takesInFull env a (quota - n) db = false) :
    taken env before.books db'.books f ≠ quota := by
  have hkept : db' = db → taken env before.books db'.books f ≠ quota := by
    rintro rfl
    rw [h.held.taken_eq]
    exact fun heq => hz heq.symm
  rcases h.moved with ⟨-, hsame⟩ | ⟨db₁, hok, hwallet, hsubs⟩
  · exact hkept hsame
  · rcases settle_not_in_full h.held (by omega) hnot with ⟨e, herr⟩ | ⟨db₂, hok', hne⟩
    · rw [hok] at herr
      cases herr
    · obtain rfl : db₁ = db₂ := Except.ok.inj (hok.symm.trans hok')
      rw [taken_congr hwallet (congrArg id hsubs)]
      rwa [show n + (quota - n) = quota by omega] at hne

end Settlement

/-! ## Whole requests -/

/-- The source a request is charged on. -/
def Submission.source (st : Submission) : Funding :=
  match st.billing with
  | some s => s.funding
  | none => .wallet st.info.userId 0

/-- What the source holds before the settlement. -/
def Submission.held (st : Submission) : Int :=
  match st.billing with
  | some s => s.preConsumedQuota
  | none => 0

theorem settlementTaken_iff {a : Answers} {db : DB} :
    SettlementTaken env a quota st db
      ↔ quota = st.held ∨ st.source.takesInFull env a (quota - st.held) db = true := by
  unfold SettlementTaken Submission.held Submission.source
  cases st.billing with
  | some s => exact Iff.rfl
  | none => rw [Int.sub_zero]

/-- Before its settlement: without a session nothing has moved, with one the
source holds its pre-consumed quota. -/
def Prepaid (env : Env) (before : DB) (st : Submission) (db : DB) : Prop :=
  match st.billing with
  | none => db = before ∧ st.info.Fresh before
  | some s => ∃ info, Balanced env info before.books s db

theorem Submitted.prepaid {db : DB} (h : Submitted env before st db) :
    Prepaid env before st db := by
  unfold Submitted at h
  unfold Prepaid
  cases hb : st.billing with
  | none =>
    rw [hb] at h
    exact h
  | some s =>
    rw [hb] at h
    exact h.2.2.2

theorem settleBilling_settles {env : Env} {a : Answers} {quota : Int} {before db : DB}
    {st : Submission} (hst : Prepaid env before st db) :
    Settles env a quota before st.source st.held db (settleBilling env a quota st db).2.2 := by
  unfold settleBilling Prepaid Submission.source Submission.held at *
  cases hb : st.billing with
  | some s =>
    rw [hb] at hst
    obtain ⟨info, hbal⟩ := hst
    exact ⟨hbal.source, settle_source hbal.active.2.1 hbal.active.1⟩
  | none =>
    rw [hb] at hst
    obtain ⟨rfl, hfresh⟩ := hst
    have hheld : Holds env db.books (.wallet st.info.userId 0) db 0 :=
      (Int.sub_zero _).symm
    simp only
    rw [hfresh.preConsumed, Int.sub_zero]
    by_cases hz : quota = 0
    · rw [if_pos hz]
      exact ⟨hheld, Or.inl ⟨Or.inl hz, rfl⟩⟩
    · rw [if_neg hz]
      obtain ⟨-, hmoved⟩ := @postConsumeQuota_source env a quota db st.info hfresh.source hz
      refine ⟨hheld, ?_⟩
      rw [Int.sub_zero]
      rcases hmoved with ⟨herr, hdb⟩ | hok
      · exact Or.inl ⟨Or.inr herr, hdb⟩
      · exact Or.inr hok

theorem settleBilling_source {env : Env} {a : Answers} {quota : Int} {before db : DB}
    {st : Submission} (hst : Submitted env before st db) (tokenId : Nat) (n : Int) :
    st.source.SameSource (BilledTask.funding
      ⟨(settleBilling env a quota st db).2.1.info.userId, tokenId,
        (settleBilling env a quota st db).2.1.info.billingSource,
        (settleBilling env a quota st db).2.1.info.subscriptionId, n⟩) := by
  unfold settleBilling Submitted Submission.source at *
  cases hb : st.billing with
  | some s =>
    rw [hb] at hst
    simp only at hst ⊢
    obtain ⟨hinfo, hnamed, hwallet, info, hbal⟩ := hst
    obtain ⟨huser, hsource, hsubid⟩ := @settle_relayInfo env a quota db s
    refine taskFunding_same (hsource.trans hnamed) ?_ ?_
    · intro hw
      rw [huser, ← hinfo]
      exact hwallet hw
    · intro f hf
      have hrefund := hbal.refundable
      have hheld := hbal.source
      unfold Refundable at hrefund
      rw [hf] at hrefund hheld
      exact ⟨hsubid.trans hrefund.2.2.1, hheld.1⟩
  | none =>
    rw [hb] at hst
    simp only at hst ⊢
    obtain ⟨rfl, hfresh⟩ := hst
    rw [hfresh.preConsumed, Int.sub_zero]
    by_cases hz : quota = 0
    · rw [if_pos hz]
      simp only [BilledTask.funding, taskIsSubscription, hfresh.source]
      exact rfl
    · rw [if_neg hz]
      obtain ⟨hsame, -⟩ := @postConsumeQuota_source env a quota db st.info hfresh.source hz
      simp only [hsame, BilledTask.funding, taskIsSubscription, hfresh.source]
      exact rfl

/-- **A task's quota is what was charged for it**, through every sequence of
recalculations and to a refund, exactly if the settlement of its submission got
its delta in full. -/
theorem task_quota_charged_iff (env : Env) (attempts : List SubmitAttempt) (a : Answers)
    (info : RelayInfo) (before db₁ db₂ : DB) (st : Submission) (quota : Int) (t : BilledTask)
    (hwf : before.WF) (hfresh : info.Fresh before) (hroll : ∀ att ∈ attempts, att.RollsBack)
    (hsubmit : submitAttempts env attempts ⟨info, none⟩ before = (some quota, st, db₁))
    (htask : relayTask env attempts a info before = (some t, db₂)) :
    (∀ calls, QuotaCharged env before (recalculateAll env calls t db₂).1
        (recalculateAll env calls t db₂).2)
      ↔ SettlementTaken env a quota st db₁ := by
  have hst : Submitted env before st db₁ := by
    have h := @submitAttempts_submitted env before before attempts ⟨info, none⟩ hwf hroll
      ⟨rfl, hfresh⟩
    rw [hsubmit] at h
    exact h
  unfold relayTask at htask
  rw [hsubmit] at htask
  obtain ⟨ht, hdb₂⟩ := Prod.mk.inj htask
  obtain rfl := (Option.some.inj ht).symm
  obtain rfl := hdb₂.symm
  have hsettles := @settleBilling_settles env a quota before db₁ st hst.prepaid
  have hsame := @settleBilling_source env a quota before db₁ st hst
    (settleBilling env a quota st db₁).2.1.info.tokenId quota
  rw [settlementTaken_iff]
  constructor
  · intro hall
    by_contra hnot
    obtain ⟨hz, hnot⟩ := not_or.mp hnot
    refine hsettles.not_taken hz (Bool.eq_false_of_not_eq_true hnot) ?_
    rw [← hsame.taken_eq]
    exact (hall []).1
  · intro hfull calls
    exact (recalculateAll_holds (hsame.holds (hsettles.holds hfull))).quotaCharged

/-! A user with an empty wallet and 900 of 1000 left on a subscription. A first
attempt pre-consumes and fails upstream, a second ends with another price. -/

def twoAttempts (quota result : Int) : List SubmitAttempt :=
  [{ quota := quota, result := none }, { quota := result, result := some result }]

theorem openInfo_fresh (w : Int) : openInfo.Fresh (fundedDB w) :=
  ⟨rfl, rfl, by show findRecord openDB.records "r2" = none; decide⟩

def submittedTask (quota : Int) : BilledTask := ⟨7, 3, some .subscription, 1, quota⟩

theorem task_quota_charged_after_retry :
    let db₂ := (relayTask openEnv (twoAttempts 10 30) {} openInfo (fundedDB 0)).2
    let r := recalculateAll openEnv [(2000, {}), (45, { tokenWrite := true })]
      (submittedTask 30) db₂
    r.1.quota = 45 ∧ QuotaCharged openEnv (fundedDB 0) r.1 r.2 := by
  refine ⟨by decide, ?_⟩
  have hcharged := task_quota_charged_iff openEnv (twoAttempts 10 30) {} openInfo (fundedDB 0)
    _ _ _ 30 (submittedTask 30) (fundedDB_wf 0) (openInfo_fresh 0) (by simp [twoAttempts,
      SubmitAttempt.RollsBack]) rfl rfl
  exact hcharged.mpr (Or.inr (by decide)) _

/-- Pre-consumed for 450 and priced at 950: the subscription refuses the
other 500, the task records them all the same, and its refund gives back more
than was ever taken. -/
theorem task_quota_not_charged :
    (fundedDB 0).WF ∧ openInfo.Fresh (fundedDB 0)
      ∧ let r := relayTask openEnv (twoAttempts 450 950) {} openInfo (fundedDB 0)
        r.1 = some (submittedTask 950)
          ∧ taken openEnv (fundedDB 0).books r.2.books (submittedTask 950).funding = 450
          ∧ taken openEnv (fundedDB 0).books
              (refundTaskQuota openEnv {} (submittedTask 950) r.2).books
              (submittedTask 950).funding = -100 :=
  ⟨fundedDB_wf 0, openInfo_fresh 0, by decide, by decide, by decide⟩

end YouBox
