import YouBox.Billing

/-!
# Opening a session is atomic

An opening charges the token first and the funding source second, and takes
the token's share back when the source refuses; under two of the four
preferences a whole second opening follows a first one that failed. The two
facts proved here carry everything else:

- an opening that fails leaves the database as it found it
  (`preConsume_error`), because taking a share back restores the very row
  (or the pending delta) it was taken from (`tokenQuota_roundtrip`);
- an opening that succeeds has made one `Charged` entry: the session's
  `preConsumedQuota` on exactly one source, and the same amount on the token
  unless the session is a playground's.

`newBillingSession_atomic` then follows the fallbacks.
-/

namespace YouBox

/-- What a charge of `q` takes from the token. -/
def tokenShare (info : RelayInfo) (q : Int) : Int := if info.isPlayground then 0 else q

/-! ## The token's share -/

attribute [local irreducible] trimSpace

variable {s : BillingSession} {db : DB} {env : Env} {quota : Int} {info : RelayInfo}

theorem preConsumeTokenQuota_ok {a : Answers} {db' : DB}
    (h : preConsumeTokenQuota env a info quota db = .ok db') :
    (info.isPlayground = true ∧ db' = db)
      ∨ (info.isPlayground = false
        ∧ decreaseTokenQuota env a.tokenWrite info.tokenId quota db = .ok db') := by
  unfold preConsumeTokenQuota at h
  split at h
  · cases h
  split at h
  · rename_i hplay
    exact Or.inl ⟨hplay, (Except.ok.inj h).symm⟩
  · rename_i hplay
    refine Or.inr ⟨by simpa using hplay, ?_⟩
    cases hread : getTokenRemain a.readToken a.tokenRemainHit info.tokenId db with
    | error e => rw [hread] at h; cases h
    | ok remain =>
      rw [hread] at h
      simp only at h
      split at h
      · cases h
      · exact h

theorem preConsumeTokenQuota_books {a : Answers} {db' : DB}
    (h : preConsumeTokenQuota env a info quota db = .ok db') :
    db'.books = db.books.addToken info.tokenId (-tokenShare info quota) := by
  rcases preConsumeTokenQuota_ok h with ⟨hplay, rfl⟩ | ⟨hplay, hdec⟩
  · simp [tokenShare, hplay]
  · rw [(writeTokenQuota_books hdec).2]
    simp [tokenShare, hplay]

theorem tokenQuota_roundtrip {fails : Bool} {id : Nat} {db' : DB}
    (h : decreaseTokenQuota env fails id quota db = .ok db') :
    increaseTokenQuota env false id quota db' = .ok db := by
  unfold decreaseTokenQuota writeTokenQuota at h
  unfold increaseTokenQuota writeTokenQuota
  split at h
  · cases h
  rename_i hneg
  rw [if_neg hneg]
  split at h
  · rename_i hbatch
    cases h
    rw [if_pos hbatch]
    simp only [Function.update_self, Function.update_idem]
    rw [show db.batchTokens id + -quota + quota = db.batchTokens id by omega,
      Function.update_eq_self]
  · rename_i hbatch
    rw [if_neg hbatch]
    split at h
    · cases h
    · cases h
      simp only [Bool.false_eq_true, if_false, Function.update_self, Function.update_idem]
      have hrow : (⟨(db.tokens id).remainQuota + -quota + quota,
          (db.tokens id).usedQuota - -quota - quota⟩ : Token) = db.tokens id := by
        cases htok : db.tokens id
        simp only [Token.mk.injEq]
        omega
      rw [hrow, Function.update_eq_self]

/-! ## One opening -/

/-- The entry a successful opening makes in the books: `preConsumedQuota` on
the session's own source and nothing on the other, the same on the token. -/
def Charged (env : Env) (b b' : Books) (s : BillingSession) : Prop :=
  let shared := b.addToken s.relayInfo.tokenId (-tokenShare s.relayInfo s.preConsumedQuota)
  match s.funding with
  | .wallet u _ => b' = shared.addWallet u (-s.preConsumedQuota)
  | .subscription f =>
    SubCharged env b.subs b'.subs f.userId f.subscriptionId s.preConsumedQuota
      ∧ b' = { shared with
          subs := b'.subs
          records := ⟨f.requestId, f.userId, f.subscriptionId, s.preConsumedQuota,
            .consumed⟩ :: b.records }

/-- The session's counters right after its opening. -/
structure Counters (info : RelayInfo) (s : BillingSession) : Prop where
  userId : s.relayInfo.userId = info.userId
  tokenId : s.relayInfo.tokenId = info.tokenId
  playground : s.relayInfo.isPlayground = info.isPlayground
  nonneg : 0 ≤ s.preConsumedQuota
  tokenConsumed : s.tokenConsumed = s.preConsumedQuota
  extraReserved : s.extraReserved = 0
  flags : s.fundingSettled = false ∧ s.settled = false ∧ s.refunded = false
  held : match s.funding with
    | .wallet u consumed => u = info.userId ∧ consumed = s.preConsumedQuota
    | .subscription f => f.requestId = info.requestId ∧ f.userId = info.userId
        ∧ f.preConsumed = s.preConsumedQuota ∧ 0 < f.preConsumed
        ∧ s.relayInfo.subscriptionId = f.subscriptionId ∧ blank f.requestId = false

section Opening

variable {env : Env} {a : Answers} {info : RelayInfo} {quota : Int} {db db' : DB}

variable {e : NewAPIError}

theorem preConsumeBoth_error (htok : s.tokenConsumed = 0) (hroll : a.rollback = false)
    (h : s.preConsumeBoth env a quota db = (.error e, db')) : db' = db := by
  unfold BillingSession.preConsumeBoth at h
  by_cases hq : 0 < quota
  · simp only [if_pos hq] at h
    cases hpre : preConsumeTokenQuota env a s.relayInfo quota db with
    | error e' =>
      rw [hpre] at h
      exact (Prod.mk.inj h).2.symm
    | ok db₁ =>
      rw [hpre] at h
      simp only at h
      cases hfund : s.funding.preConsume env a quota db₁ with
      | ok r => rw [hfund] at h; cases (Prod.mk.inj h).1
      | error c =>
        rw [hfund] at h
        obtain rfl := (Prod.mk.inj h).2
        rcases preConsumeTokenQuota_ok hpre with ⟨hplay, rfl⟩ | ⟨hplay, hdec⟩
        · rw [if_neg (by simp [hplay])]
        · rw [if_pos ⟨hq, hplay⟩, hroll, tokenQuota_roundtrip hdec]
          rfl
  · simp only [if_neg hq] at h
    cases hfund : s.funding.preConsume env a quota db with
    | ok r => rw [hfund] at h; cases (Prod.mk.inj h).1
    | error c =>
      rw [hfund] at h
      obtain rfl := (Prod.mk.inj h).2
      simp only [htok, Int.lt_irrefl, false_and, if_false]

theorem preConsume_error (htok : s.tokenConsumed = 0) (hroll : a.rollback = false)
    (h : s.preConsume env a quota db = (.error e, db')) : db' = db := by
  unfold BillingSession.preConsume at h
  split at h
  · refine preConsumeBoth_error ?_ hroll h
    exact htok
  · exact preConsumeBoth_error htok hroll h

theorem tokenStep_books {q : Int} (hq : 0 ≤ q)
    (h : (if 0 < q then preConsumeTokenQuota env a info q db else .ok db) = .ok db') :
    db'.books = db.books.addToken info.tokenId (-tokenShare info q) := by
  split at h
  · exact preConsumeTokenQuota_books h
  · cases h
    obtain rfl : q = 0 := by omega
    simp [tokenShare]

theorem preConsumeBoth_ok {s' : BillingSession} (htok : s.tokenConsumed = 0) (hq : 0 ≤ quota)
    (h : s.preConsumeBoth env a quota db = (.ok s', db')) :
    ∃ db₁ f, db₁.books
        = db.books.addToken s.relayInfo.tokenId (-tokenShare s.relayInfo quota)
      ∧ s.funding.preConsume env a quota db₁ = .ok (f, db')
      ∧ s' = BillingSession.syncRelayInfo { s with
          funding := f, preConsumedQuota := quota, tokenConsumed := quota } := by
  unfold BillingSession.preConsumeBoth at h
  cases hpre : (if 0 < quota then preConsumeTokenQuota env a s.relayInfo quota db else .ok db) with
  | error e => rw [hpre] at h; cases (Prod.mk.inj h).1
  | ok db₁ =>
    have hcount : (if 0 < quota then quota else s.tokenConsumed) = quota := by
      split
      · rfl
      · omega
    simp only [hpre, hcount] at h
    cases hfund : s.funding.preConsume env a quota db₁ with
    | error c => rw [hfund] at h; cases (Prod.mk.inj h).1
    | ok r =>
      obtain ⟨f, db₂⟩ := r
      rw [hfund] at h
      obtain ⟨hs', rfl⟩ := Prod.mk.inj h
      exact ⟨db₁, f, tokenStep_books hq hpre, hfund, (Except.ok.inj hs').symm⟩

theorem walletPreConsume_ok {u : Nat} {q : Int} {f : Funding} (hq : 0 ≤ q)
    (h : (Funding.wallet u 0).preConsume env a q db = .ok (f, db')) :
    f = .wallet u q ∧ db'.books = db.books.addWallet u (-q) := by
  unfold Funding.preConsume at h
  simp only at h
  split at h
  · cases h
    obtain rfl : q = 0 := by omega
    exact ⟨rfl, by simp⟩
  · cases hdec : decreaseUserQuota env a.walletWrite u q false db with
    | error e => rw [hdec] at h; cases h
    | ok db₁ =>
      rw [hdec] at h
      cases h
      exact ⟨rfl, (writeUserQuota_books hdec).2⟩

theorem subPreConsume_ok {f : SubscriptionFunding} {q : Int} {g : Funding}
    (hnd : (db.subs.map (·.id)).Nodup) (hnew : findRecord db.records f.requestId = none)
    (h : (Funding.subscription f).preConsume env a q db = .ok (g, db')) :
    ∃ f', g = .subscription f' ∧ f'.requestId = f.requestId ∧ f'.userId = f.userId
      ∧ f'.preConsumed = f.amount ∧ 0 < f.amount ∧ blank f.requestId = false
      ∧ SubCharged env db.subs db'.subs f.userId f'.subscriptionId f.amount
      ∧ db' = { db with
          subs := db'.subs
          records := ⟨f.requestId, f.userId, f'.subscriptionId, f.amount, .consumed⟩
            :: db.records } := by
  unfold Funding.preConsume at h
  simp only at h
  cases hpre : preConsumeUserSubscription env a.preConsume f.requestId f.userId f.amount db with
  | error e => rw [hpre] at h; cases h
  | ok r =>
    obtain ⟨res, db₁⟩ := r
    rw [hpre] at h
    cases h
    obtain ⟨hblank, hpos, hres, hcharged, hdb⟩ := preConsume_ok hnd hnew hpre
    exact ⟨_, rfl, rfl, rfl, hres, hpos, hblank, hcharged, hdb⟩

/-- A session as its opening left it. -/
structure Opened (env : Env) (info : RelayInfo) (b b' : Books) (s : BillingSession) :
    Prop where
  charged : Charged env b b' s
  counters : Counters info s

theorem walletPreConsume_opened {t : Bool} {v : Int} (hq : 0 ≤ quota)
    (h : BillingSession.preConsumeBoth env a quota { BillingSession.fresh
      { info with userQuota := v } (.wallet info.userId 0) with trusted := t } db
        = (.ok s, db')) : Opened env info db.books db'.books s := by
  obtain ⟨db₁, f, hb, hfund, rfl⟩ := preConsumeBoth_ok (by rfl) hq h
  obtain ⟨rfl, hb'⟩ := walletPreConsume_ok hq hfund
  rw [hb] at hb'
  exact ⟨hb', rfl, rfl, rfl, hq, rfl, rfl, ⟨rfl, rfl, rfl⟩, rfl, rfl⟩

theorem tryWallet_opened (hq : 0 ≤ quota) (h : tryWallet env a info quota db = (.ok s, db')) :
    Opened env info db.books db'.books s := by
  unfold tryWallet at h
  cases hread : getUserQuota a.readUser a.userQuotaHit info.userId db with
  | error e => rw [hread] at h; cases (Prod.mk.inj h).1
  | ok userQuota =>
    rw [hread] at h
    simp only at h
    split at h
    · cases (Prod.mk.inj h).1
    split at h
    · cases (Prod.mk.inj h).1
    unfold BillingSession.preConsume at h
    split at h
    · exact walletPreConsume_opened (le_refl 0) h
    · exact walletPreConsume_opened hq h

theorem tryWallet_error (hroll : a.rollback = false)
    (h : tryWallet env a info quota db = (.error e, db')) : db' = db := by
  unfold tryWallet at h
  cases hread : getUserQuota a.readUser a.userQuotaHit info.userId db with
  | error e' =>
    rw [hread] at h
    exact (Prod.mk.inj h).2.symm
  | ok userQuota =>
    rw [hread] at h
    simp only at h
    split at h
    · exact (Prod.mk.inj h).2.symm
    split at h
    · exact (Prod.mk.inj h).2.symm
    · exact preConsume_error rfl hroll h

theorem trySubscription_opened (hnd : (db.subs.map (·.id)).Nodup)
    (hnew : findRecord db.records info.requestId = none)
    (h : trySubscription env a info quota db = (.ok s, db')) :
    Opened env info db.books db'.books s := by
  unfold trySubscription at h
  have hpos : 0 < (if quota ≤ 0 then 1 else quota) := by split <;> omega
  generalize (if quota ≤ 0 then 1 else quota) = q at h hpos
  simp only at h
  -- a subscription is never trusted
  have htrust : (BillingSession.fresh info (.subscription
      ⟨info.requestId, info.userId, q, 0, 0, 0, 0⟩)).shouldTrust env = false := by
    unfold BillingSession.shouldTrust
    simp [BillingSession.fresh, Funding.source]
  unfold BillingSession.preConsume at h
  rw [htrust] at h
  obtain ⟨db₁, f, hb, hfund, rfl⟩ := preConsumeBoth_ok (by rfl) hpos.le h
  have hsubs : db₁.subs = db.subs := congrArg Books.subs hb
  have hrecs : db₁.records = db.records := congrArg Books.records hb
  obtain ⟨f', rfl, hreq, huser, hpre, -, hblank, hch, hdb⟩ :=
    subPreConsume_ok (by rwa [hsubs]) (by rwa [hrecs]) hfund
  rw [hsubs] at hch
  have hbooks : db'.books = { db₁.books with
      subs := db'.subs
      records := ⟨info.requestId, info.userId, f'.subscriptionId, q, .consumed⟩
        :: db₁.books.records } := congrArg DB.books hdb
  rw [hb] at hbooks
  refine ⟨⟨?_, ?_⟩, rfl, rfl, rfl, hpos.le, rfl, rfl, ⟨rfl, rfl, rfl⟩, hreq, huser, hpre, ?_,
    rfl, ?_⟩
  · rw [huser]; exact hch
  · rw [hreq, huser]; exact hbooks
  · rw [hpre]; exact hpos
  · rw [hreq]; exact hblank

theorem trySubscription_error (hroll : a.rollback = false)
    (h : trySubscription env a info quota db = (.error e, db')) : db' = db :=
  preConsume_error rfl hroll h

end Opening

/-! ## The four preferences -/

/-- What one call of `NewBillingSession` may leave behind. -/
def OpenedOrUntouched (env : Env) (info : RelayInfo) (db : DB)
    (r : Except NewAPIError BillingSession × DB) : Prop :=
  match r with
  | (.ok s, db') => Opened env info db.books db'.books s
  | (.error _, db') => db' = db

section Preferences

variable {env : Env} {a : Answers} {info : RelayInfo} {quota : Int} {db : DB}

theorem tryWallet_atomic (hq : 0 ≤ quota) (hroll : a.rollback = false) :
    OpenedOrUntouched env info db (tryWallet env a info quota db) := by
  rcases h : tryWallet env a info quota db with ⟨e | s, db'⟩
  · exact tryWallet_error hroll h
  · exact tryWallet_opened hq h

theorem trySubscription_atomic (hnd : (db.subs.map (·.id)).Nodup)
    (hnew : findRecord db.records info.requestId = none) (hroll : a.rollback = false) :
    OpenedOrUntouched env info db (trySubscription env a info quota db) := by
  rcases h : trySubscription env a info quota db with ⟨e | s, db'⟩
  · exact trySubscription_error hroll h
  · exact trySubscription_opened hnd hnew h

end Preferences

theorem newBillingSession_opened {a : OpenAnswers} (hq : 0 ≤ quota)
    (hnd : (db.subs.map (·.id)).Nodup) (hnew : findRecord db.records info.requestId = none)
    (hw : a.wallet.rollback = false) (hs : a.subscription.rollback = false) :
    OpenedOrUntouched env info db (newBillingSession env a info quota db) := by
  have wallet : OpenedOrUntouched env info db (tryWallet env a.wallet info quota db) :=
    tryWallet_atomic hq hw
  have subscription :
      OpenedOrUntouched env info db (trySubscription env a.subscription info quota db) :=
    trySubscription_atomic hnd hnew hs
  unfold newBillingSession
  cases normalizeBillingPreference info.billingPreference with
  | subscriptionOnly => exact subscription
  | walletOnly => exact wallet
  | walletFirst =>
    simp only
    rcases hr : tryWallet env a.wallet info quota db with ⟨e | s, db₁⟩
    · obtain rfl := tryWallet_error hw hr
      simp only
      split
      · exact subscription
      · rfl
    · exact tryWallet_opened hq hr
  | subscriptionFirst =>
    simp only
    cases hasActiveUserSubscription env a.hasActive info.userId db with
    | error e => rfl
    | ok has =>
      cases has with
      | false => exact wallet
      | true =>
        simp only
        rcases hr : trySubscription env a.subscription info quota db with ⟨e | s, db₁⟩
        · obtain rfl := trySubscription_error hs hr
          simp only
          split
          · cases userActiveSubscriptionsAllowWalletOverflow env a.overflow info.userId
                db₁ with
            | error e' => rfl
            | ok allow =>
              cases allow with
              | true => exact wallet
              | false => rfl
          · rfl
        · exact trySubscription_opened hnd hnew hr

/-- One source charged, by the session's `preConsumedQuota`; the token by the
same amount, or by nothing for a playground; everything else untouched, but
for resets that were due. -/
structure ChargedOnce (env : Env) (info : RelayInfo) (b b' : Books) (s : BillingSession) :
    Prop where
  nonneg : 0 ≤ s.preConsumedQuota
  token : ∀ t, b'.token t
    = b.token t - if t = info.tokenId then tokenShare info s.preConsumedQuota else 0
  source : match s.funding with
    | .wallet _ _ => b'.subs = b.subs ∧ ∀ u, b'.wallet u
        = b.wallet u - if u = info.userId then s.preConsumedQuota else 0
    | .subscription f => b'.wallet = b.wallet
        ∧ SubCharged env b.subs b'.subs info.userId f.subscriptionId s.preConsumedQuota

theorem addToken_apply (b : Books) (t t' : Nat) (d : Int) :
    (b.addToken t (-d)).token t' = b.token t' - if t' = t then d else 0 := by
  unfold Books.addToken
  by_cases h : t' = t
  · subst h; simp; omega
  · simp [h]

theorem addWallet_apply (b : Books) (u u' : Nat) (d : Int) :
    (b.addWallet u (-d)).wallet u' = b.wallet u' - if u' = u then d else 0 := by
  unfold Books.addWallet
  by_cases h : u' = u
  · subst h; simp; omega
  · simp [h]

theorem Opened.chargedOnce {b b' : Books} (h : Opened env info b b' s) :
    ChargedOnce env info b b' s := by
  obtain ⟨hch, hcnt⟩ := h
  have hshare : tokenShare s.relayInfo s.preConsumedQuota
      = tokenShare info s.preConsumedQuota := by
    unfold tokenShare
    rw [hcnt.playground]
  have hheld := hcnt.held
  unfold Charged at hch
  rw [hshare, hcnt.tokenId] at hch
  cases hf : s.funding with
  | wallet u consumed =>
    rw [hf] at hch hheld
    simp only at hch hheld
    obtain ⟨rfl, -⟩ := hheld
    refine ⟨hcnt.nonneg, fun t => ?_, ?_⟩
    · rw [hch, Books.addWallet_token, addToken_apply]
    · rw [hf]
      exact ⟨by rw [hch]; rfl, fun u => by rw [hch, addWallet_apply]; rfl⟩
  | subscription f =>
    rw [hf] at hch hheld
    simp only at hch hheld
    obtain ⟨hsub, hb'⟩ := hch
    obtain ⟨-, huser, -⟩ := hheld
    refine ⟨hcnt.nonneg, fun t => ?_, ?_⟩
    · rw [hb']
      exact addToken_apply b info.tokenId t _
    · rw [hf]
      exact ⟨by rw [hb']; rfl, huser ▸ hsub⟩

theorem newBillingSession_atomic (env : Env) (a : OpenAnswers) (info : RelayInfo)
    (quota : Int) (db : DB) (hq : 0 ≤ quota) (hnd : (db.subs.map (·.id)).Nodup)
    (hnew : findRecord db.records info.requestId = none)
    (hw : a.wallet.rollback = false) (hs : a.subscription.rollback = false) :
    match newBillingSession env a info quota db with
    | (.ok s, db') => ChargedOnce env info db.books db'.books s
    | (.error _, db') => db' = db := by
  have h : OpenedOrUntouched env info db (newBillingSession env a info quota db) :=
    newBillingSession_opened hq hnd hnew hw hs
  rcases hr : newBillingSession env a info quota db with ⟨e | s, db'⟩
  · rw [hr] at h
    exact h
  · rw [hr] at h
    exact h.chargedOnce

/-! A user with an empty wallet and 900 left on a subscription asks for 10 with
the wallet preferred: the first choice fails and the subscription pays. -/

def fixedPeriods : Calendar where
  nextDay t := t + 86400
  nextMonday t := t + 604800
  nextMonth t := t + 2592000
  addYears t n := t + n * 31536000
  addMonths t n := t + n * 2592000
  lt_nextDay := lt_day_later
  lt_nextMonday := lt_week_later
  lt_nextMonth := lt_thirty_days_later

def openPlan : SubscriptionPlan where
  id := 1
  title := "basic"
  durationUnit := .day
  durationValue := 30
  customSeconds := 0
  maxPurchasePerUser := 0
  upgradeGroup := ""
  downgradeGroup := ""
  allowWalletOverflow := true
  totalAmount := 1000
  quotaResetPeriod := .never
  quotaResetCustomSeconds := 0

def openEnv : Env where
  batchUpdateEnabled := false
  trustQuota := 0
  cal := fixedPeriods
  plans n := if n = 1 then some openPlan else none
  dbNow := 50
  now := 50

def openInfo : RelayInfo where
  userId := 7
  tokenId := 3
  requestId := "r2"
  billingPreference := "wallet_first"
  isPlayground := false
  tokenUnlimited := false
  forcePreConsume := false
  tokenQuota := 500
  userQuota := 0
  finalPreConsumedQuota := 0
  billingSource := none
  subscriptionId := 0
  subscriptionPreConsumed := 0
  subscriptionPostDelta := 0
  subscriptionAmountTotal := 0
  subscriptionAmountUsedAfterPreConsume := 0

/-- `openDB` with 500 on the token and `w` in the wallet of user 7. -/
def fundedDB (w : Int) : DB :=
  { openDB with
    users := fun u => if u = 7 then w else 0
    tokens := fun _ => ⟨500, 0⟩ }

attribute [local semireducible] trimSpace

theorem newBillingSession_falls_back :
    (match newBillingSession openEnv {} openInfo 10 (fundedDB 0) with
      | (.ok s, db') => ChargedOnce openEnv openInfo (fundedDB 0).books db'.books s
      | (.error _, db') => db' = fundedDB 0)
    ∧ ((newBillingSession openEnv {} openInfo 10 (fundedDB 0)).1.toOption.map
        (·.funding.source)) = some .subscription :=
  ⟨newBillingSession_atomic openEnv {} openInfo 10 (fundedDB 0) (by decide) (by decide)
    (by decide) rfl rfl, by decide⟩

end YouBox
