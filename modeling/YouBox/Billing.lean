import YouBox.SubRefund

/-!
# Billing sessions

`BillingSession` and `NewBillingSession`: the life of one request's charge,
from the pre-consume through any number of reserves to a settlement or a
refund. Every charge is made twice, once on a funding source (the wallet or a
subscription) and once on the token, by separate writes with hand-written
rollback; a function that fails half-way therefore returns the database it
leaves behind next to its error.

`Answers` is what the outside decides during one call: what Redis holds, and
which of the call's writes fail. All of it is an input, so that the theorems
quantify over it.

The goroutine of `Refund` is run in place: nothing else touches the
rows of a session, and the session itself is not read by it.
-/

namespace YouBox

/-! ## What a session reads and writes -/

inductive BillingPreference where
  | subscriptionFirst
  | walletFirst
  | subscriptionOnly
  | walletOnly

def normalizeBillingPreference (pref : String) : BillingPreference :=
  let pref := trimSpace pref
  if pref = "wallet_first" then .walletFirst
  else if pref = "subscription_only" then .subscriptionOnly
  else if pref = "wallet_only" then .walletOnly
  else .subscriptionFirst

inductive Source where
  | wallet
  | subscription
deriving DecidableEq

/-- The fields of `RelayInfo` that billing uses, with `token_quota` of the gin
context beside them. -/
structure RelayInfo where
  userId : Nat
  tokenId : Nat
  requestId : String
  billingPreference : String
  isPlayground : Bool
  tokenUnlimited : Bool
  forcePreConsume : Bool
  tokenQuota : Int
  userQuota : Int
  finalPreConsumedQuota : Int
  billingSource : Option Source
  subscriptionId : Nat
  subscriptionPreConsumed : Int
  subscriptionPostDelta : Int
  subscriptionAmountTotal : Int
  subscriptionAmountUsedAfterPreConsume : Int

inductive ErrorCode where
  | insufficientUserQuota
  | preConsumeTokenQuotaFailed
  | updateDataError
  | queryDataError
deriving DecidableEq

inductive Cause where
  | quota (e : QuotaErr)
  | sub (e : SubErr)
  /-- `用户额度不足, 剩余额度: ..` -/
  | userQuotaEmpty (remain : Int)
  /-- `预扣费额度失败, 用户剩余额度: .., 需要预扣费额度: ..` -/
  | userQuotaShort (remain need : Int)
  /-- `订阅额度不足或未配置订阅: ..` -/
  | subscriptionShort (e : SubErr)

structure NewAPIError where
  code : ErrorCode
  cause : Cause

/-- What the outside answers during one call. A `Bool` field says that the
write or read of that name fails. -/
structure Answers where
  userQuotaHit : Option Int := none
  tokenRemainHit : Option Int := none
  readUser : Bool := false
  readToken : Bool := false
  tokenWrite : Bool := false
  walletWrite : Bool := false
  subWrite : Bool := false
  preConsume : Option PreStmt := none
  rollback : Bool := false
  refund : Nat → Option RefundStmt := fun _ => none

/-- An error that is only logged: the write did not happen. -/
def orKeep {ε : Type} (r : Except ε DB) (db : DB) : DB :=
  match r with
  | .ok db' => db'
  | .error _ => db

def preConsumeTokenQuota (env : Env) (a : Answers) (info : RelayInfo) (quota : Int)
    (db : DB) : Except QuotaErr DB :=
  if quota < 0 then .error .negative
  else if info.isPlayground then .ok db
  else
    match getTokenRemain a.readToken a.tokenRemainHit info.tokenId db with
    | .error e => .error e
    | .ok remain =>
      if !info.tokenUnlimited && decide (remain < quota) then
        .error (.tokenNotEnough remain quota)
      else decreaseTokenQuota env a.tokenWrite info.tokenId quota db

/-! ## Funding sources -/

structure SubscriptionFunding where
  requestId : String
  userId : Nat
  amount : Int
  subscriptionId : Nat
  preConsumed : Int
  amountTotal : Int
  amountUsedAfter : Int

inductive Funding where
  | wallet (userId : Nat) (consumed : Int)
  | subscription (f : SubscriptionFunding)

namespace Funding

def source : Funding → Source
  | .wallet _ _ => .wallet
  | .subscription _ => .subscription

def preConsume (env : Env) (a : Answers) (amount : Int) (f : Funding) (db : DB) :
    Except Cause (Funding × DB) :=
  match f with
  | .wallet u consumed =>
    if amount ≤ 0 then .ok (.wallet u consumed, db)
    else
      match decreaseUserQuota env a.walletWrite u amount false db with
      | .error e => .error (.quota e)
      | .ok db' => .ok (.wallet u amount, db')
  | .subscription f =>
    -- the argument is ignored: the amount was fixed when the source was built
    match preConsumeUserSubscription env a.preConsume f.requestId f.userId f.amount db with
    | .error e => .error (.sub e)
    | .ok (res, db') =>
      .ok (.subscription { f with
        subscriptionId := res.userSubscriptionId
        preConsumed := res.preConsumed
        amountTotal := res.amountTotal
        amountUsedAfter := res.amountUsedAfter }, db')

def settle (env : Env) (a : Answers) (delta : Int) (f : Funding) (db : DB) :
    Except Cause DB :=
  if delta = 0 then .ok db
  else
    match f with
    | .wallet u _ =>
      if 0 < delta then (decreaseUserQuota env a.walletWrite u delta false db).mapError .quota
      else (increaseUserQuota env a.walletWrite u (-delta) false db).mapError .quota
    | .subscription f =>
      (postConsumeUserSubscriptionDelta a.subWrite f.subscriptionId delta db).mapError .sub

def refund (env : Env) (a : Answers) (f : Funding) (db : DB) : Option Cause × DB :=
  match f with
  | .wallet u consumed =>
    if consumed ≤ 0 then (none, db)
    else
      match increaseUserQuota env a.walletWrite u consumed false db with
      | .error e => (some (.quota e), db)
      | .ok db' => (none, db')
  | .subscription f =>
    let r := subscriptionFundingRefund a.refund f.requestId f.preConsumed db
    (r.1.map .sub, r.2)

/-- `reserveFunding`; the wallet counts what it holds, the subscription does
not. -/
def reserve (env : Env) (a : Answers) (delta : Int) (f : Funding) (db : DB) :
    Except NewAPIError (Funding × DB) :=
  match f with
  | .wallet u consumed =>
    match decreaseUserQuota env a.walletWrite u delta false db with
    | .error e => .error ⟨.updateDataError, .quota e⟩
    | .ok db' => .ok (.wallet u (consumed + delta), db')
  | .subscription f =>
    match postConsumeUserSubscriptionDelta a.subWrite f.subscriptionId delta db with
    | .error e => .error ⟨.insufficientUserQuota, .subscriptionShort e⟩
    | .ok db' => .ok (.subscription f, db')

/-- `rollbackFundingReserve`. -/
def rollback (env : Env) (a : Answers) (delta : Int) (f : Funding) (db : DB) :
    Funding × DB :=
  match f with
  | .wallet u consumed =>
    match increaseUserQuota env a.rollback u delta false db with
    | .error _ => (.wallet u consumed, db)
    | .ok db' => (.wallet u (consumed - delta), db')
  | .subscription f =>
    (.subscription f,
      orKeep (postConsumeUserSubscriptionDelta a.rollback f.subscriptionId (-delta) db) db)

end Funding

/-! ## The session -/

structure BillingSession where
  relayInfo : RelayInfo
  funding : Funding
  preConsumedQuota : Int
  tokenConsumed : Int
  extraReserved : Int
  trusted : Bool
  fundingSettled : Bool
  settled : Bool
  refunded : Bool

namespace BillingSession

/-- `&BillingSession{relayInfo: .., funding: ..}`. -/
def fresh (info : RelayInfo) (f : Funding) : BillingSession :=
  ⟨info, f, 0, 0, 0, false, false, false, false⟩

def shouldTrust (env : Env) (s : BillingSession) : Bool :=
  !s.relayInfo.forcePreConsume && decide (0 < env.trustQuota)
    && (s.relayInfo.tokenUnlimited || decide (s.relayInfo.tokenQuota > env.trustQuota))
    && match s.funding.source with
      | .wallet => decide (s.relayInfo.userQuota > env.trustQuota)
      | .subscription => false

def syncRelayInfo (s : BillingSession) : BillingSession :=
  let info := { s.relayInfo with
    finalPreConsumedQuota := s.preConsumedQuota
    billingSource := some s.funding.source }
  match s.funding with
  | .subscription f =>
    { s with relayInfo := { info with
        subscriptionId := f.subscriptionId
        subscriptionPreConsumed := f.preConsumed + s.extraReserved
        subscriptionPostDelta := 0
        subscriptionAmountTotal := f.amountTotal
        subscriptionAmountUsedAfterPreConsume := f.amountUsedAfter + s.extraReserved } }
  | .wallet _ _ =>
    { s with relayInfo := { info with subscriptionId := 0, subscriptionPreConsumed := 0 } }

/-- The error the session reports for a failed `funding.PreConsume`: the two
subscription shortages, which the source recognises by their text, count as
insufficient quota. -/
def fundingError : Cause → NewAPIError
  | .sub .noActiveSubscription => ⟨.insufficientUserQuota, .subscriptionShort .noActiveSubscription⟩
  | .sub (.quotaInsufficient need) =>
    ⟨.insufficientUserQuota, .subscriptionShort (.quotaInsufficient need)⟩
  | c => ⟨.updateDataError, c⟩

/-- Steps 1 and 2 of `preConsume`: the token, then the funding source. -/
def preConsumeBoth (env : Env) (a : Answers) (effectiveQuota : Int) (s : BillingSession)
    (db : DB) : Except NewAPIError BillingSession × DB :=
  match (if 0 < effectiveQuota then preConsumeTokenQuota env a s.relayInfo effectiveQuota db
    else .ok db) with
  | .error e => (.error ⟨.preConsumeTokenQuotaFailed, .quota e⟩, db)
  | .ok db₁ =>
    let tokenConsumed := if 0 < effectiveQuota then effectiveQuota else s.tokenConsumed
    match s.funding.preConsume env a effectiveQuota db₁ with
    | .error e =>
      (.error (fundingError e),
        if 0 < tokenConsumed ∧ s.relayInfo.isPlayground = false then
          orKeep (increaseTokenQuota env a.rollback s.relayInfo.tokenId tokenConsumed db₁) db₁
        else db₁)
    | .ok (f, db₂) =>
      (.ok (syncRelayInfo { s with
        funding := f
        preConsumedQuota := effectiveQuota
        tokenConsumed := tokenConsumed }), db₂)

def preConsume (env : Env) (a : Answers) (quota : Int) (s : BillingSession) (db : DB) :
    Except NewAPIError BillingSession × DB :=
  if s.shouldTrust env then preConsumeBoth env a 0 { s with trusted := true } db
  else preConsumeBoth env a quota s db

def reserveToken (env : Env) (a : Answers) (delta : Int) (s : BillingSession) (db : DB) :
    Except NewAPIError DB :=
  if delta ≤ 0 ∨ s.relayInfo.isPlayground = true then .ok db
  else
    match preConsumeTokenQuota env a s.relayInfo delta db with
    | .error e => .error ⟨.preConsumeTokenQuotaFailed, .quota e⟩
    | .ok db' => .ok db'

def reserve (env : Env) (a : Answers) (targetQuota : Int) (s : BillingSession) (db : DB) :
    Option NewAPIError × BillingSession × DB :=
  if s.settled ∨ s.refunded ∨ targetQuota ≤ s.preConsumedQuota then (none, s, db)
  else
    let delta := targetQuota - s.preConsumedQuota
    match s.funding.reserve env a delta db with
    | .error e => (some e, s, db)
    | .ok (f, db₁) =>
      match s.reserveToken env a delta db₁ with
      | .error e =>
        let r := f.rollback env a delta db₁
        (some e, { s with funding := r.1 }, r.2)
      | .ok db₂ =>
        (none, syncRelayInfo { s with
          funding := f
          preConsumedQuota := s.preConsumedQuota + delta
          tokenConsumed := s.tokenConsumed + delta
          extraReserved := s.extraReserved + delta
          trusted := false }, db₂)

/-- Step 2 of `Settle`, on the token. -/
def settleToken (env : Env) (a : Answers) (delta : Int) (s : BillingSession) (db : DB) :
    Except QuotaErr DB :=
  if s.relayInfo.isPlayground then .ok db
  else if 0 < delta then decreaseTokenQuota env a.tokenWrite s.relayInfo.tokenId delta db
  else increaseTokenQuota env a.tokenWrite s.relayInfo.tokenId (-delta) db

def notePostDelta (delta : Int) (s : BillingSession) : BillingSession :=
  match s.funding.source with
  | .subscription =>
    { s with relayInfo := { s.relayInfo with
        subscriptionPostDelta := s.relayInfo.subscriptionPostDelta + delta } }
  | .wallet => s

def settle (env : Env) (a : Answers) (actualQuota : Int) (s : BillingSession) (db : DB) :
    Option Cause × BillingSession × DB :=
  if s.settled then (none, s, db)
  else
    let delta := actualQuota - s.preConsumedQuota
    if delta = 0 then (none, { s with settled := true }, db)
    else
      match (if s.fundingSettled then .ok db else s.funding.settle env a delta db) with
      | .error e => (some e, s, db)
      | .ok db₁ =>
        let s := { s with fundingSettled := true }
        match s.settleToken env a delta db₁ with
        | .error e => (some (.quota e), { s.notePostDelta delta with settled := true }, db₁)
        | .ok db₂ => (none, { s.notePostDelta delta with settled := true }, db₂)

def needsRefund (s : BillingSession) : Bool :=
  if s.settled || s.refunded || s.fundingSettled then false
  else if 0 < s.tokenConsumed then true
  else
    match s.funding with
    | .subscription f => decide (0 < f.preConsumed)
    | .wallet _ _ => false

/-- The goroutine of `Refund`. -/
def refundWrites (env : Env) (a : Answers) (s : BillingSession) (db : DB) : DB :=
  let db₁ := (s.funding.refund env a db).2
  let db₂ :=
    if 0 < s.extraReserved ∧ s.funding.source = .subscription ∧ s.relayInfo.subscriptionId ≠ 0
    then orKeep (postConsumeUserSubscriptionDelta a.subWrite s.relayInfo.subscriptionId
      (-s.extraReserved) db₁) db₁
    else db₁
  if 0 < s.tokenConsumed ∧ s.relayInfo.isPlayground = false then
    orKeep (increaseTokenQuota env a.tokenWrite s.relayInfo.tokenId s.tokenConsumed db₂) db₂
  else db₂

def refund (env : Env) (a : Answers) (s : BillingSession) (db : DB) : BillingSession × DB :=
  if s.settled ∨ s.refunded ∨ s.needsRefund = false then (s, db)
  else ({ s with refunded := true }, s.refundWrites env a db)

end BillingSession

/-! ## Opening a session -/

/-- The answers to the two attempts of one opening, and whether the two
queries between them fail. -/
structure OpenAnswers where
  wallet : Answers := {}
  subscription : Answers := {}
  hasActive : Bool := false
  overflow : Bool := false

/-- `WHERE user_id = ? AND status = 'active' AND end_time > ?`. -/
def isActiveFor (now : Int) (userId : Nat) (s : UserSubscription) : Bool :=
  decide (s.userId = userId ∧ s.status = .active ∧ s.endTime > now)

def hasActiveUserSubscription (env : Env) (fails : Bool) (userId : Nat) (db : DB) :
    Except SubErr Bool :=
  if userId = 0 then .error .invalidUserId
  else if fails then .error .db
  else .ok (db.subs.any (isActiveFor env.now userId))

def userActiveSubscriptionsAllowWalletOverflow (env : Env) (fails : Bool) (userId : Nat)
    (db : DB) : Except SubErr Bool :=
  if userId = 0 then .error .invalidUserId
  else if fails then .error .db
  else .ok (!db.subs.any fun s => isActiveFor env.now userId s && !s.allowWalletOverflow)

def tryWallet (env : Env) (a : Answers) (info : RelayInfo) (preConsumedQuota : Int)
    (db : DB) : Except NewAPIError BillingSession × DB :=
  match getUserQuota a.readUser a.userQuotaHit info.userId db with
  | .error e => (.error ⟨.queryDataError, .quota e⟩, db)
  | .ok userQuota =>
    if userQuota ≤ 0 then (.error ⟨.insufficientUserQuota, .userQuotaEmpty userQuota⟩, db)
    else if userQuota - preConsumedQuota < 0 then
      (.error ⟨.insufficientUserQuota, .userQuotaShort userQuota preConsumedQuota⟩, db)
    else
      (BillingSession.fresh { info with userQuota := userQuota } (.wallet info.userId 0)).preConsume
        env a preConsumedQuota db

def trySubscription (env : Env) (a : Answers) (info : RelayInfo) (preConsumedQuota : Int)
    (db : DB) : Except NewAPIError BillingSession × DB :=
  let subConsume := if preConsumedQuota ≤ 0 then 1 else preConsumedQuota
  (BillingSession.fresh info
    (.subscription ⟨info.requestId, info.userId, subConsume, 0, 0, 0, 0⟩)).preConsume
      env a subConsume db

def newBillingSession (env : Env) (a : OpenAnswers) (info : RelayInfo)
    (preConsumedQuota : Int) (db : DB) : Except NewAPIError BillingSession × DB :=
  match normalizeBillingPreference info.billingPreference with
  | .subscriptionOnly => trySubscription env a.subscription info preConsumedQuota db
  | .walletOnly => tryWallet env a.wallet info preConsumedQuota db
  | .walletFirst =>
    match tryWallet env a.wallet info preConsumedQuota db with
    | (.error e, db₁) =>
      if e.code = .insufficientUserQuota then
        trySubscription env a.subscription info preConsumedQuota db₁
      else (.error e, db₁)
    | (.ok s, db₁) => (.ok s, db₁)
  | .subscriptionFirst =>
    match hasActiveUserSubscription env a.hasActive info.userId db with
    | .error e => (.error ⟨.queryDataError, .sub e⟩, db)
    | .ok false => tryWallet env a.wallet info preConsumedQuota db
    | .ok true =>
      match trySubscription env a.subscription info preConsumedQuota db with
      | (.ok s, db₁) => (.ok s, db₁)
      | (.error e, db₁) =>
        if e.code = .insufficientUserQuota then
          match userActiveSubscriptionsAllowWalletOverflow env a.overflow info.userId db₁ with
          | .error e' => (.error ⟨.queryDataError, .sub e'⟩, db₁)
          | .ok true => tryWallet env a.wallet info preConsumedQuota db₁
          | .ok false => (.error e, db₁)
        else (.error e, db₁)

end YouBox
