import YouBox.BillingToken
import YouBox.Sched

/-!
# Recurring spend limits

A token with a `SpendLimit` and a recurring `ResetPeriod` has its
`remain_quota` set back to the limit by `ResetDueTokenSpendLimits` whenever
its window has elapsed. The reset overwrites; everything else that touches
the column adds or subtracts. A charge made before a reset is forgotten by
it, and giving that charge back afterwards adds it on top of a full budget.

The machine runs any number of requests (each the calls of a billing session,
one write on the token a step, the goroutine of `Refund` apart), resets (one
`UPDATE` a step, from a snapshot) and the flusher of the batched deltas. Each
request carries a ledger that the code does not have: what it has taken from
its token, net, in the current window.
-/

namespace YouBox

/-! ## The calendar

`time.AddDate` in UTC, on Unix seconds. -/

/-- Year, month and day of a day number, counted from 1970-01-01. -/
def civilOfDay (day : Int) : Int × Int × Int :=
  let z := day + 719468
  let era := z / 146097
  let doe := z - era * 146097
  let yoe := (doe - doe / 1460 + doe / 36524 - doe / 146096) / 365
  let doy := doe - (365 * yoe + yoe / 4 - yoe / 100)
  let mp := (5 * doy + 2) / 153
  let month := if mp < 10 then mp + 3 else mp - 9
  (yoe + era * 400 + (if month ≤ 2 then 1 else 0), month, doy - (153 * mp + 2) / 5 + 1)

/-- The day number of a date whose day may run over the end of its month. -/
def dayOfCivil (year month day : Int) : Int :=
  let y := if month ≤ 2 then year - 1 else year
  let era := y / 400
  let yoe := y - era * 400
  let doy := (153 * (if 2 < month then month - 3 else month + 9) + 2) / 5 + day - 1
  era * 146097 + (yoe * 365 + yoe / 4 - yoe / 100 + doy) - 719468

/-- `t.AddDate(0, 0, n)`. -/
def addDays (t n : Int) : Int := t + n * 86400

/-- `t.AddDate(0, 1, 0)`: the same day of the next month, or as many days
after its first as that is. -/
def addMonth (t : Int) : Int :=
  let (year, month, day) := civilOfDay (t / 86400)
  let first := if month = 12 then dayOfCivil (year + 1) 1 1 else dayOfCivil year (month + 1) 1
  (first + day - 1) * 86400 + t % 86400

-- 2024-01-31 12:00:00 to 2024-03-02 12:00:00, and 2023-12-15 to 2024-01-15
example : addMonth 1706702400 = 1709380800 ∧ addMonth 1702598400 = 1705276800 := by decide

/-! ## Windows -/

/-- `reset_period`; `none` stands for every value that is not recurring. -/
inductive TokenResetPeriod where
  | none
  | daily
  | weekly
  | monthly
deriving DecidableEq

/-- The columns of a token that the reset reads. -/
structure SpendWindow where
  spendLimit : Int
  resetPeriod : TokenResetPeriod
  nextResetTime : Int
deriving DecidableEq

def isValidResetPeriod (period : TokenResetPeriod) : Bool :=
  match period with
  | .daily | .weekly | .monthly => true
  | .none => false

def computeNextResetTime (start : Int) (period : TokenResetPeriod) : Int :=
  match period with
  | .daily => addDays start 1
  | .weekly => addDays start 7
  | .monthly => addMonth start
  | .none => 0

/-- `reset_period IN (?) AND spend_limit > 0 AND (next_reset_time = 0 OR
next_reset_time <= ?)`. -/
def SpendWindow.due (w : SpendWindow) (now : Int) : Bool :=
  isValidResetPeriod w.resetPeriod && decide (0 < w.spendLimit)
    && (w.nextResetTime == 0 || decide (w.nextResetTime ≤ now))

/-- A scheduled reset whose time has come. -/
def SpendWindow.elapsed (w : SpendWindow) (now : Int) : Bool :=
  w.nextResetTime != 0 && decide (w.nextResetTime ≤ now)

/-! ## The store -/

structure LimitDB where
  db : DB
  /-- The ids of the `tokens` table, in the order a `SELECT` returns them. -/
  ids : List Nat
  windows : Nat → SpendWindow
  /-- The entries the flusher has taken out of the pending deltas and not yet
  written. -/
  flushing : List (Nat × Int)
  /-- How often a token's window has been ended by a reset. Not a column. -/
  ended : Nat → Nat

namespace LimitDB

def remain (s : LimitDB) (t : Nat) : Int := (s.db.tokens t).remainQuota

def limit (s : LimitDB) (t : Nat) : Int := (s.windows t).spendLimit

/-- What the flusher is about to add to the row. -/
def held (s : LimitDB) (t : Nat) : Int :=
  ((s.flushing.filter fun entry => entry.1 == t).map Prod.snd).sum

/-- What the token has left once everything queued is written. -/
def left (s : LimitDB) (t : Nat) : Int := s.db.books.token t + s.held t

def setNextResetTime (s : LimitDB) (id : Nat) (next : Int) : Nat → SpendWindow :=
  Function.update s.windows id { s.windows id with nextResetTime := next }

/-- `Update("next_reset_time", next)`. -/
def schedule (s : LimitDB) (id : Nat) (next : Int) : LimitDB :=
  { s with windows := s.setNextResetTime id next }

/-- `Updates` of `remain_quota`, `used_quota` and `next_reset_time`. A window
ends when its time has come, not when a second reset follows the first. -/
def refill (s : LimitDB) (now : Int) (id : Nat) (spendLimit next : Int) : LimitDB :=
  { s with
    db := { s.db with tokens := Function.update s.db.tokens id ⟨spendLimit, 0⟩ }
    windows := s.setNextResetTime id next
    ended := Function.update s.ended id
      (s.ended id + if (s.windows id).elapsed now then 1 else 0) }

/-- The `SELECT` of `ResetDueTokenSpendLimits(limit)`. -/
def selectDue (s : LimitDB) (limit now : Int) : List (Nat × SpendWindow) :=
  let limit := if limit ≤ 0 then 500 else limit
  ((s.ids.filter fun id => (s.windows id).due now).take limit.toNat).map
    fun id => (id, s.windows id)

/-- The body of its loop for one selected token; `none` is `continue`. -/
def resetToken (s : LimitDB) (fails : Bool) (now : Int) (id : Nat) (token : SpendWindow) :
    Option LimitDB :=
  let next := computeNextResetTime now token.resetPeriod
  if next == 0 || fails then none
  else if token.nextResetTime == 0 then some (s.schedule id next)
  else some (s.refill now id token.spendLimit next)

/-- `batchUpdate` takes the pending entries of `keys` out of the store. -/
def takeBatch (s : LimitDB) (keys : List Nat) : LimitDB :=
  { s with
    db := { s.db with
      batchTokens := fun id => if id ∈ keys then 0 else s.db.batchTokens id }
    flushing := keys.map fun id => (id, s.db.batchTokens id) }

/-- Its `increaseTokenQuota(key, value)`; a failing statement loses the
entry. -/
def writeBatch (s : LimitDB) (fails : Bool) (id : Nat) (value : Int)
    (rest : List (Nat × Int)) : LimitDB :=
  let row := s.db.tokens id
  { s with
    db := { s.db with
      tokens := if fails then s.db.tokens
        else Function.update s.db.tokens id ⟨row.remainQuota + value, row.usedQuota - value⟩ }
    flushing := rest }

end LimitDB

/-! ## The executions -/

inductive RequestPc where
  /-- No session: before the opening, or after one that failed. -/
  | idle (info : RelayInfo)
  /-- The token is charged, the source is next. -/
  | taken (s : BillingSession) (quota : Int)
  /-- An open session, with the copy that the goroutine of `Refund` works on
  while that has not run. -/
  | session (s : BillingSession) (refund : Option BillingSession)

inductive ResetPc where
  | idle
  | loop (now : Int) (tokens : List (Nat × SpendWindow)) (processed : Nat)

/-- What a request has taken from its token, net, since the window numbered
`window` began. -/
structure Ledger where
  window : Nat
  net : Int

def Ledger.inWindow (g : Ledger) (window : Nat) : Int := if g.window = window then g.net else 0

inductive SpendExec where
  | request (pc : RequestPc) (ledger : Ledger)
  | reset (pc : ResetPc)
  | flusher

inductive SpendEvent where
  /-- An attempt to open a session on a source, with what `GetUserQuota`
  answered. -/
  | preConsume (f : Funding) (userQuota quota : Int) (a : Answers)
  | fund (a : Answers)
  | reserve (targetQuota : Int) (a : Answers)
  | settle (actualQuota : Int) (a : Answers)
  | refund
  | refundWrites (a : Answers)
  | select (limit now : Int) (fails : Bool)
  | update (fails : Bool)
  | takeBatch (keys : List Nat)
  | writeBatch (fails : Bool)

/-- The session an attempt starts from, and the amount it charges: nothing
for a trusted user. -/
def openAttempt (env : Env) (info : RelayInfo) (f : Funding) (userQuota quota : Int) :
    BillingSession × Int :=
  let s := BillingSession.fresh { info with userQuota := userQuota } f
  if s.shouldTrust env then ({ s with trusted := true }, 0) else (s, quota)

def requestNext (env : Env) (e : SpendEvent) (db : DB) (pc : RequestPc) :
    Option (DB × RequestPc) :=
  match pc, e with
  | .idle info, .preConsume f userQuota quota a =>
    let attempt := openAttempt env info f userQuota quota
    match attempt.1.preConsumeToken env a attempt.2 db with
    | .error _ => some (db, .idle info)
    | .ok db' => some (db', .taken attempt.1 attempt.2)
  | .taken s quota, .fund a =>
    match s.preConsumeFunding env a quota db with
    | (.error _, db') => some (db', .idle s.relayInfo)
    | (.ok s', db') => some (db', .session s' none)
  | .session s r, .reserve target a =>
    some ((s.reserve env a target db).2.2, .session (s.reserve env a target db).2.1 r)
  | .session s r, .settle actual a =>
    some ((s.settle env a actual db).2.2, .session (s.settle env a actual db).2.1 r)
  | .session s none, .refund =>
    if s.settled ∨ s.refunded ∨ s.needsRefund = false then some (db, .session s none)
    else some (db, .session { s with refunded := true } (some s))
  | .session s (some r), .refundWrites a => some (r.refundWrites env a db, .session s none)
  | _, _ => none

def resetNext (e : SpendEvent) (s : LimitDB) (pc : ResetPc) : Option (LimitDB × ResetPc) :=
  match pc, e with
  | .idle, .select limit now fails =>
    some (s, if fails then .idle else .loop now (s.selectDue limit now) 0)
  | .loop _ [] _, .update _ => some (s, .idle)
  | .loop now ((id, token) :: rest) processed, .update fails =>
    match s.resetToken fails now id token with
    | none => some (s, .loop now rest processed)
    | some s' => some (s', .loop now rest (processed + 1))
  | _, _ => none

def flushNext (e : SpendEvent) (s : LimitDB) : Option LimitDB :=
  match e, s.flushing with
  | .takeBatch keys, [] => if keys.Nodup then some (s.takeBatch keys) else none
  | .writeBatch fails, (id, value) :: rest => some (s.writeBatch fails id value rest)
  | _, _ => none

def RequestPc.info : RequestPc → RelayInfo
  | .idle info => info
  | .taken s _ => s.relayInfo
  | .session s _ => s.relayInfo

/-- The ledger after a step of its request: the token's difference goes to the
window that is open. -/
def Ledger.book (g : Ledger) (s : LimitDB) (t : Nat) (db' : DB) : Ledger :=
  ⟨s.ended t, g.inWindow (s.ended t) + (s.db.books.token t - db'.books.token t)⟩

def spendMachine (env : Env) : Sched.Machine LimitDB SpendExec SpendEvent where
  next e s l :=
    match l with
    | .request pc g =>
      (requestNext env e s.db pc).map fun r =>
        ({ s with db := r.1 }, .request r.2 (g.book s pc.info.tokenId r.1))
    | .reset pc => (resetNext e s pc).map fun r => (r.1, .reset r.2)
    | .flusher => (flushNext e s).map fun s' => (s', .flusher)

/-! ## What a request's step does -/

/-- What a step charges the token if its write succeeds; negative when it
gives back. -/
def tokenDelta (env : Env) (e : SpendEvent) (pc : RequestPc) : Int :=
  match pc, e with
  | .idle info, .preConsume f userQuota quota _ =>
    tokenShare info (max 0 (openAttempt env info f userQuota quota).2)
  | .taken s quota, .fund _ => tokenShare s.relayInfo (-s.rollbackAmount quota)
  | .session s _, .reserve target _ => tokenShare s.relayInfo (s.reserveDelta target)
  | .session s _, .settle actual _ => tokenShare s.relayInfo (s.settleDelta actual)
  | .session _ (some r), .refundWrites _ => tokenShare r.relayInfo (-max 0 r.tokenConsumed)
  | _, _ => 0

/-- The copy a refund works on is of the same token as the session. -/
def RequestPc.OneToken : RequestPc → Prop
  | .session s (some r) => SameToken s.relayInfo r.relayInfo
  | _ => True

/-- Everything a request's step does to the tokens. -/
structure RequestStep (env : Env) (e : SpendEvent) (db db' : DB) (pc pc' : RequestPc) : Prop where
  token : pc'.info.tokenId = pc.info.tokenId
  one : pc'.OneToken
  move : ∃ paid, (paid = 0 ∨ paid = tokenDelta env e pc)
    ∧ TokenMove env pc.info.tokenId (-paid) db db'

theorem openAttempt_sameToken (env : Env) (info : RelayInfo) (f : Funding) (userQuota quota : Int) :
    SameToken info (openAttempt env info f userQuota quota).1.relayInfo := by
  unfold openAttempt
  simp only
  split
  · exact ⟨rfl, rfl⟩
  · exact ⟨rfl, rfl⟩

theorem tokenShare_congr {info info' : RelayInfo} (h : SameToken info info') (d : Int) :
    tokenShare info' d = tokenShare info d := by
  unfold tokenShare
  rw [h.2]

theorem SameToken.trans {i j k : RelayInfo} (h : SameToken i j) (h' : SameToken j k) :
    SameToken i k :=
  ⟨h'.1.trans h.1, h'.2.trans h.2⟩

theorem SameToken.symm {i j : RelayInfo} (h : SameToken i j) : SameToken j i :=
  ⟨h.1.symm, h.2.symm⟩

/-- A call on the open session that stays on the token keeps the copy of a
pending refund on it. -/
theorem oneToken_session {s s' : BillingSession} {r : Option BillingSession}
    (h : (RequestPc.session s r).OneToken) (hsame : SameToken s.relayInfo s'.relayInfo) :
    (RequestPc.session s' r).OneToken := by
  cases r with
  | none => trivial
  | some r => exact hsame.symm.trans h

theorem request_step {env : Env} {e : SpendEvent} {db db' : DB} {pc pc' : RequestPc}
    (hone : pc.OneToken) (h : requestNext env e db pc = some (db', pc')) :
    RequestStep env e db db' pc pc' := by
  unfold requestNext at h
  split at h
  · -- the token's half of an opening
    rename_i info f userQuota quota a
    have hsame := openAttempt_sameToken env info f userQuota quota
    simp only at h
    split at h
    · cases h
      exact ⟨rfl, trivial, 0, Or.inl rfl, TokenMove.of_kept (TokensKept.refl _)⟩
    · rename_i hpre
      cases h
      obtain ⟨paid, hpaid, hmove⟩ := preConsumeToken_charged hpre
      rw [tokenShare_congr hsame] at hpaid
      rw [hsame.1] at hmove
      exact ⟨hsame.1, trivial, paid, hpaid, hmove⟩
  · -- the source's half
    rename_i s quota a
    have hcharged : TokenCharged env s.relayInfo (-s.rollbackAmount quota) db
        (s.preConsumeFunding env a quota db).2 := preConsumeFunding_charged
    split at h
    · rename_i hfund
      cases h
      rw [hfund] at hcharged
      exact ⟨rfl, trivial, hcharged⟩
    · rename_i hfund
      cases h
      rw [hfund] at hcharged
      exact ⟨(preConsumeFunding_sameToken hfund).1, trivial, hcharged⟩
  · rename_i s r target a
    cases h
    have hsame : SameToken s.relayInfo (s.reserve env a target db).2.1.relayInfo :=
      reserve_sameToken target
    exact ⟨hsame.1, oneToken_session hone hsame, reserve_charged target⟩
  · rename_i s r actual a
    cases h
    have hsame : SameToken s.relayInfo (s.settle env a actual db).2.1.relayInfo :=
      settle_sameToken actual
    exact ⟨hsame.1, oneToken_session hone hsame, settle_charged actual⟩
  · split at h
    · cases h
      exact ⟨rfl, trivial, 0, Or.inl rfl, TokenMove.of_kept (TokensKept.refl _)⟩
    · cases h
      exact ⟨rfl, ⟨rfl, rfl⟩, 0, Or.inl rfl, TokenMove.of_kept (TokensKept.refl _)⟩
  · rename_i s r a
    cases h
    have hsame : SameToken s.relayInfo r.relayInfo := hone
    have hcharged : TokenCharged env r.relayInfo (-max 0 r.tokenConsumed) db
        (r.refundWrites env a db) := refundWrites_charged
    obtain ⟨paid, hpaid, hmove⟩ := hcharged
    rw [hsame.1] at hmove
    exact ⟨rfl, trivial, paid, hpaid, hmove⟩
  · cases h

end YouBox
