import YouBox.TopUp

/-!
# Redemption codes

`Redeem` as a transaction that runs interleaved with any number of others, one
statement a step: SELECT the code by its key, check its status and its expiry,
the conditional UPDATE that turns it from enabled to used, the UPDATE that
credits the caller, COMMIT or ROLLBACK. Any statement may fail.

An UPDATE takes the lock of the row it writes until the transaction ends, and
waits while another transaction has it; so does the SELECT on a database where
`lockForUpdate` locks (`locking`; on SQLite it does nothing). What a transaction
has written becomes visible when it commits.

Nothing here relies on the first check: two calls may both have read the code
as enabled. What counts is that the UPDATE evaluates its condition under the
lock (`TxOk`), so that whoever gets past it is the only one until it ends, and
after its commit nobody gets past it again.
-/

namespace YouBox

/-! ## Rows -/

inductive RedemptionStatus where
  | enabled
  | disabled
  | used
deriving DecidableEq

/-- A row of `redemptions`; `deleted` is gorm's soft delete, which every query
filters out. -/
structure Redemption where
  id : Nat
  key : String
  status : RedemptionStatus
  quota : Int
  redeemedTime : Int
  usedUserId : Nat
  expiredTime : Int
  deleted : Bool

/-- What the conditional UPDATE sets. -/
def Redemption.redeem (r : Redemption) (userId : Nat) (now : Int) : Redemption :=
  { r with redeemedTime := now, status := .used, usedUserId := userId }

/-- `WHERE id = ? AND status = ?` of the conditional UPDATE. -/
def Redemption.claimable (id : Nat) (r : Redemption) : Bool :=
  r.id == id && r.status == .enabled && !r.deleted

/-- The two tables `Redeem` works on: the codes, and the quota of every user. -/
structure RedeemTables where
  codes : List Redemption
  quota : Nat → Option Int

/-- The tables as committed, and the row locks taken. -/
structure RedeemDB extends RedeemTables where
  codeLock : Nat → Bool
  userLock : Nat → Bool

namespace RedeemDB

def selectByKey (s : RedeemDB) (key : String) : Option Redemption :=
  s.codes.find? (fun r => r.key == key && !r.deleted)

def setCodeLock (s : RedeemDB) (id : Nat) (b : Bool) : RedeemDB :=
  { s with codeLock := Function.update s.codeLock id b }

def setUserLock (s : RedeemDB) (userId : Nat) (b : Bool) : RedeemDB :=
  { s with userLock := Function.update s.userLock userId b }

/-- What a committed call has written: the code and its caller's quota. -/
def write (s : RedeemDB) (id userId : Nat) (now : Int) (quota : Option Int) : RedeemDB :=
  { s with
    codes := s.codes.map (fun r => if r.claimable id then r.redeem userId now else r)
    quota := Function.update s.quota userId quota }

@[simp] theorem setCodeLock_codes (s : RedeemDB) (id : Nat) (b : Bool) :
    (s.setCodeLock id b).codes = s.codes := rfl

@[simp] theorem setCodeLock_quota (s : RedeemDB) (id : Nat) (b : Bool) :
    (s.setCodeLock id b).quota = s.quota := rfl

@[simp] theorem setCodeLock_userLock (s : RedeemDB) (id : Nat) (b : Bool) :
    (s.setCodeLock id b).userLock = s.userLock := rfl

@[simp] theorem setUserLock_codes (s : RedeemDB) (u : Nat) (b : Bool) :
    (s.setUserLock u b).codes = s.codes := rfl

@[simp] theorem setUserLock_quota (s : RedeemDB) (u : Nat) (b : Bool) :
    (s.setUserLock u b).quota = s.quota := rfl

@[simp] theorem setUserLock_codeLock (s : RedeemDB) (u : Nat) (b : Bool) :
    (s.setUserLock u b).codeLock = s.codeLock := rfl

@[simp] theorem write_codeLock (s : RedeemDB) (id u : Nat) (now : Int) (q : Option Int) :
    (s.write id u now q).codeLock = s.codeLock := rfl

@[simp] theorem write_userLock (s : RedeemDB) (id u : Nat) (now : Int) (q : Option Int) :
    (s.write id u now q).userLock = s.userLock := rfl

end RedeemDB

/-! ## One call -/

/-- Why the transaction rolled back; the caller only sees `ErrRedeemFailed`. -/
inductive RedeemFailure where
  /-- `无效的兑换码` -/
  | invalidCode
  /-- `该兑换码已被使用` -/
  | alreadyUsed
  /-- `该兑换码已过期` -/
  | expired
  | db

inductive RedeemErr where
  /-- `未提供兑换码` -/
  | noKey
  /-- `无效的 user id` -/
  | invalidUserId
  /-- `ErrRedeemFailed`, after the failure has been logged -/
  | redeemFailed (why : RedeemFailure)

structure RedeemCall where
  key : String
  userId : Nat

/-- Where a call stands; `r` is the row its SELECT read. -/
inductive RedeemPc where
  | start
  | select
  | check (r : Redemption)
  | update (r : Redemption)
  | credit (r : Redemption) (now : Int)
  | commit (r : Redemption) (now : Int) (quota : Option Int)
  | rollback (held : Option Nat) (why : RedeemFailure)
  | refused (err : RedeemErr)
  /-- The call has returned `r.quota`. -/
  | returned (r : Redemption)

structure RedeemTx where
  call : RedeemCall
  pc : RedeemPc

/-- The code a transaction has locked by its SELECT. -/
def selectLock (locking : Bool) (r : Redemption) : Option Nat :=
  if locking then some r.id else none

def RedeemDB.unlockCode (s : RedeemDB) : Option Nat → RedeemDB
  | none => s
  | some id => s.setCodeLock id false

def RedeemCall.next (call : RedeemCall) (locking : Bool) (tick : Tick) (s : RedeemDB) :
    RedeemPc → Option (RedeemDB × RedeemPc)
  | .start =>
    if call.key == "" then some (s, .refused .noKey)
    else if call.userId == 0 then some (s, .refused .invalidUserId)
    else some (s, .select)
  | .select =>
    if tick.fails then some (s, .rollback none .invalidCode)
    else
      match s.selectByKey call.key with
      | none => some (s, .rollback none .invalidCode)
      | some r =>
        if !locking then some (s, .check r)
        else if s.codeLock r.id then none
        else some (s.setCodeLock r.id true, .check r)
  | .check r =>
    if r.status ≠ .enabled then some (s, .rollback (selectLock locking r) .alreadyUsed)
    else if r.expiredTime ≠ 0 ∧ r.expiredTime < tick.now then
      some (s, .rollback (selectLock locking r) .expired)
    else some (s, .update r)
  | .update r =>
    if tick.fails then some (s, .rollback (selectLock locking r) .db)
    else if !locking && s.codeLock r.id then none
    else if s.codes.any (Redemption.claimable r.id) then
      some (s.setCodeLock r.id true, .credit r tick.now)
    else some (s, .rollback (selectLock locking r) .alreadyUsed)
  | .credit r now =>
    if tick.fails then some (s, .rollback (some r.id) .db)
    else if s.userLock call.userId then none
    else some (s.setUserLock call.userId true,
      .commit r now ((s.quota call.userId).map (· + r.quota)))
  | .commit r now q =>
    let s' := if tick.fails then s else s.write r.id call.userId now q
    some ((s'.setUserLock call.userId false).setCodeLock r.id false,
      if tick.fails then .refused (.redeemFailed .db) else .returned r)
  | .rollback held why => some (s.unlockCode held, .refused (.redeemFailed why))
  | .refused _ => none
  | .returned _ => none

def redeemMachine (locking : Bool) : Sched.Machine RedeemDB RedeemTx Tick where
  next tick s t :=
    (t.call.next locking tick s t.pc).map (fun p => (p.1, { t with pc := p.2 }))

/-- Any number of calls about to start, on tables nobody has locked. -/
def RedeemTables.start (db : RedeemTables) (calls : List RedeemCall) :
    Sched.Conf RedeemDB RedeemTx :=
  ⟨{ db with codeLock := fun _ => false, userLock := fun _ => false },
    calls.map (fun call => ⟨call, .start⟩)⟩

/-! ## What one step does -/

/-- The code locked by a call at this point. -/
def RedeemPc.lockedCode (locking : Bool) : RedeemPc → Option Nat
  | .check r | .update r => selectLock locking r
  | .credit r _ | .commit r _ _ => some r.id
  | .rollback held _ => held
  | _ => none

/-- The user locked by a call at this point. -/
def RedeemTx.lockedUser (t : RedeemTx) : Option Nat :=
  match t.pc with
  | .commit _ _ _ => some t.call.userId
  | _ => none

/-- The code a call has redeemed. -/
def RedeemPc.redeemed : RedeemPc → Option Redemption
  | .returned r => some r
  | _ => none

inductive RedeemStep (locking : Bool) (s : RedeemDB) (call : RedeemCall) :
    RedeemPc → RedeemDB → RedeemPc → Prop
  | refuse {err} : RedeemStep locking s call .start s (.refused err)
  | begin : RedeemStep locking s call .start s .select
  | select {r} : s.selectByKey call.key = some r → (locking = true → s.codeLock r.id = false) →
      RedeemStep locking s call .select
        (if locking then s.setCodeLock r.id true else s) (.check r)
  | check {r} : r.status = .enabled → RedeemStep locking s call (.check r) s (.update r)
  | update {r now} : (locking = false → s.codeLock r.id = false) →
      s.codes.any (Redemption.claimable r.id) = true →
      RedeemStep locking s call (.update r) (s.setCodeLock r.id true) (.credit r now)
  | credit {r now} : s.userLock call.userId = false →
      RedeemStep locking s call (.credit r now) (s.setUserLock call.userId true)
        (.commit r now ((s.quota call.userId).map (· + r.quota)))
  | commit {r now q} :
      RedeemStep locking s call (.commit r now q)
        (((s.write r.id call.userId now q).setUserLock call.userId false).setCodeLock r.id false)
        (.returned r)
  | abort {r now q} :
      RedeemStep locking s call (.commit r now q)
        ((s.setUserLock call.userId false).setCodeLock r.id false) (.refused (.redeemFailed .db))
  | fail {pc why} : pc.redeemed = none → RedeemTx.lockedUser ⟨call, pc⟩ = none →
      RedeemStep locking s call pc s (.rollback (pc.lockedCode locking) why)
  | rollback {held why} :
      RedeemStep locking s call (.rollback held why) (s.unlockCode held)
        (.refused (.redeemFailed why))

variable {call : RedeemCall} {locking : Bool} {tick : Tick} {s s' : RedeemDB} {pc pc' : RedeemPc}
  {t t' : RedeemTx} {ts : List RedeemTx} {i : Nat} {db : RedeemTables} {r : Redemption}
  {c : Sched.Conf RedeemDB RedeemTx}

theorem redeemStep_of_next (h : call.next locking tick s pc = some (s', pc')) :
    RedeemStep locking s call pc s' pc' := by
  cases pc with
  | start =>
    simp only [RedeemCall.next] at h
    split at h
    · cases h; exact .refuse
    · split at h
      · cases h; exact .refuse
      · cases h; exact .begin
  | select =>
    simp only [RedeemCall.next] at h
    split at h
    · cases h; exact .fail rfl rfl
    · split at h
      · cases h; exact .fail rfl rfl
      · rename_i r hr
        cases locking with
        | false =>
          cases h
          exact .select hr (fun hf => by cases hf)
        | true =>
          cases hlock : s.codeLock r.id with
          | true => simp [hlock] at h
          | false =>
            simp only [hlock] at h
            cases h
            exact .select hr (fun _ => hlock)
  | check r =>
    simp only [RedeemCall.next] at h
    split at h
    · cases h; exact .fail rfl rfl
    · rename_i hst
      split at h
      · cases h; exact .fail rfl rfl
      · cases h; exact .check (not_not.mp hst)
  | update r =>
    simp only [RedeemCall.next] at h
    split at h
    · cases h; exact .fail rfl rfl
    · split at h
      · cases h
      · rename_i hfree
        split at h
        · rename_i hany
          cases h
          exact .update (fun hl => by simpa [hl] using hfree) hany
        · cases h; exact .fail rfl rfl
  | credit r now =>
    simp only [RedeemCall.next] at h
    split at h
    · cases h; exact .fail rfl rfl
    · split at h
      · cases h
      · rename_i hfree
        cases h
        exact .credit (by simpa using hfree)
  | commit r now q =>
    cases hf : tick.fails with
    | true =>
      simp only [RedeemCall.next, hf] at h
      cases h
      exact .abort
    | false =>
      simp only [RedeemCall.next, hf] at h
      cases h
      exact .commit
  | rollback held why =>
    simp only [RedeemCall.next] at h
    cases h
    exact .rollback
  | refused err => cases h
  | returned r => cases h

theorem redeemMachine_next (h : (redeemMachine locking).next tick s t = some (s', t')) :
    t'.call = t.call ∧ RedeemStep locking s t.call t.pc s' t'.pc := by
  simp only [redeemMachine, Option.map_eq_some_iff, Prod.mk.injEq] at h
  obtain ⟨⟨s₁, pc'⟩, hn, rfl, rfl⟩ := h
  exact ⟨rfl, redeemStep_of_next hn⟩

/-! ## The row locks -/

theorem RedeemStep.codeLock (h : RedeemStep locking s call pc s' pc') (id : Nat)
    (hheld : pc.lockedCode locking = some id → s.codeLock id = true) :
    (pc'.lockedCode locking = some id → ¬ pc.lockedCode locking = some id →
        s.codeLock id = false) ∧
      (pc'.lockedCode locking = some id → s'.codeLock id = true) ∧
      (¬ pc.lockedCode locking = some id → s.codeLock id = true → s'.codeLock id = true) := by
  cases h with
  | refuse => simp [RedeemPc.lockedCode]
  | begin => simp [RedeemPc.lockedCode]
  | @select r hr hfree =>
    cases locking <;> simp only [RedeemPc.lockedCode, selectLock, RedeemDB.setCodeLock] at hheld ⊢
      <;> grind
  | check hst => exact ⟨fun hin hout => absurd hin hout, hheld, fun _ hlock => hlock⟩
  | @update r now hfree hany =>
    cases locking <;> simp only [RedeemPc.lockedCode, selectLock, RedeemDB.setCodeLock] at hheld ⊢
      <;> grind
  | credit hfree => exact ⟨fun hin hout => absurd hin hout, hheld, fun _ hlock => hlock⟩
  | commit =>
    simp only [RedeemPc.lockedCode, RedeemDB.setCodeLock, Function.update_apply,
      RedeemDB.setUserLock_codeLock, RedeemDB.write_codeLock]
    grind
  | abort =>
    simp only [RedeemPc.lockedCode, RedeemDB.setCodeLock, Function.update_apply,
      RedeemDB.setUserLock_codeLock]
    grind
  | fail hret huser => exact ⟨fun hin hout => absurd hin hout, hheld, fun _ hlock => hlock⟩
  | @rollback held why =>
    cases held <;> simp only [RedeemPc.lockedCode, RedeemDB.unlockCode, RedeemDB.setCodeLock,
      Function.update_apply] at hheld ⊢ <;> grind

theorem RedeemStep.userLock (h : RedeemStep locking s call pc s' pc') (u : Nat) :
    (RedeemTx.lockedUser ⟨call, pc'⟩ = some u → s.userLock u = false ∧ s'.userLock u = true) ∧
      (¬ RedeemTx.lockedUser ⟨call, pc⟩ = some u → s.userLock u = true →
        s'.userLock u = true) := by
  cases h with
  | refuse => simp [RedeemTx.lockedUser]
  | begin => simp [RedeemTx.lockedUser]
  | select hr hfree => cases locking <;> simp [RedeemTx.lockedUser]
  | check hst => simp [RedeemTx.lockedUser]
  | update hfree hany => simp [RedeemTx.lockedUser]
  | credit hfree =>
    simp only [RedeemTx.lockedUser, RedeemDB.setUserLock, Function.update_apply]
    grind
  | commit =>
    simp only [RedeemTx.lockedUser, RedeemDB.setCodeLock_userLock, RedeemDB.setUserLock,
      RedeemDB.write_userLock, Function.update_apply]
    grind
  | abort =>
    simp only [RedeemTx.lockedUser, RedeemDB.setCodeLock_userLock, RedeemDB.setUserLock,
      Function.update_apply]
    grind
  | fail hret huser => exact ⟨fun hin => (nomatch hin), fun _ hlock => hlock⟩
  | @rollback held why => cases held <;> simp [RedeemTx.lockedUser, RedeemDB.unlockCode]

/-! ## What the calls have done -/

/-- The call has redeemed the code `id`. -/
def RedeemTx.wins (id : Nat) (t : RedeemTx) : Int :=
  match t.pc.redeemed with
  | some r => if r.id = id then 1 else 0
  | none => 0

/-- What the call has added to the quota of `u`. -/
def RedeemTx.credits (u : Nat) (t : RedeemTx) : Int :=
  match t.pc.redeemed with
  | some r => if t.call.userId = u then r.quota else 0
  | none => 0

def redemptionsOf (id : Nat) (ts : List RedeemTx) : Int :=
  (ts.map (RedeemTx.wins id)).sum

def creditsTo (u : Nat) (ts : List RedeemTx) : Int :=
  (ts.map (RedeemTx.credits u)).sum

/-- `r` is the row of the code `call` names, as `db` has it but for what a
redemption changes. -/
def ReadFrom (db : RedeemTables) (call : RedeemCall) (r : Redemption) : Prop :=
  ∃ r₀ ∈ db.codes, r₀.key = call.key ∧ r₀.deleted = false ∧ r₀.id = r.id ∧ r₀.quota = r.quota

/-- What became of the row `r₀`: it is as it was, and if it could be redeemed no
call has redeemed it; or it could be redeemed and the row says which call did. -/
def CodeAfter (ts : List RedeemTx) (r₀ r : Redemption) : Prop :=
  (r = r₀ ∧ (r₀.claimable r₀.id = true → redemptionsOf r₀.id ts = 0)) ∨
  (r₀.claimable r₀.id = true ∧
    ∃ t ∈ ts, ∃ now, t.wins r₀.id = 1 ∧ r = r₀.redeem t.call.userId now)

def TxOk (db : RedeemTables) (s : RedeemDB) (t : RedeemTx) : Prop :=
  match t.pc with
  | .check r | .update r => ReadFrom db t.call r
  | .credit r _ => ReadFrom db t.call r ∧ s.codes.any (Redemption.claimable r.id) = true
  | .commit r _ q => ReadFrom db t.call r ∧ s.codes.any (Redemption.claimable r.id) = true ∧
      q = (s.quota t.call.userId).map (· + r.quota)
  | .returned r => ReadFrom db t.call r ∧ s.codes.any (Redemption.claimable r.id) = false
  | _ => True

structure RedeemInv (locking : Bool) (db : RedeemTables)
    (c : Sched.Conf RedeemDB RedeemTx) : Prop where
  codeLocks : ∀ id, Sched.LockInv (fun t : RedeemTx => t.pc.lockedCode locking = some id)
    (fun s : RedeemDB => s.codeLock id) c
  userLocks : ∀ u, Sched.LockInv (fun t : RedeemTx => t.lockedUser = some u)
    (fun s : RedeemDB => s.userLock u) c
  txs : ∀ t ∈ c.threads, TxOk db c.store t
  once : ∀ id, 0 ≤ redemptionsOf id c.threads ∧ redemptionsOf id c.threads ≤ 1 ∧
    (c.store.codes.any (Redemption.claimable id) = true → redemptionsOf id c.threads = 0)
  quota : ∀ u, c.store.quota u = (db.quota u).map (· + creditsTo u c.threads)
  codes : List.Forall₂ (CodeAfter c.threads) db.codes c.store.codes

/-- A step leaves both tables as they are, or it is the commit of a call that
then returns. -/
theorem RedeemStep.tables (h : RedeemStep locking s call pc s' pc') :
    (s'.codes = s.codes ∧ s'.quota = s.quota ∧ pc.redeemed = none ∧ pc'.redeemed = none) ∨
    (∃ r now q, pc = .commit r now q ∧ pc' = .returned r ∧
      s'.codes = (s.write r.id call.userId now q).codes ∧
      s'.quota = Function.update s.quota call.userId q) := by
  cases h with
  | refuse => exact Or.inl ⟨rfl, rfl, rfl, rfl⟩
  | begin => exact Or.inl ⟨rfl, rfl, rfl, rfl⟩
  | select hr hfree => cases locking <;> exact Or.inl ⟨rfl, rfl, rfl, rfl⟩
  | check hst => exact Or.inl ⟨rfl, rfl, rfl, rfl⟩
  | update hfree hany => exact Or.inl ⟨rfl, rfl, rfl, rfl⟩
  | credit hfree => exact Or.inl ⟨rfl, rfl, rfl, rfl⟩
  | @commit r now q => exact Or.inr ⟨r, now, q, rfl, rfl, rfl, rfl⟩
  | abort => exact Or.inl ⟨rfl, rfl, rfl, rfl⟩
  | fail hret huser => exact Or.inl ⟨rfl, rfl, hret, rfl⟩
  | @rollback held why => cases held <;> exact Or.inl ⟨rfl, rfl, rfl, rfl⟩

theorem RedeemTx.wins_eq_zero (h : t.pc.redeemed = none) (id : Nat) :
    t.wins id = 0 := by
  simp [RedeemTx.wins, h]

theorem RedeemTx.credits_eq_zero (h : t.pc.redeemed = none) (u : Nat) :
    t.credits u = 0 := by
  simp [RedeemTx.credits, h]

/-! ## The rows -/

theorem claimable_redeem (id : Nat) (r : Redemption) (u : Nat) (now : Int) :
    (r.redeem u now).claimable id = false := by
  simp [Redemption.claimable, Redemption.redeem]

/-- After a redemption of `id` no row of `id` can be redeemed, and the others
are as they were. -/
theorem write_any_claimable (s : RedeemDB) (id u : Nat) (now : Int) (q : Option Int) (id' : Nat) :
    (s.write id u now q).codes.any (Redemption.claimable id') =
      if id' = id then false else s.codes.any (Redemption.claimable id') := by
  have hrow : ∀ r : Redemption,
      (if r.claimable id then r.redeem u now else r).claimable id' =
        if id' = id then false else r.claimable id' := by
    intro r
    by_cases hid : id' = id
    · subst hid
      cases hc : r.claimable id' with
      | true => simp [claimable_redeem]
      | false => simp [hc]
    · cases hc : r.claimable id with
      | true =>
        have hrid : r.id = id := by
          simp only [Redemption.claimable, Bool.and_eq_true, beq_iff_eq] at hc
          exact hc.1.1
        have hne : (r.id == id') = false := by
          simpa [hrid] using fun heq : id = id' => hid heq.symm
        rw [if_pos rfl, claimable_redeem, if_neg hid]
        simp [Redemption.claimable, hne]
      | false => simp [hid]
  simp only [RedeemDB.write]
  induction s.codes with
  | nil => simp
  | cons r rs ih =>
    simp only [List.map_cons, List.any_cons, hrow, ih]
    split <;> rfl

theorem redemptionsOf_set (id : Nat) (h : ts[i]? = some t) :
    redemptionsOf id (ts.set i t') = redemptionsOf id ts - t.wins id + t'.wins id :=
  Sched.sum_threads_set (RedeemTx.wins id) t' h

theorem creditsTo_set (u : Nat) (h : ts[i]? = some t) :
    creditsTo u (ts.set i t') = creditsTo u ts - t.credits u + t'.credits u :=
  Sched.sum_threads_set (RedeemTx.credits u) t' h

variable {id : Nat} {q : Option Int} {x : RedeemTx}

theorem winner_mem_set (hx : x ∈ ts) (hwin : x.wins id = 1) (hi : ts[i]? = some t)
    (ht : t.pc.redeemed = none) : x ∈ ts.set i t' := by
  obtain ⟨j, hj⟩ := List.mem_iff_getElem?.mp hx
  have hne : i ≠ j := by
    rintro rfl
    obtain rfl : t = x := Option.some.inj (hi.symm.trans hj)
    rw [RedeemTx.wins_eq_zero ht] at hwin
    cases hwin
  apply List.mem_iff_getElem?.mpr
  exact ⟨j, by rw [List.getElem?_set_ne hne]; exact hj⟩

/-! ## One step keeps the invariant -/

theorem TxOk.of_tables_eq (hcodes : s'.codes = s.codes) (hquota : s'.quota = s.quota)
    (h : TxOk db s t) :
    TxOk db s' t := by
  unfold TxOk at h ⊢
  rw [hcodes, hquota]
  exact h

variable {now : Int} {r₀ : Redemption}

theorem CodeAfter.same (h : CodeAfter ts r₀ r) :
    r.id = r₀.id ∧ r.key = r₀.key ∧ r.quota = r₀.quota ∧ r.deleted = r₀.deleted := by
  rcases h with ⟨rfl, -⟩ | ⟨-, t, -, now, -, rfl⟩
  · exact ⟨rfl, rfl, rfl, rfl⟩
  · exact ⟨rfl, rfl, rfl, rfl⟩

theorem readFrom_of_select (hcodes : List.Forall₂ (CodeAfter ts) db.codes s.codes)
    (h : s.selectByKey call.key = some r) : ReadFrom db call r := by
  have hmem : r ∈ s.codes := List.mem_of_find?_eq_some h
  have hkey : r.key = call.key ∧ r.deleted = false := by
    simpa using List.find?_some h
  obtain ⟨k, hk, hget⟩ := List.mem_iff_getElem.mp hmem
  have hk₀ : k < db.codes.length := by rw [hcodes.length_eq]; exact hk
  have hafter := hcodes.get hk₀ hk
  simp only [List.get_eq_getElem, hget] at hafter
  obtain ⟨hid, hkey', hq, hdel⟩ := hafter.same
  exact ⟨db.codes[k], List.getElem_mem hk₀, hkey'.symm.trans hkey.1, hdel.symm.trans hkey.2,
    hid.symm, hq.symm⟩

theorem txOk_mover (hcodes : List.Forall₂ (CodeAfter ts) db.codes s.codes)
    (hok : TxOk db s ⟨call, pc⟩) (h : RedeemStep locking s call pc s' pc') :
    TxOk db s' ⟨call, pc'⟩ := by
  cases h with
  | refuse => trivial
  | begin => trivial
  | select hr hfree => cases locking <;> exact readFrom_of_select hcodes hr
  | check hst => exact hok
  | update hfree hany => exact ⟨hok, hany⟩
  | credit hfree => exact ⟨hok.1, hok.2, rfl⟩
  | @commit r now q =>
    refine ⟨hok.1, ?_⟩
    have hwrite := write_any_claimable s r.id call.userId now q r.id
    rw [if_pos rfl] at hwrite
    exact hwrite
  | abort => trivial
  | fail hret huser => trivial
  | rollback => trivial

/-- What is known of a call survives the commit of another one: the two are
after different codes and different users, or at most one of them has written. -/
theorem txOk_other {u : Nat} (hcodes : s'.codes = (s.write id u now q).codes)
    (hquota : s'.quota = Function.update s.quota u q) (hcode : x.pc.lockedCode locking ≠ some id)
    (huser : x.lockedUser ≠ some u) (hok : TxOk db s x) : TxOk db s' x := by
  obtain ⟨call, pc⟩ := x
  have hany : ∀ r : Redemption, r.id ≠ id →
      s'.codes.any (Redemption.claimable r.id) = s.codes.any (Redemption.claimable r.id) := by
    intro r hne
    rw [hcodes, write_any_claimable, if_neg hne]
  cases pc with
  | start => trivial
  | select => trivial
  | check r => exact hok
  | update r => exact hok
  | credit r t =>
    have hne : r.id ≠ id := fun heq => hcode (congrArg some heq)
    exact ⟨hok.1, (hany r hne).trans hok.2⟩
  | commit r t q' =>
    have hne : r.id ≠ id := fun heq => hcode (congrArg some heq)
    have hune : call.userId ≠ u := fun heq => huser (congrArg some heq)
    refine ⟨hok.1, (hany r hne).trans hok.2.1, ?_⟩
    rw [hquota, Function.update_of_ne hune]
    exact hok.2.2
  | rollback held why => trivial
  | refused err => trivial
  | returned r =>
    refine ⟨hok.1, ?_⟩
    rw [hcodes, write_any_claimable]
    split
    · rfl
    · exact hok.2

theorem CodeAfter.quiet (hi : ts[i]? = some t) (ht : t.pc.redeemed = none)
    (ht' : t'.pc.redeemed = none) (h : CodeAfter ts r₀ r) : CodeAfter (ts.set i t') r₀ r := by
  rcases h with ⟨rfl, hzero⟩ | ⟨hcl, x, hx, now, hwin, rfl⟩
  · refine Or.inl ⟨rfl, fun hcl => ?_⟩
    rw [redemptionsOf_set r.id hi, RedeemTx.wins_eq_zero ht, RedeemTx.wins_eq_zero ht', hzero hcl]
    rfl
  · exact Or.inr ⟨hcl, x, winner_mem_set hx hwin hi ht, now, hwin, rfl⟩

theorem CodeAfter.commit {ts : List RedeemTx} {i : Nat} {t t' : RedeemTx} {rd r : Redemption}
    (hi : ts[i]? = some t) (ht : t.pc.redeemed = none) (ht' : t'.pc = .returned rd)
    (h : CodeAfter ts r₀ r) :
    CodeAfter (ts.set i t') r₀ (if r.claimable rd.id then r.redeem t'.call.userId now else r) := by
  have hmem : t' ∈ ts.set i t' := List.mem_set (List.getElem?_eq_some_iff.mp hi).1 t'
  rcases h with ⟨rfl, hzero⟩ | ⟨hcl, x, hx, now', hwin, rfl⟩
  · by_cases hcl : r.claimable rd.id = true
    · have hid : r.id = rd.id := by
        simp only [Redemption.claimable, Bool.and_eq_true, beq_iff_eq] at hcl
        exact hcl.1.1
      have hwin : t'.wins r.id = 1 := by
        simp [RedeemTx.wins, ht', RedeemPc.redeemed, hid]
      rw [if_pos hcl]
      exact Or.inr ⟨hid ▸ hcl, t', hmem, now, hwin, rfl⟩
    · rw [if_neg hcl]
      refine Or.inl ⟨rfl, fun hcl' => ?_⟩
      have hne : rd.id ≠ r.id := fun heq => hcl (heq ▸ hcl')
      have hlose : t'.wins r.id = 0 := by
        simp [RedeemTx.wins, ht', RedeemPc.redeemed, hne]
      rw [redemptionsOf_set r.id hi, RedeemTx.wins_eq_zero ht, hlose, hzero hcl']
      rfl
  · rw [if_neg (by simp [claimable_redeem])]
    exact Or.inr ⟨hcl, x, winner_mem_set hx hwin hi ht, now', hwin, rfl⟩

theorem RedeemInv.locks_step (h : RedeemInv locking db c) (hi : c.threads[i]? = some t)
    (hcall : t'.call = t.call) (hs : RedeemStep locking c.store t.call t.pc s' t'.pc) :
    (∀ id, Sched.LockInv (fun t : RedeemTx => t.pc.lockedCode locking = some id)
      (fun s : RedeemDB => s.codeLock id) ⟨s', c.threads.set i t'⟩) ∧
    (∀ u, Sched.LockInv (fun t : RedeemTx => t.lockedUser = some u)
      (fun s : RedeemDB => s.userLock u) ⟨s', c.threads.set i t'⟩) := by
  constructor
  · intro id
    have hheld := (h.codeLocks id).held i
    obtain ⟨henter, hin, hother⟩ := hs.codeLock id (fun hl => hheld ⟨t, hi, hl⟩)
    exact (h.codeLocks id).step hi henter hin hother
  · intro u
    obtain ⟨call, pc⟩ := t
    obtain ⟨call', pc'⟩ := t'
    obtain rfl : call' = call := hcall
    obtain ⟨henter, hother⟩ := hs.userLock u
    exact (h.userLocks u).step hi (fun hin _ => (henter hin).1) (fun hin => (henter hin).2) hother

theorem RedeemInv.quiet_step (h : RedeemInv locking db c) (hi : c.threads[i]? = some t)
    (hcall : t'.call = t.call) (hs : RedeemStep locking c.store t.call t.pc s' t'.pc)
    (hcodes : s'.codes = c.store.codes) (hquota : s'.quota = c.store.quota)
    (ht : t.pc.redeemed = none) (ht' : t'.pc.redeemed = none) :
    RedeemInv locking db ⟨s', c.threads.set i t'⟩ := by
  obtain ⟨hcl, hul⟩ := h.locks_step hi hcall hs
  have hwins : ∀ id, redemptionsOf id (c.threads.set i t') = redemptionsOf id c.threads := by
    intro id
    rw [redemptionsOf_set id hi, RedeemTx.wins_eq_zero ht, RedeemTx.wins_eq_zero ht']
    omega
  refine ⟨hcl, hul, ?_, ?_, ?_, ?_⟩
  · apply Sched.forall_threads_set
    · intro x hx
      exact (h.txs x hx).of_tables_eq hcodes hquota
    · obtain ⟨call, pc⟩ := t
      obtain ⟨call', pc'⟩ := t'
      obtain rfl : call' = call := hcall
      exact txOk_mover h.codes (h.txs _ (List.mem_of_getElem? hi)) hs
  · intro id
    simp only [hcodes, hwins]
    exact h.once id
  · intro u
    have hcredits : creditsTo u (c.threads.set i t') = creditsTo u c.threads := by
      rw [creditsTo_set u hi, RedeemTx.credits_eq_zero ht, RedeemTx.credits_eq_zero ht']
      omega
    simp only [hquota, hcredits]
    exact h.quota u
  · rw [hcodes]
    exact h.codes.imp (fun _ _ hr => hr.quiet hi ht ht')

/-- The tables after a commit: one more code redeemed, its quota with the
caller, everybody else as before. -/
theorem RedeemInv.commit_step (h : RedeemInv locking db c) (hi : c.threads[i]? = some t)
    (hcall : t'.call = t.call) (hs : RedeemStep locking c.store t.call t.pc s' t'.pc)
    (hpc : t.pc = .commit r now q) (hpc' : t'.pc = .returned r)
    (hcodes : s'.codes = (c.store.write r.id t.call.userId now q).codes)
    (hquota : s'.quota = Function.update c.store.quota t.call.userId q) :
    RedeemInv locking db ⟨s', c.threads.set i t'⟩ := by
  obtain ⟨hcl, hul⟩ := h.locks_step hi hcall hs
  have ht : t.pc.redeemed = none := by rw [hpc]; rfl
  have hmover := h.txs t (List.mem_of_getElem? hi)
  simp only [TxOk, hpc] at hmover
  obtain ⟨-, hany, hq⟩ := hmover
  refine ⟨hcl, hul, ?_, ?_, ?_, ?_⟩
  · -- whoever else has a code or a user locked has another one
    intro x hx
    obtain ⟨j, hj⟩ := List.mem_iff_getElem?.mp hx
    rcases Sched.threads_set_cases hj with ⟨-, rfl⟩ | ⟨hne, hj'⟩
    · obtain ⟨call, pc⟩ := t
      obtain ⟨call', pc'⟩ := x
      obtain rfl : call' = call := hcall
      exact txOk_mover h.codes (h.txs _ (List.mem_of_getElem? hi)) hs
    · have hcode : x.pc.lockedCode locking ≠ some r.id := fun hin =>
        hne ((h.codeLocks r.id).alone j i ⟨x, hj', hin⟩ ⟨t, hi, by simp only [hpc]; rfl⟩)
      have huser : x.lockedUser ≠ some t.call.userId := fun hin =>
        hne ((h.userLocks t.call.userId).alone j i ⟨x, hj', hin⟩
          ⟨t, hi, by simp only [RedeemTx.lockedUser, hpc]⟩)
      exact txOk_other hcodes hquota hcode huser (h.txs x (List.mem_of_getElem? hj'))
  · intro id
    obtain ⟨hnn, hle, hzero⟩ := h.once id
    simp only [hcodes, write_any_claimable, redemptionsOf_set id hi, RedeemTx.wins_eq_zero ht]
    by_cases hid : id = r.id
    · subst hid
      have hwin : t'.wins r.id = 1 := by simp [RedeemTx.wins, hpc', RedeemPc.redeemed]
      rw [hzero hany, hwin]
      simp
    · have hlose : t'.wins id = 0 := by
        have hne : r.id ≠ id := fun heq => hid heq.symm
        simp [RedeemTx.wins, hpc', RedeemPc.redeemed, hne]
      rw [hlose, if_neg hid]
      refine ⟨by omega, by omega, fun hcl => ?_⟩
      rw [hzero hcl]
      rfl
  · intro u
    simp only [hquota, creditsTo_set u hi, RedeemTx.credits_eq_zero ht]
    by_cases hu : u = t.call.userId
    · subst hu
      have hcr : t'.credits t.call.userId = r.quota := by
        simp [RedeemTx.credits, hpc', RedeemPc.redeemed, hcall]
      rw [Function.update_self, hq, h.quota, Option.map_map, hcr]
      congr 1
      funext x
      simp only [Function.comp_apply]
      omega
    · have hcr : t'.credits u = 0 := by
        have hne : t.call.userId ≠ u := fun heq => hu heq.symm
        simp [RedeemTx.credits, hpc', RedeemPc.redeemed, hcall, hne]
      rw [Function.update_of_ne hu, h.quota, hcr]
      congr 1
      funext x
      omega
  · rw [hcodes]
    simp only [RedeemDB.write, List.forall₂_map_right_iff]
    refine h.codes.imp (fun r₀ x hr => ?_)
    rw [← hcall]
    exact hr.commit hi ht hpc'

theorem RedeemInv.step (h : RedeemInv locking db c) (hi : c.threads[i]? = some t)
    (hn : (redeemMachine locking).next tick c.store t = some (s', t')) :
    RedeemInv locking db ⟨s', c.threads.set i t'⟩ := by
  obtain ⟨hcall, hs⟩ := redeemMachine_next hn
  rcases hs.tables with ⟨hcodes, hquota, ht, ht'⟩ | ⟨r, now, q, hpc, hpc', hcodes, hquota⟩
  · exact h.quiet_step hi hcall hs hcodes hquota ht ht'
  · exact h.commit_step hi hcall hs hpc hpc' hcodes hquota

/-! ## Every run -/

theorem redeemInv_start (locking : Bool) (db : RedeemTables) (calls : List RedeemCall) :
    RedeemInv locking db (db.start calls) := by
  have hpc : ∀ t ∈ (db.start calls).threads, t.pc = .start := by
    intro t ht
    obtain ⟨call, -, rfl⟩ := List.mem_map.mp ht
    rfl
  have hsum : ∀ f : RedeemTx → Int, (∀ t : RedeemTx, t.pc = .start → f t = 0) →
      ((db.start calls).threads.map f).sum = 0 := by
    intro f hf
    refine List.sum_eq_zero (fun x hx => ?_)
    obtain ⟨t, ht, rfl⟩ := List.mem_map.mp hx
    exact hf t (hpc t ht)
  have hwins : ∀ id, redemptionsOf id (db.start calls).threads = 0 := fun id =>
    hsum _ (fun t ht => RedeemTx.wins_eq_zero (by rw [ht]; rfl) id)
  have hcredits : ∀ u, creditsTo u (db.start calls).threads = 0 := fun u =>
    hsum _ (fun t ht => RedeemTx.credits_eq_zero (by rw [ht]; rfl) u)
  refine ⟨fun id => ?_, fun u => ?_, ?_, ?_, ?_, ?_⟩
  · refine .init (fun t ht hin => ?_)
    rw [hpc t ht] at hin
    cases hin
  · refine .init (fun t ht hin => ?_)
    rw [RedeemTx.lockedUser, hpc t ht] at hin
    cases hin
  · intro t ht
    simp only [TxOk, hpc t ht]
  · intro id
    simp [hwins]
  · intro u
    simp only [hcredits]
    cases hq : db.quota u with
    | none => simp [RedeemTables.start, hq]
    | some x => simp [RedeemTables.start, hq]
  · exact List.forall₂_same.mpr (fun r _ => Or.inl ⟨rfl, fun _ => hwins r.id⟩)

theorem redeemInv_of_steps {calls : List RedeemCall}
    (h : Sched.Steps (redeemMachine locking) Sched.free (db.start calls) c) :
    RedeemInv locking db c :=
  Sched.Steps.invariant (redeemInv_start locking db calls)
    (fun hinv _ hi hn => hinv.step hi hn) h

/-- What a step of a call, which has not returned yet, may do to the tables:
nothing, or what a successful call does, which is to add the code's quota to its
caller and to mark the code. -/
def RedeemEffect (s s' : RedeemDB) (t t' : RedeemTx) : Prop :=
  t.pc.redeemed = none ∧
  ((s'.codes = s.codes ∧ s'.quota = s.quota ∧ t'.pc.redeemed = none) ∨
  (∃ r now, t'.pc = .returned r ∧
    s'.codes = s.codes.map
      (fun x => if x.claimable r.id then x.redeem t'.call.userId now else x) ∧
    s'.quota = Function.update s.quota t'.call.userId
      ((s.quota t'.call.userId).map (· + r.quota))))

theorem RedeemInv.effect (h : RedeemInv locking db c) (hi : c.threads[i]? = some t)
    (hn : (redeemMachine locking).next tick c.store t = some (s', t')) :
    RedeemEffect c.store s' t t' := by
  obtain ⟨hcall, hs⟩ := redeemMachine_next hn
  rcases hs.tables with ⟨hcodes, hquota, ht, ht'⟩ | ⟨r, now, q, hpc, hpc', hcodes, hquota⟩
  · exact ⟨ht, Or.inl ⟨hcodes, hquota, ht'⟩⟩
  · have hmover := h.txs t (List.mem_of_getElem? hi)
    simp only [TxOk, hpc] at hmover
    rw [hmover.2.2] at hquota
    rw [← hcall] at hcodes hquota
    exact ⟨by rw [hpc]; rfl, Or.inr ⟨r, now, hpc', hcodes, hquota⟩⟩

/-- **Redemption codes are credited exactly once.** In every configuration that
any interleaving of any calls reaches: a code has been redeemed by at most one
call; every quota is what it was plus the codes its user's successful calls
redeemed; every code is untouched or says which call redeemed it; a successful
call redeemed the code it named, for the quota the table had for it. And a step
that changes either table is the commit of a call that then has returned, and
moves no more: a call that ends in an error has changed neither. -/
theorem redeem_exactly_once (locking : Bool) (db : RedeemTables) (calls : List RedeemCall)
    (c : Sched.Conf RedeemDB RedeemTx)
    (h : Sched.Steps (redeemMachine locking) Sched.free (db.start calls) c) :
    (∀ id, redemptionsOf id c.threads ≤ 1) ∧
    (∀ u, c.store.quota u = (db.quota u).map (· + creditsTo u c.threads)) ∧
    List.Forall₂ (CodeAfter c.threads) db.codes c.store.codes ∧
    (∀ t ∈ c.threads, ∀ r, t.pc = .returned r → ReadFrom db t.call r) ∧
    (∀ (i : Nat) (tick : Tick) (t t' : RedeemTx) (s' : RedeemDB), c.threads[i]? = some t →
      (redeemMachine locking).next tick c.store t = some (s', t') →
      RedeemEffect c.store s' t t') := by
  have hinv := redeemInv_of_steps h
  refine ⟨fun id => (hinv.once id).2.1, hinv.quota, hinv.codes, ?_, ?_⟩
  · intro t ht r hpc
    have hok := hinv.txs t ht
    simp only [TxOk, hpc] at hok
    exact hok.1
  · intro i tick t t' s' hi hn
    exact hinv.effect hi hn

/-- Two calls that have both read the code as enabled, on a database whose
SELECT locks nothing: the second waits for the first at the UPDATE, and then
finds the code used. -/
def redeemRace : List (Nat × Tick) :=
  [(0, ⟨false, 5⟩), (1, ⟨false, 5⟩), (0, ⟨false, 5⟩), (1, ⟨false, 5⟩), (0, ⟨false, 5⟩),
    (1, ⟨false, 5⟩), (0, ⟨false, 5⟩), (0, ⟨false, 5⟩), (0, ⟨false, 5⟩), (1, ⟨false, 6⟩),
    (1, ⟨false, 6⟩)]

def redeemRaceTables : RedeemTables :=
  ⟨[⟨7, "k", .enabled, 100, 0, 0, 0, false⟩], fun u => if u = 1 ∨ u = 2 then some 10 else none⟩

theorem redeem_race_credits_one :
    ∃ c, Sched.Steps (redeemMachine false) Sched.free
        (redeemRaceTables.start [⟨"k", 1⟩, ⟨"k", 2⟩]) c ∧
      (c.store.quota 1 = some 110 ∧ c.store.quota 2 = some 10 ∧
        redemptionsOf 7 c.threads = 1) ∧
      redemptionsOf 7 c.threads ≤ 1 :=
  Sched.exists_of_run_and redeemRace (by decide)
    fun c hsteps _ => (redeem_exactly_once false redeemRaceTables _ c hsteps).1 7

end YouBox
