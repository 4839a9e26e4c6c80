import YouBox.SubConsume

/-!
# Refunding a pre-consume, with retries

`RefundSubscriptionPreConsume` marks the idempotency record in one
transaction and lowers the usage in another: the decrement goes through
`PostConsumeUserSubscriptionDelta`, which opens a transaction of its own on
the global handle and stays committed when the outer one rolls back. So the
function returns the database in every case, and an attempt that fails
*after* the inner commit (`RefundStmt.saveRecord`, `RefundStmt.commit`) has
lowered the usage without marking the record.

`refundWithRetry` then runs the whole again. `retryFrom_spec` gives the
result for every pattern of failures and every number of attempts: the usage
drops by `PreConsumed` once per attempt that gets past the inner commit
(`lowerings`).
-/

namespace YouBox

inductive RefundStmt where
  | begin
  | readRecord
  /-- Any statement of the inner transaction, its commit included. -/
  | inner
  | saveRecord
  | commit
deriving DecidableEq

/-- `record.Status = "refunded"`. -/
def SubscriptionPreConsumeRecord.refund (record : SubscriptionPreConsumeRecord) :
    SubscriptionPreConsumeRecord :=
  { record with status := .refunded }

def refundSubscriptionPreConsume (fault : Option RefundStmt) (requestId : String)
    (db : DB) : Option SubErr × DB :=
  if blank requestId then (some .emptyRequestId, db)
  else if fault = some .begin ∨ fault = some .readRecord then (some .db, db)
  else
    match findRecord db.records requestId with
    | none => (some .notFound, db)
    | some record =>
      if record.status = .refunded then
        (if fault = some .commit then some .db else none, db)
      else if record.preConsumed ≤ 0 then
        if fault = some .saveRecord ∨ fault = some .commit then (some .db, db)
        else (none, { db with
          records := saveRecord db.records record.refund })
      else
        match postConsumeUserSubscriptionDelta (decide (fault = some .inner))
            record.userSubscriptionId (-record.preConsumed) db with
        | .error e => (some e, db)
        | .ok db₁ =>
          -- the inner transaction is committed; only the outer one rolls back
          if fault = some .saveRecord ∨ fault = some .commit then (some .db, db₁)
          else (none, { db₁ with
            records := saveRecord db₁.records record.refund })

/-- `n` attempts starting with attempt `i`; the error of the last one. -/
def retryFrom (fn : Nat → DB → Option SubErr × DB) :
    Nat → Nat → Option SubErr → DB → Option SubErr × DB
  | 0, _, lastErr, db => (lastErr, db)
  | n + 1, i, _, db =>
    match fn i db with
    | (none, db') => (none, db')
    | (some e, db') => retryFrom fn n (i + 1) (some e) db'

def maxAttempts : Nat := 3

def refundWithRetry (fn : Nat → DB → Option SubErr × DB) (db : DB) :
    Option SubErr × DB :=
  retryFrom fn maxAttempts 0 none db

/-- `SubscriptionFunding.Refund` for a source that pre-consumed
`preConsumed` under `requestId`; `faults i` is the statement at which
attempt `i` fails, if any. -/
def subscriptionFundingRefund (faults : Nat → Option RefundStmt)
    (requestId : String) (preConsumed : Int) (db : DB) : Option SubErr × DB :=
  if preConsumed ≤ 0 then (none, db)
  else refundWithRetry (fun i => refundSubscriptionPreConsume (faults i) requestId) db

/-! ## One attempt -/

/-- The attempt gets past the inner commit. -/
def lowers : Option RefundStmt → Bool
  | none => true
  | some .saveRecord => true
  | some .commit => true
  | some _ => false

/-- The state between attempts: the record as it was created, and the
subscription with usage `used`. -/
def AwaitsRefund (db : DB) (record : SubscriptionPreConsumeRecord)
    (sub : UserSubscription) (used : Int) : Prop :=
  findRecord db.records record.requestId = some record
    ∧ findSub db.subs record.userSubscriptionId = some (sub.withUsed used)

theorem overTotal_mono {sub : UserSubscription} {u v pre : Int} (hle : u ≤ v)
    (h : ¬ overTotal (sub.withUsed v) (-pre)) :
    ¬ overTotal (sub.withUsed u) (-pre) := by
  simp only [overTotal, newUsed_eq, withUsed_amountUsed, withUsed_amountTotal] at h ⊢
  omega

section Attempt

variable {db : DB} {record : SubscriptionPreConsumeRecord} {sub : UserSubscription}
  {used : Int}

/-- What one attempt on a consumed record does: it lowers the usage exactly
when it gets past the inner commit, and marks the record exactly when no
statement fails. -/
theorem refund_attempt (hblank : blank record.requestId = false)
    (hst : record.status = .consumed) (hpre : 0 < record.preConsumed)
    (hid : record.userSubscriptionId ≠ 0) (hw : AwaitsRefund db record sub used)
    (hover : ¬ overTotal (sub.withUsed used) (-record.preConsumed))
    (fault : Option RefundStmt) :
    ∃ err db', refundSubscriptionPreConsume fault record.requestId db = (err, db')
      ∧ (err = none ↔ fault = none)
      ∧ findSub db'.subs record.userSubscriptionId = some (sub.withUsed
          (if lowers fault then newUsed used (-record.preConsumed) else used))
      ∧ findRecord db'.records record.requestId = some
          (if fault = none then record.refund else record)
      ∧ db' = { db with subs := db'.subs, records := db'.records } := by
  obtain ⟨hrec, hsub⟩ := hw
  have hsid : (sub.withUsed used).id = record.userSubscriptionId := findSub_id hsub
  have hdelta : -record.preConsumed ≠ 0 := by omega
  have hpos : ¬ record.preConsumed ≤ 0 := by omega
  -- the row the inner transaction leaves
  have hrow : findSub (saveSub db.subs (sub.withUsed (newUsed used (-record.preConsumed))))
      record.userSubscriptionId = some (sub.withUsed (newUsed used (-record.preConsumed))) := by
    rw [← hsid] at hsub ⊢
    exact findSub_saveSub_self hsub
  have hinner := postConsume_succeeds hid hdelta hsub hover
  simp only [withUsed_amountUsed, withUsed_withUsed] at hinner
  have hmark : findRecord (saveRecord db.records record.refund) record.requestId
      = some record.refund := findRecord_saveRecord_self hrec
  have hopen : refundSubscriptionPreConsume fault record.requestId db =
      if fault = some .begin ∨ fault = some .readRecord then (some .db, db)
      else
        match postConsumeUserSubscriptionDelta (decide (fault = some .inner))
            record.userSubscriptionId (-record.preConsumed) db with
        | .error e => (some e, db)
        | .ok db₁ =>
          if fault = some .saveRecord ∨ fault = some .commit then (some .db, db₁)
          else (none, { db₁ with records := saveRecord db₁.records record.refund }) := by
    unfold refundSubscriptionPreConsume
    simp only [hblank, hrec, hst, hpos, reduceCtorEq, if_false, Bool.false_eq_true]
  rw [hopen]
  rcases fault with _ | stmt
  · simp only [reduceCtorEq, or_self, if_false, decide_false, hinner]
    exact ⟨_, _, rfl, by simp, by simpa [lowers] using hrow, by simpa using hmark, rfl⟩
  · cases stmt with
    | begin =>
      exact ⟨_, _, rfl, by simp, by simpa [lowers] using hsub, by simpa using hrec, rfl⟩
    | readRecord =>
      exact ⟨_, _, rfl, by simp, by simpa [lowers] using hsub, by simpa using hrec, rfl⟩
    | inner =>
      have hfail : postConsumeUserSubscriptionDelta true record.userSubscriptionId
          (-record.preConsumed) db = .error .db := by
        simp only [postConsumeUserSubscriptionDelta, if_neg hid, if_neg hdelta, if_true]
      simp only [Option.some.injEq, reduceCtorEq, or_self, if_false, decide_true, hfail]
      exact ⟨_, _, rfl, by simp, by simpa [lowers] using hsub, by simpa using hrec, rfl⟩
    | saveRecord =>
      simp only [Option.some.injEq, reduceCtorEq, or_self, if_false, decide_false, hinner,
        true_or, if_true]
      exact ⟨_, _, rfl, by simp, by simpa [lowers] using hrow, by simpa using hrec, rfl⟩
    | commit =>
      simp only [Option.some.injEq, reduceCtorEq, or_self, if_false, decide_false, hinner,
        or_true, if_true]
      exact ⟨_, _, rfl, by simp, by simpa [lowers] using hrow, by simpa using hrec, rfl⟩

end Attempt

/-! ## All attempts -/

/-- How many of the attempts `i, i+1, ...` (at most `n`, and none after the
first that does not fail) get past the inner commit. -/
def lowerings (faults : Nat → Option RefundStmt) : Nat → Nat → Nat
  | 0, _ => 0
  | n + 1, i =>
    (if lowers (faults i) then 1 else 0)
      + if faults i = none then 0 else lowerings faults n (i + 1)

/-- One of the attempts goes through. -/
def succeeds (faults : Nat → Option RefundStmt) : Nat → Nat → Bool
  | 0, _ => false
  | n + 1, i => decide (faults i = none) || succeeds faults n (i + 1)

theorem one_le_lowerings {faults : Nat → Option RefundStmt} :
    ∀ {n i : Nat}, succeeds faults n i = true → 1 ≤ lowerings faults n i
  | 0, _, h => by cases h
  | n + 1, i, h => by
    unfold lowerings
    rcases hi : faults i with _ | stmt
    · simp [lowers]
    · rw [succeeds, hi] at h
      have hrest : succeeds faults n (i + 1) = true := by simpa using h
      have := one_le_lowerings hrest
      simp only [reduceCtorEq, if_false]
      omega

theorem newUsed_newUsed {used pre : Int} (hpre : 0 ≤ pre) (k : Nat) :
    max 0 (newUsed used (-pre) - k * pre) = max 0 (used - ((1 + k : Nat) : Int) * pre) := by
  have hk : 0 ≤ (k : Int) * pre := Int.mul_nonneg (Int.natCast_nonneg k) hpre
  have hsplit : ((1 + k : Nat) : Int) * pre = pre + k * pre := by
    rw [Int.natCast_add, Int.natCast_one, Int.add_mul, Int.one_mul]
  rw [hsplit, newUsed_eq]
  omega

section Retry

variable {record : SubscriptionPreConsumeRecord} {sub : UserSubscription}

theorem retryFrom_spec (hblank : blank record.requestId = false)
    (hst : record.status = .consumed) (hpre : 0 < record.preConsumed)
    (hid : record.userSubscriptionId ≠ 0) (faults : Nat → Option RefundStmt) :
    ∀ (n i : Nat) (lastErr : Option SubErr) {db : DB} {used : Int}, 0 ≤ used →
      ¬ overTotal (sub.withUsed used) (-record.preConsumed) →
      AwaitsRefund db record sub used →
      ∃ err db', retryFrom (fun i => refundSubscriptionPreConsume (faults i)
          record.requestId) n i lastErr db = (err, db')
        ∧ findSub db'.subs record.userSubscriptionId = some (sub.withUsed
            (max 0 (used - lowerings faults n i * record.preConsumed)))
        ∧ findRecord db'.records record.requestId = some
            (if succeeds faults n i then record.refund else record)
  | 0, i, lastErr, db, used, hu, _, hw => by
    refine ⟨lastErr, db, rfl, ?_, by simpa [succeeds] using hw.1⟩
    rw [lowerings, hw.2]
    simp [hu]
  | n + 1, i, lastErr, db, used, hu, hover, hw => by
    obtain ⟨err, db₁, hrun, herr, hsub, hrec, -⟩ :=
      refund_attempt hblank hst hpre hid hw hover (faults i)
    rcases hi : faults i with _ | stmt
    · -- the attempt goes through: the loop returns
      obtain rfl := herr.mpr hi
      refine ⟨none, db₁, by simp only [retryFrom, hrun], ?_, ?_⟩
      · simpa [hi, lowers, lowerings, newUsed_eq, Int.sub_eq_add_neg] using hsub
      · simpa [hi, succeeds] using hrec
    · obtain ⟨e, rfl⟩ : ∃ e, err = some e := by
        cases err with
        | none => exact absurd (herr.mp rfl) (by simp [hi])
        | some e => exact ⟨e, rfl⟩
      -- the attempt failed, with the usage lowered or not; the rest is the
      -- same loop from there
      have hw₁ : AwaitsRefund db₁ record sub
          (if lowers (faults i) then newUsed used (-record.preConsumed) else used) :=
        ⟨by simpa [hi] using hrec, hsub⟩
      have hle : (if lowers (faults i) then newUsed used (-record.preConsumed) else used)
          ≤ used := by
        rw [newUsed_eq]
        split <;> omega
      have hnn : 0 ≤ if lowers (faults i) then newUsed used (-record.preConsumed)
          else used := by
        rw [newUsed_eq]
        split <;> omega
      obtain ⟨err', db', hrun', hsub', hrec'⟩ :=
        retryFrom_spec hblank hst hpre hid faults n (i + 1) (some e) hnn
          (overTotal_mono hle hover) hw₁
      refine ⟨err', db', by simp only [retryFrom, hrun, hrun'], ?_, ?_⟩
      · rw [hsub', lowerings, hi]
        cases lowers (some stmt) with
        | false => simp
        | true =>
          simp only [if_true, reduceCtorEq, if_false]
          rw [newUsed_newUsed (by omega)]
      · rw [hrec', succeeds, hi]
        simp

/-- A subscription whose total already refuses the decrement is left alone
by every attempt, and so is the record. -/
theorem retryFrom_refused (hblank : blank record.requestId = false)
    (hst : record.status = .consumed) (hpre : 0 < record.preConsumed)
    (hid : record.userSubscriptionId ≠ 0) (faults : Nat → Option RefundStmt) {db : DB}
    (hrec : findRecord db.records record.requestId = some record)
    (hsub : findSub db.subs record.userSubscriptionId = some sub)
    (hover : overTotal sub (-record.preConsumed)) :
    ∀ (n i : Nat) (lastErr : Option SubErr),
      (retryFrom (fun i => refundSubscriptionPreConsume (faults i) record.requestId)
        n i lastErr db).2 = db
  | 0, _, _ => rfl
  | n + 1, i, lastErr => by
    have hattempt : ∃ e, refundSubscriptionPreConsume (faults i) record.requestId db
        = (some e, db) := by
      have hdelta : -record.preConsumed ≠ 0 := by omega
      have hpos : ¬ record.preConsumed ≤ 0 := by omega
      unfold refundSubscriptionPreConsume postConsumeUserSubscriptionDelta
      simp only [hblank, hrec, hst, hpos, hid, hdelta, hsub, applyDelta, hover,
        reduceCtorEq, if_false, if_true, Bool.false_eq_true, decide_eq_true_eq]
      split
      · exact ⟨_, rfl⟩
      · by_cases hin : faults i = some .inner
        · exact ⟨.db, by simp [hin]⟩
        · simp only [hin, if_false]
          exact ⟨_, rfl⟩
    obtain ⟨e, he⟩ := hattempt
    simp only [retryFrom, he]
    exact retryFrom_refused hblank hst hpre hid faults hrec hsub hover n (i + 1) (some e)

end Retry

/-! ## Refunded once

The two halves of what a refund owes: never more than the pre-consume comes
off the usage, and a record that ends refunded had exactly that taken off (up
to the clamp at zero; nothing more if it was refunded before). -/

def usedOf (db : DB) (id : Nat) : Int := usedIn db.subs id

def statusOf (db : DB) (requestId : String) : Option RecordStatus :=
  (findRecord db.records requestId).map (·.status)

def RefundedOnce (record : SubscriptionPreConsumeRecord) (db db' : DB) : Prop :=
  usedOf db record.userSubscriptionId - usedOf db' record.userSubscriptionId
      ≤ record.preConsumed
    ∧ (statusOf db' record.requestId = some .refunded →
        usedOf db record.userSubscriptionId - usedOf db' record.userSubscriptionId
          = if record.status = .refunded then 0
            else min record.preConsumed (usedOf db record.userSubscriptionId))

instance (record : SubscriptionPreConsumeRecord) (db db' : DB) :
    Decidable (RefundedOnce record db db') :=
  inferInstanceAs (Decidable (_ ∧ _))

/-- At most one attempt gets past the inner commit, or the repetition cannot
show: the first decrement already clamps at zero, or the total refuses it. -/
def RefundHarmless (faults : Nat → Option RefundStmt)
    (record : SubscriptionPreConsumeRecord) (sub : UserSubscription) : Prop :=
  record.status = .refunded ∨ lowerings faults maxAttempts 0 ≤ 1
    ∨ sub.amountUsed ≤ record.preConsumed ∨ overTotal sub (-record.preConsumed)

theorem retryFrom_refunded {record : SubscriptionPreConsumeRecord}
    (hblank : blank record.requestId = false) (hst : record.status = .refunded)
    (faults : Nat → Option RefundStmt) {db : DB}
    (hrec : findRecord db.records record.requestId = some record) :
    ∀ (n i : Nat) (lastErr : Option SubErr),
      (retryFrom (fun i => refundSubscriptionPreConsume (faults i) record.requestId)
        n i lastErr db).2 = db
  | 0, _, _ => rfl
  | n + 1, i, lastErr => by
    have hattempt : (refundSubscriptionPreConsume (faults i) record.requestId db).2 = db := by
      unfold refundSubscriptionPreConsume
      simp only [hblank, hrec, hst, if_false, if_true, Bool.false_eq_true]
      split <;> rfl
    rcases hrun : refundSubscriptionPreConsume (faults i) record.requestId db with ⟨err, db'⟩
    rw [hrun] at hattempt
    obtain rfl : db' = db := hattempt
    simp only [retryFrom, hrun]
    cases err with
    | none => rfl
    | some e => exact retryFrom_refunded hblank hst faults hrec n (i + 1) (some e)

/-- `k` decrements by `pre`, clamped at zero, take off more than one exactly
when there are two and room for more than one. -/
theorem clamped_refunds {pre : Int} (hpre : 0 < pre) (used : Int) (k : Nat) :
    used - max 0 (used - k * pre) ≤ pre ↔ k ≤ 1 ∨ used ≤ pre := by
  constructor
  · intro h
    by_contra hc
    have h2 : 2 * pre ≤ (k : Int) * pre := Int.mul_le_mul_of_nonneg_right (by omega) (by omega)
    omega
  · rintro (hk | hle)
    · have h1 : (k : Int) * pre ≤ 1 * pre :=
        Int.mul_le_mul_of_nonneg_right (by omega) (by omega)
      omega
    · omega

theorem refundedOnce_iff {db : DB} {record : SubscriptionPreConsumeRecord}
    {sub : UserSubscription} (hblank : blank record.requestId = false)
    (hpre : 0 < record.preConsumed) (hid : record.userSubscriptionId ≠ 0)
    (hrec : findRecord db.records record.requestId = some record)
    (hsub : findSub db.subs record.userSubscriptionId = some sub)
    (hu : 0 ≤ sub.amountUsed) (faults : Nat → Option RefundStmt) :
    RefundedOnce record db
        (subscriptionFundingRefund faults record.requestId record.preConsumed db).2
      ↔ RefundHarmless faults record sub := by
  have hsame : record.status = .refunded ∨ overTotal sub (-record.preConsumed) →
      (subscriptionFundingRefund faults record.requestId record.preConsumed db).2 = db := by
    intro h
    rw [subscriptionFundingRefund, if_neg (by omega), refundWithRetry]
    cases hst : record.status with
    | refunded => exact retryFrom_refunded hblank hst faults hrec _ _ _
    | consumed =>
      refine retryFrom_refused hblank hst hpre hid faults hrec hsub ?_ _ _ _
      rcases h with h | h
      · rw [hst] at h; cases h
      · exact h
  have hused : usedOf db record.userSubscriptionId = sub.amountUsed := by
    rw [usedOf, usedIn, hsub]; rfl
  by_cases hquiet : record.status = .refunded ∨ overTotal sub (-record.preConsumed)
  · -- nothing moves at all
    rw [hsame hquiet]
    refine iff_of_true ⟨by omega, ?_⟩ ?_
    · intro hend
      rw [statusOf, hrec] at hend
      have hst : record.status = .refunded := Option.some.inj hend
      rw [if_pos hst]
      omega
    · rcases hquiet with h | h
      · exact Or.inl h
      · exact Or.inr (Or.inr (Or.inr h))
  · obtain ⟨hst', hover⟩ := not_or.mp hquiet
    have hst : record.status = .consumed := by
      cases h : record.status with
      | consumed => rfl
      | refunded => exact absurd h hst'
    have hwait : AwaitsRefund db record sub sub.amountUsed := ⟨hrec, hsub⟩
    obtain ⟨err, db', hrun, hs', hr'⟩ :=
      retryFrom_spec hblank hst hpre hid faults maxAttempts 0 none hu hover hwait
    have hdb : (subscriptionFundingRefund faults record.requestId record.preConsumed db).2
        = db' := by
      rw [subscriptionFundingRefund, if_neg (by omega), refundWithRetry, hrun]
    have hused' : usedOf db' record.userSubscriptionId
        = max 0 (sub.amountUsed - lowerings faults maxAttempts 0 * record.preConsumed) := by
      rw [usedOf, usedIn, hs']; rfl
    have hclamp := clamped_refunds hpre sub.amountUsed (lowerings faults maxAttempts 0)
    rw [hdb, RefundedOnce, hused, hused', hclamp, if_neg hst']
    constructor
    · rintro ⟨hk | hle, -⟩
      · exact Or.inr (Or.inl hk)
      · exact Or.inr (Or.inr (Or.inl hle))
    · intro h
      have hcond : lowerings faults maxAttempts 0 ≤ 1 ∨ sub.amountUsed ≤ record.preConsumed := by
        rcases h with h | h | h | h
        · exact absurd h hst'
        · exact Or.inl h
        · exact Or.inr h
        · exact absurd h hover
      refine ⟨hcond, fun hend => ?_⟩
      -- a record that ends refunded had an attempt go through, so at least one decrement
      have hsucc : succeeds faults maxAttempts 0 = true := by
        by_contra hno
        rw [statusOf, hr', if_neg hno] at hend
        exact hst' (Option.some.inj hend)
      have hone : 1 ≤ lowerings faults maxAttempts 0 := one_le_lowerings hsucc
      have h1 : 1 * record.preConsumed
          ≤ (lowerings faults maxAttempts 0 : Int) * record.preConsumed :=
        Int.mul_le_mul_of_nonneg_right (by omega) (by omega)
      have h2 := hclamp.mpr hcond
      omega

/-! ## The lost mark

A subscription with 100 used, 10 of them pre-consumed under request `r1`. The
first attempt commits the decrement and then fails to save the record; the
second goes through. -/

def openSub : UserSubscription where
  id := 1
  userId := 7
  planId := 1
  amountTotal := 1000
  amountUsed := 100
  startTime := 0
  endTime := 100
  status := .active
  lastResetTime := 0
  nextResetTime := 0
  upgradeGroup := ""
  prevUserGroup := ""
  downgradeGroup := ""
  allowWalletOverflow := true

def openRecord : SubscriptionPreConsumeRecord := ⟨"r1", 7, 1, 10, .consumed⟩

def openDB : DB where
  users _ := 0
  tokens _ := ⟨0, 0⟩
  subs := [openSub]
  records := [openRecord]
  batchUsers _ := 0
  batchTokens _ := 0

def lostMark : Nat → Option RefundStmt
  | 0 => some .saveRecord
  | _ => none

theorem refundedOnce_clean_run :
    RefundedOnce openRecord openDB
        (subscriptionFundingRefund (fun _ => none) "r1" 10 openDB).2
      ∧ usedOf (subscriptionFundingRefund (fun _ => none) "r1" 10 openDB).2 1 = 90 :=
  have hrec : findRecord openDB.records openRecord.requestId = some openRecord := by decide
  have hsub : findSub openDB.subs openRecord.userSubscriptionId = some openSub := by decide
  ⟨(refundedOnce_iff (by decide) (by decide) (by decide) hrec hsub (by decide)
    (fun _ => none)).mpr (Or.inr (Or.inl (by decide))), by decide⟩

theorem refunded_twice_after_lost_mark :
    findRecord openDB.records "r1" = some openRecord
      ∧ findSub openDB.subs 1 = some openSub
      ∧ ¬ RefundedOnce openRecord openDB
          (subscriptionFundingRefund lostMark "r1" 10 openDB).2
      ∧ usedOf (subscriptionFundingRefund lostMark "r1" 10 openDB).2 1 = 80
      ∧ statusOf (subscriptionFundingRefund lostMark "r1" 10 openDB).2 "r1"
          = some .refunded := by
  decide

end YouBox
