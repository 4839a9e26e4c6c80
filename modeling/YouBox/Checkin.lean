import YouBox.TopUp

/-!
# The daily check-in

`UserCheckin`, one statement a step, interleaved with any number of other
calls, in both of its implementations: the transaction of MySQL and PostgreSQL,
and the sequence of statements with a hand-written compensation that SQLite
gets. Any statement may fail, the compensating DELETE included (the source
ignores its error). The settings may change between any two steps, and so may
the day: the early count and the row each read the clock for themselves.

The unique index on user and date is the database's. An INSERT meets a row with
its key and fails; in a transaction it also takes the index entry until the
transaction ends, and waits for a transaction that has it. What a transaction
has written becomes visible when it commits.

What carries the result in SQLite mode is that a row just created belongs to
its call alone: the row is its own lock (`CheckinInv.rowLocks`), so that a
compensation removes exactly the row of a call that was not paid.
-/

namespace YouBox

/-! ## Rows -/

structure CheckinSetting where
  enabled : Bool
  minQuota : Int
  maxQuota : Int

structure Checkin where
  id : Nat
  userId : Nat
  checkinDate : String
  quotaAwarded : Int
  createdAt : Int
deriving DecidableEq

/-- The columns of the unique index `idx_user_checkin_date`. -/
def Checkin.key (r : Checkin) : Nat × String := (r.userId, r.checkinDate)

/-- The tables `UserCheckin` works on: the check-ins, with the next value of
their primary key, and the quota of every user that has a row. -/
structure CheckinTables where
  rows : List Checkin
  nextId : Nat
  quota : Nat → Option Int

/-- The tables as committed, the entries of the unique index that an open
transaction has inserted, and the row locks taken on users. -/
structure CheckinDB extends CheckinTables where
  keyLock : Nat × String → Bool
  userLock : Nat → Bool

/-- A table as the database keeps it: the unique index and the primary key. -/
structure CheckinTables.WF (db : CheckinTables) : Prop where
  unique : (db.rows.map Checkin.key).Nodup
  ids : (db.rows.map Checkin.id).Nodup
  fresh : ∀ r ∈ db.rows, r.id < db.nextId

/-- What `u` has been awarded, by the rows. -/
def awardedTo (u : Nat) (rows : List Checkin) : Int :=
  ((rows.filter (fun r => r.userId = u)).map Checkin.quotaAwarded).sum

/-- The quota of `u`. -/
def CheckinDB.quotaOf (u : Nat) (s : CheckinDB) : Int := (s.quota u).getD 0

namespace CheckinDB

/-- There is a row of the user for the date. -/
def taken (s : CheckinDB) (key : Nat × String) : Bool :=
  s.rows.any (fun r => r.key = key)

def insert (s : CheckinDB) (r : Checkin) : CheckinDB :=
  { s with rows := s.rows ++ [r] }

/-- `DELETE … WHERE id = ?` -/
def delete (s : CheckinDB) (id : Nat) : CheckinDB :=
  { s with rows := s.rows.filter (fun r => r.id ≠ id) }

def setQuota (s : CheckinDB) (u : Nat) (quota : Option Int) : CheckinDB :=
  { s with quota := Function.update s.quota u quota }

/-- The primary key is drawn from a counter that no rollback sets back. -/
def drawId (s : CheckinDB) : CheckinDB := { s with nextId := s.nextId + 1 }

def setKeyLock (s : CheckinDB) (key : Nat × String) (b : Bool) : CheckinDB :=
  { s with keyLock := Function.update s.keyLock key b }

def setUserLock (s : CheckinDB) (u : Nat) (b : Bool) : CheckinDB :=
  { s with userLock := Function.update s.userLock u b }

end CheckinDB

/-! ## One call -/

inductive CheckinErr where
  /-- `签到功能未启用` -/
  | disabled
  /-- the error of the count -/
  | count
  /-- `今日已签到` -/
  | alreadyCheckedIn
  /-- `签到失败，请稍后重试` -/
  | create
  /-- `签到失败：更新额度出错` -/
  | quota
  /-- the error of the commit -/
  | commit
deriving DecidableEq

/-- Where a call stands; `r` is the row it creates. -/
inductive CheckinPc where
  | start
  | count
  | build
  | create (r : Checkin)
  | increase (r : Checkin)
  | delete (r : Checkin)
  | txCreate (r : Checkin)
  | txUpdate (r : Checkin)
  | txCommit (r : Checkin) (quota : Option Int)
  | txRollback (key : Option (Nat × String)) (err : CheckinErr)
  | refused (err : CheckinErr)
  /-- `rand.Intn` has panicked: its argument has overflowed. -/
  | panicked
  | returned (r : Checkin)
deriving DecidableEq

structure CheckinCall where
  userId : Nat
  pc : CheckinPc

/-- What a step finds outside of the database: whether its statement fails, the
time, the settings, and the number `math/rand` draws. -/
structure CheckinTick extends Tick where
  setting : CheckinSetting
  draw : Nat

/-- The award: `rand.Intn` panics unless its argument, an `int`, is positive. -/
def CheckinSetting.award (setting : CheckinSetting) (draw : Nat) : Option Int :=
  if setting.maxQuota > setting.minQuota then
    let n := (setting.maxQuota - setting.minQuota + 1).bmod (2 ^ 64)
    if n ≤ 0 then none else some (setting.minQuota + (draw : Int) % n)
  else some setting.minQuota

def CheckinDB.unlockKey (s : CheckinDB) : Option (Nat × String) → CheckinDB
  | none => s
  | some key => s.setKeyLock key false

section

variable (sqlite : Bool) (format : Int → String)

/-- One step of `UserCheckin(userId)`; `format` is `Format("2006-01-02")` in
the server's time zone. -/
def userCheckin (userId : Nat) (tick : CheckinTick) (s : CheckinDB) :
    CheckinPc → Option (CheckinDB × CheckinPc)
  | .start => some (s, if tick.setting.enabled then .count else .refused .disabled)
  | .count =>
    if tick.fails then some (s, .refused .count)
    else if s.taken (userId, format tick.now) then some (s, .refused .alreadyCheckedIn)
    else some (s, .build)
  | .build =>
    match tick.setting.award tick.draw with
    | none => some (s, .panicked)
    | some quota =>
      let r : Checkin := ⟨0, userId, format tick.now, quota, tick.now⟩
      some (s, if sqlite then .create r else .txCreate r)
  -- userCheckinWithoutTransaction
  | .create r =>
    if tick.fails || s.taken r.key then some (s, .refused .create)
    else
      let r := { r with id := s.nextId }
      some (s.drawId.insert r, .increase r)
  | .increase r =>
    -- IncreaseUserQuota refuses a negative amount before it reaches the database
    if tick.fails || decide (r.quotaAwarded < 0) then some (s, .delete r)
    else some (s.setQuota userId ((s.quota userId).map (· + r.quotaAwarded)), .returned r)
  | .delete r => some (if tick.fails then s else s.delete r.id, .refused .quota)
  -- userCheckinWithTransaction
  | .txCreate r =>
    if tick.fails then some (s, .txRollback none .create)
    else if s.keyLock r.key then none
    else if s.taken r.key then some (s, .txRollback none .create)
    else
      let r := { r with id := s.nextId }
      some (s.drawId.setKeyLock r.key true, .txUpdate r)
  | .txUpdate r =>
    if tick.fails then some (s, .txRollback (some r.key) .quota)
    else if s.userLock userId then none
    else some (s.setUserLock userId true,
      .txCommit r ((s.quota userId).map (· + r.quotaAwarded)))
  | .txCommit r quota =>
    let s' := if tick.fails then s else (s.insert r).setQuota userId quota
    some ((s'.setUserLock userId false).setKeyLock r.key false,
      if tick.fails then .refused .commit else .returned r)
  | .txRollback key err => some (s.unlockKey key, .refused err)
  | .refused _ => none
  | .panicked => none
  | .returned _ => none

def checkinMachine : Sched.Machine CheckinDB CheckinCall CheckinTick where
  next tick s t :=
    (userCheckin sqlite format t.userId tick s t.pc).map (fun p => (p.1, { t with pc := p.2 }))

end

/-- Any number of calls about to start, on tables nobody has locked. -/
def CheckinTables.start (db : CheckinTables) (users : List Nat) :
    Sched.Conf CheckinDB CheckinCall :=
  ⟨{ db with keyLock := fun _ => false, userLock := fun _ => false },
    users.map (fun u => ⟨u, .start⟩)⟩

/-! ## What one step does -/

/-- The entry of the unique index a transaction has inserted. -/
def CheckinPc.lockedKey : CheckinPc → Option (Nat × String)
  | .txUpdate r | .txCommit r _ => some r.key
  | .txRollback key _ => key
  | _ => none

/-- The user a transaction has locked. -/
def CheckinCall.lockedUser (t : CheckinCall) : Option Nat :=
  match t.pc with
  | .txCommit _ _ => some t.userId
  | _ => none

/-- The row a call has created outside of a transaction and not paid yet. -/
def CheckinPc.unpaid : CheckinPc → Option Nat
  | .increase r | .delete r => some r.id
  | _ => none

/-- The call holds nothing and has changed nothing. -/
def CheckinPc.idle : CheckinPc → Bool
  | .start | .count | .build | .create _ | .txCreate _ | .txRollback none _ | .refused _
  | .panicked => true
  | _ => false

/-- The row a call is about to create: that of its user, in the mode the
database is in. -/
def CheckinPc.Built (sqlite : Bool) (u : Nat) : CheckinPc → Prop
  | .create r => sqlite = true ∧ r.userId = u
  | .txCreate r => sqlite = false ∧ r.userId = u
  | _ => True

inductive CheckinStep (sqlite fails : Bool) (s : CheckinDB) (u : Nat) :
    CheckinPc → CheckinDB → CheckinPc → Prop
  | idle {pc pc'} : pc.idle = true → pc'.idle = true → pc'.Built sqlite u →
      CheckinStep sqlite fails s u pc s pc'
  | create {r} : s.taken r.key = false →
      CheckinStep sqlite fails s u (.create r) (s.drawId.insert { r with id := s.nextId })
        (.increase { r with id := s.nextId })
  | increase {r} :
      CheckinStep sqlite fails s u (.increase r)
        (s.setQuota u ((s.quota u).map (· + r.quotaAwarded))) (.returned r)
  | compensate {r} : CheckinStep sqlite fails s u (.increase r) s (.delete r)
  | delete {r} : CheckinStep sqlite fails s u (.delete r) (s.delete r.id) (.refused .quota)
  | leave {r} : fails = true → CheckinStep sqlite fails s u (.delete r) s (.refused .quota)
  | txCreate {r} : s.keyLock r.key = false → s.taken r.key = false →
      CheckinStep sqlite fails s u (.txCreate r) (s.drawId.setKeyLock r.key true)
        (.txUpdate { r with id := s.nextId })
  | txUpdate {r} : s.userLock u = false →
      CheckinStep sqlite fails s u (.txUpdate r) (s.setUserLock u true)
        (.txCommit r ((s.quota u).map (· + r.quotaAwarded)))
  | txAbandon {r err} :
      CheckinStep sqlite fails s u (.txUpdate r) s (.txRollback (some r.key) err)
  | txCommit {r q} :
      CheckinStep sqlite fails s u (.txCommit r q)
        ((((s.insert r).setQuota u q).setUserLock u false).setKeyLock r.key false) (.returned r)
  | txAbort {r q} :
      CheckinStep sqlite fails s u (.txCommit r q)
        ((s.setUserLock u false).setKeyLock r.key false) (.refused .commit)
  | txRollback {key err} :
      CheckinStep sqlite fails s u (.txRollback (some key) err) (s.setKeyLock key false)
        (.refused err)

variable {sqlite : Bool} {t' : CheckinCall} {s' : CheckinDB} {db : CheckinTables}
  {tick : CheckinTick} {format : Int → String}

theorem checkinStep_of_next {u : Nat} {s : CheckinDB} {pc pc' : CheckinPc}
    (h : userCheckin sqlite format u tick s pc = some (s', pc')) :
    CheckinStep sqlite tick.fails s u pc s' pc' := by
  cases pc with
  | start =>
    simp only [userCheckin] at h
    cases h
    split
    · exact .idle rfl rfl trivial
    · exact .idle rfl rfl trivial
  | count =>
    simp only [userCheckin] at h
    split at h
    · cases h; exact .idle rfl rfl trivial
    · split at h
      · cases h; exact .idle rfl rfl trivial
      · cases h; exact .idle rfl rfl trivial
  | build =>
    simp only [userCheckin] at h
    split at h
    · cases h; exact .idle rfl rfl trivial
    · cases sqlite with
      | true => cases h; exact .idle rfl rfl ⟨rfl, rfl⟩
      | false => cases h; exact .idle rfl rfl ⟨rfl, rfl⟩
  | create r =>
    simp only [userCheckin] at h
    split at h
    · cases h; exact .idle rfl rfl trivial
    · rename_i hok
      obtain ⟨-, htaken⟩ : tick.fails = false ∧ s.taken r.key = false := by simpa using hok
      cases h
      exact .create htaken
  | increase r =>
    simp only [userCheckin] at h
    split at h
    · cases h; exact .compensate
    · cases h; exact .increase
  | delete r =>
    simp only [userCheckin] at h
    cases h
    split
    · rename_i hf
      exact .leave hf
    · exact .delete
  | txCreate r =>
    simp only [userCheckin] at h
    split at h
    · cases h; exact .idle rfl rfl trivial
    · split at h
      · cases h
      · rename_i hlock
        split at h
        · cases h; exact .idle rfl rfl trivial
        · rename_i htaken
          cases h
          exact .txCreate (by simpa using hlock) (by simpa using htaken)
  | txUpdate r =>
    simp only [userCheckin] at h
    split at h
    · cases h; exact .txAbandon
    · split at h
      · cases h
      · rename_i hlock
        cases h
        exact .txUpdate (by simpa using hlock)
  | txCommit r q =>
    cases hf : tick.fails with
    | true =>
      simp only [userCheckin, hf] at h
      cases h
      exact .txAbort
    | false =>
      simp only [userCheckin, hf] at h
      cases h
      exact .txCommit
  | txRollback key err =>
    simp only [userCheckin] at h
    cases h
    cases key with
    | none => exact .idle rfl rfl trivial
    | some key => exact .txRollback
  | refused err => cases h
  | panicked => cases h
  | returned r => cases h

theorem checkinMachine_next {s : CheckinDB} {t : CheckinCall}
    (h : (checkinMachine sqlite format).next tick s t = some (s', t')) :
    t'.userId = t.userId ∧ CheckinStep sqlite tick.fails s t.userId t.pc s' t'.pc := by
  simp only [checkinMachine, Option.map_eq_some_iff, Prod.mk.injEq] at h
  obtain ⟨⟨s₁, pc'⟩, hn, rfl, rfl⟩ := h
  exact ⟨rfl, checkinStep_of_next hn⟩

/-! ## The locks -/

section

variable {sqlite fails : Bool} {s s' : CheckinDB} {u : Nat} {pc pc' : CheckinPc}

theorem lockedKey_of_idle (h : pc.idle = true) : pc.lockedKey = none := by
  cases pc with
  | txRollback key err => cases key <;> simp [CheckinPc.idle] at h ⊢; rfl
  | _ => first | rfl | cases h

theorem CheckinStep.keyLock (h : CheckinStep sqlite fails s u pc s' pc') (key : Nat × String)
    (hheld : pc.lockedKey = some key → s.keyLock key = true) :
    (pc'.lockedKey = some key → ¬ pc.lockedKey = some key → s.keyLock key = false) ∧
      (pc'.lockedKey = some key → s'.keyLock key = true) ∧
      (¬ pc.lockedKey = some key → s.keyLock key = true → s'.keyLock key = true) := by
  cases h with
  | idle hidle hidle' hbuilt => simp [lockedKey_of_idle hidle, lockedKey_of_idle hidle']
  | create htaken => simp [CheckinPc.lockedKey, CheckinDB.insert, CheckinDB.drawId]
  | increase => simp [CheckinPc.lockedKey, CheckinDB.setQuota]
  | compensate => simp [CheckinPc.lockedKey]
  | delete => simp [CheckinPc.lockedKey, CheckinDB.delete]
  | leave hf => simp [CheckinPc.lockedKey]
  | txCreate hfree htaken =>
    simp only [CheckinPc.lockedKey, CheckinDB.setKeyLock, CheckinDB.drawId,
      Function.update_apply, Checkin.key] at hfree ⊢
    grind
  | txUpdate hfree => exact ⟨fun hin hout => absurd hin hout, hheld, fun _ hlock => hlock⟩
  | txAbandon => exact ⟨fun hin hout => absurd hin hout, hheld, fun _ hlock => hlock⟩
  | txCommit =>
    simp only [CheckinPc.lockedKey, CheckinDB.setKeyLock, CheckinDB.setUserLock,
      CheckinDB.setQuota, CheckinDB.insert, Function.update_apply]
    grind
  | txAbort =>
    simp only [CheckinPc.lockedKey, CheckinDB.setKeyLock, CheckinDB.setUserLock,
      Function.update_apply]
    grind
  | txRollback =>
    simp only [CheckinPc.lockedKey, CheckinDB.setKeyLock, Function.update_apply]
    grind

theorem lockedUser_of_idle (h : pc.idle = true) : CheckinCall.lockedUser ⟨u, pc⟩ = none := by
  cases pc with
  | txCommit r q => cases h
  | _ => rfl

theorem CheckinStep.userLock (h : CheckinStep sqlite fails s u pc s' pc') (v : Nat) :
    (CheckinCall.lockedUser ⟨u, pc'⟩ = some v → s.userLock v = false ∧ s'.userLock v = true) ∧
      (¬ CheckinCall.lockedUser ⟨u, pc⟩ = some v → s.userLock v = true →
        s'.userLock v = true) := by
  cases h with
  | idle hidle hidle' hbuilt => simp [lockedUser_of_idle hidle, lockedUser_of_idle hidle']
  | txUpdate hfree =>
    simp only [CheckinCall.lockedUser, CheckinDB.setUserLock, Function.update_apply]
    grind
  | txCommit =>
    simp only [CheckinCall.lockedUser, CheckinDB.setKeyLock, CheckinDB.setUserLock,
      CheckinDB.setQuota, CheckinDB.insert, Function.update_apply]
    grind
  | txAbort =>
    simp only [CheckinCall.lockedUser, CheckinDB.setKeyLock, CheckinDB.setUserLock,
      Function.update_apply]
    grind
  | _ =>
    simp [CheckinCall.lockedUser, CheckinDB.insert, CheckinDB.drawId, CheckinDB.setQuota,
      CheckinDB.delete, CheckinDB.setKeyLock]

/-- There is a row with this primary key. -/
def CheckinDB.hasRow (id : Nat) (s : CheckinDB) : Bool := s.rows.any (fun r => r.id = id)

theorem unpaid_of_idle (h : pc.idle = true) : pc.unpaid = none := by
  cases pc with
  | increase r => cases h
  | delete r => cases h
  | _ => rfl

/-- A row nobody has paid yet is its own lock: it is there while its call may
still delete it, and only that call deletes it. -/
theorem CheckinStep.rowLock (h : CheckinStep sqlite fails s u pc s' pc') (id : Nat)
    (hfresh : ∀ r ∈ s.rows, r.id < s.nextId)
    (hheld : pc.unpaid = some id → s.hasRow id = true) :
    (pc'.unpaid = some id → ¬ pc.unpaid = some id → s.hasRow id = false) ∧
      (pc'.unpaid = some id → s'.hasRow id = true) ∧
      (¬ pc.unpaid = some id → s.hasRow id = true → s'.hasRow id = true) := by
  cases h with
  | idle hidle hidle' hbuilt => simp [unpaid_of_idle hidle, unpaid_of_idle hidle']
  | create htaken =>
    simp only [CheckinPc.unpaid, CheckinDB.hasRow, CheckinDB.insert, CheckinDB.drawId,
      List.any_append, List.any_cons, List.any_nil]
    refine ⟨?_, ?_, ?_⟩
    · rintro hid -
      rw [List.any_eq_false]
      intro r hr
      have := hfresh r hr
      have hid : s.nextId = id := Option.some.inj hid
      simp only [decide_eq_true_eq]
      omega
    · intro hid
      simp [Option.some.inj hid]
    · intro _ hrow
      simp [hrow]
  | compensate => exact ⟨fun hin hout => absurd hin hout, hheld, fun _ hlock => hlock⟩
  | delete =>
    simp only [CheckinPc.unpaid, CheckinDB.hasRow, CheckinDB.delete, List.any_filter]
    grind
  | txCommit =>
    simp only [CheckinPc.unpaid, CheckinDB.hasRow, CheckinDB.setKeyLock, CheckinDB.setUserLock,
      CheckinDB.setQuota, CheckinDB.insert]
    refine ⟨?_, ?_, ?_⟩
    · intro h
      cases h
    · intro h
      cases h
    · intro _ hrow
      rw [List.any_append, hrow, Bool.true_or]
  | _ =>
    simp [CheckinPc.unpaid, CheckinDB.hasRow, CheckinDB.drawId, CheckinDB.setQuota,
      CheckinDB.setUserLock, CheckinDB.setKeyLock]

end

/-! ## The invariant -/

def CheckinOk (sqlite : Bool) (s : CheckinDB) (t : CheckinCall) : Prop :=
  match t.pc with
  | .create r => sqlite = true ∧ r.userId = t.userId
  | .increase r | .delete r => sqlite = true ∧ r.userId = t.userId ∧ r ∈ s.rows
  | .txCreate r => sqlite = false ∧ r.userId = t.userId
  | .txUpdate r => sqlite = false ∧ r.userId = t.userId ∧ s.taken r.key = false
  | .txCommit r q => sqlite = false ∧ r.userId = t.userId ∧ s.taken r.key = false ∧
      q = (s.quota t.userId).map (· + r.quotaAwarded)
  | .returned r => r.userId = t.userId
  | _ => True

structure CheckinInv (sqlite : Bool) (c : Sched.Conf CheckinDB CheckinCall) : Prop where
  keyLocks : ∀ key, Sched.LockInv (fun t : CheckinCall => t.pc.lockedKey = some key)
    (fun s : CheckinDB => s.keyLock key) c
  userLocks : ∀ u, Sched.LockInv (fun t : CheckinCall => t.lockedUser = some u)
    (fun s : CheckinDB => s.userLock u) c
  rowLocks : sqlite = true → ∀ id, Sched.LockInv (fun t : CheckinCall => t.pc.unpaid = some id)
    (CheckinDB.hasRow id) c
  unique : (c.store.rows.map Checkin.key).Nodup
  ids : sqlite = true → (c.store.rows.map Checkin.id).Nodup ∧
    ∀ r ∈ c.store.rows, r.id < c.store.nextId
  users : ∀ t ∈ c.threads, (c.store.quota t.userId).isSome = true
  calls : ∀ t ∈ c.threads, CheckinOk sqlite c.store t

variable {r : Checkin} {c : Sched.Conf CheckinDB CheckinCall}

section

variable {sqlite fails : Bool} {s s' : CheckinDB} {u : Nat} {pc pc' : CheckinPc}

theorem nodup_key_insert {rows : List Checkin} (h : (rows.map Checkin.key).Nodup)
    (htaken : rows.any (fun x => x.key = r.key) = false) :
    ((rows ++ [r]).map Checkin.key).Nodup := by
  rw [List.map_append, List.nodup_append]
  refine ⟨h, by simp, ?_⟩
  intro k hk k' hk'
  obtain ⟨x, hx, rfl⟩ := List.mem_map.mp hk
  obtain rfl : k' = r.key := by simpa using hk'
  have := List.any_eq_false.mp htaken x hx
  simpa using this

theorem CheckinStep.unique (h : CheckinStep sqlite fails s u pc s' pc')
    (hok : CheckinOk sqlite s ⟨u, pc⟩) (hu : (s.rows.map Checkin.key).Nodup) :
    (s'.rows.map Checkin.key).Nodup := by
  cases h with
  | create htaken => exact nodup_key_insert hu htaken
  | delete => exact hu.sublist (List.filter_sublist.map _)
  | txCommit => exact nodup_key_insert hu hok.2.2.1
  | _ => exact hu

theorem CheckinStep.ids (h : CheckinStep sqlite fails s u pc s' pc') (hsqlite : sqlite = true)
    (hok : CheckinOk sqlite s ⟨u, pc⟩)
    (hids : (s.rows.map Checkin.id).Nodup ∧ ∀ r ∈ s.rows, r.id < s.nextId) :
    (s'.rows.map Checkin.id).Nodup ∧ ∀ r ∈ s'.rows, r.id < s'.nextId := by
  obtain ⟨hnodup, hfresh⟩ := hids
  cases h with
  | create htaken =>
    simp only [CheckinDB.insert, CheckinDB.drawId, List.map_append, List.nodup_append]
    refine ⟨⟨hnodup, by simp, ?_⟩, ?_⟩
    · intro k hk k' hk'
      obtain ⟨x, hx, rfl⟩ := List.mem_map.mp hk
      obtain rfl : k' = s.nextId := by simpa using hk'
      exact Nat.ne_of_lt (hfresh x hx)
    · intro r hr
      rcases List.mem_append.mp hr with hr | hr
      · exact Nat.lt_succ_of_lt (hfresh r hr)
      · obtain rfl := List.mem_singleton.mp hr
        exact Nat.lt_succ_self _
  | delete =>
    exact ⟨hnodup.sublist (List.filter_sublist.map _),
      fun r hr => hfresh r (List.mem_filter.mp hr).1⟩
  | txCreate hfree htaken => exact ⟨hnodup, fun r hr => Nat.lt_succ_of_lt (hfresh r hr)⟩
  | txCommit =>
    have hmode := hok.1
    rw [hsqlite] at hmode
    cases hmode
  | _ => exact ⟨hnodup, hfresh⟩

theorem CheckinStep.users (h : CheckinStep sqlite fails s u pc s' pc')
    (hok : CheckinOk sqlite s ⟨u, pc⟩) (v : Nat) (hv : (s.quota v).isSome = true) :
    (s'.quota v).isSome = true := by
  cases h with
  | increase =>
    simp only [CheckinDB.setQuota, Function.update_apply]
    split
    · rename_i hvu
      simpa [← hvu] using hv
    · exact hv
  | txCommit =>
    simp only [CheckinDB.setQuota, CheckinDB.setKeyLock, CheckinDB.setUserLock,
      Function.update_apply, hok.2.2.2]
    split
    · rename_i hvu
      simpa [← hvu] using hv
    · exact hv
  | _ => exact hv

theorem CheckinStep.mover (h : CheckinStep sqlite fails s u pc s' pc')
    (hok : CheckinOk sqlite s ⟨u, pc⟩) : CheckinOk sqlite s' ⟨u, pc'⟩ := by
  cases h with
  | @idle pc pc' hidle hidle' hbuilt =>
    cases pc' <;> first | exact hbuilt | exact trivial | cases hidle'
  | create htaken => exact ⟨hok.1, hok.2, by simp [CheckinDB.insert]⟩
  | increase => exact hok.2.1
  | compensate => exact hok
  | delete => trivial
  | leave hf => trivial
  | txCreate hfree htaken => exact ⟨hok.1, hok.2, htaken⟩
  | txUpdate hfree => exact ⟨hok.1, hok.2.1, hok.2.2, rfl⟩
  | txAbandon => trivial
  | txCommit => exact hok.2.1
  | txAbort => trivial
  | txRollback => trivial

theorem CheckinStep.others (h : CheckinStep sqlite fails s u pc s' pc')
    (hok : CheckinOk sqlite s ⟨u, pc⟩) {t : CheckinCall} (ht : CheckinOk sqlite s t)
    (hkey : ∀ key, pc.lockedKey = some key → t.pc.lockedKey ≠ some key)
    (huser : ∀ v, CheckinCall.lockedUser ⟨u, pc⟩ = some v → t.lockedUser ≠ some v)
    (hrow : sqlite = true → ∀ id, pc.unpaid = some id → t.pc.unpaid ≠ some id) :
    CheckinOk sqlite s' t := by
  obtain ⟨v, tpc⟩ := t
  cases h with
  | create htaken =>
    cases tpc with
    | increase r | delete r => exact ⟨ht.1, ht.2.1, List.mem_append_left _ ht.2.2⟩
    | txUpdate r | txCommit r q => exact absurd (hok.1.symm.trans ht.1) (by decide)
    | _ => exact ht
  | increase =>
    cases tpc with
    | txCommit r q => exact absurd (hok.1.symm.trans ht.1) (by decide)
    | _ => exact ht
  | @delete r =>
    cases tpc with
    | increase r' | delete r' =>
      have hne : r'.id ≠ r.id := fun heq => hrow ht.1 r.id rfl (congrArg some heq)
      exact ⟨ht.1, ht.2.1, List.mem_filter.mpr ⟨ht.2.2, by simpa using hne⟩⟩
    | txUpdate r | txCommit r q => exact absurd (hok.1.symm.trans ht.1) (by decide)
    | _ => exact ht
  | @txCommit r q =>
    -- the new row has a key nobody else is about to insert
    have hfree : ∀ r' : Checkin, r'.key ≠ r.key → s.taken r'.key = false →
        (s.insert r).taken r'.key = false := by
      intro r' hne htaken
      simp only [CheckinDB.taken, CheckinDB.insert, List.any_append] at htaken ⊢
      simp [htaken, hne.symm]
    cases tpc with
    | increase r' | delete r' => exact absurd (hok.1.symm.trans ht.1) (by decide)
    | txUpdate r' =>
      have hne : r'.key ≠ r.key := fun heq => hkey r.key rfl (congrArg some heq)
      exact ⟨ht.1, ht.2.1, hfree r' hne ht.2.2⟩
    | txCommit r' q' =>
      have hne : r'.key ≠ r.key := fun heq => hkey r.key rfl (congrArg some heq)
      have hvu : v ≠ u := fun heq => huser u rfl (congrArg some heq)
      refine ⟨ht.1, ht.2.1, hfree r' hne ht.2.2.1, ?_⟩
      simp only [CheckinDB.setQuota, CheckinDB.setKeyLock, CheckinDB.setUserLock,
        CheckinDB.insert, Function.update_of_ne hvu]
      exact ht.2.2.2
    | _ => exact ht
  | _ => exact ht

end

variable {users : List Nat}

theorem CheckinInv.start (hdb : db.WF) (husers : ∀ u ∈ users, (db.quota u).isSome = true) :
    CheckinInv sqlite (db.start users) := by
  have hpc : ∀ t ∈ (db.start users).threads, t.pc = .start ∧ t.userId ∈ users := by
    intro t ht
    obtain ⟨u, hu, rfl⟩ := List.mem_map.mp ht
    exact ⟨rfl, hu⟩
  refine ⟨fun key => .init ?_, fun u => .init ?_, fun _ id => .init ?_, hdb.unique,
    fun _ => ⟨hdb.ids, hdb.fresh⟩, ?_, ?_⟩
  · intro t ht
    simp [(hpc t ht).1, CheckinPc.lockedKey]
  · intro t ht
    simp [(hpc t ht).1, CheckinCall.lockedUser]
  · intro t ht
    simp [(hpc t ht).1, CheckinPc.unpaid]
  · intro t ht
    exact husers t.userId (hpc t ht).2
  · intro t ht
    simp only [CheckinOk, (hpc t ht).1]

theorem CheckinInv.step {i : Nat} {t : CheckinCall} (h : CheckinInv sqlite c)
    (hi : c.threads[i]? = some t)
    (hn : (checkinMachine sqlite format).next tick c.store t = some (s', t')) :
    CheckinInv sqlite ⟨s', c.threads.set i t'⟩ := by
  obtain ⟨hcall, hs⟩ := checkinMachine_next hn
  obtain ⟨u, pc⟩ := t
  obtain ⟨u', pc'⟩ := t'
  obtain rfl : u' = u := hcall
  have hmem := List.mem_of_getElem? hi
  have hok := h.calls _ hmem
  refine ⟨?_, ?_, ?_, hs.unique hok h.unique, fun hsq => hs.ids hsq hok (h.ids hsq), ?_, ?_⟩
  · intro key
    obtain ⟨henter, hin, hother⟩ :=
      hs.keyLock key (fun hl => (h.keyLocks key).held i ⟨_, hi, hl⟩)
    exact (h.keyLocks key).step hi henter hin hother
  · intro v
    obtain ⟨henter, hother⟩ := hs.userLock v
    exact (h.userLocks v).step hi (fun hin _ => (henter hin).1) (fun hin => (henter hin).2) hother
  · intro hsq id
    obtain ⟨henter, hin, hother⟩ :=
      hs.rowLock id (h.ids hsq).2 (fun hl => (h.rowLocks hsq id).held i ⟨_, hi, hl⟩)
    exact (h.rowLocks hsq id).step hi henter hin hother
  · refine Sched.forall_threads_set (fun x hx => hs.users hok x.userId (h.users x hx)) ?_
    exact hs.users hok u' (h.users _ hmem)
  · intro x hx
    obtain ⟨j, hj⟩ := List.mem_iff_getElem?.mp hx
    rcases Sched.threads_set_cases hj with ⟨-, rfl⟩ | ⟨hne, hj'⟩
    · exact hs.mover hok
    · refine hs.others hok (h.calls x (List.mem_of_getElem? hj')) ?_ ?_ ?_
      · intro key hl hin
        exact hne ((h.keyLocks key).alone j i ⟨x, hj', hin⟩ ⟨_, hi, hl⟩)
      · intro v hl hin
        exact hne ((h.userLocks v).alone j i ⟨x, hj', hin⟩ ⟨_, hi, hl⟩)
      · intro hsq id hl hin
        exact hne ((h.rowLocks hsq id).alone j i ⟨x, hj', hin⟩ ⟨_, hi, hl⟩)

/-! ## What a call has paid -/

/-- What a finished call has raised the quota of `u` by. -/
def CheckinCall.paid (u : Nat) (t : CheckinCall) : Int :=
  match t.pc with
  | .returned r => if t.userId = u then r.quotaAwarded else 0
  | _ => 0

/-- What the rows hold for `u` on account of the call. -/
def CheckinCall.recordedFor (u : Nat) (t : CheckinCall) : Int :=
  match t.pc with
  | .increase r | .delete r | .returned r => if t.userId = u then r.quotaAwarded else 0
  | _ => 0

section

variable {sqlite fails : Bool} {s s' : CheckinDB} {u : Nat} {pc pc' : CheckinPc}

theorem CheckinStep.quotaOf (h : CheckinStep sqlite fails s u pc s' pc')
    (hok : CheckinOk sqlite s ⟨u, pc⟩) (huser : (s.quota u).isSome = true) (v : Nat) :
    s'.quotaOf v - s.quotaOf v = CheckinCall.paid v ⟨u, pc'⟩ - CheckinCall.paid v ⟨u, pc⟩ := by
  obtain ⟨q₀, hq₀⟩ := Option.isSome_iff_exists.mp huser
  cases h with
  | @idle pc pc' hidle hidle' hbuilt =>
    have hzero : ∀ {x : CheckinPc}, x.idle = true → CheckinCall.paid v ⟨u, x⟩ = 0 := by
      intro x hx
      cases x <;> first | rfl | cases hx
    rw [hzero hidle, hzero hidle']
    omega
  | increase =>
    simp only [CheckinDB.quotaOf, CheckinDB.setQuota, CheckinCall.paid, Function.update_apply]
    by_cases hv : v = u
    · subst hv
      simp [hq₀]
    · simp [hv, Ne.symm hv]
  | txCommit =>
    simp only [CheckinDB.quotaOf, CheckinDB.setQuota, CheckinDB.setKeyLock,
      CheckinDB.setUserLock, CheckinDB.insert, CheckinCall.paid, Function.update_apply,
      hok.2.2.2]
    by_cases hv : v = u
    · subst hv
      simp [hq₀]
    · simp [hv, Ne.symm hv]
  | _ =>
    simp [CheckinDB.quotaOf, CheckinDB.drawId, CheckinDB.insert, CheckinDB.delete,
      CheckinDB.setKeyLock, CheckinDB.setUserLock, CheckinCall.paid]

theorem awardedTo_append (v : Nat) (rows : List Checkin) (r : Checkin) :
    awardedTo v (rows ++ [r]) = awardedTo v rows + if r.userId = v then r.quotaAwarded else 0 := by
  by_cases hv : r.userId = v <;> simp [awardedTo, List.filter_append, hv]

theorem awardedTo_cons (v : Nat) (r : Checkin) (rows : List Checkin) :
    awardedTo v (r :: rows) = (if r.userId = v then r.quotaAwarded else 0) + awardedTo v rows := by
  by_cases hv : r.userId = v <;> simp [awardedTo, hv]

theorem awardedTo_delete (v : Nat) {rows : List Checkin} (hnodup : (rows.map Checkin.id).Nodup)
    (hr : r ∈ rows) :
    awardedTo v (rows.filter (fun x => x.id ≠ r.id)) =
      awardedTo v rows - if r.userId = v then r.quotaAwarded else 0 := by
  induction rows with
  | nil => cases hr
  | cons x rows ih =>
    rw [List.map_cons, List.nodup_cons] at hnodup
    obtain ⟨hx, hnodup⟩ := hnodup
    rcases List.mem_cons.mp hr with rfl | hr
    · have hkeep : rows.filter (fun y => y.id ≠ r.id) = rows := by
        rw [List.filter_eq_self]
        intro y hy
        have hne : y.id ≠ r.id := fun heq => hx (heq ▸ List.mem_map_of_mem hy)
        simpa using hne
      rw [List.filter_cons_of_neg (by simp), hkeep, awardedTo_cons]
      omega
    · have hne : x.id ≠ r.id := fun heq => hx (heq ▸ List.mem_map_of_mem hr)
      rw [List.filter_cons_of_pos (by simpa using hne), awardedTo_cons, awardedTo_cons,
        ih hnodup hr]
      omega

/-- A step changes the sum of the rows by what it changes of what they hold on
account of its call, unless it is a compensation that fails. -/
theorem CheckinStep.awardedTo (h : CheckinStep sqlite fails s u pc s' pc')
    (hok : CheckinOk sqlite s ⟨u, pc⟩)
    (hids : sqlite = true → (s.rows.map Checkin.id).Nodup)
    (hdelete : ∀ r, pc = .delete r → fails = false) (v : Nat) :
    awardedTo v s'.rows - awardedTo v s.rows =
      CheckinCall.recordedFor v ⟨u, pc'⟩ - CheckinCall.recordedFor v ⟨u, pc⟩ := by
  cases h with
  | @idle pc pc' hidle hidle' hbuilt =>
    have hzero : ∀ {x : CheckinPc}, x.idle = true → CheckinCall.recordedFor v ⟨u, x⟩ = 0 := by
      intro x hx
      cases x <;> first | rfl | cases hx
    rw [hzero hidle, hzero hidle']
    omega
  | create htaken =>
    simp only [CheckinDB.insert, CheckinDB.drawId, awardedTo_append, CheckinCall.recordedFor,
      hok.2]
    omega
  | @delete r =>
    simp only [CheckinDB.delete, awardedTo_delete v (hids hok.1) hok.2.2,
      CheckinCall.recordedFor, hok.2.1]
    omega
  | @leave r hf =>
    rw [hdelete r rfl] at hf
    cases hf
  | @txCommit r q =>
    simp only [CheckinDB.setKeyLock, CheckinDB.setUserLock, CheckinDB.setQuota,
      CheckinDB.insert, awardedTo_append, CheckinCall.recordedFor, hok.2.1]
    omega
  | _ =>
    simp [CheckinDB.setQuota, CheckinDB.drawId, CheckinDB.setKeyLock, CheckinDB.setUserLock,
      CheckinCall.recordedFor]

end

/-! ## Every run -/

def CheckinPc.finished : CheckinPc → Bool
  | .refused _ | .panicked | .returned _ => true
  | _ => false

def CheckinPc.deletes : CheckinPc → Bool
  | .delete _ => true
  | _ => false

/-- The runs in which the compensating DELETE goes through; any other statement
may fail. -/
def compensates : Sched.Guard CheckinDB CheckinCall CheckinTick :=
  fun c i tick => ∀ t ∈ c.threads[i]?, t.pc.deletes = true → tick.fails = false

instance (c : Sched.Conf CheckinDB CheckinCall) (i : Nat) (tick : CheckinTick) :
    Decidable (compensates c i tick) :=
  inferInstanceAs (Decidable (∀ t ∈ c.threads[i]?, t.pc.deletes = true → tick.fails = false))

/-- The rows are what the finished calls have been paid, as long as every
compensation goes through. -/
structure CheckinBooks (sqlite : Bool) (db : CheckinTables) (u : Nat)
    (c : Sched.Conf CheckinDB CheckinCall) : Prop where
  inv : CheckinInv sqlite c
  rows : awardedTo u c.store.rows =
    awardedTo u db.rows + (c.threads.map (CheckinCall.recordedFor u)).sum
  quota : c.store.quotaOf u =
    (db.quota u).getD 0 + (c.threads.map (CheckinCall.paid u)).sum

theorem CheckinBooks.start (hdb : db.WF) (husers : ∀ u ∈ users, (db.quota u).isSome = true)
    (u : Nat) : CheckinBooks sqlite db u (db.start users) := by
  refine ⟨.start hdb husers, ?_, ?_⟩
  · simp [CheckinTables.start, CheckinCall.recordedFor, Function.comp_def]
  · simp [CheckinTables.start, CheckinDB.quotaOf, CheckinCall.paid, Function.comp_def]

theorem CheckinBooks.step {u : Nat} {i : Nat} {t : CheckinCall} (h : CheckinBooks sqlite db u c)
    (hguard : compensates c i tick) (hi : c.threads[i]? = some t)
    (hn : (checkinMachine sqlite format).next tick c.store t = some (s', t')) :
    CheckinBooks sqlite db u ⟨s', c.threads.set i t'⟩ := by
  have hinv := h.inv.step hi hn
  obtain ⟨hcall, hs⟩ := checkinMachine_next hn
  obtain ⟨v, pc⟩ := t
  obtain ⟨v', pc'⟩ := t'
  obtain rfl : v' = v := hcall
  have hs : CheckinStep sqlite tick.fails c.store v' pc s' pc' := hs
  have hmem := List.mem_of_getElem? hi
  have hok := h.inv.calls _ hmem
  refine ⟨hinv, ?_, ?_⟩
  · have hdelete : ∀ r, pc = .delete r → tick.fails = false := by
      rintro r rfl
      exact hguard _ hi rfl
    have hchange := hs.awardedTo hok (fun hsq => (h.inv.ids hsq).1) hdelete u
    have hsum := Sched.sum_threads_set (CheckinCall.recordedFor u) ⟨v', pc'⟩ hi
    have hrows := h.rows
    simp only [hsum]
    omega
  · have hchange := hs.quotaOf hok (h.inv.users _ hmem) u
    have hsum := Sched.sum_threads_set (CheckinCall.paid u) ⟨v', pc'⟩ hi
    have hquota := h.quota
    simp only [hsum]
    omega

theorem recordedFor_of_finished (u : Nat) {t : CheckinCall} (h : t.pc.finished = true) :
    t.recordedFor u = t.paid u := by
  obtain ⟨v, pc⟩ := t
  cases pc <;> first | rfl | cases h

theorem checkin_meters (hdb : db.WF) (husers : ∀ u ∈ users, (db.quota u).isSome = true) {u : Nat}
    {c : Sched.Conf CheckinDB (CheckinCall × Int)}
    (hrun : Sched.Steps (Sched.metered (checkinMachine sqlite format) (CheckinDB.quotaOf u))
      (fun c => Sched.free c.unmetered) (db.start users).withMeters c) :
    CheckinInv sqlite c.unmetered ∧ ∀ t ∈ c.threads, t.2 = t.1.paid u := by
  refine Sched.meters_eq (I := CheckinInv sqlite) (.start hdb husers) ?_ ?_ hrun
  · intro t ht
    obtain ⟨v, -, rfl⟩ := List.mem_map.mp ht
    rfl
  · intro c i tick t s' t' hI _ hi hn
    refine ⟨hI.step hi hn, ?_⟩
    obtain ⟨hcall, hs⟩ := checkinMachine_next hn
    obtain ⟨v, pc⟩ := t
    obtain ⟨v', pc'⟩ := t'
    obtain rfl : v' = v := hcall
    have hmem := List.mem_of_getElem? hi
    exact hs.quotaOf (hI.calls _ hmem) (hI.users _ hmem) u

/-- **A check-in pays exactly once**, in both modes. In every run, whatever
statement fails: a user has at most one row for a date; a call that returns a
row has itself raised its user's quota by what the row says; one that returns
an error has left every quota as it was. And once all calls have finished, the
rows have grown by what the quotas have, in every run in which no compensating
DELETE fails. -/
theorem userCheckin_pays_exactly_once (sqlite : Bool) (format : Int → String)
    {db : CheckinTables} (hdb : db.WF) {users : List Nat}
    (husers : ∀ u ∈ users, (db.quota u).isSome = true) (u : Nat) :
    (∀ c, Sched.Steps (Sched.metered (checkinMachine sqlite format) (CheckinDB.quotaOf u))
        Sched.free (db.start users).withMeters c →
      (∀ userId date, (c.store.rows.filter
        (fun r => r.userId = userId ∧ r.checkinDate = date)).length ≤ 1) ∧
      (∀ t ∈ c.threads, t.1.userId = u → ∀ r, t.1.pc = .returned r →
        r.userId = u ∧ t.2 = r.quotaAwarded) ∧
      (∀ t ∈ c.threads, ∀ err, t.1.pc = .refused err → t.2 = 0)) ∧
    (∀ c, Sched.Steps (checkinMachine sqlite format) compensates (db.start users) c →
      (∀ t ∈ c.threads, t.pc.finished = true) →
      awardedTo u c.store.rows - awardedTo u db.rows =
        c.store.quotaOf u - (db.start users).store.quotaOf u) := by
  constructor
  · intro c hrun
    obtain ⟨hinv, hmeters⟩ := checkin_meters hdb husers hrun
    refine ⟨?_, ?_, ?_⟩
    · intro userId date
      have hnodup : ((c.store.rows.filter
          (fun r => r.userId = userId ∧ r.checkinDate = date)).map Checkin.key).Nodup :=
        hinv.unique.sublist (List.filter_sublist.map _)
      have hkeys : (c.store.rows.filter
          (fun r => r.userId = userId ∧ r.checkinDate = date)).map Checkin.key
            ⊆ [(userId, date)] := by
        intro key hkey
        obtain ⟨r, hr, rfl⟩ := List.mem_map.mp hkey
        obtain ⟨rfl, rfl⟩ : r.userId = userId ∧ r.checkinDate = date := by
          simpa using (List.mem_filter.mp hr).2
        exact List.mem_singleton.mpr rfl
      simpa using hnodup.length_le_of_subset hkeys
    · rintro t ht rfl r hpc
      have hok := hinv.calls t.1 (List.mem_map_of_mem ht)
      simp only [CheckinOk, hpc] at hok
      refine ⟨hok, ?_⟩
      rw [hmeters t ht]
      simp [CheckinCall.paid, hpc]
    · intro t ht err hpc
      rw [hmeters t ht]
      simp only [CheckinCall.paid, hpc]
  · intro c hrun hfinished
    have hbooks : CheckinBooks sqlite db u c :=
      Sched.Steps.invariant (.start hdb husers u) (fun hI hok hi hn => hI.step hok hi hn) hrun
    have hsame : c.threads.map (CheckinCall.recordedFor u) = c.threads.map (CheckinCall.paid u) :=
      List.map_congr_left (fun t ht => recordedFor_of_finished u (hfinished t ht))
    have hrows := hbooks.rows
    have hquota := hbooks.quota
    rw [hsame] at hrows
    change _ = c.store.quotaOf u - (db.quota u).getD 0
    omega

/-- One row of an earlier day, and a user with a quota of 100. -/
def checkinDemo : CheckinTables :=
  ⟨[⟨1, 7, "1", 20, 86400⟩], 2, fun u => if u = 7 then some 100 else none⟩

def checkinDemoTick (fails : Bool) : CheckinTick :=
  ⟨⟨fails, 172800⟩, ⟨true, 5, 9⟩, 3⟩

/-- Three calls of one user on SQLite: the first creates its row and is not
paid, the second meets that row, and after the compensation the third checks
in. -/
theorem checkinDemo_third_call :
    checkinDemo.WF ∧
    ∃ c, Sched.Steps (checkinMachine true (fun now => toString (now / 86400))) compensates
        (checkinDemo.start [7, 7, 7]) c ∧
      awardedTo 7 c.store.rows - awardedTo 7 checkinDemo.rows = c.store.quotaOf 7 - 100 ∧
      c.threads.map CheckinCall.pc =
        [.refused .quota, .refused .create, .returned ⟨3, 7, "2", 8, 172800⟩] := by
  have hdb : checkinDemo.WF := ⟨by decide, by decide, by decide⟩
  have hrun : ∃ c, Sched.Steps (checkinMachine true (fun now => toString (now / 86400))) compensates
        (checkinDemo.start [7, 7, 7]) c ∧ (∀ t ∈ c.threads, t.pc.finished = true) ∧
      c.threads.map CheckinCall.pc =
        [.refused .quota, .refused .create, .returned ⟨3, 7, "2", 8, 172800⟩] :=
    Sched.exists_of_run ([0, 0, 0, 1, 1, 1, 2, 2, 2, 0, 1].map (·, checkinDemoTick false) ++
      (0, checkinDemoTick true) :: [0, 2, 2].map (·, checkinDemoTick false)) (by decide)
  obtain ⟨c, hrun, hfinished, hpcs⟩ := hrun
  exact ⟨hdb, c, hrun,
    (userCheckin_pays_exactly_once true _ hdb (by decide) 7).2 c hrun hfinished, hpcs⟩

end YouBox
