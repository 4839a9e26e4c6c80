import YouBox.TopUp

/-!
# The balances of a user

`IncreaseUserQuota`, `DecreaseUserQuota`, `TransferAffQuotaToQuota`, `inviteUser`
and `User.Update` on the row of one user, one statement a step, any number of
them interleaved, batching off. Any statement may fail.

They write in four different ways: the first two by an UPDATE relative to what is
stored; the transfer by a read and a `Save` of the whole row in a transaction,
whose SELECT locks the row where `lockForUpdate` does (`locking`; not on SQLite);
`inviteUser` by a read and a `Save` without either; `User.Update` by writing the
non-zero fields of an object loaded at any time before, `aff_quota` among them.

Every statement that writes waits for the row lock. So a transfer that locks has
the row to itself, and what the others need is that the balances they write back
are the stored ones (`freshWrites`).
-/

namespace YouBox

/-- The columns of `users` these operations change. -/
structure AccountRow where
  quota : Int
  affQuota : Int
  affCount : Int
  affHistoryQuota : Int
deriving DecidableEq

/-- The row as committed, and its lock. -/
structure AccountDB where
  row : AccountRow
  locked : Bool

inductive BalanceOp where
  | increaseUserQuota (quota : Int)
  | decreaseUserQuota (quota : Int)
  | transferAffQuotaToQuota (quota : Int)
  | inviteUser
  | update

/-- Where an operation stands; `r` is the row it has read. -/
inductive BalancePc where
  | start
  /-- the relative UPDATE -/
  | relative
  | select
  | check (r : AccountRow)
  | save (r : AccountRow)
  | commit (r : AccountRow)
  | rollback (held : Bool)
  | inviteSave (r : AccountRow)
  /-- `User.Update` with the object `r`: the SELECT of `current`, the UPDATE -/
  | current (r : AccountRow)
  | updates (r : AccountRow)
  | reread
  | failed
  | done
deriving DecidableEq

structure BalanceThread where
  op : BalanceOp
  pc : BalancePc

/-- The settings the operations read. -/
structure BalanceConfig where
  locking : Bool
  quotaPerUnit : ℚ
  quotaForInviter : Int

def AccountDB.write (s : AccountDB) (r : AccountRow) : AccountDB := { s with row := r }

def AccountDB.setLock (s : AccountDB) (b : Bool) : AccountDB := { s with locked := b }

/-- gorm's `Updates(struct)`: a field that is zero is not written. -/
def keepIfZero (new old : Int) : Int := if new = 0 then old else new

/-- What `User.Update` writes; `quota` is omitted. -/
def AccountRow.updated (row new : AccountRow) : AccountRow :=
  { row with
    affQuota := keepIfZero new.affQuota row.affQuota
    affCount := keepIfZero new.affCount row.affCount
    affHistoryQuota := keepIfZero new.affHistoryQuota row.affHistoryQuota }

/-- What `inviteUser` writes. -/
def AccountRow.invited (r : AccountRow) (quotaForInviter : Int) : AccountRow :=
  { r with
    affCount := r.affCount + 1
    affQuota := r.affQuota + quotaForInviter
    affHistoryQuota := r.affHistoryQuota + quotaForInviter }

/-- What a transfer of `quota` writes. -/
def AccountRow.transferred (r : AccountRow) (quota : Int) : AccountRow :=
  { r with affQuota := r.affQuota - quota, quota := r.quota + quota }

def AccountRow.addQuota (r : AccountRow) (delta : Int) : AccountRow :=
  { r with quota := r.quota + delta }

/-- What an operation that succeeds changes the quota by. -/
def BalanceOp.quotaDelta : BalanceOp → Int
  | .increaseUserQuota quota | .transferAffQuotaToQuota quota => quota
  | .decreaseUserQuota quota => -quota
  | .inviteUser | .update => 0

/-- What an operation that succeeds changes the invitation quota by. -/
def BalanceConfig.affDelta (cfg : BalanceConfig) : BalanceOp → Int
  | .transferAffQuotaToQuota quota => -quota
  | .inviteUser => cfg.quotaForInviter
  | _ => 0

/-- The first step of an operation: what it checks before it reaches the
database, or the object it loads. -/
def BalanceConfig.begin (cfg : BalanceConfig) (op : BalanceOp) (tick : Tick) (s : AccountDB) :
    BalancePc :=
  match op with
  | .increaseUserQuota quota | .decreaseUserQuota quota =>
    if quota < 0 then .failed else .relative
  | .transferAffQuotaToQuota quota =>
    if (quota : ℚ) < cfg.quotaPerUnit then .failed
    else if tick.fails then .failed
    else .select
  | .inviteUser => if tick.fails then .failed else .inviteSave s.row
  | .update => if tick.fails then .failed else .current s.row

def BalanceConfig.next (cfg : BalanceConfig) (op : BalanceOp) (tick : Tick) (s : AccountDB) :
    BalancePc → Option (AccountDB × BalancePc)
  | .start => some (s, cfg.begin op tick s)
  | .relative =>
    if tick.fails then some (s, .failed)
    else if s.locked then none
    else some (s.write (s.row.addQuota op.quotaDelta), .done)
  | .select =>
    if tick.fails then some (s, .rollback false)
    else if !cfg.locking then some (s, .check s.row)
    else if s.locked then none
    else some (s.setLock true, .check s.row)
  | .check r =>
    some (s, if r.affQuota < op.quotaDelta then .rollback cfg.locking else .save r)
  | .save r =>
    if tick.fails then some (s, .rollback cfg.locking)
    else if !cfg.locking && s.locked then none
    else some (s.setLock true, .commit (r.transferred op.quotaDelta))
  | .commit r =>
    some ((if tick.fails then s else s.write r).setLock false,
      if tick.fails then .failed else .done)
  | .rollback held => some (if held then s.setLock false else s, .failed)
  | .inviteSave r =>
    if tick.fails then some (s, .failed)
    else if s.locked then none
    else some (s.write (r.invited cfg.quotaForInviter), .done)
  | .current r => some (s, if tick.fails then .failed else .updates r)
  | .updates r =>
    if tick.fails then some (s, .failed)
    else if s.locked then none
    else some (s.write (s.row.updated r), .reread)
  | .reread => some (s, if tick.fails then .failed else .done)
  | .failed | .done => none

def balanceMachine (cfg : BalanceConfig) : Sched.Machine AccountDB BalanceThread Tick where
  next tick s t := (cfg.next t.op tick s t.pc).map (fun p => (p.1, { t with pc := p.2 }))

/-- Any number of operations about to start on a row nobody has locked. -/
def AccountRow.start (row : AccountRow) (ops : List BalanceOp) :
    Sched.Conf AccountDB BalanceThread :=
  ⟨⟨row, false⟩, ops.map (fun op => ⟨op, .start⟩)⟩

/-- The row an operation has read and is about to write back, without having
locked it since. -/
def BalancePc.writingBack (locking : Bool) : BalancePc → Option AccountRow
  | .inviteSave r => some r
  | .save r => if locking then none else some r
  | _ => none

/-- The object an operation is about to write the non-zero fields of. -/
def BalancePc.updating : BalancePc → Option AccountRow
  | .updates r => some r
  | _ => none

/-- The balances that are written back are the stored ones. -/
def freshWrites (locking : Bool) : Sched.Guard AccountDB BalanceThread Tick :=
  fun c i tick => tick.fails = false → ∀ t ∈ c.threads[i]?,
    (∀ r ∈ t.pc.writingBack locking,
      r.quota = c.store.row.quota ∧ r.affQuota = c.store.row.affQuota) ∧
    (∀ r ∈ t.pc.updating, r.affQuota = 0 ∨ r.affQuota = c.store.row.affQuota)

instance (locking : Bool) (c : Sched.Conf AccountDB BalanceThread) (i : Nat) (tick : Tick) :
    Decidable (freshWrites locking c i tick) :=
  inferInstanceAs (Decidable (tick.fails = false → ∀ t ∈ c.threads[i]?,
    (∀ r ∈ t.pc.writingBack locking,
      r.quota = c.store.row.quota ∧ r.affQuota = c.store.row.affQuota) ∧
    (∀ r ∈ t.pc.updating, r.affQuota = 0 ∨ r.affQuota = c.store.row.affQuota)))

/-- What an operation has changed the quota by. -/
def BalanceThread.quotaChange (t : BalanceThread) : Int :=
  if t.pc = .done then t.op.quotaDelta else 0

/-- What an operation has changed the invitation quota by. -/
def BalanceConfig.affChange (cfg : BalanceConfig) (t : BalanceThread) : Int :=
  if t.pc = .done then cfg.affDelta t.op else 0

/-! ## What one step does -/

/-- The operation has the row lock. -/
def BalancePc.holds (locking : Bool) : BalancePc → Bool
  | .check _ | .save _ => locking
  | .commit _ => true
  | .rollback held => held
  | _ => false

inductive BalanceStep (cfg : BalanceConfig) (op : BalanceOp) (tick : Tick) (s : AccountDB) :
    BalancePc → AccountDB → BalancePc → Prop
  | start : BalanceStep cfg op tick s .start s (cfg.begin op tick s)
  | fail {pc pc'} : pc ≠ .done → pc' = .failed ∨ pc' = .rollback (pc.holds cfg.locking) →
      pc'.holds cfg.locking = pc.holds cfg.locking → BalanceStep cfg op tick s pc s pc'
  | relative : s.locked = false →
      BalanceStep cfg op tick s .relative (s.write (s.row.addQuota op.quotaDelta)) .done
  | select : cfg.locking = false → BalanceStep cfg op tick s .select s (.check s.row)
  | selectForUpdate : cfg.locking = true → s.locked = false →
      BalanceStep cfg op tick s .select (s.setLock true) (.check s.row)
  | check {r} : BalanceStep cfg op tick s (.check r) s (.save r)
  | save {r} : tick.fails = false → (cfg.locking = false → s.locked = false) →
      BalanceStep cfg op tick s (.save r) (s.setLock true) (.commit (r.transferred op.quotaDelta))
  | commit {r} :
      BalanceStep cfg op tick s (.commit r) ((s.write r).setLock false) .done
  | abort {pc} : pc.holds cfg.locking = true →
      BalanceStep cfg op tick s pc (s.setLock false) .failed
  | invite {r} : tick.fails = false → s.locked = false →
      BalanceStep cfg op tick s (.inviteSave r) (s.write (r.invited cfg.quotaForInviter)) .done
  | current {r} : BalanceStep cfg op tick s (.current r) s (.updates r)
  | updates {r} : tick.fails = false → s.locked = false →
      BalanceStep cfg op tick s (.updates r) (s.write (s.row.updated r)) .reread
  | reread : BalanceStep cfg op tick s .reread s .done

variable {cfg : BalanceConfig} {op : BalanceOp} {tick : Tick} {s s' : AccountDB}
  {pc pc' : BalancePc}

theorem balanceStep_of_next (h : cfg.next op tick s pc = some (s', pc')) :
    BalanceStep cfg op tick s pc s' pc' := by
  cases pc with
  | start => cases h; exact .start
  | relative =>
    simp only [BalanceConfig.next] at h
    split at h
    · cases h; exact .fail nofun (Or.inl rfl) rfl
    · split at h
      · cases h
      · rename_i hfree
        cases h
        exact .relative (by simpa using hfree)
  | select =>
    simp only [BalanceConfig.next] at h
    split at h
    · cases h; exact .fail nofun (Or.inr rfl) rfl
    · split at h
      · rename_i hlocking
        cases h
        exact .select (by simpa using hlocking)
      · rename_i hlocking
        split at h
        · cases h
        · rename_i hfree
          cases h
          exact .selectForUpdate (by simpa using hlocking) (by simpa using hfree)
  | check r =>
    simp only [BalanceConfig.next] at h
    cases h
    split
    · exact .fail nofun (Or.inr rfl) rfl
    · exact .check
  | save r =>
    simp only [BalanceConfig.next] at h
    split at h
    · cases h; exact .fail nofun (Or.inr rfl) rfl
    · rename_i hf
      split at h
      · cases h
      · rename_i hfree
        cases h
        exact .save (by simpa using hf) (by simpa using hfree)
  | commit r =>
    cases hf : tick.fails with
    | true =>
      simp only [BalanceConfig.next, hf] at h
      cases h
      exact .abort rfl
    | false =>
      simp only [BalanceConfig.next, hf] at h
      cases h
      exact .commit
  | rollback held =>
    cases held with
    | true => cases h; exact .abort rfl
    | false => cases h; exact .fail nofun (Or.inl rfl) rfl
  | inviteSave r =>
    simp only [BalanceConfig.next] at h
    split at h
    · cases h; exact .fail nofun (Or.inl rfl) rfl
    · rename_i hf
      split at h
      · cases h
      · rename_i hfree
        cases h
        exact .invite (by simpa using hf) (by simpa using hfree)
  | current r =>
    simp only [BalanceConfig.next] at h
    cases h
    split
    · exact .fail nofun (Or.inl rfl) rfl
    · exact .current
  | updates r =>
    simp only [BalanceConfig.next] at h
    split at h
    · cases h; exact .fail nofun (Or.inl rfl) rfl
    · rename_i hf
      split at h
      · cases h
      · rename_i hfree
        cases h
        exact .updates (by simpa using hf) (by simpa using hfree)
  | reread =>
    simp only [BalanceConfig.next] at h
    cases h
    split
    · exact .fail nofun (Or.inl rfl) rfl
    · exact .reread
  | failed => cases h
  | done => cases h

theorem balanceMachine_next {t t' : BalanceThread}
    (h : (balanceMachine cfg).next tick s t = some (s', t')) :
    t'.op = t.op ∧ BalanceStep cfg t.op tick s t.pc s' t'.pc := by
  simp only [balanceMachine, Option.map_eq_some_iff, Prod.mk.injEq] at h
  obtain ⟨⟨s₁, pc'⟩, hn, rfl, rfl⟩ := h
  exact ⟨rfl, balanceStep_of_next hn⟩

/-! ## The row lock -/

theorem BalanceStep.rowLock (h : BalanceStep cfg op tick s pc s' pc')
    (hheld : pc.holds cfg.locking = true → s.locked = true) :
    (pc'.holds cfg.locking = true → ¬ pc.holds cfg.locking = true → s.locked = false) ∧
      (pc'.holds cfg.locking = true → s'.locked = true) ∧
      (¬ pc.holds cfg.locking = true → s.locked = true → s'.locked = true) := by
  cases h with
  | start =>
    have hbegin : (cfg.begin op tick s).holds cfg.locking = false := by
      unfold BalanceConfig.begin
      repeat' split
      all_goals rfl
    simp [hbegin]
  | fail hpc hpc' hsame =>
    rw [hsame]
    exact ⟨fun hin hout => absurd hin hout, hheld, fun _ hlock => hlock⟩
  | relative hfree => simp [BalancePc.holds, hfree]
  | select hlocking => simp [BalancePc.holds, hlocking]
  | selectForUpdate hlocking hfree => simp [hfree, AccountDB.setLock]
  | check => exact ⟨fun hin hout => absurd hin hout, hheld, fun _ hlock => hlock⟩
  | save hf hfree => simpa [BalancePc.holds, AccountDB.setLock] using hfree
  | commit => simp [BalancePc.holds]
  | abort hin => exact ⟨nofun, nofun, fun hout => absurd hin hout⟩
  | invite hf hfree => simp [BalancePc.holds, hfree]
  | current => simp [BalancePc.holds]
  | updates hf hfree => simp [BalancePc.holds, hfree]
  | reread => simp [BalancePc.holds]

theorem BalanceStep.row (h : BalanceStep cfg op tick s pc s' pc') :
    s'.row = s.row ∨ s.locked = false ∨ pc.holds cfg.locking = true := by
  cases h with
  | start | fail | select | selectForUpdate | check | save | abort | current | reread =>
    exact Or.inl rfl
  | relative hfree => exact Or.inr (Or.inl hfree)
  | commit => exact Or.inr (Or.inr rfl)
  | invite hf hfree => exact Or.inr (Or.inl hfree)
  | updates hf hfree => exact Or.inr (Or.inl hfree)

/-! ## What an operation knows -/

/-- Whose steps these are: what the operation is to change the balances by. -/
def BalancePc.Serves (cfg : BalanceConfig) (op : BalanceOp) : BalancePc → Prop
  | .relative => cfg.affDelta op = 0
  | .select | .check _ | .save _ | .commit _ => cfg.affDelta op = -op.quotaDelta
  | .inviteSave _ => op.quotaDelta = 0 ∧ cfg.affDelta op = cfg.quotaForInviter
  | .current _ | .updates _ | .reread => op.quotaDelta = 0 ∧ cfg.affDelta op = 0
  | _ => True

/-- The balances a locking transfer has read are the stored ones, and those it
commits are the stored ones after the transfer. -/
def BalancePc.Knows (locking : Bool) (op : BalanceOp) (row : AccountRow) : BalancePc → Prop
  | .check r | .save r => locking = true → r.quota = row.quota ∧ r.affQuota = row.affQuota
  | .commit r =>
    r.quota = row.quota + op.quotaDelta ∧ r.affQuota = row.affQuota - op.quotaDelta
  | _ => True

theorem knows_of_not_holds {locking : Bool} (h : pc.holds locking = false) (op : BalanceOp)
    (row : AccountRow) : pc.Knows locking op row := by
  cases pc with
  | check r | save r =>
    intro hlocking
    rw [BalancePc.holds, hlocking] at h
    cases h
  | commit r => cases h
  | _ => trivial

theorem BalanceStep.serves (h : BalanceStep cfg op tick s pc s' pc') (hserves : pc.Serves cfg op) :
    pc'.Serves cfg op := by
  cases h with
  | start =>
    cases op with
    | increaseUserQuota quota | decreaseUserQuota quota =>
      simp only [BalanceConfig.begin]
      split
      · trivial
      · rfl
    | transferAffQuotaToQuota quota =>
      simp only [BalanceConfig.begin]
      split
      · trivial
      · split
        · trivial
        · rfl
    | inviteUser | update =>
      simp only [BalanceConfig.begin]
      split
      · trivial
      · exact ⟨rfl, rfl⟩
  | fail hpc hpc' hsame => rcases hpc' with rfl | rfl <;> trivial
  | relative | commit | abort | invite | reread => trivial
  | select | selectForUpdate | check | save | current | updates => exact hserves

theorem BalanceStep.knows (h : BalanceStep cfg op tick s pc s' pc') (hfresh : tick.fails = false → ∀
      r ∈ pc.writingBack cfg.locking, r.quota = s.row.quota ∧ r.affQuota = s.row.affQuota)
    (hknows : pc.Knows cfg.locking op s.row) : pc'.Knows cfg.locking op s'.row := by
  cases h with
  | start =>
    refine knows_of_not_holds ?_ op s.row
    unfold BalanceConfig.begin
    repeat' split
    all_goals rfl
  | fail hpc hpc' hsame => rcases hpc' with rfl | rfl <;> trivial
  | select | selectForUpdate => exact fun _ => ⟨rfl, rfl⟩
  | check => exact hknows
  | @save r hf hfree =>
    have hread : r.quota = s.row.quota ∧ r.affQuota = s.row.affQuota := by
      cases hlocking : cfg.locking with
      | true => exact hknows hlocking
      | false => exact hfresh hf r (by simp [BalancePc.writingBack, hlocking])
    exact ⟨congrArg (· + op.quotaDelta) hread.1, congrArg (· - op.quotaDelta) hread.2⟩
  | relative | commit | abort | invite | current | updates | reread => trivial

/-! ## Conservation -/

theorem keepIfZero_of_fresh {new old : Int} (h : new = 0 ∨ new = old) :
    keepIfZero new old = old := by
  unfold keepIfZero
  rcases h with h | h
  · rw [if_pos h]
  · rw [h]
    split <;> rfl

theorem BalanceStep.change (h : BalanceStep cfg op tick s pc s' pc') (hwrite : tick.fails = false →
      ∀ r ∈ pc.writingBack cfg.locking, r.quota = s.row.quota ∧ r.affQuota = s.row.affQuota)
    (hupdate : tick.fails = false → ∀ r ∈ pc.updating, r.affQuota = 0 ∨ r.affQuota = s.row.affQuota)
    (hserves : pc.Serves cfg op) (hknows : pc.Knows cfg.locking op s.row) :
    s'.row.quota - s.row.quota
        = BalanceThread.quotaChange ⟨op, pc'⟩ - BalanceThread.quotaChange ⟨op, pc⟩ ∧
      s'.row.affQuota - s.row.affQuota = cfg.affChange ⟨op, pc'⟩ - cfg.affChange ⟨op, pc⟩ := by
  have hquiet : ∀ {pc pc' : BalancePc} {row : AccountRow}, pc ≠ .done → pc' ≠ .done →
      row.quota - row.quota
          = BalanceThread.quotaChange ⟨op, pc'⟩ - BalanceThread.quotaChange ⟨op, pc⟩ ∧
        row.affQuota - row.affQuota = cfg.affChange ⟨op, pc'⟩ - cfg.affChange ⟨op, pc⟩ := by
    intro pc pc' row hpc hpc'
    simp [BalanceThread.quotaChange, BalanceConfig.affChange, hpc, hpc']
  cases h with
  | start =>
    refine hquiet nofun ?_
    unfold BalanceConfig.begin
    repeat' split
    all_goals exact nofun
  | fail hpc hpc' hsame => exact hquiet hpc (by rcases hpc' with rfl | rfl <;> exact nofun)
  | select | selectForUpdate | check | save | current => exact hquiet nofun nofun
  | abort hin => exact hquiet (by rintro rfl; cases hin) nofun
  | relative hfree =>
    have haff : cfg.affDelta op = 0 := hserves
    simp [BalanceThread.quotaChange, BalanceConfig.affChange, AccountDB.write,
      AccountRow.addQuota, haff]
  | @commit r =>
    have haff : cfg.affDelta op = -op.quotaDelta := hserves
    obtain ⟨hquota, haffQuota⟩ := hknows
    simp only [BalanceThread.quotaChange, BalanceConfig.affChange, AccountDB.write,
      AccountDB.setLock, haff, hquota, haffQuota, if_true, reduceCtorEq, if_false]
    omega
  | @invite r hf hfree =>
    obtain ⟨hzero, haff⟩ := hserves
    obtain ⟨hquota, haffQuota⟩ := hwrite hf r rfl
    simp only [BalanceThread.quotaChange, BalanceConfig.affChange, AccountDB.write,
      AccountRow.invited, hzero, haff, hquota, haffQuota, if_true, reduceCtorEq, if_false]
    omega
  | @updates r hf hfree =>
    have hkeep : keepIfZero r.affQuota s.row.affQuota = s.row.affQuota :=
      keepIfZero_of_fresh (hupdate hf r rfl)
    simp [BalanceThread.quotaChange, BalanceConfig.affChange, AccountDB.write,
      AccountRow.updated, hkeep]
  | reread =>
    obtain ⟨hzero, haff⟩ := hserves
    simp [BalanceThread.quotaChange, BalanceConfig.affChange, hzero, haff]

/-- Whoever has the lock is alone, every operation knows what it writes, and the
balances are what the finished operations make them. -/
structure BalanceInv (cfg : BalanceConfig) (row : AccountRow)
    (c : Sched.Conf AccountDB BalanceThread) : Prop where
  lock : Sched.LockInv (fun t : BalanceThread => t.pc.holds cfg.locking = true)
    AccountDB.locked c
  serves : ∀ t ∈ c.threads, t.pc.Serves cfg t.op
  knows : ∀ (i : Nat) (t : BalanceThread), c.threads[i]? = some t →
    t.pc.Knows cfg.locking t.op c.store.row
  quota : c.store.row.quota = row.quota + (c.threads.map BalanceThread.quotaChange).sum
  affQuota : c.store.row.affQuota = row.affQuota + (c.threads.map cfg.affChange).sum

theorem balanceInv_start (cfg : BalanceConfig) (row : AccountRow) (ops : List BalanceOp) :
    BalanceInv cfg row (row.start ops) := by
  have hstart : ∀ t ∈ (row.start ops).threads, t.pc = .start := by
    intro t ht
    obtain ⟨op, -, rfl⟩ := List.mem_map.mp ht
    rfl
  refine ⟨Sched.LockInv.init ?_, ?_, ?_, ?_, ?_⟩
  · intro t ht
    rw [hstart t ht]
    exact nofun
  · intro t ht
    rw [hstart t ht]
    trivial
  · intro i t ht
    rw [hstart t (List.mem_of_getElem? ht)]
    trivial
  · simp [AccountRow.start, Function.comp_def, BalanceThread.quotaChange]
  · simp [AccountRow.start, Function.comp_def, BalanceConfig.affChange]

theorem BalanceInv.step {row : AccountRow} {c : Sched.Conf AccountDB BalanceThread} {i : Nat}
    {t t' : BalanceThread} (hI : BalanceInv cfg row c) (hok : freshWrites cfg.locking c i tick)
    (ht : c.threads[i]? = some t) (hn : (balanceMachine cfg).next tick c.store t = some (s', t')) :
    BalanceInv cfg row ⟨s', c.threads.set i t'⟩ := by
  obtain ⟨hop, hstep⟩ := balanceMachine_next hn
  obtain ⟨op, pc⟩ := t
  obtain ⟨op', pc'⟩ := t'
  obtain rfl : op' = op := hop
  replace hstep : BalanceStep cfg op' tick c.store pc s' pc' := hstep
  have hmem := List.mem_of_getElem? ht
  have hwrite := fun hf => (hok hf _ ht).1
  have hupdate := fun hf => (hok hf _ ht).2
  have hserves := hI.serves _ hmem
  have hknows := hI.knows i _ ht
  obtain ⟨henter, hheld, hother⟩ := hstep.rowLock (fun hin => hI.lock.held i ⟨_, ht, hin⟩)
  obtain ⟨hquota, haff⟩ := hstep.change hwrite hupdate hserves hknows
  refine ⟨hI.lock.step ht henter hheld hother, ?_, ?_, ?_, ?_⟩
  · exact Sched.forall_threads_set hI.serves (hstep.serves hserves)
  · intro j x hx
    rcases Sched.threads_set_cases hx with ⟨rfl, rfl⟩ | ⟨hne, hx'⟩
    · exact hstep.knows hwrite hknows
    · rcases hstep.row with hrow | hfree | hin
      · rw [hrow]
        exact hI.knows j x hx'
      · refine knows_of_not_holds (Bool.eq_false_iff.mpr ?_) x.op s'.row
        intro hin
        have hlocked := hI.lock.held j ⟨x, hx', hin⟩
        rw [hfree] at hlocked
        cases hlocked
      · refine knows_of_not_holds (Bool.eq_false_iff.mpr ?_) x.op s'.row
        intro hin'
        exact hne (hI.lock.alone j i ⟨x, hx', hin'⟩ ⟨_, ht, hin⟩)
  · have hsum := Sched.sum_threads_set BalanceThread.quotaChange ⟨op', pc'⟩ ht
    have hwas := hI.quota
    simp only [hsum]
    omega
  · have hsum := Sched.sum_threads_set cfg.affChange ⟨op', pc'⟩ ht
    have hwas := hI.affQuota
    simp only [hsum]
    omega

/-- **Balances are conserved.** In every run in which what is written back is what
is stored, the quota and the invitation quota are at any time the initial ones
plus what the operations that have succeeded change them by. -/
theorem userBalances_conserved {cfg : BalanceConfig} {row : AccountRow} {ops : List BalanceOp}
    {c : Sched.Conf AccountDB BalanceThread}
    (hrun : Sched.Steps (balanceMachine cfg) (freshWrites cfg.locking) (row.start ops) c) :
    c.store.row.quota = row.quota + (c.threads.map BalanceThread.quotaChange).sum ∧
      c.store.row.affQuota = row.affQuota + (c.threads.map cfg.affChange).sum := by
  have hinv : BalanceInv cfg row c :=
    Sched.Steps.invariant (balanceInv_start cfg row ops)
      (fun hI hok ht hn => hI.step hok ht hn) hrun
  exact ⟨hinv.quota, hinv.affQuota⟩

/-- A row lock for every transfer, half a unit for an inviter. -/
def balanceDemo : BalanceConfig := ⟨true, 100, 50⟩

/-- Three invitations, a transfer of what they gave, a consumption that waits for
the transfer, and an update of the user as loaded before all of them, with no
invitation quota to write yet. -/
theorem balanceDemo_conserved :
    ∃ c, Sched.Steps (balanceMachine balanceDemo) (freshWrites balanceDemo.locking)
        (AccountRow.start ⟨1000, 0, 0, 0⟩
          [.update, .inviteUser, .inviteUser, .inviteUser, .transferAffQuotaToQuota 120,
            .decreaseUserQuota 300]) c ∧
      c.store.row.quota = 1000 + (c.threads.map BalanceThread.quotaChange).sum ∧
      c.store.row.affQuota = 0 + (c.threads.map balanceDemo.affChange).sum ∧
      c.store.row = ⟨820, 30, 3, 150⟩ := by
  have hrun : ∃ c, Sched.Steps (balanceMachine balanceDemo) (freshWrites balanceDemo.locking)
        (AccountRow.start ⟨1000, 0, 0, 0⟩
          [.update, .inviteUser, .inviteUser, .inviteUser, .transferAffQuotaToQuota 120,
            .decreaseUserQuota 300]) c ∧ c.store.row = ⟨820, 30, 3, 150⟩ :=
    Sched.exists_of_run
      ([0, 1, 1, 2, 2, 3, 3, 0, 4, 4, 5, 4, 4, 4, 0, 5, 0].map (·, ⟨false, 0⟩)) (by decide)
  obtain ⟨c, hrun, hrow⟩ := hrun
  obtain ⟨hquota, haff⟩ := userBalances_conserved hrun
  exact ⟨c, hrun, hquota, haff, hrow⟩

/-- Every operation has returned. -/
def allFinished (c : Sched.Conf AccountDB BalanceThread) : Bool :=
  c.threads.all (fun t => t.pc == .done || t.pc == .failed)

/-- Stale writes: an invitation writes back the quota from before a consumption,
and an update the invitation quota from before a transfer. -/
theorem stale_writes_undo_changes :
    (∃ c, Sched.Steps (balanceMachine balanceDemo) Sched.free
        (AccountRow.start ⟨1000, 0, 0, 0⟩ [.inviteUser, .decreaseUserQuota 300]) c ∧
      allFinished c = true ∧ c.store.row.quota = 1000 ∧
      (c.threads.map BalanceThread.quotaChange).sum = -300) ∧
    ∃ c, Sched.Steps (balanceMachine balanceDemo) Sched.free
        (AccountRow.start ⟨1000, 200, 4, 200⟩ [.update, .transferAffQuotaToQuota 200]) c ∧
      allFinished c = true ∧ c.store.row.quota = 1200 ∧ c.store.row.affQuota = 200 ∧
      (c.threads.map balanceDemo.affChange).sum = -200 := by
  constructor
  · exact Sched.exists_of_run ([0, 1, 1, 0].map (·, ⟨false, 0⟩)) (by decide)
  · exact Sched.exists_of_run ([0, 1, 1, 1, 1, 1, 0, 0, 0].map (·, ⟨false, 0⟩)) (by decide)

end YouBox
