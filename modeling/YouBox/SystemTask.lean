import YouBox.Sched

/-!
# System tasks and their leases

The rows of `system_tasks` and `system_task_locks`, every statement the code
runs on them, and the executions that run these statements one by one: a
runner's claim of a pending task, the heartbeat and the handler that follow a
claim, the pass over expired locks, and the creation of a task. Any number of
them run side by side; time passes between any two steps, any statement may
fail, and an execution that stops for good is a crashed runner.

An execution never writes the tables itself: its step names one statement
(`LeaseStmt`), and `SystemTaskDB.exec` says what the database does with it. So
what holds of every statement (`exec_wellFormed`, `exec_evolves`) holds of every
step, whoever takes it, and `lease_protocol_safe` is read off from that.
-/

namespace YouBox

inductive SystemTaskStatus where
  | pending
  | running
  | succeeded
  | failed
deriving DecidableEq

namespace SystemTaskStatus

def terminal : SystemTaskStatus → Bool
  | .succeeded | .failed => true
  | .pending | .running => false

/-- The edges of a task's life. -/
inductive Next : SystemTaskStatus → SystemTaskStatus → Prop
  | start : Next .pending .running
  | succeed : Next .running .succeeded
  | fail : Next .running .failed

/-- The status stays or moves along one edge. -/
def Moves (a b : SystemTaskStatus) : Prop := a = b ∨ Next a b

end SystemTaskStatus

/-- The status argument of `FinishSystemTask`: all its callers pass one of
these two. -/
inductive FinishStatus where
  | succeeded
  | failed

def FinishStatus.toStatus : FinishStatus → SystemTaskStatus
  | .succeeded => .succeeded
  | .failed => .failed

structure SystemTask where
  id : Nat
  taskID : String
  type : String
  status : SystemTaskStatus
  activeKey : Option String
  state : String
  result : String
  error : String
  lockedBy : String
  updatedAt : Int

structure SystemTaskLock where
  type : String
  taskID : String
  lockedBy : String
  lockedUntil : Int
  updatedAt : Int

/-- The two tables, the clock, and the runners whose loop is inside a claim:
one runner claims its tasks one after another. -/
structure SystemTaskDB where
  tasks : List SystemTask
  locks : List SystemTaskLock
  clock : Int
  claiming : List String

/-- `UPDATE ... WHERE`. -/
def updateWhere {α : Type*} (p : α → Bool) (f : α → α) (rows : List α) : List α :=
  rows.map fun r => if p r then f r else r

/-! ## The statements -/

inductive LeaseStmt where
  | skip
  | enter (runner : String)
  | leave (runner : String)
  | createTask (row : SystemTask)
  | insertLock (lock : SystemTaskLock)
  | takeover (now : Int) (lock : SystemTaskLock)
  | markLeaseExpired (taskID : String)
  | setRunning (id : Nat) (type runner : String) (now : Int)
  | updateState (taskID lockedBy : String) (now : Int) (state : String)
  | finish (taskID lockedBy : String) (now : Int) (status : FinishStatus) (result error : String)
  | renew (taskID lockedBy : String) (now lockUntil : Int)
  | deleteExpired (lock : SystemTaskLock) (now : Int)
  | release (taskID lockedBy : String)

namespace SystemTaskDB

/-- The unique indexes on the primary key, `task_id` and `active_key` refuse
the row. -/
def taskConflict (s : SystemTaskDB) (row : SystemTask) : Bool :=
  s.tasks.any fun t =>
    t.id == row.id || t.taskID == row.taskID || (row.activeKey.isSome && t.activeKey == row.activeKey)

/-- The primary key on `type` refuses the row. -/
def lockConflict (s : SystemTaskDB) (type : String) : Bool :=
  s.locks.any fun l => l.type == type

def isPending (id : Nat) (type : String) (t : SystemTask) : Bool :=
  t.id == id && t.type == type && t.status == .pending

/-- The lock is one that `UpdateSystemTaskState` and `FinishSystemTask` accept:
of this task and this runner, and not expired. -/
def holds (taskID lockedBy : String) (now : Int) (l : SystemTaskLock) : Bool :=
  l.taskID == taskID && l.lockedBy == lockedBy && decide (now ≤ l.lockedUntil)

/-- The `WHERE` clauses of `UpdateSystemTaskState` and `FinishSystemTask`. -/
def leaseGuard (s : SystemTaskDB) (taskID lockedBy : String) (now : Int) (t : SystemTask) : Bool :=
  t.taskID == taskID && t.status == .running && t.lockedBy == lockedBy
    && s.locks.any (holds t.taskID lockedBy now)

def isExpired (type : String) (now : Int) (l : SystemTaskLock) : Bool :=
  l.type == type && decide (l.lockedUntil < now)

/-- What the database does with a statement. -/
def exec (s : SystemTaskDB) : LeaseStmt → SystemTaskDB
  | .skip => s
  | .enter runner => { s with claiming := runner :: s.claiming }
  | .leave runner => { s with claiming := s.claiming.erase runner }
  | .createTask row => if s.taskConflict row then s else { s with tasks := s.tasks ++ [row] }
  | .insertLock lock =>
    if s.lockConflict lock.type then s else { s with locks := s.locks ++ [lock] }
  | .takeover now lock => { s with
      locks := updateWhere (isExpired lock.type now) (fun l => { l with
        taskID := lock.taskID, lockedBy := lock.lockedBy
        lockedUntil := lock.lockedUntil, updatedAt := lock.updatedAt }) s.locks }
  | .markLeaseExpired taskID => { s with
      tasks := updateWhere (fun t => t.taskID == taskID && t.status == .running) (fun t => { t with
        status := .failed, activeKey := none, error := "task lease expired"
        updatedAt := s.clock }) s.tasks }
  | .setRunning id type runner now => { s with
      tasks := updateWhere (isPending id type) (fun t => { t with
        status := .running, lockedBy := runner, updatedAt := now }) s.tasks }
  | .updateState taskID lockedBy now state => { s with
      tasks := updateWhere (s.leaseGuard taskID lockedBy now) (fun t => { t with
        state := state, updatedAt := now }) s.tasks }
  | .finish taskID lockedBy now status result error => { s with
      tasks := updateWhere (s.leaseGuard taskID lockedBy now) (fun t => { t with
        status := status.toStatus, activeKey := none, result := result, error := error
        updatedAt := now }) s.tasks }
  | .renew taskID lockedBy now lockUntil => { s with
      locks := updateWhere (holds taskID lockedBy now) (fun l => { l with
        lockedUntil := lockUntil, updatedAt := now }) s.locks }
  | .deleteExpired lock now => { s with
      locks := s.locks.filter fun l => !(l.type == lock.type && l.taskID == lock.taskID
        && l.lockedBy == lock.lockedBy && decide (l.lockedUntil < now)) }
  | .release taskID lockedBy => { s with
      locks := s.locks.filter fun l => !(l.taskID == taskID && l.lockedBy == lockedBy) }

end SystemTaskDB

/-! ## The executions -/

/-- `systemTaskLockTTL`, in seconds. -/
def systemTaskLockTTL : Int := 60

/-- Where a `ClaimSystemTask` call stands; `task` is the row its first
statement read. -/
inductive ClaimPc where
  | enter
  | start (lockUntil : Int)
  | select (now lockUntil : Int)
  | insertLock (task : SystemTask) (now lockUntil : Int)
  | selectLock (task : SystemTask) (now lockUntil : Int)
  | takeover (task : SystemTask) (expired : String) (now lockUntil : Int)
  | markExpired (task : SystemTask) (expired : String) (now : Int)
  | setRunning (task : SystemTask) (now : Int)
  | release (task : SystemTask)
  | reload (task : SystemTask)
  | leave (claimed : Option String)
  | ended

/-- The heartbeat of `runWithLeaseHeartbeat`. -/
inductive BeatPc where
  | waiting
  | start (lockUntil : Int)
  | renew (now lockUntil : Int)
  | cancelled

/-- What a handler asks of the table next. -/
inductive HandlerCall where
  | updateState (state : String)
  | finish (status : FinishStatus) (result error : String)

inductive HandlerPc where
  | working
  | updateState (now : Int) (state : String)
  | finish (now : Int) (status : FinishStatus) (result error : String)
  | release
  | ended

inductive ExpirePc where
  | start
  | select (now : Int)
  | mark (now : Int) (lock : SystemTaskLock) (rest : List SystemTaskLock)
  | delete (now : Int) (lock : SystemTaskLock) (rest : List SystemTaskLock)
  | ended

/-- An execution: a runner's call of `ClaimSystemTask`, which turns into the
heartbeat and the handler of the task it claimed; a call of
`ExpireStaleSystemTaskLocks`; a call of `CreateSystemTask`. -/
inductive LeaseExec where
  | claim (runner : String) (id : Nat) (type : String) (pc : ClaimPc)
  | work (runner taskID : String) (beat : BeatPc) (handler : HandlerPc)
  | expire (pc : ExpirePc)
  | create (id : Nat) (taskID type state : String) (done : Bool)

/-- One step's circumstances: the time since the last step, whether its
statement fails, which of a task's two goroutines moves and what its handler
wants. -/
structure LeaseTick where
  elapsed : Nat
  fails : Bool
  beats : Bool
  call : HandlerCall

/-- The loop over the locks an expiry pass has read. -/
def expireNext (now : Int) : List SystemTaskLock → ExpirePc
  | [] => .ended
  | lock :: rest => .mark now lock rest

section

variable (e : LeaseTick) (s : SystemTaskDB)

def claimSystemTask (runner : String) (id : Nat) (type : String) :
    ClaimPc → Option (LeaseStmt × ClaimPc)
  | .enter =>
    if runner ∈ s.claiming then none
    else some (.enter runner, .start (s.clock + systemTaskLockTTL))
  | .start lockUntil => some (.skip, .select s.clock lockUntil)
  | .select now lockUntil =>
    if e.fails then some (.skip, .leave none)
    else match s.tasks.find? (SystemTaskDB.isPending id type) with
      | none => some (.skip, .leave none)
      | some task => some (.skip, .insertLock task now lockUntil)
  | .insertLock task now lockUntil =>
    if e.fails then some (.skip, .selectLock task now lockUntil)
    else if s.lockConflict type then some (.skip, .selectLock task now lockUntil)
    else some (.insertLock ⟨type, task.taskID, runner, lockUntil, now⟩, .setRunning task now)
  | .selectLock task now lockUntil =>
    if e.fails then some (.skip, .leave none)
    else match s.locks.find? fun l => l.type == type with
      | none => some (.skip, .leave none)
      | some existing =>
        if now ≤ existing.lockedUntil then some (.skip, .leave none)
        else some (.skip, .takeover task existing.taskID now lockUntil)
  | .takeover task expired now lockUntil =>
    if e.fails then some (.skip, .leave none)
    else if s.locks.any (SystemTaskDB.isExpired type now) then
      some (.takeover now ⟨type, task.taskID, runner, lockUntil, now⟩,
        if expired ≠ "" ∧ expired ≠ task.taskID then .markExpired task expired now
        else .setRunning task now)
    else some (.skip, .leave none)
  | .markExpired task expired now =>
    if e.fails then some (.skip, .release task)
    else some (.markLeaseExpired expired, .setRunning task now)
  | .setRunning task now =>
    if e.fails then some (.skip, .release task)
    else if s.tasks.any (SystemTaskDB.isPending id type) then
      some (.setRunning id type runner now, .reload task)
    else some (.skip, .release task)
  | .release task =>
    if e.fails then some (.skip, .leave none)
    else some (.release task.taskID runner, .leave none)
  | .reload task =>
    if e.fails then some (.skip, .leave none) else some (.skip, .leave (some task.taskID))
  | .leave _ => some (.leave runner, .ended)
  | .ended => none

/-- `RenewSystemTaskLock`, and the cancellation of the handler when it fails. -/
def renewSystemTaskLock (runner taskID : String) : BeatPc → Option (LeaseStmt × BeatPc)
  | .waiting => some (.skip, .start (s.clock + systemTaskLockTTL))
  | .start lockUntil => some (.skip, .renew s.clock lockUntil)
  | .renew now lockUntil =>
    if e.fails then some (.skip, .cancelled)
    else if s.locks.any (SystemTaskDB.holds taskID runner now) then
      some (.renew taskID runner now lockUntil, .waiting)
    else some (.skip, .cancelled)
  | .cancelled => none

/-- `UpdateSystemTaskState` and `FinishSystemTask`, in any order a handler may
call them. -/
def runHandler (runner taskID : String) : HandlerPc → Option (LeaseStmt × HandlerPc)
  | .working =>
    match e.call with
    | .updateState state => some (.skip, .updateState s.clock state)
    | .finish status result error => some (.skip, .finish s.clock status result error)
  | .updateState now state =>
    if e.fails then some (.skip, .working)
    else some (.updateState taskID runner now state, .working)
  | .finish now status result error =>
    if e.fails then some (.skip, .working)
    else if s.tasks.any (s.leaseGuard taskID runner now) then
      some (.finish taskID runner now status result error, .release)
    else some (.skip, .working)
  | .release =>
    if e.fails then some (.skip, .ended) else some (.release taskID runner, .ended)
  | .ended => none

def expireStaleSystemTaskLocks : ExpirePc → Option (LeaseStmt × ExpirePc)
  | .start => some (.skip, .select s.clock)
  | .select now =>
    if e.fails then some (.skip, .ended)
    else some (.skip, expireNext now (s.locks.filter fun l => decide (l.lockedUntil < now)))
  | .mark now lock rest =>
    if e.fails then some (.skip, .ended)
    else some (.markLeaseExpired lock.taskID, .delete now lock rest)
  | .delete now lock rest =>
    if e.fails then some (.skip, .ended)
    else some (.deleteExpired lock now, expireNext now rest)
  | .ended => none

/-- The row `CreateSystemTask` inserts. -/
def newSystemTask (id : Nat) (taskID type state : String) : SystemTask :=
  ⟨id, taskID, type, .pending, some type, state, "", "", "", s.clock⟩

/-- The statement an execution runs next, and where it stands afterwards. -/
def LeaseExec.next : LeaseExec → Option (LeaseStmt × LeaseExec)
  | .claim runner _ _ (.leave (some taskID)) =>
    some (.leave runner, .work runner taskID .waiting .working)
  | .claim runner id type pc =>
    (claimSystemTask e s runner id type pc).map fun r => (r.1, .claim runner id type r.2)
  | .work runner taskID beat handler =>
    if e.beats then
      (renewSystemTaskLock e s runner taskID beat).map fun r =>
        (r.1, .work runner taskID r.2 handler)
    else
      (runHandler e s runner taskID handler).map fun r => (r.1, .work runner taskID beat r.2)
  | .expire pc => (expireStaleSystemTaskLocks e s pc).map fun r => (r.1, .expire r.2)
  | .create id taskID type state done =>
    if done then none
    else if e.fails then some (.skip, .create id taskID type state true)
    else some (.createTask (newSystemTask s id taskID type state),
      .create id taskID type state true)

end

/-- The tables when some more time has passed. -/
def SystemTaskDB.later (s : SystemTaskDB) (elapsed : Nat) : SystemTaskDB :=
  { s with clock := s.clock + elapsed }

def leaseMachine : Sched.Machine SystemTaskDB LeaseExec LeaseTick where
  next e s l :=
    (l.next e (s.later e.elapsed)).map fun r => ((s.later e.elapsed).exec r.1, r.2)

/-! ## What a statement can do -/

theorem updateWhere_eq_map {α : Type*} (p : α → Bool) (f : α → α) (rows : List α) :
    updateWhere p f rows = rows.map fun r => if p r then f r else r := rfl

theorem map_updateWhere {α β : Type*} {p : α → Bool} {f : α → α} {key : α → β}
    (hf : ∀ r, key (f r) = key r) (rows : List α) :
    (updateWhere p f rows).map key = rows.map key := by
  rw [updateWhere_eq_map, List.map_map]
  apply List.map_congr_left
  intro r _
  simp only [Function.comp]
  split
  · exact hf r
  · rfl

/-- What one statement can make of a row. -/
structure SystemTask.Evolves (t t' : SystemTask) : Prop where
  id : t'.id = t.id
  taskID : t'.taskID = t.taskID
  type : t'.type = t.type
  moves : t.status.Moves t'.status
  final : t.status.terminal = true → t' = t
  key : t'.activeKey = t.activeKey ∨ (t'.activeKey = none ∧ t'.status.terminal = true)

theorem SystemTask.Evolves.refl (t : SystemTask) : t.Evolves t :=
  ⟨rfl, rfl, rfl, Or.inl rfl, fun _ => rfl, Or.inl rfl⟩

theorem evolves_updateWhere {p : SystemTask → Bool} {f : SystemTask → SystemTask}
    (hf : ∀ t, p t = true → t.Evolves (f t)) (t : SystemTask) :
    t.Evolves (if p t then f t else t) := by
  split
  · rename_i hp
    exact hf t hp
  · exact SystemTask.Evolves.refl t

variable {c : Sched.Conf SystemTaskDB LeaseExec} {ok : Sched.Guard SystemTaskDB LeaseExec LeaseTick}
  {t : SystemTask} {s : SystemTaskDB}

theorem isPending_iff {id : Nat} {type : String} :
    SystemTaskDB.isPending id type t = true ↔ t.id = id ∧ t.type = type ∧ t.status = .pending := by
  simp [SystemTaskDB.isPending, and_assoc]

theorem leaseGuard_iff {taskID lockedBy : String} {now : Int} :
    s.leaseGuard taskID lockedBy now t = true ↔
      t.taskID = taskID ∧ t.status = .running ∧ t.lockedBy = lockedBy
        ∧ ∃ l ∈ s.locks, l.taskID = t.taskID ∧ l.lockedBy = lockedBy ∧ now ≤ l.lockedUntil := by
  simp [SystemTaskDB.leaseGuard, SystemTaskDB.holds, and_assoc]

theorem evolves_of_running {t' : SystemTask} (hid : t'.id = t.id) (htid : t'.taskID = t.taskID)
    (htype : t'.type = t.type) (hrun : t.status = .running) (hkey : t'.activeKey = none)
    (hnext : SystemTaskStatus.Next .running t'.status) : t.Evolves t' where
  id := hid
  taskID := htid
  type := htype
  moves := Or.inr (hrun ▸ hnext)
  final h := by simp [hrun, SystemTaskStatus.terminal] at h
  key := by
    refine Or.inr ⟨hkey, ?_⟩
    generalize t'.status = st at hnext
    cases hnext <;> rfl

theorem FinishStatus.next (st : FinishStatus) :
    SystemTaskStatus.Next .running st.toStatus := by
  cases st
  · exact .succeed
  · exact .fail

/-- Everything a statement can do to the tasks: insert one that no unique index
refuses, or evolve the rows there are. -/
theorem exec_tasks (s : SystemTaskDB) (stmt : LeaseStmt) :
    (∃ f : SystemTask → SystemTask, (s.exec stmt).tasks = s.tasks.map f
        ∧ ∀ t, SystemTask.Evolves t (f t))
      ∨ ∃ row, stmt = .createTask row ∧ s.taskConflict row = false
          ∧ (s.exec stmt).tasks = s.tasks ++ [row] := by
  have hsame : ∃ f : SystemTask → SystemTask, s.tasks = s.tasks.map f
      ∧ ∀ t, SystemTask.Evolves t (f t) :=
    ⟨id, by simp, SystemTask.Evolves.refl⟩
  cases stmt with
  | skip | enter _ | leave _ | takeover _ _ | renew _ _ _ _ | deleteExpired _ _ | release _ _ =>
    exact Or.inl hsame
  | insertLock lock =>
    simp only [SystemTaskDB.exec]
    split
    · exact Or.inl hsame
    · exact Or.inl hsame
  | createTask row =>
    simp only [SystemTaskDB.exec]
    split
    · exact Or.inl hsame
    · rename_i hfree
      exact Or.inr ⟨row, rfl, by simpa using hfree, rfl⟩
  | markLeaseExpired taskID =>
    refine Or.inl ⟨_, updateWhere_eq_map _ _ _, evolves_updateWhere ?_⟩
    intro t ht
    simp only [Bool.and_eq_true, beq_iff_eq] at ht
    exact evolves_of_running rfl rfl rfl ht.2 rfl .fail
  | setRunning id type runner now =>
    refine Or.inl ⟨_, updateWhere_eq_map _ _ _, evolves_updateWhere ?_⟩
    intro t ht
    obtain ⟨-, -, hpending⟩ := isPending_iff.mp ht
    refine ⟨rfl, rfl, rfl, Or.inr (hpending ▸ .start), ?_, Or.inl rfl⟩
    intro hterm
    simp [hpending, SystemTaskStatus.terminal] at hterm
  | updateState taskID lockedBy now state =>
    refine Or.inl ⟨_, updateWhere_eq_map _ _ _, evolves_updateWhere ?_⟩
    intro t ht
    obtain ⟨-, hrun, -⟩ := leaseGuard_iff.mp ht
    refine ⟨rfl, rfl, rfl, Or.inl rfl, ?_, Or.inl rfl⟩
    intro hterm
    simp [hrun, SystemTaskStatus.terminal] at hterm
  | finish taskID lockedBy now status result error =>
    refine Or.inl ⟨_, updateWhere_eq_map _ _ _, evolves_updateWhere ?_⟩
    intro t ht
    obtain ⟨-, hrun, -⟩ := leaseGuard_iff.mp ht
    exact evolves_of_running rfl rfl rfl hrun rfl status.next

/-- What the database itself keeps: the primary keys and the unique index on
`task_id`. -/
structure SystemTaskDB.WellFormed (s : SystemTaskDB) : Prop where
  ids : (s.tasks.map SystemTask.id).Nodup
  taskIDs : (s.tasks.map SystemTask.taskID).Nodup
  lockTypes : (s.locks.map SystemTaskLock.type).Nodup

theorem taskConflict_eq_false {row : SystemTask} (h : s.taskConflict row = false) :
    ∀ t ∈ s.tasks, t.id ≠ row.id ∧ t.taskID ≠ row.taskID
      ∧ ∀ k, row.activeKey = some k → t.activeKey ≠ some k := by
  intro t ht
  have hno := List.any_eq_false.mp h t ht
  simp only [Bool.or_eq_true, Bool.and_eq_true, beq_iff_eq, not_or] at hno
  refine ⟨hno.1.1, hno.1.2, ?_⟩
  intro k hk hkey
  exact hno.2 ⟨by rw [hk]; rfl, by rw [hkey, hk]⟩

theorem nodup_map_append_singleton {α β : Type*} {key : α → β} {rows : List α} {row : α}
    (hnd : (rows.map key).Nodup) (hfresh : ∀ r ∈ rows, key r ≠ key row) :
    ((rows ++ [row]).map key).Nodup := by
  rw [List.map_append, List.map_singleton, List.nodup_append]
  refine ⟨hnd, List.nodup_singleton _, ?_⟩
  intro a ha b hb
  obtain ⟨r, hr, rfl⟩ := List.mem_map.mp ha
  rw [List.mem_singleton.mp hb]
  exact hfresh r hr

theorem exec_lockTypes (h : (s.locks.map SystemTaskLock.type).Nodup) (stmt : LeaseStmt) :
    ((s.exec stmt).locks.map SystemTaskLock.type).Nodup := by
  cases stmt with
  | skip | enter _ | leave _ | markLeaseExpired _ | setRunning _ _ _ _ | updateState _ _ _ _
  | finish _ _ _ _ _ _ => exact h
  | createTask row =>
    simp only [SystemTaskDB.exec]
    split
    · exact h
    · exact h
  | insertLock lock =>
    simp only [SystemTaskDB.exec]
    split
    · exact h
    · rename_i hfree
      apply nodup_map_append_singleton h
      intro l hl heq
      exact hfree (List.any_eq_true.mpr ⟨l, hl, by simpa using heq⟩)
  | takeover now lock =>
    simp only [SystemTaskDB.exec]
    rw [map_updateWhere]
    · exact h
    · intro l
      rfl
  | renew taskID lockedBy now lockUntil =>
    simp only [SystemTaskDB.exec]
    rw [map_updateWhere]
    · exact h
    · intro l
      rfl
  | deleteExpired lock now => exact h.sublist (List.filter_sublist.map _)
  | release taskID lockedBy => exact h.sublist (List.filter_sublist.map _)

theorem exec_wellFormed (h : s.WellFormed) (stmt : LeaseStmt) : (s.exec stmt).WellFormed := by
  have hlocks := exec_lockTypes h.lockTypes stmt
  rcases exec_tasks s stmt with ⟨f, hf, hev⟩ | ⟨row, -, hfree, happ⟩
  · refine ⟨?_, ?_, hlocks⟩
    · have hids : SystemTask.id ∘ f = SystemTask.id := funext fun t => (hev t).id
      rw [hf, List.map_map, hids]
      exact h.ids
    · have htaskIDs : SystemTask.taskID ∘ f = SystemTask.taskID := funext fun t => (hev t).taskID
      rw [hf, List.map_map, htaskIDs]
      exact h.taskIDs
  · have hfresh := taskConflict_eq_false hfree
    refine ⟨?_, ?_, hlocks⟩
    · rw [happ]
      exact nodup_map_append_singleton h.ids fun t ht => (hfresh t ht).1
    · rw [happ]
      exact nodup_map_append_singleton h.taskIDs fun t ht => (hfresh t ht).2.1

theorem exec_evolves (stmt : LeaseStmt) (ht : t ∈ s.tasks) :
    ∃ t' ∈ (s.exec stmt).tasks, t.Evolves t' := by
  rcases exec_tasks s stmt with ⟨f, hf, hev⟩ | ⟨row, -, -, happ⟩
  · exact ⟨f t, hf ▸ List.mem_map_of_mem ht, hev t⟩
  · exact ⟨t, happ ▸ List.mem_append_left _ ht, SystemTask.Evolves.refl t⟩

/-! ## Safety of the lease protocol -/

theorem leaseMachine_next {e : LeaseTick} {s' : SystemTaskDB} {l l' : LeaseExec}
    (h : leaseMachine.next e s l = some (s', l')) :
    ∃ stmt, l.next e (s.later e.elapsed) = some (stmt, l')
      ∧ s' = (s.later e.elapsed).exec stmt := by
  obtain ⟨⟨stmt, l₁⟩, hnext, heq⟩ := Option.map_eq_some_iff.mp h
  obtain ⟨rfl, rfl⟩ := Prod.mk.injEq .. |>.mp heq
  exact ⟨stmt, hnext, rfl⟩

theorem wellFormed_run {c₀ : Sched.Conf SystemTaskDB LeaseExec} (h₀ : c₀.store.WellFormed)
    (hrun : Sched.Steps leaseMachine ok c₀ c) : c.store.WellFormed := by
  refine Sched.Steps.invariant (I := fun c => c.store.WellFormed) h₀ ?_ hrun
  intro c i e l s' l' hwf _ _ hn
  obtain ⟨stmt, -, rfl⟩ := leaseMachine_next hn
  have hlater : (c.store.later e.elapsed).WellFormed := ⟨hwf.ids, hwf.taskIDs, hwf.lockTypes⟩
  exact exec_wellFormed hlater stmt

theorem step_evolves {c' : Sched.Conf SystemTaskDB LeaseExec} (h : Sched.Step leaseMachine ok c c')
    (ht : t ∈ c.store.tasks) : ∃ t' ∈ c'.store.tasks, t.Evolves t' := by
  obtain ⟨i, e, -, hs⟩ := h
  obtain ⟨l, s', l', -, hn, rfl⟩ := Sched.stepAt_eq_some hs
  obtain ⟨stmt, -, rfl⟩ := leaseMachine_next hn
  exact exec_evolves stmt ht

theorem terminal_run {c' : Sched.Conf SystemTaskDB LeaseExec}
    (hrun : Sched.Steps leaseMachine ok c c') (ht : t ∈ c.store.tasks)
    (hterm : t.status.terminal = true) : t ∈ c'.store.tasks := by
  induction hrun with
  | refl => exact ht
  | tail _ hlast ih =>
    obtain ⟨t', ht', hev⟩ := step_evolves hlast ih
    rwa [hev.final hterm] at ht'

/-- The guards of `UpdateSystemTaskState` and `FinishSystemTask` look at the
runner the row itself names. -/
theorem leaseGuard_unique (hwf : s.WellFormed) {taskID a b : String} {now now' : Int}
    (ha : s.tasks.any (s.leaseGuard taskID a now) = true)
    (hb : s.tasks.any (s.leaseGuard taskID b now') = true) : a = b := by
  obtain ⟨t, ht, hta⟩ := List.any_eq_true.mp ha
  obtain ⟨u, hu, hub⟩ := List.any_eq_true.mp hb
  obtain ⟨ht₁, -, ht₂, -⟩ := leaseGuard_iff.mp hta
  obtain ⟨hu₁, -, hu₂, -⟩ := leaseGuard_iff.mp hub
  have heq : t = u := List.inj_on_of_nodup_map hwf.taskIDs ht hu (ht₁.trans hu₁.symm)
  rw [← ht₂, ← hu₂, heq]

/-- In every run, from any tables the database accepts: a task's status moves
along one edge at a time, a terminal row never changes again, a type has at
most one lock, and at most one runner passes the guard of a task. -/
theorem lease_protocol_safe {c₀ c : Sched.Conf SystemTaskDB LeaseExec}
    (h₀ : c₀.store.WellFormed) (hrun : Sched.Steps leaseMachine Sched.free c₀ c) :
    (∀ c', Sched.Step leaseMachine Sched.free c c' → ∀ t ∈ c.store.tasks,
        ∃ t' ∈ c'.store.tasks, t'.id = t.id ∧ t.status.Moves t'.status)
      ∧ (∀ c', Sched.Steps leaseMachine Sched.free c c' → ∀ t ∈ c.store.tasks,
          t.status.terminal = true → ∀ t' ∈ c'.store.tasks, t'.id = t.id → t' = t)
      ∧ (c.store.locks.map SystemTaskLock.type).Nodup
      ∧ ∀ taskID a b now now', c.store.tasks.any (c.store.leaseGuard taskID a now) = true →
          c.store.tasks.any (c.store.leaseGuard taskID b now') = true → a = b := by
  have hwf : c.store.WellFormed := wellFormed_run h₀ hrun
  refine ⟨?_, ?_, hwf.lockTypes, fun taskID a b now now' => leaseGuard_unique hwf⟩
  · intro c' hstep t ht
    obtain ⟨t', ht', hev⟩ := step_evolves hstep ht
    exact ⟨t', ht', hev.id, hev.moves⟩
  · intro c' hrun' t ht hterm t' ht' hid
    have hstay : t ∈ c'.store.tasks := terminal_run hrun' ht hterm
    exact List.inj_on_of_nodup_map (wellFormed_run hwf hrun').ids ht' hstay hid

/-- One pending task and nothing claimed yet. -/
def onePending : SystemTaskDB :=
  ⟨[⟨1, "systask_a", "log_cleanup", .pending, some "log_cleanup", "null", "", "", "", 100⟩], [],
    1000, []⟩

/-- Two runners, and a second task created when the first is done. -/
def twoRunners : Sched.Conf SystemTaskDB LeaseExec :=
  ⟨onePending, [.claim "node-a" 1 "log_cleanup" .enter, .claim "node-b" 2 "model_update" .enter,
    .create 2 "systask_b" "model_update" "null" false]⟩

/-- A tick in which nothing fails and the handler, if it moves, finishes its task. -/
def finishTick : LeaseTick := ⟨1, false, false, .finish .succeeded "done" ""⟩

/-- One task has been finished, the other is claimed. -/
theorem lease_protocol_safe_two_runners :
    ∃ c, Sched.Steps leaseMachine Sched.free twoRunners c ∧
      (c.store.tasks.map SystemTask.status = [.succeeded, .running] ∧
        c.store.tasks.any (c.store.leaseGuard "systask_b" "node-b" 1000) = true) ∧
      (∀ c', Sched.Step leaseMachine Sched.free c c' → ∀ t ∈ c.store.tasks,
        ∃ t' ∈ c'.store.tasks, t'.id = t.id ∧ t.status.Moves t'.status) ∧
      (∀ c', Sched.Steps leaseMachine Sched.free c c' → ∀ t ∈ c.store.tasks,
        t.status.terminal = true → ∀ t' ∈ c'.store.tasks, t'.id = t.id → t' = t) ∧
      (c.store.locks.map SystemTaskLock.type).Nodup ∧
      ∀ taskID a b now now', c.store.tasks.any (c.store.leaseGuard taskID a now) = true →
        c.store.tasks.any (c.store.leaseGuard taskID b now') = true → a = b :=
  Sched.exists_of_run_and
    ((List.replicate 9 0 ++ [2] ++ List.replicate 7 1).map (·, finishTick)) (by decide +kernel)
    fun _ hrun _ => lease_protocol_safe ⟨by decide, by decide, by decide⟩ hrun

end YouBox
