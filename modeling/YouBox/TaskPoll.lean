import YouBox.Sched
import YouBox.Task

/-!
# Pollers side by side

Every execution that moves a task: the timeout sweep, the video poller, the
Suno poller, the two bulk failures of a polling pass (tasks without an upstream
id, tasks of a channel that is gone), the Meshy webhook and the realtime fetch
of a client. An execution first reads its rows and then acts on that snapshot,
statement by statement, while others do the same.

A pass of the video poller is cut into its `updateVideoSingleTask` executions,
each with the row it has read; a pass does not share a row between two of them
unless two tasks of a platform have one upstream id.

The store logs the billing calls and the writes that turn a task to FAILURE,
each with the execution that made it. Three kinds of execution are *guarded*:
the sweep, the video poller and the webhook bill a task only after they have
won the compare-and-set on the status they read. Among these,

  billing calls made + billing calls owed ≤ 1 if the row is terminal, else 0

is kept by every step (`guarded_step`), for the status they read is never
terminal and the compare-and-set makes it so.
-/

namespace YouBox

inductive BillKind where
  | refund
  | settle
deriving DecidableEq

/-- A call of `RefundTaskQuota` or `settleTaskBillingOnComplete`; `done` is
false when the funding source refused. -/
structure Bill where
  exec : Nat
  task : Nat
  kind : BillKind
  quota : Int
  done : Bool
deriving DecidableEq

/-- A task turned to FAILURE: by whom, and the row as it was left. -/
structure Failure where
  exec : Nat
  row : Task

structure TaskDB where
  tasks : List Task
  bills : List Bill
  failures : List Failure

structure TaskEnv where
  serverAddress : String
  taskTimeoutMinutes : Int
  taskQueryLimit : Nat

/-! ## Statements with their logs -/

/-- A write of all columns of a row. -/
def TaskDB.write (s : TaskDB) (exec : Nat) (t : Task) : TaskDB :=
  { s with
    tasks := writeTask s.tasks t
    failures :=
      if t.status = .failure ∧ (findTask s.tasks t.id).all (fun r => decide (r.status ≠ .failure))
      then ⟨exec, t⟩ :: s.failures else s.failures }

/-- The rows a bulk failure finds in another status. -/
def bulkVictims (ids : List Nat) (tasks : List Task) : List Task :=
  tasks.filter fun t => decide (t.id ∈ ids ∧ t.status ≠ .failure)

def TaskDB.bulkFail (s : TaskDB) (exec : Nat) (ids : List Nat) (reason : Option String) : TaskDB :=
  { s with
    tasks := taskBulkUpdateByID ids reason s.tasks
    failures := (bulkVictims ids s.tasks).map (fun t => ⟨exec, t.bulkFailed reason⟩)
      ++ s.failures }

def TaskDB.refundTaskQuota (s : TaskDB) (exec : Nat) (t : Task) (fails : Bool) : TaskDB :=
  if t.quota = 0 then s
  else { s with bills := ⟨exec, t.id, .refund, t.quota, !fails⟩ :: s.bills }

def TaskDB.settle (s : TaskDB) (exec : Nat) (u : VideoUpdate) (adjusted byTokens : Int)
    (fails : Bool) : TaskDB :=
  { s with
    tasks :=
      match settledQuota u.task u.info adjusted byTokens with
      | none => s.tasks
      | some quota => if fails then s.tasks else updateQuota s.tasks u.task.id quota
    bills := ⟨exec, u.task.id, .settle, u.task.quota, !fails⟩ :: s.bills }

/-! ## Executions -/

inductive PollCall where
  | sweepTimedOutTasks
  | updateVideoSingleTask (id : Nat)
  | applyMeshyTaskUpdate (info : TaskInfo) (payload : String)
  /-- The tasks of a platform that have no upstream id. -/
  | nullTasks (platform : TaskPlatform)
  /-- The tasks of a channel that `CacheGetChannel` does not find. -/
  | lostChannel (platform : TaskPlatform) (channelId : Nat)
  | updateSunoTasks (channelId : Nat)
  | tryRealtimeFetch (userId : Nat) (taskID : String)

inductive PollPc where
  | start
  | sweepLoop (todo : List Task)
  | sweepRefund (t : Task) (todo : List Task)
  | videoFetch (t : Task)
  | videoWrite (snap : Task) (u : VideoUpdate)
  | videoSettle (u : VideoUpdate)
  | videoRefund (u : VideoUpdate)
  | meshyWrite (oldStatus : TaskStatus) (t : Task)
  | meshyRefund (t : Task)
  | bulkFail (ids : List Nat) (reason : Option String)
  | sunoFetch (taskM : List Task)
  | sunoLoop (items : List SunoDataResponse) (taskM : List Task)
  | sunoSave (t : Task) (items : List SunoDataResponse) (taskM : List Task)
  | realtimeFetch (t : Task)
  | realtimeWrite (snap t : Task)
  | ended
deriving DecidableEq

/-- What upstream answers; `silent` when the fetch fails, the answer does not
parse or the pass is cancelled. -/
inductive PollAnswer where
  | silent
  | video (a : VideoAnswer)
  | suno (items : List SunoDataResponse)
  | realtime (info : TaskInfo)
  /-- The quotas the adaptor and the token count give on completion. -/
  | quotas (adjusted byTokens : Int)

structure PollTick where
  fails : Bool
  now : Int
  answer : PollAnswer

/-- The tasks of a platform that a pass dispatches. -/
def dispatched (platform : TaskPlatform) (tasks : List Task) : List Task :=
  tasks.filter fun t => decide (t.platform = platform ∧ t.getUpstreamTaskID ≠ "")

/-- `taskM[upstreamID]`: of several tasks with one upstream id, the last. -/
def lookupTask (taskM : List Task) (upstreamID : String) : Option Task :=
  taskM.reverse.find? fun t => decide (t.getUpstreamTaskID = upstreamID)

def lostChannelReason (platform : TaskPlatform) (channelId : Nat) : String :=
  if platform = .suno then "获取渠道信息失败，请联系管理员，渠道ID：" ++ toString channelId
  else "Failed to get channel info, channel ID: " ++ toString channelId

/-- The reads an execution starts with. -/
def PollCall.begin (call : PollCall) (env : TaskEnv) (now : Int) (tasks : List Task) : PollPc :=
  match call with
  | .sweepTimedOutTasks =>
    if env.taskTimeoutMinutes ≤ 0 then .ended
    else .sweepLoop (getTimedOutUnfinishedTasks (now - env.taskTimeoutMinutes * 60) 100 tasks)
  | .updateVideoSingleTask id =>
    match (getAllUnFinishSyncTasks env.taskQueryLimit tasks).find? fun t => decide (t.id = id) with
    | none => .ended
    | some t => .videoFetch t
  | .applyMeshyTaskUpdate info payload =>
    match getByOnlyTaskId info.taskID tasks with
    | none => .ended
    | some t =>
      if t.platform ≠ .meshy then .ended
      else if t.status.terminal then .ended
      else .meshyWrite t.status (updateMeshy now info payload t)
  | .nullTasks platform =>
    .bulkFail (((getAllUnFinishSyncTasks env.taskQueryLimit tasks).filter fun t =>
      decide (t.platform = platform ∧ t.getUpstreamTaskID = "")).map (·.id)) none
  | .lostChannel platform channelId =>
    let taskM := dispatched platform (getAllUnFinishSyncTasks env.taskQueryLimit tasks)
    let taskIds := (taskM.filter fun t => decide (t.channelId = channelId)).map
      Task.getUpstreamTaskID
    .bulkFail ((taskIds.filterMap (lookupTask taskM)).map (·.id))
      (some (lostChannelReason platform channelId))
  | .updateSunoTasks channelId =>
    let taskM := dispatched .suno (getAllUnFinishSyncTasks env.taskQueryLimit tasks)
    if taskM.any fun t => decide (t.channelId = channelId) then .sunoFetch taskM else .ended
  | .tryRealtimeFetch userId taskID =>
    match getByTaskId userId taskID tasks with
    | none => .ended
    | some t => .realtimeFetch t

/-- The write of the video poller: whether it goes through, and whether the
billing that was decided on survives it. -/
def writeVideo (s : TaskDB) (exec : Nat) (fails : Bool) (snap : Task) (u : VideoUpdate) :
    TaskDB × VideoUpdate :=
  let lost : VideoUpdate := { u with shouldRefund := false, shouldSettle := false }
  if u.task.status.terminal ∧ snap.status ≠ u.task.status then
    if fails then (s, lost)
    else
      match updateWithStatus s.tasks u.task snap.status with
      | none => (s, lost)
      | some _ => (s.write exec u.task, u)
  else if snap.sameSnapshot u.task then (s, u)
  else if fails then (s, u)
  else
    match updateWithStatus s.tasks u.task snap.status with
    | none => (s, u)
    | some _ => (s.write exec u.task, u)

def PollPc.next (pc : PollPc) (call : PollCall) (exec : Nat) (env : TaskEnv) (tick : PollTick)
    (s : TaskDB) : Option (TaskDB × PollPc) :=
  match pc with
  | .start => some (s, if tick.fails then .ended else call.begin env tick.now s.tasks)
  | .sweepLoop [] => some (s, .ended)
  | .sweepLoop (t :: todo) =>
    let u := t.timedOut env.taskTimeoutMinutes tick.now
    if tick.fails then some (s, .sweepLoop todo)
    else
      match updateWithStatus s.tasks u t.status with
      | none => some (s, .sweepLoop todo)
      | some _ =>
        some (s.write exec u,
          if !t.isLegacy && decide (t.quota ≠ 0) then .sweepRefund u todo else .sweepLoop todo)
  | .sweepRefund t todo => some (s.refundTaskQuota exec t tick.fails, .sweepLoop todo)
  | .videoFetch t =>
    match tick.answer with
    | .video a =>
      match updateVideo env.serverAddress tick.now t a with
      | none => some (s, .ended)
      | some u => some (s, .videoWrite t u)
    | _ => some (s, .ended)
  | .videoWrite snap u =>
    let r := writeVideo s exec tick.fails snap u
    some (r.1, .videoSettle r.2)
  | .videoSettle u =>
    if u.shouldSettle then
      match tick.answer with
      | .quotas adjusted byTokens =>
        some (s.settle exec u adjusted byTokens tick.fails, .videoRefund u)
      | _ => some (s.settle exec u 0 0 tick.fails, .videoRefund u)
    else some (s, .videoRefund u)
  | .videoRefund u =>
    some (if u.shouldRefund then s.refundTaskQuota exec u.task tick.fails else s, .ended)
  | .meshyWrite oldStatus t =>
    if tick.fails then some (s, .ended)
    else
      match updateWithStatus s.tasks t oldStatus with
      | none => some (s, .ended)
      | some _ =>
        some (s.write exec t,
          if t.status = .failure ∧ t.quota ≠ 0 then .meshyRefund t else .ended)
  | .meshyRefund t => some (s.refundTaskQuota exec t tick.fails, .ended)
  | .bulkFail ids reason =>
    some (if tick.fails then s else s.bulkFail exec ids reason, .ended)
  | .sunoFetch taskM =>
    match tick.answer with
    | .suno items => some (s, .sunoLoop items taskM)
    | _ => some (s, .ended)
  | .sunoLoop [] _ => some (s, .ended)
  | .sunoLoop (item :: items) taskM =>
    match lookupTask taskM item.taskID with
    | none => some (s, .sunoLoop items taskM)
    | some t =>
      if taskNeedsUpdate t item then
        let u := updateSuno t item
        some (if t.sunoFailed item then s.refundTaskQuota exec u tick.fails else s,
          .sunoSave u items (writeTask taskM u))
      else some (s, .sunoLoop items taskM)
  | .sunoSave t items taskM =>
    some (if tick.fails then s else s.write exec t, .sunoLoop items taskM)
  | .realtimeFetch t =>
    match tick.answer with
    | .realtime info => some (s, .realtimeWrite t (updateRealtime env.serverAddress info t))
    | _ => some (s, .ended)
  | .realtimeWrite snap t =>
    if snap.sameSnapshot t ∨ tick.fails then some (s, .ended)
    else
      match updateWithStatus s.tasks t snap.status with
      | none => some (s, .ended)
      | some _ => some (s.write exec t, .ended)
  | .ended => none

structure PollExec where
  exec : Nat
  call : PollCall
  pc : PollPc

def taskMachine (env : TaskEnv) : Sched.Machine TaskDB PollExec PollTick where
  next tick s l :=
    (l.pc.next l.call l.exec env tick s).map fun r => (r.1, { l with pc := r.2 })

variable {calls : List PollCall} {tasks : List Task} {call : PollCall} {l' : PollExec} {pc : PollPc}
  {tick : PollTick} {s s' : TaskDB} {env : TaskEnv}

theorem taskMachine_next {l : PollExec} (h : (taskMachine env).next tick s l = some (s', l')) :
    l.pc.next l.call l.exec env tick s = some (s', l'.pc) ∧ l' = { l with pc := l'.pc } := by
  simp only [taskMachine, Option.map_eq_some_iff] at h
  obtain ⟨r, hr, heq⟩ := h
  obtain ⟨rfl, rfl⟩ := Prod.mk.inj heq
  exact ⟨hr, rfl⟩

/-- Executions of `calls`, numbered, on a table nobody has billed for yet. -/
def pollStart (tasks : List Task) (calls : List PollCall) : Sched.Conf TaskDB PollExec :=
  ⟨⟨tasks, [], []⟩, calls.mapIdx fun i call => ⟨i, call, .start⟩⟩

/-! ## Billing calls made and owed -/

def billed (id : Nat) (s : TaskDB) : Int :=
  ((s.bills.filter fun b => decide (b.task = id)).length : Int)

/-- One if the task's row is terminal. -/
def closed (id : Nat) (s : TaskDB) : Int :=
  if (findTask s.tasks id).any (fun r => r.status.terminal) then 1 else 0

/-- The billing calls for task `id` that a guarded execution is about to make. -/
def PollPc.owes (id : Nat) : PollPc → Int
  | .sweepRefund t _ => if t.id = id then 1 else 0
  | .videoSettle u =>
    if u.task.id = id then (if u.shouldSettle then 1 else 0) + (if u.shouldRefund then 1 else 0)
    else 0
  | .videoRefund u => if u.task.id = id ∧ u.shouldRefund then 1 else 0
  | .meshyRefund t => if t.id = id then 1 else 0
  | _ => 0

theorem owes_nonneg {id : Nat} : 0 ≤ pc.owes id := by
  unfold PollPc.owes
  repeat' split
  all_goals decide

section Logs

variable {s : TaskDB} {exec id : Nat} {t : Task} {fails : Bool}

theorem closed_nonneg : 0 ≤ closed id s := by
  unfold closed
  split <;> decide

theorem closed_le_one : closed id s ≤ 1 := by
  unfold closed
  split <;> decide

theorem billed_refund :
    billed id (s.refundTaskQuota exec t fails) ≤ billed id s + if t.id = id then 1 else 0 := by
  unfold TaskDB.refundTaskQuota
  by_cases hq : t.quota = 0
  · rw [if_pos hq]
    split <;> omega
  · rw [if_neg hq]
    by_cases hid : t.id = id
    · simp [billed, hid]
    · simp [billed, hid]

theorem closed_refund : closed id (s.refundTaskQuota exec t fails) = closed id s := by
  unfold TaskDB.refundTaskQuota
  split <;> rfl

variable {adjusted byTokens : Int} {u : VideoUpdate}

theorem billed_settle :
    billed id (s.settle exec u adjusted byTokens fails)
      = billed id s + if u.task.id = id then 1 else 0 := by
  by_cases hid : u.task.id = id
  · simp [billed, TaskDB.settle, hid]
  · simp [billed, TaskDB.settle, hid]

theorem closed_settle : closed id (s.settle exec u adjusted byTokens fails) = closed id s := by
  have hquota : ∀ quota : Int, (findTask (updateQuota s.tasks u.task.id quota) id).any
      (fun r => r.status.terminal) = (findTask s.tasks id).any (fun r => r.status.terminal) := by
    intro quota
    rw [findTask_updateQuota, Option.any_map]
    congr 1
    funext r
    by_cases hr : r.id = u.task.id
    · simp [hr]
    · simp [hr]
  unfold closed TaskDB.settle
  cases settledQuota u.task u.info adjusted byTokens with
  | none => rfl
  | some quota =>
    cases fails with
    | true => rfl
    | false => simp only [hquota quota, Bool.false_eq_true, if_false]

/-- A compare-and-set won on a status that is not terminal closes the row
exactly when it writes a terminal status. -/
theorem closed_write {fromStatus : TaskStatus} {tasks' : List Task}
    (hwon : updateWithStatus s.tasks t fromStatus = some tasks')
    (hopen : fromStatus.terminal = false) :
    closed id (s.write exec t)
      = closed id s + if t.id = id ∧ t.status.terminal then 1 else 0 := by
  obtain ⟨r, hr, hstatus, -⟩ := updateWithStatus_some hwon
  unfold closed TaskDB.write
  rw [findTask_writeTask]
  by_cases hid : t.id = id
  · have hrid : r.id = t.id := findTask_id hr
    rw [← hid, hr]
    simp [hrid, hstatus, hopen]
  · have hsame : ∀ x, findTask s.tasks id = some x → x.id ≠ t.id := fun x hx heq =>
      hid (heq.symm.trans (findTask_id hx))
    cases hx : findTask s.tasks id with
    | none => simp [hid]
    | some x => simp [hid, hsame x hx]

end Logs

/-! ## Guarded executions -/

def PollCall.guarded : PollCall → Bool
  | .sweepTimedOutTasks => true
  | .updateVideoSingleTask _ => true
  | .applyMeshyTaskUpdate _ _ => true
  | _ => false

/-- A guarded execution acts on rows it read in a status that was not terminal. -/
def Guarded (l : PollExec) : Prop :=
  match l.pc with
  | .start => l.call.guarded = true
  | .sweepLoop todo => ∀ t ∈ todo, t.status.terminal = false
  | .sweepRefund _ todo => ∀ t ∈ todo, t.status.terminal = false
  | .videoFetch t => t.status.terminal = false
  | .videoWrite snap u => snap.status.terminal = false
      ∧ u.shouldSettle = decide (u.task.status = .success)
      ∧ u.shouldRefund = decide (u.task.status = .failure ∧ u.task.quota ≠ 0)
  | .meshyWrite oldStatus _ => oldStatus.terminal = false
  | .videoSettle _ => True
  | .videoRefund _ => True
  | .meshyRefund _ => True
  | .ended => True
  | _ => False

theorem begin_guarded (hcall : call.guarded = true) (exec : Nat) (env : TaskEnv) (now : Int)
    (tasks : List Task) :
    Guarded ⟨exec, call, call.begin env now tasks⟩
      ∧ ∀ id, (call.begin env now tasks).owes id = 0 := by
  cases call with
  | sweepTimedOutTasks =>
    simp only [PollCall.begin]
    split
    · exact ⟨trivial, fun _ => rfl⟩
    · exact ⟨fun t ht => getTimedOut_not_terminal ht, fun _ => rfl⟩
  | updateVideoSingleTask id =>
    simp only [PollCall.begin]
    split
    · exact ⟨trivial, fun _ => rfl⟩
    · rename_i t ht
      exact ⟨getAllUnFinish_not_terminal (List.mem_of_find?_eq_some ht), fun _ => rfl⟩
  | applyMeshyTaskUpdate info payload =>
    simp only [PollCall.begin]
    split
    · exact ⟨trivial, fun _ => rfl⟩
    split
    · exact ⟨trivial, fun _ => rfl⟩
    split
    · exact ⟨trivial, fun _ => rfl⟩
    · rename_i t _ _ hopen
      exact ⟨Bool.eq_false_of_not_eq_true hopen, fun _ => rfl⟩
  | _ => cases hcall

theorem writeVideo_owes {s : TaskDB} {exec : Nat} {fails : Bool} {snap : Task} {u : VideoUpdate}
    (hopen : snap.status.terminal = false)
    (hsettle : u.shouldSettle = decide (u.task.status = .success))
    (hrefund : u.shouldRefund = decide (u.task.status = .failure ∧ u.task.quota ≠ 0)) (id : Nat) :
    billed id (writeVideo s exec fails snap u).1 = billed id s
      ∧ (PollPc.videoSettle (writeVideo s exec fails snap u).2).owes id
          - closed id (writeVideo s exec fails snap u).1 ≤ - closed id s := by
  unfold writeVideo
  by_cases hterm : u.task.status.terminal = true
  · have hne : snap.status ≠ u.task.status := fun heq => by
      rw [heq, hterm] at hopen
      cases hopen
    simp only [hterm, hne, ne_eq, not_false_eq_true, and_self, if_true]
    cases fails with
    | true => exact ⟨rfl, by simp [PollPc.owes]⟩
    | false =>
      cases hwon : updateWithStatus s.tasks u.task snap.status with
      | none => exact ⟨rfl, by simp [PollPc.owes]⟩
      | some tasks' =>
        refine ⟨rfl, ?_⟩
        simp only [Bool.false_eq_true, if_false]
        rw [closed_write hwon hopen]
        -- a success is settled, a failure refunded: never both
        have hone : (if u.shouldSettle then (1 : Int) else 0)
            + (if u.shouldRefund then 1 else 0) ≤ 1 := by
          rw [hsettle, hrefund]
          by_cases hs : u.task.status = .success
          · simp [hs]
          · simp only [hs, decide_false, Bool.false_eq_true, if_false, Int.zero_add]
            split <;> decide
        by_cases hid : u.task.id = id
        · simp only [PollPc.owes, hid, hterm, and_self, if_true]
          omega
        · simp only [PollPc.owes, hid, false_and, if_false]
          omega
  · have hkeep : ∀ s' : TaskDB, closed id s' = closed id s →
        (PollPc.videoSettle u).owes id - closed id s' ≤ - closed id s := by
      intro s' hs'
      have hns : u.task.status ≠ .success := fun h => hterm (by rw [h]; rfl)
      have hnf : u.task.status ≠ .failure := fun h => hterm (by rw [h]; rfl)
      simp [PollPc.owes, hsettle, hrefund, hns, hnf, hs']
    simp only [hterm, Bool.false_eq_true, false_and, if_false]
    split
    · exact ⟨rfl, hkeep _ rfl⟩
    split
    · exact ⟨rfl, hkeep _ rfl⟩
    cases hwon : updateWithStatus s.tasks u.task snap.status with
    | none => exact ⟨rfl, hkeep _ rfl⟩
    | some tasks' =>
      refine ⟨rfl, hkeep _ ?_⟩
      rw [closed_write hwon hopen]
      simp [hterm]

/-- One step of a guarded execution, on the quantity that counts: billing calls
made and owed, less what the row's status allows. -/
theorem guarded_step {exec : Nat} {pc' : PollPc} (hg : Guarded ⟨exec, call, pc⟩)
    (h : pc.next call exec env tick s = some (s', pc')) :
    Guarded ⟨exec, call, pc'⟩ ∧ ∀ id, billed id s' + pc'.owes id - closed id s'
      ≤ billed id s + pc.owes id - closed id s := by
  cases pc with
  | start =>
    cases h
    obtain ⟨hguarded, howes⟩ := begin_guarded hg exec env tick.now s.tasks
    cases tick.fails with
    | true => exact ⟨trivial, fun id => le_rfl⟩
    | false =>
      refine ⟨hguarded, fun id => ?_⟩
      have hzero : (call.begin env tick.now s.tasks).owes id = 0 := howes id
      simp only [Bool.false_eq_true, if_false, hzero]
      exact le_rfl
  | sweepLoop todo =>
    cases todo with
    | nil =>
      cases h
      exact ⟨trivial, fun id => le_rfl⟩
    | cons t todo =>
      have hopen : t.status.terminal = false := hg t List.mem_cons_self
      have hrest : ∀ x ∈ todo, x.status.terminal = false := fun x hx =>
        hg x (List.mem_cons_of_mem _ hx)
      simp only [PollPc.next] at h
      split at h
      · cases h
        exact ⟨hrest, fun id => le_rfl⟩
      split at h
      · cases h
        exact ⟨hrest, fun id => le_rfl⟩
      · rename_i tasks' hwon
        cases h
        refine ⟨by split <;> exact hrest, fun id => ?_⟩
        rw [closed_write hwon hopen]
        have hterm : (t.timedOut env.taskTimeoutMinutes tick.now).status.terminal = true := rfl
        have hbilled : billed id (s.write exec (t.timedOut env.taskTimeoutMinutes tick.now))
          = billed id s := rfl
        rw [hbilled]
        by_cases hdue : (!t.isLegacy && decide (t.quota ≠ 0)) = true
        · simp only [hdue, if_true, hterm, and_true, PollPc.owes]
          omega
        · simp only [hdue, Bool.false_eq_true, if_false, PollPc.owes]
          split <;> omega
  | sweepRefund t todo =>
    cases h
    refine ⟨hg, fun id => ?_⟩
    have hbill := @billed_refund s exec id t tick.fails
    rw [closed_refund]
    simp only [PollPc.owes]
    omega
  | videoFetch t =>
    simp only [PollPc.next] at h
    split at h
    · split at h
      · cases h
        exact ⟨trivial, fun id => le_rfl⟩
      · rename_i u hu
        cases h
        obtain ⟨-, -, -, hsettle, hrefund⟩ := updateVideo_some hu
        exact ⟨⟨hg, hsettle, hrefund⟩, fun id => le_rfl⟩
    · cases h
      exact ⟨trivial, fun id => le_rfl⟩
  | videoWrite snap u =>
    cases h
    obtain ⟨hopen, hsettle, hrefund⟩ := hg
    refine ⟨trivial, fun id => ?_⟩
    obtain ⟨hbill, howes⟩ :=
      @writeVideo_owes s exec tick.fails snap u hopen hsettle hrefund id
    rw [hbill]
    have hzero : (PollPc.videoWrite snap u).owes id = 0 := rfl
    omega
  | videoSettle u =>
    simp only [PollPc.next] at h
    have hsettled : ∀ {adjusted byTokens : Int}, u.shouldSettle = true → ∀ id,
        billed id (s.settle exec u adjusted byTokens tick.fails) + (PollPc.videoRefund u).owes id
          - closed id (s.settle exec u adjusted byTokens tick.fails)
        ≤ billed id s + (PollPc.videoSettle u).owes id - closed id s := by
      intro adjusted byTokens hs id
      rw [billed_settle, closed_settle]
      by_cases hid : u.task.id = id
      · simp only [PollPc.owes, hid, hs, if_true, true_and]
        omega
      · simp only [PollPc.owes, hid, if_false, false_and]
        omega
    split at h
    · rename_i hs
      split at h
      · cases h
        exact ⟨trivial, hsettled hs⟩
      · cases h
        exact ⟨trivial, hsettled hs⟩
    · rename_i hs
      cases h
      refine ⟨trivial, fun id => ?_⟩
      by_cases hid : u.task.id = id
      · simp [PollPc.owes, hid, hs]
      · simp [PollPc.owes, hid]
  | videoRefund u =>
    cases h
    refine ⟨trivial, fun id => ?_⟩
    by_cases hr : u.shouldRefund = true
    · have hbill := @billed_refund s exec id u.task tick.fails
      simp only [hr, if_true, closed_refund, PollPc.owes, and_true]
      omega
    · simp [hr, PollPc.owes]
  | meshyWrite oldStatus t =>
    simp only [PollPc.next] at h
    split at h
    · cases h
      exact ⟨trivial, fun id => le_rfl⟩
    split at h
    · cases h
      exact ⟨trivial, fun id => le_rfl⟩
    · rename_i tasks' hwon
      cases h
      refine ⟨by split <;> trivial, fun id => ?_⟩
      rw [closed_write hwon hg]
      have hbilled : billed id (s.write exec t) = billed id s := rfl
      rw [hbilled]
      by_cases hf : t.status = .failure ∧ t.quota ≠ 0
      · have hterm : t.status.terminal = true := by rw [hf.1]; rfl
        rw [if_pos hf]
        simp only [PollPc.owes, hterm, and_true]
        omega
      · rw [if_neg hf]
        simp only [PollPc.owes]
        split <;> omega
  | meshyRefund t =>
    cases h
    refine ⟨trivial, fun id => ?_⟩
    have hbill := @billed_refund s exec id t tick.fails
    rw [closed_refund]
    simp only [PollPc.owes]
    omega
  | ended => cases h
  | _ => exact hg.elim

/-! ## At most one billing call -/

/-- What every run of guarded executions keeps: all are guarded, and the
billing calls made and owed for a task are at most its row's status allows. -/
structure BillOnce (c : Sched.Conf TaskDB PollExec) : Prop where
  guarded : ∀ l ∈ c.threads, Guarded l
  within : ∀ id, billed id c.store + (c.threads.map fun l => l.pc.owes id).sum ≤ closed id c.store

theorem BillOnce.step {c : Sched.Conf TaskDB PollExec} {i : Nat} {l : PollExec} (hinv : BillOnce c)
    (hl : c.threads[i]? = some l) (hn : (taskMachine env).next tick c.store l = some (s', l')) :
    BillOnce ⟨s', c.threads.set i l'⟩ := by
  obtain ⟨hr, hl'⟩ := taskMachine_next hn
  obtain ⟨hguarded, hpotential⟩ := guarded_step (hinv.guarded l (List.mem_of_getElem? hl)) hr
  rw [← hl'] at hguarded
  refine ⟨Sched.forall_threads_set hinv.guarded hguarded, fun id => ?_⟩
  have hsum := Sched.sum_threads_set (fun l : PollExec => l.pc.owes id) l' hl
  have hwithin := hinv.within id
  have hstep := hpotential id
  simp only at hsum hwithin hstep ⊢
  rw [hsum]
  omega

theorem pollStart_threads {l : PollExec} (hl : l ∈ (pollStart tasks calls).threads) :
    l.pc = .start ∧ l.call ∈ calls := by
  obtain ⟨i, hi⟩ := List.mem_iff_getElem?.mp hl
  simp only [pollStart, List.getElem?_mapIdx, Option.map_eq_some_iff] at hi
  obtain ⟨call, hcall, rfl⟩ := hi
  exact ⟨rfl, List.mem_of_getElem? hcall⟩

theorem owes_start (id : Nat) :
    ((pollStart tasks calls).threads.map fun l => l.pc.owes id).sum = 0 := by
  refine List.sum_eq_zero fun x hx => ?_
  obtain ⟨l, hl, rfl⟩ := List.mem_map.mp hx
  rw [(pollStart_threads hl).1]
  rfl

/-- **A task is billed at most once**, whatever the sweeps, video polls and
webhooks on the table do and in whatever order, and only when its row has been
moved to a terminal status. -/
theorem polling_bills_once {env : TaskEnv} {tasks : List Task} {calls : List PollCall}
    {c : Sched.Conf TaskDB PollExec} (hcalls : ∀ call ∈ calls, call.guarded = true)
    (hrun : Sched.Steps (taskMachine env) Sched.free (pollStart tasks calls) c) (id : Nat) :
    (c.store.bills.filter fun b => decide (b.task = id)).length ≤ 1
      ∧ ((∃ b ∈ c.store.bills, b.task = id) →
        ∃ r, findTask c.store.tasks id = some r ∧ r.status.terminal = true) := by
  have h₀ : BillOnce (pollStart tasks calls) := by
    refine ⟨fun l hl => ?_, fun id => ?_⟩
    · obtain ⟨hpc, hcall⟩ := pollStart_threads hl
      unfold Guarded
      rw [hpc]
      exact hcalls l.call hcall
    · rw [owes_start]
      exact closed_nonneg
  have hinv : BillOnce c := Sched.Steps.invariant h₀ (fun hI _ hl hn => hI.step hl hn) hrun
  have howed : 0 ≤ (c.threads.map fun l => l.pc.owes id).sum := by
    refine List.sum_nonneg fun x hx => ?_
    obtain ⟨l, -, rfl⟩ := List.mem_map.mp hx
    exact owes_nonneg
  have hwithin := hinv.within id
  constructor
  · have hone : closed id c.store ≤ 1 := closed_le_one
    unfold billed at hwithin
    omega
  · rintro ⟨b, hb, hid⟩
    have hmem : b ∈ c.store.bills.filter fun b => decide (b.task = id) :=
      List.mem_filter.mpr ⟨hb, decide_eq_true hid⟩
    have hpos : 0 < billed id c.store := Int.natCast_pos.mpr (List.length_pos_of_mem hmem)
    have hclosed : (findTask c.store.tasks id).any (fun r => r.status.terminal) = true := by
      by_contra hnot
      unfold closed at hwithin
      rw [if_neg hnot] at hwithin
      omega
    simpa [Option.any_eq_true] using hclosed

/-! A Meshy task that has timed out, with a sweep, a video poll and a webhook on
it. All three read it in progress; the webhook writes first. -/

def meshyTask : Task where
  id := 1
  taskID := "task_a"
  platform := .meshy
  userId := 7
  channelId := 2
  quota := 100
  status := .inProgress
  failReason := ""
  submitTime := 1740182500
  startTime := 1740182510
  finishTime := 0
  progress := "30%"
  upstreamTaskID := "up_a"
  resultURL := ""
  perCallBilling := false
  data := "null"

def pollEnv : TaskEnv := ⟨"https://host", 60, 1000⟩

def meshyFailed : TaskInfo := ⟨"task_a", .failure, "expired", "", "", 0⟩

def videoDone : VideoAnswer := ⟨⟨"up_a", .success, "", "", "", 0⟩, .notJson, "null", none⟩

def at200000 (answer : PollAnswer) : PollTick := ⟨false, 1740382400, answer⟩

theorem polling_bills_once_in_a_race :
    ∃ c, Sched.Steps (taskMachine pollEnv) Sched.free
        (pollStart [meshyTask] [.sweepTimedOutTasks, .updateVideoSingleTask 1,
          .applyMeshyTaskUpdate meshyFailed "null"]) c
      ∧ c.store.bills = [⟨2, 1, .refund, 100, true⟩]
      ∧ (c.store.bills.filter fun b => decide (b.task = 1)).length ≤ 1
      ∧ ∃ r, findTask c.store.tasks 1 = some r ∧ r.status.terminal = true := by
  refine Sched.exists_of_run_and
    [(0, at200000 .silent), (1, at200000 .silent), (2, at200000 .silent),
      (1, at200000 (.video videoDone)), (2, at200000 .silent), (1, at200000 .silent),
      (0, at200000 .silent), (2, at200000 .silent), (1, at200000 .silent),
      (1, at200000 .silent), (0, at200000 .silent)] (by decide) fun c hc hbills => ?_
  obtain ⟨honce, hclosed⟩ := polling_bills_once (by decide) hc 1
  exact ⟨honce, hclosed ⟨_, by rw [hbills]; exact List.mem_singleton.mpr rfl, rfl⟩⟩

end YouBox
