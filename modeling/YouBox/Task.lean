import Mathlib

/-!
# Asynchronous tasks

The rows of `tasks`, the statements of `model/task.go` that read and write
them, and what each poller makes of an answer from upstream: the timeout sweep,
the video poller, the Suno poller, the Meshy webhook and the realtime fetch.
Nothing here is concurrent; `TaskPoll` runs these functions side by side.

Of a row's JSON columns only what the pollers read is kept. `data` stands for
the compact text `common.Marshal` gives for the column.
-/

namespace YouBox

inductive TaskStatus where
  | empty
  | notStart
  | submitted
  | queued
  | inProgress
  | failure
  | success
  | unknown
  | other (text : String)
deriving DecidableEq

/-- No later poll looks at the task again. -/
def TaskStatus.terminal (st : TaskStatus) : Bool := decide (st = .failure ∨ st = .success)

inductive TaskPlatform where
  | suno
  | midjourney
  | meshy
  | other (name : String)
deriving DecidableEq

structure Task where
  id : Nat
  taskID : String
  platform : TaskPlatform
  userId : Nat
  channelId : Nat
  quota : Int
  status : TaskStatus
  failReason : String
  submitTime : Int
  startTime : Int
  finishTime : Int
  progress : String
  upstreamTaskID : String
  resultURL : String
  perCallBilling : Bool
  data : String
deriving DecidableEq

def Task.getUpstreamTaskID (t : Task) : String :=
  if t.upstreamTaskID = "" then t.taskID else t.upstreamTaskID

/-- The fields `taskSnapshot.Equal` compares. -/
def Task.sameSnapshot (t u : Task) : Bool :=
  decide (t.status = u.status ∧ t.progress = u.progress ∧ t.startTime = u.startTime
    ∧ t.finishTime = u.finishTime ∧ t.failReason = u.failReason ∧ t.resultURL = u.resultURL
    ∧ t.data = u.data)

def legacyTaskCutoff : Int := 1740182400

def Task.isLegacy (t : Task) : Bool := decide (0 < t.submitTime ∧ t.submitTime < legacyTaskCutoff)

/-! ## Statements -/

def findTask (tasks : List Task) (id : Nat) : Option Task :=
  tasks.find? fun t => decide (t.id = id)

def Task.unfinished (t : Task) : Bool := decide (t.progress ≠ "100%") && !t.status.terminal

def getTimedOutUnfinishedTasks (cutoff : Int) (limit : Nat) (tasks : List Task) : List Task :=
  ((tasks.filter fun t => t.unfinished && decide (t.submitTime < cutoff)).insertionSort
    fun a b => a.submitTime ≤ b.submitTime).take limit

def getAllUnFinishSyncTasks (limit : Nat) (tasks : List Task) : List Task :=
  ((tasks.filter Task.unfinished).insertionSort fun a b => a.id ≤ b.id).take limit

def getByOnlyTaskId (taskID : String) (tasks : List Task) : Option Task :=
  if taskID = "" then none
  else ((tasks.filter fun t => decide (t.taskID = taskID)).insertionSort
    fun a b => a.id ≤ b.id).head?

def getByTaskId (userId : Nat) (taskID : String) (tasks : List Task) : Option Task :=
  if taskID = "" then none
  else ((tasks.filter fun t => decide (t.userId = userId ∧ t.taskID = taskID)).insertionSort
    fun a b => a.id ≤ b.id).head?

/-- A write of all columns of row `t.id`. -/
def writeTask (tasks : List Task) (t : Task) : List Task :=
  tasks.map fun r => if r.id = t.id then t else r

/-- The compare-and-set of `UpdateWithStatus`: the table after it, if the row
was still in `fromStatus`. -/
def updateWithStatus (tasks : List Task) (t : Task) (fromStatus : TaskStatus) :
    Option (List Task) :=
  match findTask tasks t.id with
  | none => none
  | some r => if r.status = fromStatus then some (writeTask tasks t) else none

/-- The row of a bulk failure; without a reason the column is left alone. -/
def Task.bulkFailed (reason : Option String) (t : Task) : Task :=
  { t with status := .failure, progress := "100%", failReason := reason.getD t.failReason }

def taskBulkUpdateByID (ids : List Nat) (reason : Option String) (tasks : List Task) : List Task :=
  tasks.map fun r => if r.id ∈ ids then r.bulkFailed reason else r

def updateQuota (tasks : List Task) (id : Nat) (quota : Int) : List Task :=
  tasks.map fun r => if r.id = id then { r with quota := quota } else r

variable {tasks : List Task} {t : Task}

theorem findTask_id {id : Nat} (h : findTask tasks id = some t) : t.id = id := by
  simpa using List.find?_some h

theorem findTask_mem {id : Nat} (h : findTask tasks id = some t) : t ∈ tasks :=
  List.mem_of_find?_eq_some h

theorem findTask_map {f : Task → Task} (hf : ∀ t, (f t).id = t.id) (tasks : List Task) (id : Nat) :
    findTask (tasks.map f) id = (findTask tasks id).map f := by
  induction tasks with
  | nil => rfl
  | cons t rest ih =>
    simp only [findTask, List.map_cons, List.find?_cons, hf] at ih ⊢
    by_cases ht : t.id = id
    · simp [ht]
    · simp only [ht, decide_false]
      exact ih

theorem findTask_writeTask (tasks : List Task) (t : Task) (id : Nat) :
    findTask (writeTask tasks t) id
      = (findTask tasks id).map fun r => if r.id = t.id then t else r := by
  refine findTask_map (fun r => ?_) tasks id
  split
  · rename_i h
    exact h.symm
  · rfl

theorem findTask_bulk (ids : List Nat) (reason : Option String) (tasks : List Task) (id : Nat) :
    findTask (taskBulkUpdateByID ids reason tasks) id
      = (findTask tasks id).map fun r => if r.id ∈ ids then r.bulkFailed reason else r := by
  refine findTask_map (fun r => ?_) tasks id
  split <;> rfl

theorem findTask_updateQuota (tasks : List Task) (j : Nat) (quota : Int) (id : Nat) :
    findTask (updateQuota tasks j quota) id
      = (findTask tasks id).map fun r => if r.id = j then { r with quota := quota } else r := by
  refine findTask_map (fun r => ?_) tasks id
  split <;> rfl

theorem updateWithStatus_some {tasks' : List Task} {fromStatus : TaskStatus}
    (h : updateWithStatus tasks t fromStatus = some tasks') :
    ∃ r, findTask tasks t.id = some r ∧ r.status = fromStatus ∧ tasks' = writeTask tasks t := by
  unfold updateWithStatus at h
  cases hf : findTask tasks t.id with
  | none => rw [hf] at h; cases h
  | some r =>
    rw [hf] at h
    by_cases hs : r.status = fromStatus
    · simp only [hs, if_true, Option.some.injEq] at h
      exact ⟨r, rfl, hs, h.symm⟩
    · simp only [hs, if_false] at h
      cases h

theorem unfinished_not_terminal (h : t.unfinished = true) : t.status.terminal = false := by
  simp only [Task.unfinished, Bool.and_eq_true, Bool.not_eq_true'] at h
  exact h.2

theorem getTimedOut_not_terminal {cutoff : Int} {limit : Nat}
    (h : t ∈ getTimedOutUnfinishedTasks cutoff limit tasks) : t.status.terminal = false := by
  have hmem := List.mem_of_mem_take h
  rw [List.mem_insertionSort, List.mem_filter, Bool.and_eq_true] at hmem
  exact unfinished_not_terminal hmem.2.1

theorem getAllUnFinish_not_terminal {limit : Nat} (h : t ∈ getAllUnFinishSyncTasks limit tasks) :
    t.status.terminal = false := by
  have hmem := List.mem_of_mem_take h
  rw [List.mem_insertionSort, List.mem_filter] at hmem
  exact unfinished_not_terminal hmem.2

/-! ## What a poller makes of an answer -/

structure TaskInfo where
  taskID : String
  status : TaskStatus
  reason : String
  url : String
  progress : String
  totalTokens : Int
deriving DecidableEq

def failTaskInfo (reason : String) : TaskInfo := ⟨"", .failure, reason, "", "", 0⟩

def hasPrefix (pre s : String) : Bool := pre.toList.isPrefixOf s.toList

def buildProxyURL (serverAddress taskID : String) : String :=
  serverAddress ++ "/v1/videos/" ++ taskID ++ "/content"

/-- `sweepTimedOutTasks`, on one of the rows it has read. -/
def Task.timedOut (minutes now : Int) (t : Task) : Task :=
  { t with
    status := .failure
    progress := "100%"
    finishTime := now
    failReason :=
      if t.isLegacy then "任务超时（旧系统遗留任务，不进行退款，请联系管理员）"
      else "任务超时（" ++ toString minutes ++ "分钟）" }

/-- How a body without a status reads as an error. -/
inductive ErrorBody where
  | notJson
  | rateLimited
  | openaiError
  | unrecognized

/-- A fetched video task: the parsed result, how its body reads as an error,
the redacted body, and the URL of the media object that already exists for it,
if media storage has one. -/
structure VideoAnswer where
  info : TaskInfo
  error : ErrorBody
  data : String
  media : Option String

/-- The result the video poller goes on with; none when it leaves the task for
the next round. -/
def VideoAnswer.result (a : VideoAnswer) : Option TaskInfo :=
  if a.info.status = .empty then
    match a.error with
    | .notJson => some a.info
    | .rateLimited => none
    | .openaiError => some (failTaskInfo "upstream returned error")
    | .unrecognized => some (failTaskInfo "upstream returned unrecognized message")
  else some a.info

def VideoAnswer.resultURL (a : VideoAnswer) (serverAddress : String) (info : TaskInfo)
    (t : Task) : String :=
  if hasPrefix "data:" info.url then buildProxyURL serverAddress t.taskID
  else if info.url = "" then buildProxyURL serverAddress t.taskID
  else if hasPrefix "http://" info.url || hasPrefix "https://" info.url then
    a.media.getD info.url
  else info.url

structure VideoUpdate where
  task : Task
  info : TaskInfo
  shouldRefund : Bool
  shouldSettle : Bool
deriving DecidableEq

/-- `updateVideoSingleTask` between the fetch and its write; none when it
returns before the write. -/
def updateVideo (serverAddress : String) (now : Int) (t : Task) (a : VideoAnswer) :
    Option VideoUpdate :=
  match a.result with
  | none => none
  | some info =>
    let t : Task := { t with data := a.data, status := info.status }
    let finish : Int := if t.finishTime = 0 then now else t.finishTime
    let withProgress (t : Task) : Task :=
      { t with progress := if info.progress = "" then t.progress else info.progress }
    match info.status with
    | .submitted => some ⟨withProgress { t with progress := "10%" }, info, false, false⟩
    | .queued => some ⟨withProgress { t with progress := "20%" }, info, false, false⟩
    | .inProgress =>
      some ⟨withProgress { t with
        progress := "30%"
        startTime := if t.startTime = 0 then now else t.startTime }, info, false, false⟩
    | .success =>
      some ⟨withProgress { t with
        progress := "100%"
        finishTime := finish
        resultURL := a.resultURL serverAddress info t }, info, false, true⟩
    | .failure =>
      -- the reported progress is overwritten with that of a finished task
      some ⟨{ t with
        progress := "100%"
        finishTime := finish
        failReason := info.reason }, info, decide (t.quota ≠ 0), false⟩
    | _ => none

/-- The video poller settles exactly a success and refunds exactly a failure
that was charged. -/
theorem updateVideo_some {serverAddress : String} {now : Int} {a : VideoAnswer} {u : VideoUpdate}
    (h : updateVideo serverAddress now t a = some u) :
    u.task.id = t.id ∧ u.task.quota = t.quota ∧ u.task.submitTime = t.submitTime
      ∧ u.shouldSettle = decide (u.task.status = .success)
      ∧ u.shouldRefund = decide (u.task.status = .failure ∧ u.task.quota ≠ 0) := by
  unfold updateVideo at h
  split at h
  · cases h
  · rename_i info _
    cases hst : info.status <;> simp only [hst, reduceCtorEq] at h
    all_goals
      obtain rfl := Option.some.inj h
      simp

/-- The quota `settleTaskBillingOnComplete` writes back: the adaptor's, else the
one recomputed from the tokens, unless it is the quota already charged. -/
def settledQuota (t : Task) (info : TaskInfo) (adjusted byTokens : Int) : Option Int :=
  if t.perCallBilling then none
  else
    let actual : Int :=
      if 0 < adjusted then adjusted else if 0 < info.totalTokens then byTokens else 0
    if actual ≤ 0 ∨ actual = t.quota then none else some actual

/-- `applyMeshyTaskUpdate` up to its write. -/
def updateMeshy (now : Int) (info : TaskInfo) (payload : String) (t : Task) : Task :=
  let t : Task := { t with
    status := if info.status = .empty then t.status else info.status
    data := payload }
  let finish : Int := if t.finishTime = 0 then now else t.finishTime
  let t : Task :=
    match t.status with
    | .queued => { t with progress := "20%" }
    | .inProgress =>
      { t with progress := "30%", startTime := if t.startTime = 0 then now else t.startTime }
    | .success =>
      { t with
        progress := "100%"
        finishTime := finish
        resultURL := if info.url = "" then t.resultURL else info.url }
    | .failure =>
      { t with progress := "100%", finishTime := finish, failReason := info.reason }
    | _ => t
  { t with progress := if info.progress = "" then t.progress else info.progress }

/-- `tryRealtimeFetch` up to its write. -/
def updateRealtime (serverAddress : String) (info : TaskInfo) (t : Task) : Task :=
  let t : Task := { t with
    status := if info.status = .empty then t.status else info.status
    progress := if info.progress = "" then t.progress else info.progress }
  { t with
    resultURL :=
      if hasPrefix "data:" info.url then t.resultURL
      else if info.url ≠ "" then info.url
      else if t.status = .success then buildProxyURL serverAddress t.taskID
      else t.resultURL }

structure SunoDataResponse where
  taskID : String
  status : TaskStatus
  failReason : String
  submitTime : Int
  startTime : Int
  finishTime : Int
  data : String
deriving DecidableEq

def sortedBytes (s : String) : List UInt8 := s.toUTF8.toList.insertionSort (· ≤ ·)

def taskNeedsUpdate (t : Task) (item : SunoDataResponse) : Bool :=
  decide (t.submitTime ≠ item.submitTime) || decide (t.startTime ≠ item.startTime)
    || decide (t.finishTime ≠ item.finishTime) || decide (t.status ≠ item.status)
    || decide (t.failReason ≠ item.failReason)
    || (t.status.terminal && decide (t.progress ≠ "100%"))
    || decide (sortedBytes t.data ≠ sortedBytes item.data)

/-- The fields of a Suno task before the refund. -/
def Task.withSuno (t : Task) (item : SunoDataResponse) : Task :=
  { t with
    status := if item.status ≠ .empty then item.status else t.status
    failReason := if item.failReason ≠ "" then item.failReason else t.failReason
    submitTime := if item.submitTime ≠ 0 then item.submitTime else t.submitTime
    startTime := if item.startTime ≠ 0 then item.startTime else t.startTime
    finishTime := if item.finishTime ≠ 0 then item.finishTime else t.finishTime }

/-- The Suno poller refunds. -/
def Task.sunoFailed (t : Task) (item : SunoDataResponse) : Bool :=
  decide (item.failReason ≠ "" ∨ (t.withSuno item).status = .failure)

/-- The Suno task as it is saved. -/
def updateSuno (t : Task) (item : SunoDataResponse) : Task :=
  let u := t.withSuno item
  { u with
    progress := if t.sunoFailed item || decide (item.status = .success) then "100%" else u.progress
    data := item.data }

end YouBox
