import Mathlib

/-!
# Midjourney tasks

The rows of `midjourneys`, what a submission stores and charges, and what a
polling pass and a notification make of a row. Nothing here is concurrent;
`MjPoll` runs passes and notifications side by side.

A submission stores the price in the row whatever upstream answered, and
charges it only for some answers; a pass later returns what the row says. The
status is upstream's own text, so it is kept as one.
-/

namespace YouBox

structure Midjourney where
  id : Nat
  code : Int
  userId : Nat
  action : String
  mjId : String
  prompt : String
  promptEn : String
  description : String
  state : String
  submitTime : Int
  startTime : Int
  finishTime : Int
  imageUrl : String
  videoUrl : String
  videoUrls : String
  status : String
  progress : String
  failReason : String
  channelId : Nat
  quota : Int
  buttons : String
  properties : String
deriving DecidableEq

/-- A list of URLs as Go has it, and the text it marshals to. -/
inductive VideoUrls where
  | nil
  | empty
  | urls (text : String)
deriving DecidableEq

def VideoUrls.marshal : VideoUrls → String
  | .nil => "null"
  | .empty => "[]"
  | .urls text => text

/-- A task as upstream reports it; of `properties` and `buttons` the text they
marshal to, if they are there. -/
structure MidjourneyDto where
  mjId : String
  promptEn : String
  state : String
  submitTime : Int
  startTime : Int
  finishTime : Int
  imageUrl : String
  videoUrl : String
  videoUrls : VideoUrls
  status : String
  progress : String
  failReason : String
  buttons : Option String
  properties : Option String
deriving DecidableEq

def Midjourney.finished (t : Midjourney) : Bool := t.progress == "100%"

/-- Finished, as a failure. -/
def Midjourney.failed (t : Midjourney) : Bool := t.finished && t.status == "FAILURE"

/-! ## Submission -/

inductive MjRoute where
  | relayMidjourneySubmit
  | relaySwapFace

/-- Upstream's answer to a submission; `properties` holds `imageUrl` and
`status` where both are texts. -/
structure MjResponse where
  statusCode : Nat
  code : Int
  description : String
  result : String
  properties : Option (String × String)

/-- A submission that upstream has answered. -/
structure MjSubmission where
  route : MjRoute
  userId : Nat
  channelId : Nat
  action : String
  prompt : String
  /-- `priceData.Quota`. -/
  quota : Int
  response : MjResponse
  /-- `info.StartTime`, and the clock. -/
  startTime : Int
  now : Int
  /-- `PostConsumeQuota` cannot write the user's quota. -/
  chargeFails : Bool

/-- Submitted, there already, or queued. -/
def MjResponse.accepted (r : MjResponse) : Bool := r.code == 1 || r.code == 21 || r.code == 22

/-- `consumeQuota` when the handler returns. -/
def MjSubmission.consumeQuota (m : MjSubmission) : Bool :=
  m.action != "INPAINT" && m.action != "CUSTOM_ZOOM" && m.response.accepted

/-- The deferred `PostConsumeQuota` is called. -/
def MjSubmission.charges (m : MjSubmission) : Bool :=
  match m.route with
  | .relayMidjourneySubmit => m.consumeQuota && m.response.statusCode == 200
  | .relaySwapFace => m.response.statusCode == 200 && m.response.code == 1

def MjSubmission.charged (m : MjSubmission) : Int :=
  if m.charges && !m.chargeFails then m.quota else 0

/-- The columns both handlers fill alike. -/
def MjSubmission.fresh (m : MjSubmission) (id : Nat) : Midjourney where
  id := id
  code := m.response.code
  userId := m.userId
  action := m.action
  mjId := m.response.result
  prompt := m.prompt
  promptEn := ""
  description := m.response.description
  state := ""
  submitTime := m.now
  startTime := 0
  finishTime := 0
  imageUrl := ""
  videoUrl := ""
  videoUrls := ""
  status := ""
  progress := "0%"
  failReason := ""
  channelId := m.channelId
  quota := m.quota
  buttons := ""
  properties := ""

/-- The answer to a task that exists already may be its result; the code the
handler goes on with is then that of a success. -/
def MjSubmission.withExisting (m : MjSubmission) (t : Midjourney) : Int × Midjourney :=
  match m.response.code, m.response.properties with
  | 21, some (imageUrl, status) =>
    if status = "SUCCESS" then
      (1, { t with
        imageUrl := imageUrl
        status := status
        progress := "100%"
        startTime := m.now
        finishTime := m.now })
    else (21, { t with imageUrl := imageUrl, status := status })
  | code, _ => (code, t)

/-- The row a submission inserts. -/
def MjSubmission.row (m : MjSubmission) (id : Nat) : Midjourney :=
  match m.route with
  | .relaySwapFace =>
    { m.fresh id with
      action := "SWAP_FACE"
      prompt := "InsightFace"
      submitTime := m.startTime
      startTime := m.now }
  | .relayMidjourneySubmit =>
    let t := m.fresh id
    let t : Midjourney :=
      if m.response.accepted then t else { t with failReason := m.response.description }
    let r := m.withExisting t
    if r.1 = 1 ∧ m.action = "UPLOAD" then
      { r.2 with progress := "100%", status := "SUCCESS" }
    else r.2

theorem withExisting_keeps (m : MjSubmission) (t : Midjourney) :
    (m.withExisting t).2.id = t.id ∧ (m.withExisting t).2.quota = t.quota
      ∧ ((m.withExisting t).2.progress = t.progress
        ∨ (m.withExisting t).2.status = "SUCCESS") := by
  unfold MjSubmission.withExisting
  split
  · split
    · rename_i hs
      exact ⟨rfl, rfl, Or.inr hs⟩
    · exact ⟨rfl, rfl, Or.inl rfl⟩
  · exact ⟨rfl, rfl, Or.inl rfl⟩

/-- Whatever upstream answered, the row records the price, and it is not a
failure yet. -/
theorem row_keeps (m : MjSubmission) (id : Nat) :
    (m.row id).id = id ∧ (m.row id).quota = m.quota ∧ (m.row id).failed = false := by
  unfold MjSubmission.row
  cases m.route with
  | relaySwapFace => exact ⟨rfl, rfl, by simp [Midjourney.failed, Midjourney.finished,
      MjSubmission.fresh]⟩
  | relayMidjourneySubmit =>
    simp only
    generalize ht : (if m.response.accepted = true then m.fresh id
      else { m.fresh id with failReason := m.response.description }) = t
    have hfresh : t.id = id ∧ t.quota = m.quota ∧ t.progress = "0%" := by
      rw [← ht]
      split <;> exact ⟨rfl, rfl, rfl⟩
    obtain ⟨hid, hquota, hwhere⟩ := withExisting_keeps m t
    rw [hfresh.1] at hid
    rw [hfresh.2.1] at hquota
    split
    · exact ⟨hid, hquota, by simp [Midjourney.failed]⟩
    · refine ⟨hid, hquota, ?_⟩
      rcases hwhere with hprogress | hstatus
      · simp [Midjourney.failed, Midjourney.finished, hprogress, hfresh.2.2]
      · simp [Midjourney.failed, hstatus]

/-! ## Statements -/

def findMj (rows : List Midjourney) (id : Nat) : Option Midjourney :=
  rows.find? fun t => t.id == id

def getAllUnFinishTasks (rows : List Midjourney) : List Midjourney :=
  rows.filter fun t => !t.finished

/-- `First` with this `mj_id`: of several, the one with the least id. -/
def getByOnlyMJId (mjId : String) (rows : List Midjourney) : Option Midjourney :=
  ((rows.filter fun t => t.mjId == mjId).insertionSort fun a b => a.id ≤ b.id).head?

/-- A write of all columns of row `t.id`. -/
def saveMj (rows : List Midjourney) (t : Midjourney) : List Midjourney :=
  rows.map fun r => if r.id = t.id then t else r

/-- The compare-and-set of `UpdateWithStatus` is won. -/
def mjWon (rows : List Midjourney) (t : Midjourney) (fromStatus : String) : Bool :=
  (findMj rows t.id).any fun r => r.status == fromStatus

/-- The row of a bulk failure; without a reason the column is left alone. -/
def Midjourney.bulkFailed (reason : Option String) (t : Midjourney) : Midjourney :=
  { t with status := "FAILURE", progress := "100%", failReason := reason.getD t.failReason }

/-- The bulk updates set the failure on the rows `hit`. -/
def mjBulkUpdate (hit : Midjourney → Bool) (reason : Option String) (rows : List Midjourney) :
    List Midjourney :=
  rows.map fun r => if hit r then r.bulkFailed reason else r

variable {rows : List Midjourney} {t : Midjourney} {id : Nat}

theorem findMj_id (h : findMj rows id = some t) : t.id = id := by
  simpa using List.find?_some h

theorem findMj_mem (h : findMj rows id = some t) : t ∈ rows :=
  List.mem_of_find?_eq_some h

theorem findMj_map {f : Midjourney → Midjourney} (hf : ∀ t, (f t).id = t.id)
    (rows : List Midjourney) (id : Nat) : findMj (rows.map f) id = (findMj rows id).map f := by
  induction rows with
  | nil => rfl
  | cons t rest ih =>
    simp only [findMj, List.map_cons, List.find?_cons, hf] at ih ⊢
    cases t.id == id with
    | true => rfl
    | false => exact ih

theorem findMj_saveMj (rows : List Midjourney) (t : Midjourney) (id : Nat) :
    findMj (saveMj rows t) id
      = (findMj rows id).map fun r => if r.id = t.id then t else r := by
  refine findMj_map (fun r => ?_) rows id
  split
  · rename_i h
    exact h.symm
  · rfl

theorem findMj_bulk (hit : Midjourney → Bool) (reason : Option String) (rows : List Midjourney)
    (id : Nat) :
    findMj (mjBulkUpdate hit reason rows) id
      = (findMj rows id).map fun r => if hit r then r.bulkFailed reason else r := by
  refine findMj_map (fun r => ?_) rows id
  split <;> rfl

/-! ## What a pass and a notification make of a row -/

/-- An hour after the submission an unfinished task counts as failed. -/
def MidjourneyDto.overdue (now : Int) (t : Midjourney) (item : MidjourneyDto) : MidjourneyDto :=
  if now - t.submitTime > 3600000 ∧ t.finished = false then
    { item with failReason := "上游任务超时（超过1小时）", status := "FAILURE" }
  else item

def checkMjTaskNeedUpdate (t : Midjourney) (item : MidjourneyDto) : Bool :=
  t.code != 1 || t.progress != item.progress || t.promptEn != item.promptEn
    || t.state != item.state || t.submitTime != item.submitTime || t.startTime != item.startTime
    || t.finishTime != item.finishTime || t.imageUrl != item.imageUrl || t.status != item.status
    || t.failReason != item.failReason || (!t.finished && item.failReason != "")
    || t.videoUrl != item.videoUrl
    || match item.videoUrls with
      | .urls text => t.videoUrls != text
      | _ => t.videoUrls != ""

/-- The fields a pass copies. -/
def Midjourney.withItem (t : Midjourney) (item : MidjourneyDto) : Midjourney :=
  { t with
    code := 1
    progress := item.progress
    promptEn := item.promptEn
    state := item.state
    submitTime := item.submitTime
    startTime := item.startTime
    finishTime := item.finishTime
    imageUrl := item.imageUrl
    status := item.status
    failReason := item.failReason
    properties := item.properties.getD t.properties
    buttons := item.buttons.getD t.buttons
    videoUrl := item.videoUrl
    videoUrls :=
      match item.videoUrls with
      | .urls text => text
      | _ => "" }

/-- The pass takes the task for failed. -/
def Midjourney.fails (t : Midjourney) (item : MidjourneyDto) : Bool :=
  ((t.withItem item).progress != "100%" && item.failReason != "") || (t.withItem item).failed

/-- The row as a pass writes it. -/
def Midjourney.updated (t : Midjourney) (item : MidjourneyDto) : Midjourney :=
  if t.fails item then { t.withItem item with progress := "100%" } else t.withItem item

/-- The row as a notification saves it. -/
def Midjourney.notified (t : Midjourney) (item : MidjourneyDto) : Midjourney :=
  { t with
    progress := item.progress
    promptEn := item.promptEn
    state := item.state
    submitTime := item.submitTime
    startTime := item.startTime
    finishTime := item.finishTime
    imageUrl := item.imageUrl
    videoUrl := item.videoUrl
    videoUrls := item.videoUrls.marshal
    status := item.status
    failReason := item.failReason }

section Updated

variable {t : Midjourney} {item : MidjourneyDto}

@[simp] theorem updated_id : (t.updated item).id = t.id := by
  unfold Midjourney.updated
  split <;> rfl

@[simp] theorem updated_quota : (t.updated item).quota = t.quota := by
  unfold Midjourney.updated
  split <;> rfl

@[simp] theorem updated_mjId : (t.updated item).mjId = t.mjId := by
  unfold Midjourney.updated
  split <;> rfl

theorem finished_updated (h : t.fails item = true) : (t.updated item).finished = true := by
  simp [Midjourney.updated, h, Midjourney.finished]

theorem fails_of_failed (h : (t.updated item).failed = true) : t.fails item = true := by
  by_contra hnot
  have hsame : t.updated item = t.withItem item := by
    unfold Midjourney.updated
    rw [if_neg hnot]
  rw [hsame] at h
  simp only [Midjourney.fails, Bool.or_eq_true, not_or] at hnot
  exact hnot.2 h

end Updated

end YouBox
