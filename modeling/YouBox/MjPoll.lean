import YouBox.Midjourney
import YouBox.Sched

/-!
# Midjourney polls side by side

Polling passes and notifications over one table. A pass reads the unfinished
rows once and works on that snapshot, channel by channel and item by item; a
notification reads a row and saves all its columns. The channels of a pass come
in any order, and upstream may answer anything.

A pass returns the quota of a task it finds failed after it has won a
compare-and-set on the status it read. The failing answer need not change that
status, so the compare-and-set alone does not tell the first pass from the
second. What does is the progress: a row at 100% is read by no later pass, so
as long as no write finds a finished row and returns its quota or reopens it
(`MjSettled`), returns made and owed for a task are at most one, and none while
its row is unfinished (`ReturnOnce`).
-/

namespace YouBox

/-- A call of `IncreaseUserQuota` for a task; `done` is false when it failed. -/
structure MjReturn where
  exec : Nat
  task : Nat
  quota : Int
  done : Bool

structure MjDB where
  rows : List Midjourney
  returns : List MjReturn

/-- A pass under way: what it has read, the tasks as it holds them now, the
channels ahead of it, and what it has met. `updates` are the items that were
written to a row, or found it up to date. -/
structure MjPass where
  snapshot : List Midjourney
  taskM : List Midjourney
  remaining : List Nat
  cancelled : Bool
  lost : List Nat
  silent : List Nat
  answers : List (Nat × List MidjourneyDto)
  updates : List (Nat × MidjourneyDto)
deriving DecidableEq

def MjPass.read (rows : List Midjourney) : MjPass :=
  let tasks := getAllUnFinishTasks rows
  let taskM := tasks.filter fun t => t.mjId != ""
  ⟨tasks, taskM, (taskM.map (·.channelId)).dedup, false, [], [], [], []⟩

/-- The tasks without an upstream id. -/
def MjPass.nullTaskIds (p : MjPass) : List Nat :=
  (p.snapshot.filter fun t => t.mjId == "").map (·.id)

/-- `taskChannelM[channelId]`. -/
def MjPass.taskIds (p : MjPass) (channelId : Nat) : List String :=
  (p.snapshot.filter fun t => t.mjId != "" && t.channelId == channelId).map (·.mjId)

/-- `taskM[mjId]`: of several tasks with one upstream id, the last. -/
def lookupMj (taskM : List Midjourney) (mjId : String) : Option Midjourney :=
  taskM.reverse.find? fun t => t.mjId == mjId

def mjLostChannelReason (channelId : Nat) : String :=
  "获取渠道信息失败，请联系管理员，渠道ID：" ++ toString channelId

inductive MjCall where
  | runMidjourneyTaskUpdateOnce
  | relayMidjourneyNotify (item : MidjourneyDto)
deriving DecidableEq

inductive MjPc where
  | start
  | nullTasks (p : MjPass)
  | channels (p : MjPass)
  | items (todo : List MidjourneyDto) (p : MjPass)
  | returnQuota (t : Midjourney) (todo : List MidjourneyDto) (p : MjPass)
  | passed (p : MjPass)
  | save (t : Midjourney)
  | ended
deriving DecidableEq

/-- What a pass meets at a channel: its context is cancelled, the channel is
gone, upstream gives no usable answer, or one. -/
inductive MjAnswer where
  | cancelled
  | lost
  | silent
  | items (items : List MidjourneyDto)

structure MjTick where
  fails : Bool
  now : Int
  /-- Which of the remaining channels comes next. -/
  pick : Nat
  answer : MjAnswer

/-- A pass at channel `ch`. -/
def MjPass.atChannel (p : MjPass) (ch : Nat) (tick : MjTick) (s : MjDB) : MjDB × MjPc :=
  let p' : MjPass := { p with remaining := p.remaining.erase ch }
  match tick.answer with
  | .cancelled => (s, .passed { p with cancelled := true })
  | .lost =>
    (if tick.fails then s
      else { s with
        rows := mjBulkUpdate (fun r => (p.taskIds ch).contains r.mjId)
          (some (mjLostChannelReason ch)) s.rows },
      .channels { p' with lost := ch :: p.lost })
  | .silent => (s, .channels { p' with silent := ch :: p.silent })
  | .items items => (s, .items items { p' with answers := (ch, items) :: p.answers })

/-- A pass at an item for the task `t` it holds. -/
def MjPass.atItem (p : MjPass) (t : Midjourney) (item : MidjourneyDto) (todo : List MidjourneyDto)
    (tick : MjTick) (s : MjDB) : MjDB × MjPc :=
  let seen := item.overdue tick.now t
  let u := t.updated seen
  if checkMjTaskNeedUpdate t seen = false then
    (s, .items todo { p with updates := (t.id, item) :: p.updates })
  else if tick.fails || !mjWon s.rows u t.status then
    (s, .items todo { p with taskM := saveMj p.taskM u })
  else
    let p' : MjPass :=
      { p with taskM := saveMj p.taskM u, updates := (t.id, item) :: p.updates }
    ({ s with rows := saveMj s.rows u },
      if t.fails seen && t.quota != 0 then .returnQuota u todo p' else .items todo p')

def MjPc.next (pc : MjPc) (call : MjCall) (exec : Nat) (tick : MjTick) (s : MjDB) :
    Option (MjDB × MjPc) :=
  match pc with
  | .start =>
    match call with
    | .runMidjourneyTaskUpdateOnce =>
      some (s, if tick.fails then .ended else .nullTasks (.read s.rows))
    | .relayMidjourneyNotify item =>
      match getByOnlyMJId item.mjId s.rows with
      | none => some (s, .ended)
      | some t => some (s, if tick.fails then .ended else .save (t.notified item))
  | .nullTasks p =>
    some (if tick.fails then s
      else { s with
        rows := mjBulkUpdate (fun r => p.nullTaskIds.contains r.id) none s.rows },
      .channels p)
  | .channels p =>
    match p.remaining[tick.pick % p.remaining.length]? with
    | none => some (s, .passed p)
    | some ch => some (p.atChannel ch tick s)
  | .items [] p => some (s, .channels p)
  | .items (item :: todo) p =>
    match lookupMj p.taskM item.mjId with
    | none => some (s, .items todo p)
    | some t => some (p.atItem t item todo tick s)
  | .returnQuota t todo p =>
    some ({ s with returns := ⟨exec, t.id, t.quota, !tick.fails⟩ :: s.returns }, .items todo p)
  | .save t => some (if tick.fails then s else { s with rows := saveMj s.rows t }, .ended)
  | .passed _ => none
  | .ended => none

structure MjExec where
  exec : Nat
  call : MjCall
  pc : MjPc
deriving DecidableEq

def mjMachine : Sched.Machine MjDB MjExec MjTick where
  next tick s l := (l.pc.next l.call l.exec tick s).map fun r => (r.1, { l with pc := r.2 })

variable {s s' : MjDB} {pc : MjPc} {tick : MjTick} {id : Nat}

variable {taskM : List Midjourney} {calls : List MjCall} {subs : List MjSubmission} {u : Midjourney}
  {call : MjCall} {l' : MjExec} {exec : Nat}

theorem mjMachine_next {l : MjExec} (h : mjMachine.next tick s l = some (s', l')) :
    l.pc.next l.call l.exec tick s = some (s', l'.pc) ∧ l' = { l with pc := l'.pc } := by
  simp only [mjMachine, Option.map_eq_some_iff] at h
  obtain ⟨r, hr, heq⟩ := h
  cases heq
  exact ⟨hr, rfl⟩

/-- The rows of these submissions, numbered, and `calls` on them. -/
def mjStart (subs : List MjSubmission) (calls : List MjCall) : Sched.Conf MjDB MjExec :=
  ⟨⟨subs.mapIdx fun i m => m.row i, []⟩, calls.mapIdx fun i call => ⟨i, call, .start⟩⟩

/-! ## What a step can do -/

/-- The rows a bulk update of this control state would fail, with its reason. -/
def MjPc.bulk (pc : MjPc) (tick : MjTick) : Option ((Midjourney → Bool) × Option String) :=
  match pc with
  | .nullTasks p => some (fun r => p.nullTaskIds.contains r.id, none)
  | .channels p =>
    match p.remaining[tick.pick % p.remaining.length]?, tick.answer with
    | some ch, .lost =>
      some (fun r => (p.taskIds ch).contains r.mjId, some (mjLostChannelReason ch))
    | _, _ => none
  | _ => none

/-- The task and the item a pass is about to write, if it wins. -/
def MjPc.writes (pc : MjPc) (tick : MjTick) : Option (Midjourney × MidjourneyDto) :=
  match pc with
  | .items (item :: _) p =>
    match lookupMj p.taskM item.mjId with
    | none => none
    | some t =>
      if checkMjTaskNeedUpdate t (item.overdue tick.now t) then
        some (t, item.overdue tick.now t)
      else none
  | _ => none

/-- On the way to return the quota of `t`. -/
def MjPc.returning : MjPc → Option Midjourney
  | .returnQuota t _ _ => some t
  | _ => none

/-- The rows an execution holds, to write back or to return the quota of. -/
def MjPc.holds : MjPc → List Midjourney
  | .nullTasks p => p.taskM
  | .channels p => p.taskM
  | .items _ p => p.taskM
  | .returnQuota t _ p => t :: p.taskM
  | .passed p => p.taskM
  | .save t => [t]
  | _ => []

/-- Everything a step can do to the table: nothing, a bulk failure, a
compare-and-set that was won, a return, a save. -/
inductive MjEffect (exec : Nat) (tick : MjTick) (s : MjDB) (pc : MjPc) : MjDB → MjPc → Prop
  | quiet {pc'} (hpc : pc.returning = none) (hpc' : pc'.returning = none) :
      MjEffect exec tick s pc s pc'
  | bulk {pc' hit reason} (hpc : pc.bulk tick = some (hit, reason))
      (hnone : pc.returning = none) (hpc' : pc'.returning = none) :
      MjEffect exec tick s pc { s with rows := mjBulkUpdate hit reason s.rows } pc'
  | write {pc' t seen} (hpc : pc.writes tick = some (t, seen)) (hnone : pc.returning = none)
      (hwon : mjWon s.rows t t.status = true)
      (hpc' : pc'.returning
        = if t.fails seen && t.quota != 0 then some (t.updated seen) else none) :
      MjEffect exec tick s pc { s with rows := saveMj s.rows (t.updated seen) } pc'
  | returned {pc' t} (hpc : pc.returning = some t) (hpc' : pc'.returning = none) :
      MjEffect exec tick s pc
        { s with returns := ⟨exec, t.id, t.quota, !tick.fails⟩ :: s.returns } pc'
  | save {pc' t} (hpc : pc = .save t) (hpc' : pc'.returning = none) :
      MjEffect exec tick s pc { s with rows := saveMj s.rows t } pc'

theorem atChannel_effect {exec : Nat} {tick : MjTick} {s : MjDB} {p : MjPass} {ch : Nat}
    (hch : p.remaining[tick.pick % p.remaining.length]? = some ch) :
    MjEffect exec tick s (.channels p) (p.atChannel ch tick s).1 (p.atChannel ch tick s).2 := by
  unfold MjPass.atChannel
  cases hanswer : tick.answer with
  | cancelled => exact .quiet rfl rfl
  | silent => exact .quiet rfl rfl
  | items items => exact .quiet rfl rfl
  | lost =>
    simp only
    split
    · exact .quiet rfl rfl
    · refine .bulk ?_ rfl rfl
      simp only [MjPc.bulk, hch, hanswer]

theorem atItem_effect {exec : Nat} {tick : MjTick} {s : MjDB} {p : MjPass} {t : Midjourney}
    {item : MidjourneyDto} {todo : List MidjourneyDto}
    (ht : lookupMj p.taskM item.mjId = some t) :
    MjEffect exec tick s (.items (item :: todo) p) (p.atItem t item todo tick s).1
      (p.atItem t item todo tick s).2 := by
  unfold MjPass.atItem
  simp only
  split
  · exact .quiet rfl rfl
  rename_i hneed
  split
  · exact .quiet rfl rfl
  rename_i hcond
  simp only [Bool.or_eq_true, Bool.not_eq_true', not_or, Bool.not_eq_true] at hcond
  have hwon : mjWon s.rows t t.status = true := by
    have h := Bool.eq_true_of_not_eq_false hcond.2
    simpa [mjWon] using h
  have hwrites : (MjPc.items (item :: todo) p).writes tick
      = some (t, item.overdue tick.now t) := by
    simp only [MjPc.writes, ht]
    rw [if_pos (Bool.eq_true_of_not_eq_false hneed)]
  refine .write hwrites rfl hwon ?_
  split <;> rfl

variable {seen : MidjourneyDto} {pc' : MjPc}

theorem mjEffect (h : pc.next call exec tick s = some (s', pc')) :
    MjEffect exec tick s pc s' pc' := by
  cases pc with
  | start =>
    cases call with
    | runMidjourneyTaskUpdateOnce =>
      cases h
      exact .quiet rfl (by split <;> rfl)
    | relayMidjourneyNotify item =>
      simp only [MjPc.next] at h
      split at h
      · cases h
        exact .quiet rfl rfl
      · cases h
        exact .quiet rfl (by split <;> rfl)
  | nullTasks p =>
    cases h
    split
    · exact .quiet rfl rfl
    · exact .bulk rfl rfl rfl
  | channels p =>
    simp only [MjPc.next] at h
    split at h
    · cases h
      exact .quiet rfl rfl
    · rename_i ch hch
      have heffect := @atChannel_effect exec tick s p ch hch
      rw [Option.some.inj h] at heffect
      exact heffect
  | items todo p =>
    cases todo with
    | nil =>
      cases h
      exact .quiet rfl rfl
    | cons item todo =>
      simp only [MjPc.next] at h
      split at h
      · cases h
        exact .quiet rfl rfl
      · rename_i t ht
        have heffect := @atItem_effect exec tick s p t item todo ht
        rw [Option.some.inj h] at heffect
        exact heffect
  | returnQuota t todo p =>
    cases h
    exact .returned rfl rfl
  | save t =>
    cases h
    split
    · exact .quiet rfl rfl
    · exact .save rfl rfl
  | passed p => cases h
  | ended => cases h

/-! ## The quota of a task never changes -/

/-- Same task, same quota. -/
def Midjourney.copies (u t : Midjourney) : Prop := u.id = t.id ∧ u.quota = t.quota

theorem mem_getByOnlyMJId {mjId : String} {rows : List Midjourney} {t : Midjourney}
    (h : getByOnlyMJId mjId rows = some t) : t ∈ rows := by
  have hmem := List.mem_of_mem_head? h
  rw [List.mem_insertionSort] at hmem
  exact List.mem_of_mem_filter hmem

theorem mem_lookupMj {mjId : String} {t : Midjourney} (h : lookupMj taskM mjId = some t) :
    t ∈ taskM :=
  List.mem_reverse.mp (List.mem_of_find?_eq_some h)

theorem saveMj_copies {t v : Midjourney} (ht : t ∈ taskM) (hu : u.copies t)
    (hv : v ∈ saveMj taskM u) : ∃ x ∈ taskM, v.copies x := by
  obtain ⟨r, hr, rfl⟩ := List.mem_map.mp hv
  by_cases hid : r.id = u.id
  · rw [if_pos hid]
    exact ⟨t, ht, hu⟩
  · rw [if_neg hid]
    exact ⟨r, hr, rfl, rfl⟩

theorem atItem_holds {p : MjPass} {t : Midjourney} {item : MidjourneyDto}
    {todo : List MidjourneyDto} (ht : t ∈ p.taskM) :
    ∀ u ∈ (p.atItem t item todo tick s).2.holds, ∃ x ∈ p.taskM, u.copies x := by
  have hu : (t.updated (item.overdue tick.now t)).copies t := ⟨updated_id, updated_quota⟩
  intro v hv
  unfold MjPass.atItem at hv
  simp only at hv
  split at hv
  · exact ⟨v, hv, rfl, rfl⟩
  split at hv
  · exact saveMj_copies ht hu hv
  split at hv
  · rcases List.mem_cons.mp hv with rfl | hmem
    · exact ⟨t, ht, hu⟩
    · exact saveMj_copies ht hu hmem
  · exact saveMj_copies ht hu hv

theorem holds_step (h : pc.next call exec tick s = some (s', pc')) :
    ∀ u ∈ pc'.holds, (∃ t ∈ pc.holds, u.copies t) ∨ ∃ r ∈ s.rows, u.copies r := by
  have hsame : ∀ u : Midjourney, u ∈ pc.holds → ∃ t ∈ pc.holds, u.copies t :=
    fun u hu => ⟨u, hu, rfl, rfl⟩
  cases pc with
  | start =>
    cases call with
    | runMidjourneyTaskUpdateOnce =>
      cases h
      intro u hu
      split at hu
      · cases hu
      · have hmem : u ∈ s.rows :=
          List.mem_of_mem_filter (List.mem_of_mem_filter hu)
        exact Or.inr ⟨u, hmem, rfl, rfl⟩
    | relayMidjourneyNotify item =>
      simp only [MjPc.next] at h
      split at h
      · cases h
        intro u hu
        cases hu
      · rename_i t ht
        cases h
        intro u hu
        split at hu
        · cases hu
        · obtain rfl := List.mem_singleton.mp hu
          exact Or.inr ⟨t, mem_getByOnlyMJId ht, rfl, rfl⟩
  | nullTasks p =>
    cases h
    exact fun u hu => Or.inl (hsame u hu)
  | channels p =>
    simp only [MjPc.next] at h
    split at h
    · cases h
      exact fun u hu => Or.inl (hsame u hu)
    · rename_i ch hch
      have hpc : (p.atChannel ch tick s).2 = pc' := by rw [Option.some.inj h]
      rw [← hpc]
      intro u hu
      refine Or.inl (hsame u ?_)
      unfold MjPass.atChannel at hu
      cases hanswer : tick.answer <;> rw [hanswer] at hu <;> exact hu
  | items todo p =>
    cases todo with
    | nil =>
      cases h
      exact fun u hu => Or.inl (hsame u hu)
    | cons item todo =>
      simp only [MjPc.next] at h
      split at h
      · cases h
        exact fun u hu => Or.inl (hsame u hu)
      · rename_i t ht
        have hpc : (p.atItem t item todo tick s).2 = pc' := by rw [Option.some.inj h]
        rw [← hpc]
        exact fun u hu => Or.inl (atItem_holds (mem_lookupMj ht) u hu)
  | returnQuota t todo p =>
    cases h
    exact fun u hu => Or.inl (hsame u (List.mem_cons_of_mem _ hu))
  | save t =>
    cases h
    intro u hu
    cases hu
  | passed p => cases h
  | ended => cases h

/-- The quota of every task, wherever a copy of it is. -/
structure MjQuotas (q : Nat → Int) (c : Sched.Conf MjDB MjExec) : Prop where
  rows : ∀ r ∈ c.store.rows, r.quota = q r.id
  held : ∀ l ∈ c.threads, ∀ t ∈ l.pc.holds, t.quota = q t.id
  returns : ∀ b ∈ c.store.returns, b.quota = q b.task

theorem writes_mem {t : Midjourney} (h : pc.writes tick = some (t, seen)) : t ∈ pc.holds := by
  unfold MjPc.writes at h
  split at h
  · split at h
    · cases h
    · rename_i ht
      split at h
      · obtain ⟨rfl, -⟩ := Prod.mk.inj (Option.some.inj h)
        exact mem_lookupMj ht
      · cases h
  · cases h

theorem returning_mem {t : Midjourney} (h : pc.returning = some t) : t ∈ pc.holds := by
  unfold MjPc.returning at h
  split at h
  · cases h
    exact List.mem_cons_self
  · cases h

theorem mem_saveMj {rows : List Midjourney} {t x : Midjourney} (h : x ∈ saveMj rows t) :
    x = t ∨ x ∈ rows := by
  obtain ⟨r, hr, rfl⟩ := List.mem_map.mp h
  by_cases hid : r.id = t.id
  · rw [if_pos hid]
    exact Or.inl rfl
  · rw [if_neg hid]
    exact Or.inr hr

theorem MjQuotas.step {q : Nat → Int} {c : Sched.Conf MjDB MjExec} {i : Nat} {l : MjExec}
    (hinv : MjQuotas q c) (hl : c.threads[i]? = some l)
    (hn : mjMachine.next tick c.store l = some (s', l')) : MjQuotas q ⟨s', c.threads.set i l'⟩ := by
  obtain ⟨h, -⟩ := mjMachine_next hn
  have hheld := hinv.held l (List.mem_of_getElem? hl)
  have hafter : ∀ u ∈ l'.pc.holds, u.quota = q u.id := by
    intro u hu
    rcases holds_step h u hu with ⟨t, ht, hid, hquota⟩ | ⟨r, hr, hid, hquota⟩
    · rw [hquota, hid]
      exact hheld t ht
    · rw [hquota, hid]
      exact hinv.rows r hr
  have hthreads := Sched.forall_threads_set (i := i) hinv.held hafter
  have hsaved : ∀ t : Midjourney, t.quota = q t.id →
      ∀ r ∈ saveMj c.store.rows t, r.quota = q r.id := by
    intro t ht r hr
    rcases mem_saveMj hr with rfl | hmem
    · exact ht
    · exact hinv.rows r hmem
  cases mjEffect h with
  | quiet hpc hpc' => exact ⟨hinv.rows, hthreads, hinv.returns⟩
  | bulk hpc hnone hpc' =>
    refine ⟨fun r hr => ?_, hthreads, hinv.returns⟩
    obtain ⟨x, hx, rfl⟩ := List.mem_map.mp hr
    split <;> exact hinv.rows x hx
  | write hpc hnone hwon hpc' =>
    refine ⟨hsaved _ ?_, hthreads, hinv.returns⟩
    rw [updated_quota, updated_id]
    exact hheld _ (writes_mem hpc)
  | returned hpc hpc' =>
    refine ⟨hinv.rows, hthreads, fun b hb => ?_⟩
    rcases List.mem_cons.mp hb with rfl | hmem
    · exact hheld _ (returning_mem hpc)
    · exact hinv.returns b hmem
  | save hpc hpc' =>
    refine ⟨hsaved _ ?_, hthreads, hinv.returns⟩
    rw [hpc] at hheld
    exact hheld _ (List.mem_singleton.mpr rfl)

/-! ## Returns made and owed -/

def MjReturn.counts (id : Nat) (b : MjReturn) : Bool := b.task == id && b.done

/-- The quota returned for task `id`. -/
def mjReturned (id : Nat) (s : MjDB) : Int :=
  ((s.returns.filter (MjReturn.counts id)).map (·.quota)).sum

def returnCount (id : Nat) (s : MjDB) : Int :=
  ((s.returns.filter (MjReturn.counts id)).length : Int)

/-- The returns for task `id` that an execution is about to make. -/
def MjPc.owes (id : Nat) (pc : MjPc) : Int :=
  match pc.returning with
  | some t => if t.id = id then 1 else 0
  | none => 0

def returnsDue (id : Nat) (c : Sched.Conf MjDB MjExec) : Int :=
  returnCount id c.store + (c.threads.map fun l => l.pc.owes id).sum

def mjRowFinished (id : Nat) (s : MjDB) : Bool := (findMj s.rows id).any (·.finished)

/-- A write that finds the row of task `id` finished leaves it so, and returns
nothing. -/
def MjExec.settledOk (id : Nat) (tick : MjTick) (s : MjDB) (l : MjExec) : Bool :=
  match l.pc with
  | .items (item :: _) p =>
    decide (∀ t ∈ lookupMj p.taskM item.mjId, t.id = id → mjRowFinished id s = true →
      checkMjTaskNeedUpdate t (item.overdue tick.now t) = true →
      mjWon s.rows t t.status = true →
      (t.updated (item.overdue tick.now t)).finished = true
        ∧ (t.fails (item.overdue tick.now t) && t.quota != 0) = false)
  | .save t => decide (t.id = id → mjRowFinished id s = true → t.finished = true)
  | _ => true

def MjSettled (id : Nat) : Sched.Guard MjDB MjExec MjTick := fun c i tick =>
  ∀ l ∈ c.threads[i]?, l.settledOk id tick c.store = true

instance (id : Nat) (c : Sched.Conf MjDB MjExec) (i : Nat) (tick : MjTick) :
    Decidable (MjSettled id c i tick) :=
  inferInstanceAs (Decidable (∀ l ∈ c.threads[i]?, l.settledOk id tick c.store = true))

theorem mjOwes_nonneg : 0 ≤ pc.owes id := by
  unfold MjPc.owes
  repeat' split
  all_goals decide

section Rows

variable {s : MjDB} {id : Nat} {t : Midjourney}

theorem mjRowFinished_bulk {hit : Midjourney → Bool} {reason : Option String}
    (h : mjRowFinished id s = true) :
    mjRowFinished id { s with rows := mjBulkUpdate hit reason s.rows } = true := by
  simp only [mjRowFinished, findMj_bulk] at h ⊢
  cases hf : findMj s.rows id with
  | none => rw [hf] at h; cases h
  | some r =>
    rw [hf] at h
    by_cases hhit : hit r = true
    · simp [hhit, Midjourney.bulkFailed, Midjourney.finished]
    · simpa [hhit] using h

theorem mjRowFinished_save (h : mjRowFinished id s = true) (ht : t.id = id → t.finished = true) :
    mjRowFinished id { s with rows := saveMj s.rows t } = true := by
  simp only [mjRowFinished, findMj_saveMj] at h ⊢
  cases hf : findMj s.rows id with
  | none => rw [hf] at h; cases h
  | some r =>
    rw [hf] at h
    by_cases hid : r.id = t.id
    · simp [hid, ht (hid.symm.trans (findMj_id hf))]
    · simpa [hid] using h

theorem mjRowFinished_won {fromStatus : String} (hwon : mjWon s.rows t fromStatus = true)
    (hu : u.id = t.id) (hid : t.id = id) (hdone : u.finished = true) :
    mjRowFinished id { s with rows := saveMj s.rows u } = true := by
  simp only [mjRowFinished, findMj_saveMj]
  unfold mjWon at hwon
  rw [hid] at hwon
  cases hf : findMj s.rows id with
  | none => rw [hf] at hwon; cases hwon
  | some r =>
    have hr : r.id = u.id := (findMj_id hf).trans (hid.symm.trans hu.symm)
    simp [hr, hdone]

end Rows

/-- Returns made and owed for a task are at most one, and none while its row is
unfinished. -/
structure ReturnOnce (id : Nat) (c : Sched.Conf MjDB MjExec) : Prop where
  once : returnsDue id c ≤ 1
  covered : 0 < returnsDue id c → mjRowFinished id c.store = true

theorem returnsDue_set {id : Nat} {c : Sched.Conf MjDB MjExec} {i : Nat} {l l' : MjExec}
    {s' : MjDB} (hl : c.threads[i]? = some l) :
    returnsDue id ⟨s', c.threads.set i l'⟩ - returnsDue id c
      = returnCount id s' + l'.pc.owes id - (returnCount id c.store + l.pc.owes id) := by
  have hsum := Sched.sum_threads_set (fun l : MjExec => l.pc.owes id) l' hl
  unfold returnsDue
  simp only at hsum ⊢
  rw [hsum]
  omega

theorem MjExec.settledOk_writes {l : MjExec} {t : Midjourney} (hok : l.settledOk id tick s = true)
    (hw : l.pc.writes tick = some (t, seen)) (hid : t.id = id) (hrow : mjRowFinished id s = true)
    (hwon : mjWon s.rows t t.status = true) :
    (t.updated seen).finished = true ∧ (t.fails seen && t.quota != 0) = false := by
  unfold MjPc.writes at hw
  unfold MjExec.settledOk at hok
  split at hw
  · rename_i item todo p hpc
    simp only [hpc] at hok
    have hok := of_decide_eq_true hok
    split at hw
    · cases hw
    rename_i x hx
    split at hw
    · rename_i hneed
      obtain ⟨rfl, rfl⟩ := Prod.mk.inj (Option.some.inj hw)
      exact hok x hx hid hrow hneed hwon
    · cases hw
  · cases hw

theorem MjPc.owes_of_none (h : pc.returning = none) : pc.owes id = 0 := by
  unfold MjPc.owes
  rw [h]

theorem MjPc.owes_of_some {t : Midjourney} (h : pc.returning = some t) :
    pc.owes id = if t.id = id then 1 else 0 := by
  unfold MjPc.owes
  rw [h]

section ReturnOnce

variable {id : Nat} {c : Sched.Conf MjDB MjExec} {i : Nat} {tick : MjTick} {l l' : MjExec}
  {s' : MjDB} {t : Midjourney} {seen : MidjourneyDto}

theorem ReturnOnce.keep (hinv : ReturnOnce id c) (hl : c.threads[i]? = some l)
    (hdue : returnCount id s' + l'.pc.owes id ≤ returnCount id c.store + l.pc.owes id)
    (hrow : mjRowFinished id c.store = true → mjRowFinished id s' = true) :
    ReturnOnce id ⟨s', c.threads.set i l'⟩ := by
  have hset := @returnsDue_set id c i l l' s' hl
  have honce := hinv.once
  exact ⟨by omega, fun hpos => hrow (hinv.covered (by omega))⟩

/-- The write of an answer into the row of the task: a finished row lets no
return through, and on an unfinished one nothing has been returned yet. -/
theorem ReturnOnce.writeOwn (hinv : ReturnOnce id c) (hok : l.settledOk id tick c.store = true)
    (hl : c.threads[i]? = some l) (hid : t.id = id) (hpc : l.pc.writes tick = some (t, seen))
    (hnone : l.pc.returning = none) (hwon : mjWon c.store.rows t t.status = true)
    (hpc' : l'.pc.returning
      = if t.fails seen && t.quota != 0 then some (t.updated seen) else none) :
    ReturnOnce id ⟨{ c.store with rows := saveMj c.store.rows (t.updated seen) },
      c.threads.set i l'⟩ := by
  have hset := @returnsDue_set id c i l l'
    { c.store with rows := saveMj c.store.rows (t.updated seen) } hl
  have hcount : returnCount id { c.store with rows := saveMj c.store.rows (t.updated seen) }
    = returnCount id c.store := rfl
  have howes : l.pc.owes id = 0 := MjPc.owes_of_none hnone
  by_cases hrow : mjRowFinished id c.store = true
  · obtain ⟨hdone, hnothing⟩ := MjExec.settledOk_writes hok hpc hid hrow hwon
    rw [if_neg (by rw [hnothing]; exact Bool.false_ne_true)] at hpc'
    refine hinv.keep hl (by rw [howes, MjPc.owes_of_none hpc', hcount]) fun _ => ?_
    exact mjRowFinished_won hwon updated_id hid hdone
  · have hzero : returnsDue id c ≤ 0 := by
      by_contra hpos
      exact hrow (hinv.covered (by omega))
    by_cases hret : (t.fails seen && t.quota != 0) = true
    · rw [if_pos hret] at hpc'
      have hone : l'.pc.owes id = 1 :=
        (MjPc.owes_of_some hpc').trans (if_pos (updated_id.trans hid))
      refine ⟨by omega, fun _ => ?_⟩
      refine mjRowFinished_won hwon updated_id hid (finished_updated ?_)
      simp only [Bool.and_eq_true] at hret
      exact hret.1
    · rw [if_neg hret] at hpc'
      have hnothing : l'.pc.owes id = 0 := MjPc.owes_of_none hpc'
      exact ⟨by omega, fun hpos => by omega⟩

theorem ReturnOnce.writeOther (hinv : ReturnOnce id c) (hl : c.threads[i]? = some l)
    (hid : t.id ≠ id) (hnone : l.pc.returning = none)
    (hpc' : l'.pc.returning
      = if t.fails seen && t.quota != 0 then some (t.updated seen) else none) :
    ReturnOnce id ⟨{ c.store with rows := saveMj c.store.rows (t.updated seen) },
      c.threads.set i l'⟩ := by
  have hother : l'.pc.owes id = 0 := by
    by_cases hret : (t.fails seen && t.quota != 0) = true
    · rw [if_pos hret] at hpc'
      rw [MjPc.owes_of_some hpc', updated_id]
      exact if_neg hid
    · rw [if_neg hret] at hpc'
      exact MjPc.owes_of_none hpc'
  refine hinv.keep hl ?_ fun hrow => ?_
  · rw [MjPc.owes_of_none hnone, hother]
    exact le_rfl
  · exact mjRowFinished_save hrow fun hu => absurd (updated_id.symm.trans hu) hid

theorem ReturnOnce.step (hinv : ReturnOnce id c) (hok : MjSettled id c i tick)
    (hl : c.threads[i]? = some l) (hn : mjMachine.next tick c.store l = some (s', l')) :
    ReturnOnce id ⟨s', c.threads.set i l'⟩ := by
  obtain ⟨h, -⟩ := mjMachine_next hn
  have hok := hok l hl
  cases mjEffect h with
  | quiet hpc hpc' =>
    refine hinv.keep hl ?_ fun hrow => hrow
    rw [MjPc.owes_of_none hpc, MjPc.owes_of_none hpc']
  | bulk hpc hnone hpc' =>
    refine hinv.keep hl ?_ mjRowFinished_bulk
    rw [MjPc.owes_of_none hnone, MjPc.owes_of_none hpc']
    exact le_rfl
  | @write _ t seen hpc hnone hwon hpc' =>
    by_cases hid : t.id = id
    · exact hinv.writeOwn hok hl hid hpc hnone hwon hpc'
    · exact hinv.writeOther hl hid hnone hpc'
  | @returned _ t hpc hpc' =>
    refine hinv.keep hl ?_ fun hrow => hrow
    have hbefore : l.pc.owes id = if t.id = id then 1 else 0 := MjPc.owes_of_some hpc
    have hafter : l'.pc.owes id = 0 := MjPc.owes_of_none hpc'
    by_cases hid : t.id = id
    · rw [if_pos hid] at hbefore
      cases hfails : tick.fails <;> simp [returnCount, MjReturn.counts, hid] <;> omega
    · rw [if_neg hid] at hbefore
      simp [returnCount, MjReturn.counts, hid]
      omega
  | @save _ t hpc hpc' =>
    have hnone : l.pc.returning = none := by rw [hpc]; rfl
    refine hinv.keep hl ?_ fun hrow => ?_
    · rw [MjPc.owes_of_none hnone, MjPc.owes_of_none hpc']
      exact le_rfl
    · refine mjRowFinished_save hrow fun hid => ?_
      unfold MjExec.settledOk at hok
      rw [hpc] at hok
      exact of_decide_eq_true hok hid hrow

end ReturnOnce

/-! ## Whole runs -/

theorem mjStart_threads {l : MjExec} (hl : l ∈ (mjStart subs calls).threads) : l.pc = .start := by
  obtain ⟨i, hi⟩ := List.mem_iff_getElem?.mp hl
  simp only [mjStart, List.getElem?_mapIdx, Option.map_eq_some_iff] at hi
  obtain ⟨call, -, rfl⟩ := hi
  rfl

theorem mjStart_rows {r : Midjourney} (hr : r ∈ (mjStart subs calls).store.rows) :
    ∃ i, ∃ m : MjSubmission, subs[i]? = some m ∧ r = m.row i := by
  obtain ⟨i, hi⟩ := List.mem_iff_getElem?.mp hr
  simp only [mjStart, List.getElem?_mapIdx, Option.map_eq_some_iff] at hi
  obtain ⟨m, hm, rfl⟩ := hi
  exact ⟨i, m, hm, rfl⟩

/-- The price each submission recorded. -/
def mjQuota (subs : List MjSubmission) (i : Nat) : Int := (subs[i]?.map (·.quota)).getD 0

theorem mjStart_quotas (subs : List MjSubmission) (calls : List MjCall) :
    MjQuotas (mjQuota subs) (mjStart subs calls) := by
  refine ⟨fun r hr => ?_, fun l hl t ht => ?_, fun b hb => (List.not_mem_nil hb).elim⟩
  · obtain ⟨i, m, hm, rfl⟩ := mjStart_rows hr
    obtain ⟨hid, hquota, -⟩ := row_keeps m i
    rw [hid, hquota, mjQuota, hm]
    rfl
  · rw [mjStart_threads hl] at ht
    cases ht

theorem mjStart_due (id : Nat) (subs : List MjSubmission) (calls : List MjCall) :
    returnsDue id (mjStart subs calls) = 0 := by
  have hsum : ((mjStart subs calls).threads.map fun l => l.pc.owes id).sum = 0 := by
    refine List.sum_eq_zero fun x hx => ?_
    obtain ⟨l, hl, rfl⟩ := List.mem_map.mp hx
    rw [mjStart_threads hl]
    rfl
  unfold returnsDue
  rw [hsum]
  rfl

theorem mjReturned_eq {q : Int} (h : ∀ b ∈ s.returns, b.task = id → b.quota = q) :
    mjReturned id s = returnCount id s * q := by
  have hall : ∀ x ∈ (s.returns.filter (MjReturn.counts id)).map (·.quota), x = q := by
    intro x hx
    obtain ⟨b, hb, rfl⟩ := List.mem_map.mp hx
    obtain ⟨hmem, hcounts⟩ := List.mem_filter.mp hb
    simp only [MjReturn.counts, Bool.and_eq_true, beq_iff_eq] at hcounts
    exact h b hmem hcounts.1
  unfold mjReturned returnCount
  rw [List.sum_eq_card_nsmul _ q hall, List.length_map]
  exact Int.nsmul_eq_mul _ _

/-- **Returns never exceed the charge**, for a task whose submission was charged
(or cost nothing) and in every run in which a finished row is neither reopened
nor returned for again. -/
theorem mj_returned_at_most_charged {subs : List MjSubmission} {calls : List MjCall}
    {c : Sched.Conf MjDB MjExec} {id : Nat} {m : MjSubmission} (hm : subs[id]? = some m)
    (hcharged : (m.charges = true ∧ m.chargeFails = false) ∨ m.quota = 0)
    (hrun : Sched.Steps mjMachine (MjSettled id) (mjStart subs calls) c) :
    (mjReturned id c.store = 0 ∨ mjReturned id c.store = m.charged)
      ∧ (0 ≤ m.quota → mjReturned id c.store ≤ m.charged) := by
  have hstart := mjStart_due id subs calls
  have h₀ : ReturnOnce id (mjStart subs calls) ∧ MjQuotas (mjQuota subs) (mjStart subs calls) :=
    ⟨⟨by omega, fun hpos => by omega⟩, mjStart_quotas subs calls⟩
  obtain ⟨honce, hquotas⟩ : ReturnOnce id c ∧ MjQuotas (mjQuota subs) c :=
    Sched.Steps.invariant (I := fun c => ReturnOnce id c ∧ MjQuotas (mjQuota subs) c) h₀
      (fun hI hok hl hn => ⟨hI.1.step hok hl hn, hI.2.step hl hn⟩) hrun
  have hquota : ∀ b ∈ c.store.returns, b.task = id → b.quota = m.quota := by
    intro b hb hid
    rw [hquotas.returns b hb, hid, mjQuota, hm]
    rfl
  have hcharge : m.charged = m.quota := by
    unfold MjSubmission.charged
    rcases hcharged with ⟨hcharges, hwrite⟩ | hfree
    · simp [hcharges, hwrite]
    · simp [hfree]
  have howed : 0 ≤ (c.threads.map fun l => l.pc.owes id).sum := by
    refine List.sum_nonneg fun x hx => ?_
    obtain ⟨l, -, rfl⟩ := List.mem_map.mp hx
    exact mjOwes_nonneg
  have hnonneg : 0 ≤ returnCount id c.store := Int.natCast_nonneg _
  have hdue := honce.once
  have hcount : returnCount id c.store = 0 ∨ returnCount id c.store = 1 := by
    unfold returnsDue at hdue
    omega
  have htotal : mjReturned id c.store = 0 ∨ mjReturned id c.store = m.charged := by
    rw [mjReturned_eq hquota, hcharge]
    rcases hcount with hzero | hone
    · rw [hzero]
      exact Or.inl (Int.zero_mul _)
    · rw [hone]
      exact Or.inr (Int.one_mul _)
  exact ⟨htotal, fun hq => by omega⟩

/-! A task of price 100, submitted and charged, which upstream then reports as
failed without a new status or progress. -/

def imagineTask : MjSubmission where
  route := .relayMidjourneySubmit
  userId := 7
  channelId := 2
  action := "IMAGINE"
  prompt := "a cat"
  quota := 100
  response := ⟨200, 1, "ok", "mj_a", none⟩
  startTime := 0
  now := 1000
  chargeFails := false

def mjReport (status progress failReason : String) : MidjourneyDto where
  mjId := "mj_a"
  promptEn := ""
  state := ""
  submitTime := 1000
  startTime := 0
  finishTime := 0
  imageUrl := ""
  videoUrl := ""
  videoUrls := .nil
  status := status
  progress := progress
  failReason := failReason
  buttons := none
  properties := none

def mjTick (answer : MjAnswer) : MjTick := ⟨false, 2000, 0, answer⟩

/-- Two passes one after the other: the second reads no unfinished row. -/
theorem mj_returned_once_in_turn :
    ∃ c, Sched.Steps mjMachine (MjSettled 0)
        (mjStart [imagineTask] [.runMidjourneyTaskUpdateOnce, .runMidjourneyTaskUpdateOnce]) c
      ∧ mjReturned 0 c.store = 100
      ∧ (mjReturned 0 c.store = 0 ∨ mjReturned 0 c.store = imagineTask.charged)
      ∧ mjReturned 0 c.store ≤ imagineTask.charged := by
  refine Sched.exists_of_run_and
    [(0, mjTick .silent), (0, mjTick .silent),
      (0, mjTick (.items [mjReport "FAILURE" "100%" "banned"])), (0, mjTick .silent),
      (0, mjTick .silent), (1, mjTick .silent), (1, mjTick .silent), (1, mjTick .silent)]
    (by decide) fun c hc _ => ?_
  obtain ⟨htotal, hle⟩ := mj_returned_at_most_charged (m := imagineTask) rfl
    (Or.inl ⟨by decide, rfl⟩) hc
  exact ⟨htotal, hle (by decide)⟩

/-- Two passes that have both read the row, and a submission that upstream
refused and nobody paid for. -/
theorem mj_returned_more_than_charged :
    (∃ c, Sched.Steps mjMachine Sched.free
        (mjStart [imagineTask] [.runMidjourneyTaskUpdateOnce, .runMidjourneyTaskUpdateOnce]) c
      ∧ mjReturned 0 c.store = 200 ∧ imagineTask.charged = 100)
    ∧ ∃ m : MjSubmission, m.response.statusCode = 500 ∧ m.charged = 0
      ∧ ∃ c, Sched.Steps mjMachine Sched.free
          (mjStart [m] [.runMidjourneyTaskUpdateOnce]) c
        ∧ mjReturned 0 c.store = 100 := by
  constructor
  · exact Sched.exists_of_run
      [(0, mjTick .silent), (1, mjTick .silent), (0, mjTick .silent), (1, mjTick .silent),
        (0, mjTick (.items [mjReport "" "0%" "banned"])),
        (1, mjTick (.items [mjReport "" "0%" "banned"])), (0, mjTick .silent),
        (1, mjTick .silent), (0, mjTick .silent), (1, mjTick .silent)] (by decide)
  · refine ⟨{ imagineTask with response := ⟨500, 1, "error", "mj_a", none⟩ }, rfl, rfl, ?_⟩
    exact Sched.exists_of_run
      [(0, mjTick .silent), (0, mjTick .silent),
        (0, mjTick (.items [mjReport "FAILURE" "100%" "banned"])), (0, mjTick .silent),
        (0, mjTick .silent)] (by decide)

end YouBox
