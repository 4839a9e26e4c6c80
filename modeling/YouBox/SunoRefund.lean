import YouBox.TaskFail

/-!
# Refunds of Suno tasks

`updateSunoTasks` refunds a failed task before it saves the row, and it saves
without the compare-and-set of the video poller. So a refund is followed by a
stretch in which the row still looks unfinished, and the save that would end it
may fail, or be overwritten by another run that has read the row earlier.

`RefundGuard` names the steps that keep this from paying twice: a refund is
decided only while the row is unfinished and no run has a finishing save of it
outstanding; and once there is a refund, finishing saves go through and no save
reopens a finished row. In the runs that meet it every refund made or owed
leaves the row finished, or a finishing save on its way (`RefundOnce.covered`),
and no second refund can start.
-/

namespace YouBox

/-! ## What is counted -/

/-- The refund went through and was for task `id`. -/
def Bill.refunds (id : Nat) (b : Bill) : Bool := b.task == id && b.kind == .refund && b.done

/-- The amount refunded for task `id`. -/
def refunded (id : Nat) (s : TaskDB) : Int := ((s.bills.filter (Bill.refunds id)).map (·.quota)).sum

def refundCount (id : Nat) (s : TaskDB) : Int := ((s.bills.filter (Bill.refunds id)).length : Int)

/-- No poll would read the task's row any more. -/
def rowFinished (id : Nat) (s : TaskDB) : Bool := (findTask s.tasks id).all fun r => !r.unfinished

/-- About to save a row of task `id` that no poll will read any more. -/
def PollExec.finishing (id : Nat) (l : PollExec) : Bool :=
  match l.pc with
  | .sunoSave t _ _ => t.id == id && !t.unfinished
  | _ => false

/-- The row is unfinished and nobody is about to finish it. -/
def openRow (id : Nat) (c : Sched.Conf TaskDB PollExec) : Bool :=
  !rowFinished id c.store && c.threads.all fun l => !l.finishing id

/-- The refunds of task `id` made, and those a sweep is about to make. -/
def refundsDue (id : Nat) (c : Sched.Conf TaskDB PollExec) : Int :=
  refundCount id c.store + (c.threads.map fun l => l.pc.owes id).sum

/-- The sweep would win the row it is at, and refund it. -/
def Task.sweepRefunds (t : Task) (tasks : List Task) : Bool :=
  !t.isLegacy && t.quota != 0 && (findTask tasks t.id).any fun r => r.status == t.status

/-- The condition on the next step of `l`, for task `id`. -/
def PollExec.refundOk (id : Nat) (c : Sched.Conf TaskDB PollExec) (tick : PollTick)
    (l : PollExec) : Bool :=
  match l.pc with
  | .sweepLoop (t :: _) =>
    decide (t.id = id → t.sweepRefunds c.store.tasks = true → openRow id c = true)
  | .sunoLoop (item :: _) taskM =>
    decide (∀ t ∈ lookupTask taskM item.taskID, t.id = id → taskNeedsUpdate t item = true →
      t.sunoFailed item = true → openRow id c = true)
  | .sunoSave t _ _ =>
    decide (t.id = id → 0 < refundsDue id c →
      if t.unfinished then rowFinished id c.store = false else tick.fails = false)
  | _ => true

def RefundGuard (id : Nat) : Sched.Guard TaskDB PollExec PollTick := fun c i tick =>
  ∀ l ∈ c.threads[i]?, l.refundOk id c tick = true

instance (id : Nat) (c : Sched.Conf TaskDB PollExec) (i : Nat) (tick : PollTick) :
    Decidable (RefundGuard id c i tick) :=
  inferInstanceAs (Decidable (∀ l ∈ c.threads[i]?, l.refundOk id c tick = true))

/-- The executions that may refund or fail a Suno task; `lostChannel` is
`updateSunoTasks` for a channel that is gone. -/
def PollCall.suno : PollCall → Bool
  | .sweepTimedOutTasks => true
  | .updateSunoTasks _ => true
  | .lostChannel platform _ => platform == .suno
  | _ => false

/-! ## What is kept -/

/-- The rows of task `id` among these carry quota `q`. -/
def QuotaOf (id : Nat) (q : Int) (tasks : List Task) : Prop :=
  ∀ t ∈ tasks, t.id = id → t.quota = q

/-- A sweep or a Suno poll whose rows of task `id` carry quota `q`. -/
def HoldsQuota (id : Nat) (q : Int) (l : PollExec) : Prop :=
  match l.pc with
  | .start => l.call.suno = true
  | .sweepLoop todo => QuotaOf id q todo
  | .sweepRefund t todo => QuotaOf id q (t :: todo)
  | .bulkFail _ _ => True
  | .sunoFetch taskM => QuotaOf id q taskM
  | .sunoLoop _ taskM => QuotaOf id q taskM
  | .sunoSave t _ taskM => QuotaOf id q (t :: taskM)
  | .ended => True
  | _ => False

structure RefundOnce (id : Nat) (q : Int) (c : Sched.Conf TaskDB PollExec) : Prop where
  held : ∀ l ∈ c.threads, HoldsQuota id q l
  rows : QuotaOf id q c.store.tasks
  bills : ∀ b ∈ c.store.bills, b.refunds id = true → b.quota = q
  once : refundsDue id c ≤ 1
  covered : 0 < refundsDue id c →
    rowFinished id c.store = true ∨ ∃ l ∈ c.threads, l.finishing id = true

variable {id : Nat} {t : Task}

section QuotaOf

variable {id : Nat} {q : Int} {tasks : List Task}

theorem QuotaOf.cons {t : Task} (ht : t.id = id → t.quota = q) (h : QuotaOf id q tasks) :
    QuotaOf id q (t :: tasks) := by
  intro x hx
  rcases List.mem_cons.mp hx with rfl | hmem
  · exact ht
  · exact h x hmem

theorem QuotaOf.head (h : QuotaOf id q (t :: tasks)) : t.id = id → t.quota = q :=
  h t List.mem_cons_self

theorem QuotaOf.tail (h : QuotaOf id q (t :: tasks)) : QuotaOf id q tasks :=
  fun x hx => h x (List.mem_cons_of_mem _ hx)

theorem QuotaOf.subset {sub : List Task} (h : QuotaOf id q tasks) (hsub : ∀ t ∈ sub, t ∈ tasks) :
    QuotaOf id q sub :=
  fun t ht => h t (hsub t ht)

theorem QuotaOf.writeTask (h : QuotaOf id q tasks) (ht : t.id = id → t.quota = q) :
    QuotaOf id q (writeTask tasks t) := by
  intro x hx
  obtain ⟨r, hr, rfl⟩ := List.mem_map.mp hx
  by_cases hid : r.id = t.id
  · rw [if_pos hid]
    exact ht
  · rw [if_neg hid]
    exact h r hr

theorem QuotaOf.bulk {ids : List Nat} {reason : Option String} (h : QuotaOf id q tasks) :
    QuotaOf id q (taskBulkUpdateByID ids reason tasks) := by
  intro x hx
  obtain ⟨r, hr, rfl⟩ := List.mem_map.mp hx
  by_cases hin : r.id ∈ ids
  · rw [if_pos hin]
    exact h r hr
  · rw [if_neg hin]
    exact h r hr

variable {limit : Nat}

theorem mem_getTimedOut {cutoff : Int} (h : t ∈ getTimedOutUnfinishedTasks cutoff limit tasks) :
    t ∈ tasks := by
  have hmem := List.mem_of_mem_take h
  rw [List.mem_insertionSort] at hmem
  exact List.mem_of_mem_filter hmem

theorem mem_getAllUnFinish (h : t ∈ getAllUnFinishSyncTasks limit tasks) : t ∈ tasks := by
  have hmem := List.mem_of_mem_take h
  rw [List.mem_insertionSort] at hmem
  exact List.mem_of_mem_filter hmem

theorem mem_lookupTask {upstreamID : String} (h : lookupTask tasks upstreamID = some t) :
    t ∈ tasks :=
  List.mem_reverse.mp (List.mem_of_find?_eq_some h)

end QuotaOf

/-! ## The refunds and the row -/

variable {item : SunoDataResponse} {s : TaskDB}

section Row

variable {s : TaskDB} {exec id : Nat} {t : Task}

theorem refundCount_nonneg : 0 ≤ refundCount id s := Int.natCast_nonneg _

theorem refundCount_refund {fails : Bool} :
    refundCount id (s.refundTaskQuota exec t fails)
      ≤ refundCount id s + if t.id = id then 1 else 0 := by
  unfold TaskDB.refundTaskQuota
  by_cases hq : t.quota = 0
  · rw [if_pos hq]
    split <;> omega
  · rw [if_neg hq]
    by_cases hid : t.id = id
    · cases fails <;> simp [refundCount, Bill.refunds, hid]
    · simp [refundCount, Bill.refunds, hid]

theorem rowFinished_write (hrow : rowFinished id s = true)
    (hkeep : t.id = id → t.unfinished = false) : rowFinished id (s.write exec t) = true := by
  simp only [rowFinished, TaskDB.write, findTask_writeTask] at hrow ⊢
  cases hf : findTask s.tasks id with
  | none => rfl
  | some r =>
    rw [hf] at hrow
    by_cases hid : r.id = t.id
    · have ht : t.id = id := hid.symm.trans (findTask_id hf)
      simp [hid, hkeep ht]
    · simpa [hid] using hrow

theorem rowFinished_write_self (hid : t.id = id) (hdone : t.unfinished = false) :
    rowFinished id (s.write exec t) = true := by
  simp only [rowFinished, TaskDB.write, findTask_writeTask]
  cases hf : findTask s.tasks id with
  | none => rfl
  | some r => simp [findTask_id hf, hid, hdone]

theorem rowFinished_bulk {ids : List Nat} {reason : Option String}
    (hrow : rowFinished id s = true) : rowFinished id (s.bulkFail exec ids reason) = true := by
  simp only [rowFinished, TaskDB.bulkFail, findTask_bulk] at hrow ⊢
  cases hf : findTask s.tasks id with
  | none => rfl
  | some r =>
    rw [hf] at hrow
    by_cases hin : r.id ∈ ids
    · simp [hin, Task.bulkFailed, Task.unfinished]
    · simpa [hin] using hrow

theorem unfinished_timedOut {minutes now : Int} : (t.timedOut minutes now).unfinished = false := by
  simp [Task.timedOut, Task.unfinished]

theorem unfinished_updateSuno (h : t.sunoFailed item = true) :
    (updateSuno t item).unfinished = false := by
  simp [updateSuno, Task.unfinished, h]

end Row

/-! ## One step -/

section Step

variable {id : Nat} {q : Int} {c : Sched.Conf TaskDB PollExec} {i : Nat} {l l' : PollExec}
  {s' : TaskDB}

theorem refundsDue_set (hl : c.threads[i]? = some l) :
    refundsDue id ⟨s', c.threads.set i l'⟩ - refundsDue id c
      = refundCount id s' + l'.pc.owes id - (refundCount id c.store + l.pc.owes id) := by
  have hsum := Sched.sum_threads_set (fun l : PollExec => l.pc.owes id) l' hl
  unfold refundsDue
  simp only at hsum ⊢
  rw [hsum]
  omega

theorem RefundOnce.keep (hinv : RefundOnce id q c) (hl : c.threads[i]? = some l)
    (hheld : HoldsQuota id q l') (hrows : QuotaOf id q s'.tasks)
    (hbills : ∀ b ∈ s'.bills, b.refunds id = true → b.quota = q)
    (hdue : refundCount id s' + l'.pc.owes id ≤ refundCount id c.store + l.pc.owes id)
    (hrow : 0 < refundsDue id c → rowFinished id c.store = true → rowFinished id s' = true)
    (hfin : 0 < refundsDue id c → l.finishing id = true →
      l'.finishing id = true ∨ rowFinished id s' = true) :
    RefundOnce id q ⟨s', c.threads.set i l'⟩ := by
  have hset := @refundsDue_set id c i l l' s' hl
  refine ⟨Sched.forall_threads_set hinv.held hheld, hrows, hbills, ?_, fun hpos' => ?_⟩
  · have honce := hinv.once
    omega
  have hpos : 0 < refundsDue id c := by omega
  have hlt : i < c.threads.length := (List.getElem?_eq_some_iff.mp hl).1
  rcases hinv.covered hpos with hdone | ⟨x, hx, hxfin⟩
  · exact Or.inl (hrow hpos hdone)
  obtain ⟨j, hj⟩ := List.mem_iff_getElem?.mp hx
  by_cases hji : j = i
  · subst hji
    obtain rfl : l = x := Option.some.inj (hl.symm.trans hj)
    rcases hfin hpos hxfin with hfin' | hdone
    · exact Or.inr ⟨l', List.mem_of_getElem? (List.getElem?_set_self hlt), hfin'⟩
    · exact Or.inl hdone
  · refine Or.inr ⟨x, List.mem_of_getElem? (i := j) ?_, hxfin⟩
    rw [List.getElem?_set_ne (fun h => hji h.symm)]
    exact hj

theorem RefundOnce.due_of_open (hinv : RefundOnce id q c) (hopen : openRow id c = true) :
    refundsDue id c ≤ 0 := by
  simp only [openRow, Bool.and_eq_true, Bool.not_eq_true', List.all_eq_true] at hopen
  by_contra hpos
  rcases hinv.covered (by omega) with hdone | ⟨x, hx, hfin⟩
  · rw [hopen.1] at hdone
    cases hdone
  · rw [hopen.2 x hx] at hfin
    cases hfin

theorem RefundOnce.pay (hinv : RefundOnce id q c) (hl : c.threads[i]? = some l)
    (hheld : HoldsQuota id q l') (hrows : QuotaOf id q s'.tasks)
    (hbills : ∀ b ∈ s'.bills, b.refunds id = true → b.quota = q)
    (hopen : openRow id c = true)
    (hdue : refundCount id s' + l'.pc.owes id ≤ refundCount id c.store + l.pc.owes id + 1)
    (hcover : l'.finishing id = true ∨ rowFinished id s' = true) :
    RefundOnce id q ⟨s', c.threads.set i l'⟩ := by
  have hset := @refundsDue_set id c i l l' s' hl
  have hnone := hinv.due_of_open hopen
  refine ⟨Sched.forall_threads_set hinv.held hheld, hrows, hbills, by omega, fun _ => ?_⟩
  rcases hcover with hfin | hdone
  · have hlt : i < c.threads.length := (List.getElem?_eq_some_iff.mp hl).1
    exact Or.inr ⟨l', List.mem_of_getElem? (List.getElem?_set_self hlt), hfin⟩
  · exact Or.inl hdone

end Step

theorem refund_bills {id : Nat} {q : Int} {s : TaskDB} {exec : Nat} {t : Task} {fails : Bool}
    (h : ∀ b ∈ s.bills, b.refunds id = true → b.quota = q) (ht : t.id = id → t.quota = q) :
    ∀ b ∈ (s.refundTaskQuota exec t fails).bills, b.refunds id = true → b.quota = q := by
  intro b hb hr
  unfold TaskDB.refundTaskQuota at hb
  split at hb
  · exact h b hb hr
  rcases List.mem_cons.mp hb with rfl | hmem
  · simp only [Bill.refunds, Bool.and_eq_true, beq_iff_eq] at hr
    exact ht hr.1.1
  · exact h b hmem hr

theorem rowFinished_refund {exec : Nat} {fails : Bool} :
    rowFinished id (s.refundTaskQuota exec t fails) = rowFinished id s := by
  unfold rowFinished
  rw [refundTaskQuota_frame.1]

theorem begin_holdsQuota {id : Nat} {q : Int} {call : PollCall} {env : TaskEnv} {now : Int}
    {tasks : List Task} {exec : Nat} (hcall : call.suno = true) (hrows : QuotaOf id q tasks) :
    HoldsQuota id q ⟨exec, call, call.begin env now tasks⟩
      ∧ (call.begin env now tasks).owes id = 0 := by
  cases call with
  | sweepTimedOutTasks =>
    simp only [PollCall.begin]
    split
    · exact ⟨trivial, rfl⟩
    · exact ⟨hrows.subset fun t ht => mem_getTimedOut ht, rfl⟩
  | updateSunoTasks channelId =>
    simp only [PollCall.begin]
    split
    · refine ⟨hrows.subset fun t ht => ?_, rfl⟩
      exact mem_getAllUnFinish (List.mem_of_mem_filter ht)
    · exact ⟨trivial, rfl⟩
  | lostChannel platform channelId => exact ⟨trivial, rfl⟩
  | _ => cases hcall

section Moves

variable {env : TaskEnv} {id : Nat} {q : Int} {c : Sched.Conf TaskDB PollExec} {i : Nat}
  {tick : PollTick} {exec : Nat} {call : PollCall} {s' : TaskDB} {pc' : PollPc}

theorem RefundOnce.same {pc : PollPc} (hinv : RefundOnce id q c)
    (hl : c.threads[i]? = some ⟨exec, call, pc⟩) (hheld : HoldsQuota id q ⟨exec, call, pc'⟩)
    (howes : pc'.owes id ≤ pc.owes id) (hnot : PollExec.finishing id ⟨exec, call, pc⟩ = false) :
    RefundOnce id q ⟨c.store, c.threads.set i ⟨exec, call, pc'⟩⟩ := by
  refine hinv.keep hl hheld hinv.rows hinv.bills (by simpa using howes) (fun _ h => h)
    fun _ hfin => ?_
  rw [hnot] at hfin
  cases hfin

variable {items : List SunoDataResponse} {taskM todo : List Task}

theorem RefundOnce.sweep (hinv : RefundOnce id q c)
    (hl : c.threads[i]? = some ⟨exec, call, .sweepLoop (t :: todo)⟩)
    (hheld : QuotaOf id q (t :: todo))
    (hguard : t.id = id → t.sweepRefunds c.store.tasks = true → openRow id c = true)
    (h : (PollPc.sweepLoop (t :: todo)).next call exec env tick c.store = some (s', pc')) :
    RefundOnce id q ⟨s', c.threads.set i ⟨exec, call, pc'⟩⟩ := by
  have hquota : t.id = id → t.quota = q := hheld.head
  simp only [PollPc.next] at h
  split at h
  · cases h
    exact hinv.same hl hheld.tail le_rfl rfl
  split at h
  · cases h
    exact hinv.same hl hheld.tail le_rfl rfl
  rename_i tasks' hwon
  cases h
  obtain ⟨r, hr, hstatus, -⟩ := updateWithStatus_some hwon
  have hrows : QuotaOf id q
      (c.store.write exec (t.timedOut env.taskTimeoutMinutes tick.now)).tasks :=
    hinv.rows.writeTask hquota
  have hkeep : rowFinished id c.store = true → rowFinished id
      (c.store.write exec (t.timedOut env.taskTimeoutMinutes tick.now)) = true :=
    fun hrow => rowFinished_write hrow fun _ => unfinished_timedOut
  by_cases hdue : (!t.isLegacy && decide (t.quota ≠ 0)) = true
  · rw [if_pos hdue]
    by_cases hid : t.id = id
    · -- the sweep takes the refund on itself
      have hsweep : t.sweepRefunds c.store.tasks = true := by
        have hfind : findTask c.store.tasks t.id = some r := hr
        simp only [Bool.and_eq_true, Bool.not_eq_true', decide_eq_true_eq] at hdue
        simp [Task.sweepRefunds, hdue.1, hdue.2, hfind, hstatus]
      refine hinv.pay hl (QuotaOf.cons hquota hheld.tail) hrows hinv.bills
        (hguard hid hsweep) ?_ (Or.inr (rowFinished_write_self hid unfinished_timedOut))
      have howes : (PollPc.sweepRefund (t.timedOut env.taskTimeoutMinutes tick.now) todo).owes id
        = 1 := if_pos hid
      simp only [howes]
      exact le_rfl
    · refine hinv.keep hl (QuotaOf.cons hquota hheld.tail) hrows hinv.bills ?_
        (fun _ => hkeep) (fun _ hfin => by cases hfin)
      have howes : (PollPc.sweepRefund (t.timedOut env.taskTimeoutMinutes tick.now) todo).owes id
        = 0 := if_neg hid
      simp only [howes]
      exact le_rfl
  · rw [if_neg hdue]
    exact hinv.keep hl hheld.tail hrows hinv.bills le_rfl (fun _ => hkeep)
      (fun _ hfin => by cases hfin)

theorem RefundOnce.sweepRefund (hinv : RefundOnce id q c)
    (hl : c.threads[i]? = some ⟨exec, call, .sweepRefund t todo⟩)
    (hheld : QuotaOf id q (t :: todo)) :
    RefundOnce id q ⟨c.store.refundTaskQuota exec t tick.fails,
      c.threads.set i ⟨exec, call, .sweepLoop todo⟩⟩ := by
  refine hinv.keep hl hheld.tail ?_ (refund_bills hinv.bills hheld.head) ?_
    (fun _ hrow => ?_) (fun _ hfin => by cases hfin)
  · rw [refundTaskQuota_frame.1]
    exact hinv.rows
  · have hcount := @refundCount_refund c.store exec id t tick.fails
    simp only [PollPc.owes]
    omega
  · rw [rowFinished_refund]
    exact hrow

/-- The Suno poll at an answer for the row `t`: the refund, if there is one,
comes before the save that finishes the row. -/
theorem RefundOnce.sunoAnswer (hinv : RefundOnce id q c)
    (hl : c.threads[i]? = some ⟨exec, call, .sunoLoop (item :: items) taskM⟩)
    (hheld : QuotaOf id q taskM) (ht : t ∈ taskM)
    (hguard : t.id = id → t.sunoFailed item = true → openRow id c = true) :
    RefundOnce id q
      ⟨if t.sunoFailed item then c.store.refundTaskQuota exec (updateSuno t item) tick.fails
        else c.store,
      c.threads.set i ⟨exec, call, .sunoSave (updateSuno t item) items
        (writeTask taskM (updateSuno t item))⟩⟩ := by
  have hquota : (updateSuno t item).id = id → (updateSuno t item).quota = q := hheld t ht
  have hsave : HoldsQuota id q ⟨exec, call, .sunoSave (updateSuno t item) items
      (writeTask taskM (updateSuno t item))⟩ :=
    QuotaOf.cons hquota (hheld.writeTask hquota)
  by_cases hfailed : t.sunoFailed item = true
  · rw [if_pos hfailed]
    have hrows : QuotaOf id q
        (c.store.refundTaskQuota exec (updateSuno t item) tick.fails).tasks := by
      rw [refundTaskQuota_frame.1]
      exact hinv.rows
    have hbills := @refund_bills id q c.store exec (updateSuno t item) tick.fails
      hinv.bills hquota
    have hcount := @refundCount_refund c.store exec id (updateSuno t item) tick.fails
    by_cases hid : t.id = id
    · refine hinv.pay hl hsave hrows hbills (hguard hid hfailed) ?_ (Or.inl ?_)
      · rw [if_pos (show (updateSuno t item).id = id from hid)] at hcount
        simp only [PollPc.owes]
        omega
      · simp only [PollExec.finishing, unfinished_updateSuno hfailed, Bool.and_eq_true]
        exact ⟨beq_iff_eq.mpr hid, rfl⟩
    · refine hinv.keep hl hsave hrows hbills ?_ (fun _ hrow => ?_)
        (fun _ hfin => by cases hfin)
      · rw [if_neg (show ¬ (updateSuno t item).id = id from hid)] at hcount
        simp only [PollPc.owes]
        omega
      · rw [rowFinished_refund]
        exact hrow
  · rw [if_neg hfailed]
    exact hinv.same hl hsave le_rfl rfl

theorem RefundOnce.sunoSave (hinv : RefundOnce id q c)
    (hl : c.threads[i]? = some ⟨exec, call, .sunoSave t items taskM⟩)
    (hheld : QuotaOf id q (t :: taskM)) (hguard : t.id = id → 0 < refundsDue id c →
      if t.unfinished then rowFinished id c.store = false else tick.fails = false) :
    RefundOnce id q ⟨if tick.fails then c.store else c.store.write exec t,
      c.threads.set i ⟨exec, call, .sunoLoop items taskM⟩⟩ := by
  have hfinishing : PollExec.finishing id ⟨exec, call, .sunoSave t items taskM⟩ = true →
      t.id = id ∧ t.unfinished = false := by
    intro hfin
    simpa [PollExec.finishing] using hfin
  by_cases hfails : tick.fails = true
  · rw [if_pos hfails]
    refine hinv.keep hl hheld.tail hinv.rows hinv.bills le_rfl (fun _ hrow => hrow)
      fun hpos hfin => ?_
    obtain ⟨hid, hdone⟩ := hfinishing hfin
    have hsaved := hguard hid hpos
    rw [if_neg (by rw [hdone]; exact Bool.false_ne_true), hfails] at hsaved
    cases hsaved
  · rw [if_neg hfails]
    refine hinv.keep hl hheld.tail (hinv.rows.writeTask hheld.head) hinv.bills le_rfl
      (fun hpos hrow => ?_) fun _ hfin => ?_
    · refine rowFinished_write hrow fun hid => ?_
      have hsaved := hguard hid hpos
      by_contra hopen
      rw [if_pos (by simpa using hopen), hrow] at hsaved
      cases hsaved
    · obtain ⟨hid, hdone⟩ := hfinishing hfin
      exact Or.inr (rowFinished_write_self hid hdone)

end Moves

theorem RefundOnce.step {env : TaskEnv} {q : Int} {c : Sched.Conf TaskDB PollExec} {i : Nat}
    {tick : PollTick} {l l' : PollExec} {s' : TaskDB} (hinv : RefundOnce id q c)
    (hok : RefundGuard id c i tick) (hl : c.threads[i]? = some l)
    (hn : (taskMachine env).next tick c.store l = some (s', l')) :
    RefundOnce id q ⟨s', c.threads.set i l'⟩ := by
  obtain ⟨h, hl'⟩ := taskMachine_next hn
  have hheld := hinv.held l (List.mem_of_getElem? hl)
  have hguard := hok l hl
  rw [hl']
  generalize l'.pc = pc' at h ⊢
  obtain ⟨exec, call, pc⟩ := l
  cases pc with
  | start =>
    cases h
    obtain ⟨hholds, howes⟩ := @begin_holdsQuota id q call env tick.now c.store.tasks exec hheld
      hinv.rows
    cases tick.fails with
    | true => exact hinv.same hl trivial le_rfl rfl
    | false => exact hinv.same hl hholds (le_of_eq howes) rfl
  | sweepLoop todo =>
    cases todo with
    | nil =>
      cases h
      exact hinv.same hl trivial le_rfl rfl
    | cons t todo => exact hinv.sweep hl hheld (of_decide_eq_true hguard) h
  | sweepRefund t todo =>
    cases h
    exact hinv.sweepRefund hl hheld
  | bulkFail ids reason =>
    cases h
    cases tick.fails with
    | true => exact hinv.same hl trivial le_rfl rfl
    | false =>
      exact hinv.keep hl trivial hinv.rows.bulk hinv.bills le_rfl
        (fun _ hrow => rowFinished_bulk hrow) (fun _ hfin => by cases hfin)
  | sunoFetch taskM =>
    simp only [PollPc.next] at h
    split at h
    · cases h
      exact hinv.same hl hheld le_rfl rfl
    · cases h
      exact hinv.same hl trivial le_rfl rfl
  | sunoLoop items taskM =>
    cases items with
    | nil =>
      cases h
      exact hinv.same hl trivial le_rfl rfl
    | cons item items =>
      simp only [PollPc.next] at h
      split at h
      · cases h
        exact hinv.same hl hheld le_rfl rfl
      rename_i t ht
      split at h
      · rename_i hneeds
        cases h
        exact hinv.sunoAnswer hl hheld (mem_lookupTask ht)
          fun hid => of_decide_eq_true hguard t ht hid hneeds
      · cases h
        exact hinv.same hl hheld le_rfl rfl
  | sunoSave t items taskM =>
    cases h
    exact hinv.sunoSave hl hheld (of_decide_eq_true hguard)
  | ended => cases h
  | _ => exact hheld.elim

/-! ## Whole runs -/

theorem quotaOf_find {tasks : List Task} (hkey : (tasks.map (·.id)).Nodup)
    (ht : findTask tasks id = some t) : QuotaOf id t.quota tasks := by
  intro x hx hid
  have hxt : x = t :=
    List.inj_on_of_nodup_map hkey hx (findTask_mem ht) (hid.trans (findTask_id ht).symm)
  rw [hxt]

theorem refunded_eq {q : Int} (h : ∀ b ∈ s.bills, b.refunds id = true → b.quota = q) :
    refunded id s = refundCount id s * q := by
  have hall : ∀ x ∈ (s.bills.filter (Bill.refunds id)).map (·.quota), x = q := by
    intro x hx
    obtain ⟨b, hb, rfl⟩ := List.mem_map.mp hx
    obtain ⟨hmem, hrefunds⟩ := List.mem_filter.mp hb
    exact h b hmem hrefunds
  unfold refunded refundCount
  rw [List.sum_eq_card_nsmul _ q hall, List.length_map]
  exact Int.nsmul_eq_mul _ _

/-- **A Suno task is refunded at most once.** Whatever the Suno polls and the
sweeps on the table do, a run whose steps meet `RefundGuard` refunds nothing for
the task or exactly its quota. -/
theorem suno_refunded_at_most_charged {env : TaskEnv} {tasks : List Task} {calls : List PollCall}
    {c : Sched.Conf TaskDB PollExec} {id : Nat} {t : Task}
    (hkey : (tasks.map (·.id)).Nodup) (ht : findTask tasks id = some t)
    (hcalls : ∀ call ∈ calls, call.suno = true)
    (hrun : Sched.Steps (taskMachine env) (RefundGuard id) (pollStart tasks calls) c) :
    (refunded id c.store = 0 ∨ refunded id c.store = t.quota)
      ∧ (0 ≤ t.quota → refunded id c.store ≤ t.quota) := by
  have hstart : refundsDue id (pollStart tasks calls) = 0 := by
    unfold refundsDue
    rw [owes_start]
    rfl
  have h₀ : RefundOnce id t.quota (pollStart tasks calls) := by
    refine ⟨fun l hl => ?_, quotaOf_find hkey ht, fun b hb => (List.not_mem_nil hb).elim,
      by omega, fun hpos => by omega⟩
    obtain ⟨hpc, hcall⟩ := pollStart_threads hl
    unfold HoldsQuota
    rw [hpc]
    exact hcalls l.call hcall
  have hinv : RefundOnce id t.quota c :=
    Sched.Steps.invariant h₀ (fun hI hok hl hn => hI.step hok hl hn) hrun
  have howed : 0 ≤ (c.threads.map fun l => l.pc.owes id).sum := by
    refine List.sum_nonneg fun x hx => ?_
    obtain ⟨l, -, rfl⟩ := List.mem_map.mp hx
    exact owes_nonneg
  have honce := hinv.once
  have hnonneg := @refundCount_nonneg c.store id
  have hcount : refundCount id c.store = 0 ∨ refundCount id c.store = 1 := by
    unfold refundsDue at honce
    omega
  have htotal : refunded id c.store = 0 ∨ refunded id c.store = t.quota := by
    rw [refunded_eq hinv.bills]
    rcases hcount with hzero | hone
    · rw [hzero]
      exact Or.inl (Int.zero_mul _)
    · rw [hone]
      exact Or.inr (Int.one_mul _)
  exact ⟨htotal, fun hq => by omega⟩

/-! A Suno task, and a poll that finds it failed. -/

def sunoTask : Task :=
  { meshyTask with platform := .suno }

def sunoFailure : SunoDataResponse := ⟨"up_a", .failure, "expired", 0, 0, 0, "null"⟩

def sunoAt (fails : Bool) (answer : PollAnswer) : PollTick := ⟨fails, 1740382400, answer⟩

/-- Two polls and a sweep, one after the other. -/
theorem suno_refunded_once_in_turn :
    ∃ c, Sched.Steps (taskMachine pollEnv) (RefundGuard 1)
        (pollStart [sunoTask] [.updateSunoTasks 2, .updateSunoTasks 2, .sweepTimedOutTasks]) c
      ∧ refunded 1 c.store = 100
      ∧ (refunded 1 c.store = 0 ∨ refunded 1 c.store = sunoTask.quota)
      ∧ refunded 1 c.store ≤ sunoTask.quota := by
  refine Sched.exists_of_run_and
    [(2, sunoAt false .silent), (0, sunoAt false .silent),
      (0, sunoAt false (.suno [sunoFailure])), (0, sunoAt false .silent),
      (0, sunoAt false .silent), (2, sunoAt false .silent), (1, sunoAt false .silent)]
    (by decide) fun c hc _ => ?_
  obtain ⟨htotal, hle⟩ := suno_refunded_at_most_charged (by decide) rfl (by decide) hc
  exact ⟨htotal, hle (by decide)⟩

/-- A poll whose save fails, then a poll that goes through; and a sweep between
the refund of a poll and its save. -/
theorem suno_refunded_twice :
    (∃ c, Sched.Steps (taskMachine pollEnv) Sched.free
        (pollStart [sunoTask] [.updateSunoTasks 2, .updateSunoTasks 2]) c
      ∧ refunded 1 c.store = 200 ∧ sunoTask.quota = 100)
    ∧ ∃ c, Sched.Steps (taskMachine pollEnv) Sched.free
        (pollStart [sunoTask] [.updateSunoTasks 2, .sweepTimedOutTasks]) c
      ∧ refunded 1 c.store = 200 ∧ sunoTask.quota = 100 := by
  constructor
  · exact Sched.exists_of_run
      [(0, sunoAt false .silent), (0, sunoAt false (.suno [sunoFailure])),
        (0, sunoAt false .silent), (0, sunoAt true .silent), (1, sunoAt false .silent),
        (1, sunoAt false (.suno [sunoFailure])), (1, sunoAt false .silent)] (by decide)
  · exact Sched.exists_of_run
      [(0, sunoAt false .silent), (0, sunoAt false (.suno [sunoFailure])),
        (0, sunoAt false .silent), (1, sunoAt false .silent), (1, sunoAt false .silent),
        (1, sunoAt false .silent), (0, sunoAt false .silent)] (by decide)

end YouBox
