import YouBox.SystemTask

/-!
# A running system task and its lock

A task that runs is meant to be named by the lock of its type, so that the
expiry pass finds it when its runner dies. `UpdateSystemTaskState` and
`FinishSystemTask` check the lock in the statement that writes the row; the
statement of `ClaimSystemTask` that starts the task does not, and a claim whose
lease ran out on the way still starts it, with a lock that is somebody else's
or gone.

`LeaseInForce` is the missing check, as a condition on steps. In the runs that
meet it every running task keeps a lock of its own (`LeaseInv.leased`): whoever
could still take it over or delete it judges the lease by a time not later than
the start of the task (`Threat`), and the heartbeat never sets the lease back
before that (`LeaseInv.renewals`).
-/

namespace YouBox

/-! ## The steps of an execution -/

section

variable (s : SystemTaskDB)

inductive ClaimStep (runner : String) (id : Nat) (type : String) :
    ClaimPc → LeaseStmt → ClaimPc → Prop
  | enter : runner ∉ s.claiming →
      ClaimStep runner id type .enter (.enter runner) (.start (s.clock + systemTaskLockTTL))
  | start (v : Int) : ClaimStep runner id type (.start v) .skip (.select s.clock v)
  | read (task : SystemTask) (now v : Int) :
      s.tasks.find? (SystemTaskDB.isPending id type) = some task →
      ClaimStep runner id type (.select now v) .skip (.insertLock task now v)
  | insert (task : SystemTask) (now v : Int) :
      ClaimStep runner id type (.insertLock task now v)
        (.insertLock ⟨type, task.taskID, runner, v, now⟩) (.setRunning task now)
  | refused (task : SystemTask) (now v : Int) :
      ClaimStep runner id type (.insertLock task now v) .skip (.selectLock task now v)
  | stale (task : SystemTask) (now v : Int) (expired : String) :
      ClaimStep runner id type (.selectLock task now v) .skip (.takeover task expired now v)
  | takeover (task : SystemTask) (now v : Int) (expired : String) (pc : ClaimPc) :
      pc = .markExpired task expired now ∨ pc = .setRunning task now →
      ClaimStep runner id type (.takeover task expired now v)
        (.takeover now ⟨type, task.taskID, runner, v, now⟩) pc
  | mark (task : SystemTask) (expired : String) (now : Int) :
      ClaimStep runner id type (.markExpired task expired now) (.markLeaseExpired expired)
        (.setRunning task now)
  | abort (task : SystemTask) (now : Int) (pc : ClaimPc) :
      (∃ expired, pc = .markExpired task expired now) ∨ pc = .setRunning task now →
      ClaimStep runner id type pc .skip (.release task)
  | run (task : SystemTask) (now : Int) :
      ClaimStep runner id type (.setRunning task now) (.setRunning id type runner now)
        (.reload task)
  | release (task : SystemTask) :
      ClaimStep runner id type (.release task) (.release task.taskID runner) (.leave none)
  | reload (task : SystemTask) :
      ClaimStep runner id type (.reload task) .skip (.leave (some task.taskID))
  | giveUp (pc : ClaimPc) : pc ≠ .enter → pc ≠ .ended →
      ClaimStep runner id type pc .skip (.leave none)
  | leave (claimed : Option String) :
      ClaimStep runner id type (.leave claimed) (.leave runner) .ended

variable {e : LeaseTick} {runner : String}

variable {stmt : LeaseStmt}

theorem claimStep_of_next {id : Nat} {type : String} {pc pc' : ClaimPc}
    (h : claimSystemTask e s runner id type pc = some (stmt, pc')) :
    ClaimStep s runner id type pc stmt pc' := by
  cases pc with
  | enter =>
    simp only [claimSystemTask] at h
    split at h
    · cases h
    · rename_i hfree
      cases h
      exact .enter hfree
  | start v =>
    cases h
    exact .start v
  | select now v =>
    simp only [claimSystemTask] at h
    split at h
    · cases h
      exact .giveUp _ (by simp) (by simp)
    · split at h
      · cases h
        exact .giveUp _ (by simp) (by simp)
      · rename_i task htask
        cases h
        exact .read task now v htask
  | insertLock task now v =>
    simp only [claimSystemTask] at h
    split at h
    · cases h
      exact .refused task now v
    · split at h
      · cases h
        exact .refused task now v
      · cases h
        exact .insert task now v
  | selectLock task now v =>
    simp only [claimSystemTask] at h
    split at h
    · cases h
      exact .giveUp _ (by simp) (by simp)
    · split at h
      · cases h
        exact .giveUp _ (by simp) (by simp)
      · split at h
        · cases h
          exact .giveUp _ (by simp) (by simp)
        · cases h
          exact .stale task now v _
  | takeover task expired now v =>
    simp only [claimSystemTask] at h
    split at h
    · cases h
      exact .giveUp _ (by simp) (by simp)
    · split at h
      · split at h
        · cases h
          exact .takeover task now v expired _ (Or.inl rfl)
        · cases h
          exact .takeover task now v expired _ (Or.inr rfl)
      · cases h
        exact .giveUp _ (by simp) (by simp)
  | markExpired task expired now =>
    simp only [claimSystemTask] at h
    split at h
    · cases h
      exact .abort task now _ (Or.inl ⟨expired, rfl⟩)
    · cases h
      exact .mark task expired now
  | setRunning task now =>
    simp only [claimSystemTask] at h
    split at h
    · cases h
      exact .abort task now _ (Or.inr rfl)
    · split at h
      · cases h
        exact .run task now
      · cases h
        exact .abort task now _ (Or.inr rfl)
  | release task =>
    simp only [claimSystemTask] at h
    split at h
    · cases h
      exact .giveUp _ (by simp) (by simp)
    · cases h
      exact .release task
  | reload task =>
    simp only [claimSystemTask] at h
    split at h
    · cases h
      exact .giveUp _ (by simp) (by simp)
    · cases h
      exact .reload task
  | leave claimed =>
    cases h
    exact .leave claimed
  | ended => cases h

/-- What a step of any execution can be. A heartbeat or a handler that only
looks at the clock, or whose statement fails or finds no row, is `idle`. -/
inductive LeaseStep : LeaseExec → LeaseStmt → LeaseExec → Prop
  | claim {runner : String} {id : Nat} {type : String} {pc pc' : ClaimPc} {stmt : LeaseStmt} :
      ClaimStep s runner id type pc stmt pc' →
      LeaseStep (.claim runner id type pc) stmt (.claim runner id type pc')
  | dispatch (runner taskID : String) (id : Nat) (type : String) :
      LeaseStep (.claim runner id type (.leave (some taskID))) (.leave runner)
        (.work runner taskID .waiting .working)
  | beat (runner taskID : String) (handler : HandlerPc) :
      LeaseStep (.work runner taskID .waiting handler) .skip
        (.work runner taskID (.start (s.clock + systemTaskLockTTL)) handler)
  | beatStart (runner taskID : String) (v : Int) (handler : HandlerPc) :
      LeaseStep (.work runner taskID (.start v) handler) .skip
        (.work runner taskID (.renew s.clock v) handler)
  | renew (runner taskID : String) (now v : Int) (handler : HandlerPc) :
      LeaseStep (.work runner taskID (.renew now v) handler) (.renew taskID runner now v)
        (.work runner taskID .waiting handler)
  | cancel (runner taskID : String) (now v : Int) (handler : HandlerPc) :
      LeaseStep (.work runner taskID (.renew now v) handler) .skip
        (.work runner taskID .cancelled handler)
  | idle (runner taskID : String) (beat : BeatPc) (handler handler' : HandlerPc) :
      handler' ≠ .release →
      LeaseStep (.work runner taskID beat handler) .skip (.work runner taskID beat handler')
  | updateState (runner taskID : String) (beat : BeatPc) (now : Int) (state : String) :
      LeaseStep (.work runner taskID beat (.updateState now state))
        (.updateState taskID runner now state) (.work runner taskID beat .working)
  | finish (runner taskID : String) (beat : BeatPc) (now : Int) (status : FinishStatus)
      (result error : String) : s.tasks.any (s.leaseGuard taskID runner now) = true →
      LeaseStep (.work runner taskID beat (.finish now status result error))
        (.finish taskID runner now status result error) (.work runner taskID beat .release)
  | finishRelease (runner taskID : String) (beat : BeatPc) :
      LeaseStep (.work runner taskID beat .release) (.release taskID runner)
        (.work runner taskID beat .ended)
  | expireStart : LeaseStep (.expire .start) .skip (.expire (.select s.clock))
  | expireSelect (now : Int) (locks : List SystemTaskLock) :
      LeaseStep (.expire (.select now)) .skip (.expire (expireNext now locks))
  | expireMark (now : Int) (lock : SystemTaskLock) (rest : List SystemTaskLock) :
      LeaseStep (.expire (.mark now lock rest)) (.markLeaseExpired lock.taskID)
        (.expire (.delete now lock rest))
  | expireDelete (now : Int) (lock : SystemTaskLock) (rest : List SystemTaskLock) :
      LeaseStep (.expire (.delete now lock rest)) (.deleteExpired lock now)
        (.expire (expireNext now rest))
  | expireFail (pc : ExpirePc) : LeaseStep (.expire pc) .skip (.expire .ended)
  | create (id : Nat) (taskID type state : String) (stmt : LeaseStmt) :
      stmt = .skip ∨ stmt = .createTask (newSystemTask s id taskID type state) →
      LeaseStep (.create id taskID type state false) stmt (.create id taskID type state true)

theorem leaseStep_of_renew {taskID : String} {beat beat' : BeatPc} (handler : HandlerPc)
    (h : renewSystemTaskLock e s runner taskID beat = some (stmt, beat')) :
    LeaseStep s (.work runner taskID beat handler) stmt (.work runner taskID beat' handler) := by
  cases beat with
  | waiting =>
    cases h
    exact .beat runner taskID handler
  | start v =>
    cases h
    exact .beatStart runner taskID v handler
  | renew now v =>
    simp only [renewSystemTaskLock] at h
    split at h
    · cases h
      exact .cancel runner taskID now v handler
    · split at h
      · cases h
        exact .renew runner taskID now v handler
      · cases h
        exact .cancel runner taskID now v handler
  | cancelled => cases h

theorem leaseStep_of_handler {taskID : String} {handler handler' : HandlerPc} (beat : BeatPc)
    (h : runHandler e s runner taskID handler = some (stmt, handler')) :
    LeaseStep s (.work runner taskID beat handler) stmt (.work runner taskID beat handler') := by
  cases handler with
  | working =>
    simp only [runHandler] at h
    split at h
    · cases h
      exact .idle runner taskID beat _ _ (by simp)
    · cases h
      exact .idle runner taskID beat _ _ (by simp)
  | updateState now state =>
    simp only [runHandler] at h
    split at h
    · cases h
      exact .idle runner taskID beat _ _ (by simp)
    · cases h
      exact .updateState runner taskID beat now state
  | finish now status result error =>
    simp only [runHandler] at h
    split at h
    · cases h
      exact .idle runner taskID beat _ _ (by simp)
    · split at h
      · rename_i hguard
        cases h
        exact .finish runner taskID beat now status result error hguard
      · cases h
        exact .idle runner taskID beat _ _ (by simp)
  | release =>
    simp only [runHandler] at h
    split at h
    · cases h
      exact .idle runner taskID beat _ _ (by simp)
    · cases h
      exact .finishRelease runner taskID beat
  | ended => cases h

theorem leaseStep_of_expire {pc pc' : ExpirePc}
    (h : expireStaleSystemTaskLocks e s pc = some (stmt, pc')) :
    LeaseStep s (.expire pc) stmt (.expire pc') := by
  cases pc with
  | start =>
    cases h
    exact .expireStart
  | select now =>
    simp only [expireStaleSystemTaskLocks] at h
    split at h
    · cases h
      exact .expireFail _
    · cases h
      exact .expireSelect now _
  | mark now lock rest =>
    simp only [expireStaleSystemTaskLocks] at h
    split at h
    · cases h
      exact .expireFail _
    · cases h
      exact .expireMark now lock rest
  | delete now lock rest =>
    simp only [expireStaleSystemTaskLocks] at h
    split at h
    · cases h
      exact .expireFail _
    · cases h
      exact .expireDelete now lock rest
  | ended => cases h

theorem leaseStep_of_next {l l' : LeaseExec} (h : l.next e s = some (stmt, l')) :
    LeaseStep s l stmt l' := by
  unfold LeaseExec.next at h
  split at h
  · cases h
    exact .dispatch _ _ _ _
  · obtain ⟨⟨stmt', pc'⟩, hnext, heq⟩ := Option.map_eq_some_iff.mp h
    cases heq
    exact .claim (claimStep_of_next s hnext)
  · split at h
    · obtain ⟨⟨stmt', beat'⟩, hnext, heq⟩ := Option.map_eq_some_iff.mp h
      cases heq
      exact leaseStep_of_renew s _ hnext
    · obtain ⟨⟨stmt', handler'⟩, hnext, heq⟩ := Option.map_eq_some_iff.mp h
      cases heq
      exact leaseStep_of_handler s _ hnext
  · obtain ⟨⟨stmt', pc'⟩, hnext, heq⟩ := Option.map_eq_some_iff.mp h
    cases heq
    exact leaseStep_of_expire s hnext
  · split at h
    · cases h
    · rename_i hdone
      rw [Bool.not_eq_true] at hdone
      subst hdone
      split at h
      · cases h
        exact .create _ _ _ _ _ (Or.inl rfl)
      · cases h
        exact .create _ _ _ _ _ (Or.inr rfl)

end

/-! ## What an execution knows -/

namespace LeaseExec

/-- Inside a call of `ClaimSystemTask` of the runner. -/
def InClaim (runner : String) : LeaseExec → Prop
  | .claim r _ _ pc => r = runner ∧ pc ≠ .enter ∧ pc ≠ .ended
  | _ => False

/-- A time it has read from the clock and will compare a lease with. -/
def stamp : LeaseExec → Option Int
  | .claim _ _ _ (.select now _) => some now
  | .claim _ _ _ (.insertLock _ now _) => some now
  | .claim _ _ _ (.selectLock _ now _) => some now
  | .claim _ _ _ (.takeover _ _ now _) => some now
  | .expire (.select now) => some now
  | .expire (.mark now _ _) => some now
  | .expire (.delete now _ _) => some now
  | _ => none

/-- It would take away the lock of `t` if the lease ended before `n`. -/
def Threat (t : SystemTask) (n : Int) : LeaseExec → Prop
  | .claim _ _ type (.insertLock _ now _) => type = t.type ∧ now = n
  | .claim _ _ type (.selectLock _ now _) => type = t.type ∧ now = n
  | .claim _ _ type (.takeover _ _ now _) => type = t.type ∧ now = n
  | .expire (.delete now lock _) => lock.taskID = t.taskID ∧ now = n
  | _ => False

end LeaseExec

/-- The row a claim has read and not started yet. -/
def ClaimPc.task : ClaimPc → Option SystemTask
  | .insertLock task _ _ => some task
  | .selectLock task _ _ => some task
  | .takeover task _ _ _ => some task
  | .markExpired task _ _ => some task
  | .setRunning task _ => some task
  | .release task => some task
  | _ => none

namespace LeaseExec

/-- A claim of the runner that has read the row `id` of the type as pending. -/
def Reads (runner : String) (id : Nat) (type taskID : String) : LeaseExec → Prop
  | .claim r i ty pc => r = runner ∧ i = id ∧ ty = type ∧ ∃ task, pc.task = some task
      ∧ task.taskID = taskID
  | _ => False

/-- It has started the task, or works on it. -/
def Started (taskID : String) : LeaseExec → Prop
  | .claim _ _ _ (.reload task) => task.taskID = taskID
  | .claim _ _ _ (.leave (some id)) => id = taskID
  | .work _ id _ _ => id = taskID
  | _ => False

/-- Its handler has finished the task and not released the lock yet. -/
def Finished (taskID : String) : LeaseExec → Prop
  | .work _ id _ .release => id = taskID
  | _ => False

/-- Its heartbeat is about to set the end of the lease to `v`. -/
def Renews (taskID : String) (v : Int) : LeaseExec → Prop
  | .work _ id (.start u) _ => id = taskID ∧ u = v
  | .work _ id (.renew _ u) _ => id = taskID ∧ u = v
  | _ => False

end LeaseExec

section

open LeaseExec

variable {s : SystemTaskDB} {l l' : LeaseExec} {stmt : LeaseStmt}

variable {now n : Int} {t : SystemTask} {runner : String} {id : Nat} {type taskID : String}

theorem stamp_expireNext {locks : List SystemTaskLock}
    (h : (LeaseExec.expire (expireNext now locks)).stamp = some n) : now = n := by
  cases locks with
  | nil => cases h
  | cons lock rest => exact Option.some.inj h

theorem threat_expireNext {locks : List SystemTaskLock}
    (h : Threat t n (.expire (expireNext now locks))) : False := by
  cases locks with
  | nil => exact h
  | cons lock rest => exact h

theorem stamp_step (h : LeaseStep s l stmt l') (hn : l'.stamp = some n) :
    l.stamp = some n ∨ n = s.clock := by
  cases h with
  | claim hc =>
    cases hc with
    | start v => exact Or.inr (Option.some.inj hn).symm
    | read | refused | stale => exact Or.inl hn
    | takeover task now v expired pc hpc =>
      rcases hpc with rfl | rfl
      · cases hn
      · cases hn
    | enter | insert | mark | abort | run | release | reload | giveUp | leave => cases hn
  | expireStart => exact Or.inr (Option.some.inj hn).symm
  | expireSelect now locks => exact Or.inl (congrArg some (stamp_expireNext hn))
  | expireMark => exact Or.inl hn
  | expireDelete now lock rest => exact Or.inl (congrArg some (stamp_expireNext hn))
  | dispatch | beat | beatStart | renew | cancel | idle | updateState | finish | finishRelease
  | expireFail | create => cases hn

/-- A new threat comes from a claim that has just read a pending task of the
type, or from an expiry pass that has just marked the task. -/
theorem threat_step (h : LeaseStep s l stmt l') (ht : Threat t n l') :
    Threat t n l ∨ (∃ id task, s.tasks.find? (SystemTaskDB.isPending id t.type) = some task
        ∧ stmt = .skip) ∨ stmt = .markLeaseExpired t.taskID := by
  cases h with
  | claim hc =>
    cases hc with
    | @read task now v hfind =>
      obtain ⟨rfl, -⟩ := ht
      exact Or.inr (Or.inl ⟨_, task, hfind, rfl⟩)
    | refused | stale => exact Or.inl ht
    | takeover task now v expired pc hpc =>
      rcases hpc with rfl | rfl
      · exact ht.elim
      · exact ht.elim
    | enter | start | insert | mark | abort | run | release | reload | giveUp | leave =>
      exact ht.elim
  | expireMark now lock rest =>
    obtain ⟨hid, -⟩ := ht
    exact Or.inr (Or.inr (congrArg _ hid))
  | expireSelect now locks => exact (threat_expireNext ht).elim
  | expireDelete now lock rest => exact (threat_expireNext ht).elim
  | dispatch | beat | beatStart | renew | cancel | idle | updateState | finish | finishRelease
  | expireStart | expireFail | create => exact ht.elim

/-- A claim that has read a row has just read it, or had before and has not
started it in between. -/
theorem reads_step (h : LeaseStep s l stmt l') (hr : Reads runner id type taskID l') :
    (Reads runner id type taskID l ∧ ∀ i ty r now, stmt ≠ .setRunning i ty r now)
      ∨ ∃ task, s.tasks.find? (SystemTaskDB.isPending id type) = some task
          ∧ task.taskID = taskID ∧ stmt = .skip := by
  cases h with
  | claim hc =>
    obtain ⟨rfl, rfl, rfl, task, htask, rfl⟩ := hr
    cases hc with
    | read task' now v hfind =>
      obtain rfl : task' = task := Option.some.inj htask
      exact Or.inr ⟨task', hfind, rfl, rfl⟩
    | insert | refused | stale | mark =>
      exact Or.inl ⟨⟨rfl, rfl, rfl, task, htask, rfl⟩, by simp⟩
    | takeover task' now v expired pc hpc =>
      refine Or.inl ⟨⟨rfl, rfl, rfl, task, ?_, rfl⟩, by simp⟩
      rcases hpc with rfl | rfl
      · exact htask
      · exact htask
    | abort task' now pc hpc =>
      refine Or.inl ⟨⟨rfl, rfl, rfl, task, ?_, rfl⟩, by simp⟩
      rcases hpc with ⟨expired, rfl⟩ | rfl
      · exact htask
      · exact htask
    | enter | start | run | release | reload | giveUp | leave => cases htask
  | dispatch | beat | beatStart | renew | cancel | idle | updateState | finish | finishRelease
  | expireStart | expireSelect | expireMark | expireDelete | expireFail | create => exact hr.elim

theorem started_step (h : LeaseStep s l stmt l') (hs : Started taskID l') :
    Started taskID l ∨ ∃ runner id type now, stmt = .setRunning id type runner now
      ∧ Reads runner id type taskID l := by
  cases h with
  | claim hc =>
    cases hc with
    | run task now =>
      exact Or.inr ⟨_, _, _, now, rfl, rfl, rfl, rfl, task, rfl, hs⟩
    | reload => exact Or.inl hs
    | takeover task now v expired pc hpc =>
      rcases hpc with rfl | rfl
      · exact hs.elim
      · exact hs.elim
    | enter | start | read | insert | refused | stale | mark | abort | release | giveUp
    | leave => exact hs.elim
  | dispatch | beat | beatStart | renew | cancel | idle | updateState | finish
  | finishRelease => exact Or.inl hs
  | expireStart | expireSelect | expireMark | expireDelete | expireFail | create => exact hs.elim

theorem finished_step (h : LeaseStep s l stmt l') (hf : Finished taskID l') :
    Finished taskID l ∨ ∃ runner now status result error,
      stmt = .finish taskID runner now status result error
        ∧ s.tasks.any (s.leaseGuard taskID runner now) = true := by
  cases h with
  | beat runner id handler | beatStart runner id v handler | renew runner id now v handler
  | cancel runner id now v handler =>
    cases handler with
    | release => exact Or.inl hf
    | working | updateState | finish | ended => exact hf.elim
  | idle runner id beat handler handler' hne =>
    cases handler' with
    | release => exact (hne rfl).elim
    | working | updateState | finish | ended => exact hf.elim
  | finish runner id beat now status result error hguard =>
    obtain rfl : id = taskID := hf
    exact Or.inr ⟨runner, now, status, result, error, rfl, hguard⟩
  | claim | dispatch | updateState | finishRelease | expireStart | expireSelect | expireMark
  | expireDelete | expireFail | create => exact hf.elim

theorem renews_step (h : LeaseStep s l stmt l') {v : Int} (hr : Renews taskID v l') :
    Renews taskID v l ∨ v = s.clock + systemTaskLockTTL := by
  cases h with
  | beat runner id handler =>
    obtain ⟨-, hv⟩ := hr
    exact Or.inr hv.symm
  | beatStart => exact Or.inl hr
  | idle runner id beat | updateState runner id beat | finish runner id beat
  | finishRelease runner id beat =>
    cases beat with
    | start | renew => exact Or.inl hr
    | waiting | cancelled => exact hr.elim
  | claim | dispatch | renew | cancel | expireStart | expireSelect | expireMark
  | expireDelete | expireFail | create => exact hr.elim

theorem inClaim_step (h : LeaseStep s l stmt l') (hin : InClaim runner l') :
    InClaim runner l ∨ (stmt = .enter runner ∧ runner ∉ s.claiming) := by
  cases h with
  | claim hc =>
    obtain ⟨rfl, -, hne⟩ := hin
    cases hc with
    | enter hfree => exact Or.inr ⟨rfl, hfree⟩
    | leave => exact (hne rfl).elim
    | abort task now pc hpc =>
      refine Or.inl ⟨rfl, ?_, ?_⟩
      · rcases hpc with ⟨expired, rfl⟩ | rfl <;> simp
      · rcases hpc with ⟨expired, rfl⟩ | rfl <;> simp
    | giveUp pc hne₁ hne₂ => exact Or.inl ⟨rfl, hne₁, hne₂⟩
    | start | read | insert | refused | stale | takeover | mark | run | release | reload =>
      exact Or.inl ⟨rfl, by simp, by simp⟩
  | dispatch | beat | beatStart | renew | cancel | idle | updateState | finish | finishRelease
  | expireStart | expireSelect | expireMark | expireDelete | expireFail | create => exact hin.elim

theorem leave_step (h : LeaseStep s l (.leave runner) l') :
    InClaim runner l ∧ ¬ InClaim runner l' := by
  cases h with
  | claim hc =>
    cases hc with
    | leave => exact ⟨⟨rfl, by simp, by simp⟩, fun hin => hin.2.2 rfl⟩
  | dispatch => exact ⟨⟨rfl, by simp, by simp⟩, fun hin => hin⟩
  | create id taskID type state stmt hstmt => rcases hstmt with hstmt | hstmt <;> cases hstmt

theorem takeover_step {lock : SystemTaskLock} (h : LeaseStep s l (.takeover now lock) l')
    (ht : lock.type = t.type) :
    Threat t now l := by
  cases h with
  | claim hc =>
    cases hc with
    | takeover task now v expired pc hpc => exact ⟨ht, rfl⟩
  | create id taskID type state stmt hstmt => rcases hstmt with hstmt | hstmt <;> cases hstmt

theorem deleteExpired_step {lock : SystemTaskLock} (h : LeaseStep s l (.deleteExpired lock now) l')
    (ht : lock.taskID = t.taskID) : Threat t now l := by
  cases h with
  | claim hc => cases hc
  | expireDelete now lock rest => exact ⟨ht, rfl⟩
  | create id taskID type state stmt hstmt => rcases hstmt with hstmt | hstmt <;> cases hstmt

theorem release_step (h : LeaseStep s l (.release taskID runner) l') :
    (∃ id type, Reads runner id type taskID l) ∨ Finished taskID l := by
  cases h with
  | claim hc =>
    cases hc with
    | release task => exact Or.inl ⟨_, _, rfl, rfl, rfl, task, rfl, rfl⟩
  | finishRelease => exact Or.inr rfl
  | create id taskID type state stmt hstmt => rcases hstmt with hstmt | hstmt <;> cases hstmt

theorem renew_step {v : Int} (h : LeaseStep s l (.renew taskID runner now v) l') :
    Renews taskID v l := by
  cases h with
  | claim hc => cases hc
  | renew => exact ⟨rfl, rfl⟩
  | create id taskID type state stmt hstmt => rcases hstmt with hstmt | hstmt <;> cases hstmt

theorem setRunning_step (h : LeaseStep s l (.setRunning id type runner now) l') :
    ∃ task, l = .claim runner id type (.setRunning task now) := by
  cases h with
  | claim hc =>
    cases hc with
    | run task => exact ⟨task, rfl⟩
  | create id taskID type state stmt hstmt => rcases hstmt with hstmt | hstmt <;> cases hstmt

theorem inClaim_of_reads (h : Reads runner id type taskID l) : InClaim runner l := by
  cases l with
  | claim r i ty pc =>
    obtain ⟨rfl, -, -, task, htask, -⟩ := h
    refine ⟨rfl, ?_, ?_⟩
    · rintro rfl
      cases htask
    · rintro rfl
      cases htask
  | work | expire | create => exact h.elim

theorem stamp_of_threat (h : Threat t n l) : l.stamp = some n := by
  cases l with
  | claim r id type pc =>
    cases pc with
    | insertLock | selectLock | takeover => exact congrArg some h.2
    | enter | start | select | markExpired | setRunning | release | reload | leave | ended =>
      exact h.elim
  | expire pc =>
    cases pc with
    | delete => exact congrArg some h.2
    | start | select | mark | ended => exact h.elim
  | work | create => exact h.elim

end

/-! ## What a statement does to a running task and to a lock -/

section

variable {s : SystemTaskDB} {stmt : LeaseStmt}

theorem exec_clock (s : SystemTaskDB) (stmt : LeaseStmt) : (s.exec stmt).clock = s.clock := by
  cases stmt with
  | createTask row => simp only [SystemTaskDB.exec]; split <;> rfl
  | insertLock lock => simp only [SystemTaskDB.exec]; split <;> rfl
  | skip | enter | leave | takeover | markLeaseExpired | setRunning | updateState | finish | renew
  | deleteExpired | release => rfl

theorem mem_updateWhere {α : Type*} {p : α → Bool} {f : α → α} {rows : List α} {r : α}
    (h : r ∈ updateWhere p f rows) :
    (∃ x ∈ rows, p x = true ∧ r = f x) ∨ (r ∈ rows ∧ p r = false) := by
  rw [updateWhere_eq_map] at h
  obtain ⟨x, hx, rfl⟩ := List.mem_map.mp h
  split
  · rename_i hp
    exact Or.inl ⟨x, hx, hp, rfl⟩
  · rename_i hp
    exact Or.inr ⟨hx, by simpa using hp⟩

/-- The same task, held by the same runner. -/
def SystemTask.Same (t t' : SystemTask) : Prop :=
  t'.taskID = t.taskID ∧ t'.type = t.type ∧ t'.lockedBy = t.lockedBy

variable {t' : SystemTask}

theorem exec_running (ht' : t' ∈ (s.exec stmt).tasks) (hrun : t'.status = .running)
    (hnew : ∀ row, stmt = .createTask row → row.status = .pending) :
    (∃ t ∈ s.tasks, t.status = .running ∧ t.Same t')
      ∨ ∃ id type runner now, stmt = .setRunning id type runner now ∧ ∃ t ∈ s.tasks,
          SystemTaskDB.isPending id type t = true
            ∧ t'.taskID = t.taskID ∧ t'.type = t.type ∧ t'.lockedBy = runner := by
  have hold : t' ∈ s.tasks → ∃ t ∈ s.tasks, t.status = .running ∧ t.Same t' :=
    fun h => ⟨t', h, hrun, rfl, rfl, rfl⟩
  cases stmt with
  | skip | enter | leave | takeover | renew | deleteExpired | release => exact Or.inl (hold ht')
  | insertLock lock =>
    simp only [SystemTaskDB.exec] at ht'
    split at ht'
    · exact Or.inl (hold ht')
    · exact Or.inl (hold ht')
  | createTask row =>
    simp only [SystemTaskDB.exec] at ht'
    split at ht'
    · exact Or.inl (hold ht')
    · rcases List.mem_append.mp ht' with h | h
      · exact Or.inl (hold h)
      · obtain rfl := List.mem_singleton.mp h
        rw [hnew t' rfl] at hrun
        cases hrun
  | markLeaseExpired taskID =>
    rcases mem_updateWhere ht' with ⟨t, -, -, rfl⟩ | ⟨h, -⟩
    · cases hrun
    · exact Or.inl (hold h)
  | setRunning id type runner now =>
    rcases mem_updateWhere ht' with ⟨t, ht, hp, rfl⟩ | ⟨h, -⟩
    · exact Or.inr ⟨id, type, runner, now, rfl, t, ht, hp, rfl, rfl, rfl⟩
    · exact Or.inl (hold h)
  | updateState taskID lockedBy now state =>
    rcases mem_updateWhere ht' with ⟨t, ht, hp, rfl⟩ | ⟨h, -⟩
    · exact Or.inl ⟨t, ht, hrun, rfl, rfl, rfl⟩
    · exact Or.inl (hold h)
  | finish taskID lockedBy now status result error =>
    rcases mem_updateWhere ht' with ⟨t, ht, hp, rfl⟩ | ⟨h, -⟩
    · cases status <;> cases hrun
    · exact Or.inl (hold h)

/-- What can become of a lock: it stays, with the end of its lease as it was or
renewed, or a statement that removes or repoints it applied to it. -/
theorem exec_lock (stmt : LeaseStmt) {lock : SystemTaskLock} (hlock : lock ∈ s.locks) :
    (∃ lock' ∈ (s.exec stmt).locks, lock'.type = lock.type ∧ lock'.taskID = lock.taskID
        ∧ lock'.lockedBy = lock.lockedBy ∧ (lock'.lockedUntil = lock.lockedUntil
          ∨ ∃ r now, stmt = .renew lock.taskID r now lock'.lockedUntil))
      ∨ (∃ now new, stmt = .takeover now new ∧ new.type = lock.type ∧ lock.lockedUntil < now)
      ∨ (∃ old now, stmt = .deleteExpired old now ∧ old.taskID = lock.taskID
          ∧ lock.lockedUntil < now)
      ∨ stmt = .release lock.taskID lock.lockedBy := by
  have hstays : ∀ {locks : List SystemTaskLock}, lock ∈ locks →
      ∃ lock' ∈ locks, lock'.type = lock.type ∧ lock'.taskID = lock.taskID
        ∧ lock'.lockedBy = lock.lockedBy ∧ (lock'.lockedUntil = lock.lockedUntil
          ∨ ∃ r now, stmt = .renew lock.taskID r now lock'.lockedUntil) :=
    fun h => ⟨lock, h, rfl, rfl, rfl, Or.inl rfl⟩
  cases stmt with
  | skip | enter | leave | markLeaseExpired | setRunning | updateState | finish =>
    exact Or.inl (hstays hlock)
  | createTask row =>
    refine Or.inl (hstays ?_)
    simp only [SystemTaskDB.exec]
    split
    · exact hlock
    · exact hlock
  | insertLock new =>
    refine Or.inl (hstays ?_)
    simp only [SystemTaskDB.exec]
    split
    · exact hlock
    · exact List.mem_append_left _ hlock
  | takeover now new =>
    by_cases hexp : SystemTaskDB.isExpired new.type now lock = true
    · simp only [SystemTaskDB.isExpired, Bool.and_eq_true, beq_iff_eq, decide_eq_true_eq] at hexp
      exact Or.inr (Or.inl ⟨now, new, rfl, hexp.1.symm, hexp.2⟩)
    · refine Or.inl (hstays ?_)
      exact List.mem_map.mpr ⟨lock, hlock, if_neg hexp⟩
  | renew taskID r now v =>
    by_cases hheld : SystemTaskDB.holds taskID r now lock = true
    · have htask : lock.taskID = taskID := by
        simp only [SystemTaskDB.holds, Bool.and_eq_true, beq_iff_eq] at hheld
        exact hheld.1.1
      refine Or.inl ⟨{ lock with lockedUntil := v, updatedAt := now },
        List.mem_map.mpr ⟨lock, hlock, if_pos hheld⟩, rfl, rfl, rfl, Or.inr ⟨r, now, ?_⟩⟩
      rw [htask]
    · exact Or.inl (hstays (List.mem_map.mpr ⟨lock, hlock, if_neg hheld⟩))
  | deleteExpired old now =>
    by_cases hdel : lock.type = old.type ∧ lock.taskID = old.taskID
        ∧ lock.lockedBy = old.lockedBy ∧ lock.lockedUntil < now
    · exact Or.inr (Or.inr (Or.inl ⟨old, now, rfl, hdel.2.1.symm, hdel.2.2.2⟩))
    · refine Or.inl (hstays (List.mem_filter.mpr ⟨hlock, ?_⟩))
      rw [Bool.not_eq_true', ← Bool.not_eq_true]
      simpa [and_assoc] using hdel
  | release taskID r =>
    by_cases hdel : lock.taskID = taskID ∧ lock.lockedBy = r
    · exact Or.inr (Or.inr (Or.inr (by rw [hdel.1, hdel.2])))
    · refine Or.inl (hstays (List.mem_filter.mpr ⟨hlock, ?_⟩))
      rw [Bool.not_eq_true', ← Bool.not_eq_true]
      simpa using hdel

/-! ## The invariant -/

section

open LeaseExec Sched

/-- Tables in which a type has at most one task that is not terminal, and that
task carries the type's active key. -/
structure OneActive (s : SystemTaskDB) : Prop where
  key : ∀ t ∈ s.tasks, t.status.terminal = false → t.activeKey = some t.type
  unique : ∀ t ∈ s.tasks, ∀ u ∈ s.tasks, t.status.terminal = false → u.status.terminal = false →
    t.type = u.type → t.taskID = u.taskID

/-- What a claim has read is still a row of the table, and the claim's own
runner has not started it. -/
def ReadsRow (s : SystemTaskDB) (runner : String) (id : Nat) (type taskID : String) : Prop :=
  ∃ t ∈ s.tasks, t.id = id ∧ t.type = type ∧ t.taskID = taskID
    ∧ (t.status = .running → t.lockedBy ≠ runner)

structure LeaseInv (c : Conf SystemTaskDB LeaseExec) : Prop where
  wf : c.store.WellFormed
  active : OneActive c.store
  alone : ∀ runner, AtMostOne (InClaim runner) c
  token : ∀ runner i, Inside (InClaim runner) c i → runner ∈ c.store.claiming
  stamps : ∀ l ∈ c.threads, ∀ n, l.stamp = some n → n ≤ c.store.clock
  reads : ∀ l ∈ c.threads, ∀ runner id type taskID, Reads runner id type taskID l →
    ReadsRow c.store runner id type taskID
  started : ∀ l ∈ c.threads, ∀ taskID, Started taskID l →
    ∃ t ∈ c.store.tasks, t.taskID = taskID ∧ t.status ≠ .pending
  finished : ∀ l ∈ c.threads, ∀ taskID, Finished taskID l →
    ∃ t ∈ c.store.tasks, t.taskID = taskID ∧ t.status.terminal = true
  leased : ∀ t ∈ c.store.tasks, t.status = .running → ∃ lock ∈ c.store.locks,
    lock.type = t.type ∧ lock.taskID = t.taskID ∧ lock.lockedBy = t.lockedBy
      ∧ ∀ l ∈ c.threads, ∀ n, Threat t n l → n ≤ lock.lockedUntil
  renewals : ∀ l ∈ c.threads, ∀ taskID v, Renews taskID v l → ∀ t ∈ c.store.tasks,
    t.taskID = taskID → t.status = .running → ∀ l' ∈ c.threads, ∀ n, Threat t n l' → n ≤ v

/-- The statement that starts a task finds the lock of its type still naming
the task and its runner, and the lease not over. -/
def LeaseInForce : Guard SystemTaskDB LeaseExec LeaseTick := fun c i e =>
  ∀ runner id type task now, c.threads[i]? = some (.claim runner id type (.setRunning task now)) →
    e.fails = false → c.store.tasks.any (SystemTaskDB.isPending id type) = true →
    ∃ lock ∈ c.store.locks, lock.type = type ∧ lock.taskID = task.taskID
      ∧ lock.lockedBy = runner ∧ c.store.clock + e.elapsed ≤ lock.lockedUntil

/-! ## One step, part by part -/

variable {s : SystemTaskDB} {l l' : LeaseExec} {stmt : LeaseStmt}

theorem create_step {row : SystemTask} (h : LeaseStep s l (.createTask row) l') :
    row.status = .pending ∧ row.activeKey = some row.type := by
  cases h with
  | claim hc => cases hc
  | create id taskID type state stmt hstmt =>
    rcases hstmt with hstmt | hstmt
    · cases hstmt
    · cases hstmt
      exact ⟨rfl, rfl⟩

variable {t : SystemTask}

theorem SystemTask.Evolves.active (h : t.Evolves t') (hactive : t'.status.terminal = false) :
    t.status.terminal = false := by
  by_contra hterm
  rw [Bool.not_eq_false] at hterm
  rw [h.final hterm, hterm] at hactive
  cases hactive

theorem SystemTask.Evolves.not_pending (h : t.Evolves t') (hne : t.status ≠ .pending) :
    t'.status ≠ .pending := by
  rcases h.moves with heq | hnext
  · rwa [← heq]
  · intro hp
    rw [hp] at hnext
    generalize t.status = st at hnext
    cases hnext

theorem oneActive_exec (h : OneActive s)
    (hnew : ∀ row, stmt = .createTask row → row.status = .pending ∧ row.activeKey = some row.type) :
    OneActive (s.exec stmt) := by
  rcases exec_tasks s stmt with ⟨f, hf, hev⟩ | ⟨row, hrow, hfree, happ⟩
  · constructor
    · intro t' ht' hactive
      rw [hf] at ht'
      obtain ⟨t, ht, rfl⟩ := List.mem_map.mp ht'
      rcases (hev t).key with hkey | ⟨-, hterm⟩
      · rw [hkey, (hev t).type]
        exact h.key t ht ((hev t).active hactive)
      · rw [hterm] at hactive
        cases hactive
    · intro t' ht' u' hu' hta hua htype
      rw [hf] at ht' hu'
      obtain ⟨t, ht, rfl⟩ := List.mem_map.mp ht'
      obtain ⟨u, hu, rfl⟩ := List.mem_map.mp hu'
      rw [(hev t).type, (hev u).type] at htype
      rw [(hev t).taskID, (hev u).taskID]
      exact h.unique t ht u hu ((hev t).active hta) ((hev u).active hua) htype
  · obtain ⟨-, hkey⟩ := hnew row hrow
    -- a task of the row's type that is not terminal would hold the row's key
    have hnone : ∀ t ∈ s.tasks, t.status.terminal = false → t.type ≠ row.type := by
      intro t ht hactive htype
      refine (taskConflict_eq_false hfree t ht).2.2 row.type hkey ?_
      rw [h.key t ht hactive, htype]
    constructor
    · intro t ht hactive
      rw [happ] at ht
      rcases List.mem_append.mp ht with ht | ht
      · exact h.key t ht hactive
      · rw [List.mem_singleton.mp ht]
        exact hkey
    · intro t ht u hu hta hua htype
      rw [happ] at ht hu
      rcases List.mem_append.mp ht with ht | ht
      · rcases List.mem_append.mp hu with hu | hu
        · exact h.unique t ht u hu hta hua htype
        · rw [List.mem_singleton.mp hu] at htype
          exact absurd htype (hnone t ht hta)
      · rcases List.mem_append.mp hu with hu | hu
        · rw [List.mem_singleton.mp ht] at htype
          exact absurd htype.symm (hnone u hu hua)
        · rw [List.mem_singleton.mp ht, List.mem_singleton.mp hu]

theorem readsRow_exec (hwf : s.WellFormed) {runner : String} {id : Nat} {type taskID : String}
    (h : ReadsRow s runner id type taskID)
    (hnew : ∀ row, stmt = .createTask row → row.status = .pending)
    (hother : ∀ i ty now, stmt ≠ .setRunning i ty runner now) :
    ReadsRow (s.exec stmt) runner id type taskID := by
  obtain ⟨t, ht, hid, htype, htask, hnot⟩ := h
  obtain ⟨t', ht', hev⟩ := exec_evolves stmt ht
  refine ⟨t', ht', hev.id.trans hid, hev.type.trans htype, hev.taskID.trans htask, ?_⟩
  intro hrun
  rcases exec_running ht' hrun hnew with ⟨u, hu, hurun, hsame⟩ | ⟨i, ty, r, now, rfl, u, -, -, h⟩
  · have heq : u = t :=
      List.inj_on_of_nodup_map hwf.taskIDs hu ht (hsame.1.symm.trans hev.taskID)
    subst heq
    rw [hsame.2.2]
    exact hnot hurun
  · rw [h.2.2]
    rintro rfl
    exact hother i ty now rfl

variable {c : Conf SystemTaskDB LeaseExec} {i : Nat}

theorem exec_claiming {runner : String} (h : runner ∈ s.claiming) (hstay : stmt ≠ .leave runner) :
    runner ∈ (s.exec stmt).claiming := by
  cases stmt with
  | enter r => exact List.mem_cons_of_mem r h
  | leave r =>
    have hne : runner ≠ r := fun heq => hstay (by rw [heq])
    exact (List.mem_erase_of_ne hne).mpr h
  | createTask row => simp only [SystemTaskDB.exec]; split <;> exact h
  | insertLock lock => simp only [SystemTaskDB.exec]; split <;> exact h
  | skip | takeover | markLeaseExpired | setRunning | updateState | finish | renew
  | deleteExpired | release => exact h

theorem alone_step (hI : LeaseInv c) (hl : c.threads[i]? = some l)
    (h : LeaseStep c.store l stmt l') (runner : String) (s' : SystemTaskDB) :
    AtMostOne (InClaim runner) ⟨s', c.threads.set i l'⟩ := by
  -- whoever enters found the runner's loop free, so nobody was inside
  have hok : Exclusive (fun _ => stmt = .enter runner ∧ runner ∉ c.store.claiming)
      (InClaim runner) c i () := by
    rintro x - ⟨-, hfree⟩ j hj
    exact absurd (hI.token runner j hj) hfree
  exact atMostOne_step (hI.alone runner) hok hl fun hin => inClaim_step h hin

theorem token_step (hI : LeaseInv c) (hl : c.threads[i]? = some l)
    (h : LeaseStep c.store l stmt l') (runner : String) (j : Nat)
    (hj : Inside (InClaim runner) ⟨c.store.exec stmt, c.threads.set i l'⟩ j) :
    runner ∈ (c.store.exec stmt).claiming := by
  rcases hj.of_set with ⟨rfl, hin⟩ | ⟨hne, hin⟩
  · rcases inClaim_step h hin with hin₀ | ⟨rfl, -⟩
    · refine exec_claiming (hI.token runner j ⟨l, hl, hin₀⟩) ?_
      rintro rfl
      exact (leave_step h).2 hin
    · exact List.mem_cons_self
  · refine exec_claiming (hI.token runner j hin) ?_
    rintro rfl
    exact hne (hI.alone runner j i hin ⟨l, hl, (leave_step h).1⟩)

theorem stamps_step (hI : LeaseInv c) (hmem : l ∈ c.threads) (h : LeaseStep c.store l stmt l') :
    ∀ x ∈ c.threads.set i l', ∀ n, x.stamp = some n → n ≤ (c.store.exec stmt).clock := by
  rw [exec_clock]
  refine forall_threads_set hI.stamps ?_
  intro n hn
  rcases stamp_step h hn with hold | rfl
  · exact hI.stamps l hmem n hold
  · exact Int.le_refl _

theorem reads_kept (hI : LeaseInv c) (hl : c.threads[i]? = some l)
    (h : LeaseStep c.store l stmt l') :
    ∀ x ∈ c.threads.set i l', ∀ runner id type taskID, Reads runner id type taskID x →
      ReadsRow (c.store.exec stmt) runner id type taskID := by
  have hnew : ∀ row, stmt = .createTask row → row.status = .pending := by
    rintro row rfl
    exact (create_step h).1
  intro x hx runner id type taskID hreads
  obtain ⟨j, hj⟩ := List.mem_iff_getElem?.mp hx
  rcases threads_set_cases hj with ⟨rfl, rfl⟩ | ⟨hne, hj⟩
  · rcases reads_step h hreads with ⟨hold, hstmt⟩ | ⟨task, hfind, rfl, rfl⟩
    · have hrow := hI.reads l (List.mem_of_getElem? hl) runner id type taskID hold
      exact readsRow_exec hI.wf hrow hnew fun i ty now => hstmt i ty runner now
    · obtain ⟨hid, htype, hpending⟩ := isPending_iff.mp (List.find?_some hfind)
      refine ⟨task, List.mem_of_find?_eq_some hfind, hid, htype, rfl, ?_⟩
      intro hrun
      rw [hpending] at hrun
      cases hrun
  · have hrow := hI.reads x (List.mem_of_getElem? hj) runner id type taskID hreads
    refine readsRow_exec hI.wf hrow hnew ?_
    rintro i' ty now rfl
    -- the runner's loop makes one claim at a time
    obtain ⟨task, rfl⟩ := setRunning_step h
    have hin : InClaim runner (.claim runner i' ty (.setRunning task now)) :=
      ⟨rfl, by simp, by simp⟩
    exact hne (hI.alone runner j i ⟨x, hj, inClaim_of_reads hreads⟩ ⟨_, hl, hin⟩)

theorem started_kept (hI : LeaseInv c) (hl : c.threads[i]? = some l)
    (h : LeaseStep c.store l stmt l') :
    ∀ x ∈ c.threads.set i l', ∀ taskID, Started taskID x →
      ∃ t ∈ (c.store.exec stmt).tasks, t.taskID = taskID ∧ t.status ≠ .pending := by
  have hold : ∀ taskID, (∃ t ∈ c.store.tasks, t.taskID = taskID ∧ t.status ≠ .pending) →
      ∃ t ∈ (c.store.exec stmt).tasks, t.taskID = taskID ∧ t.status ≠ .pending := by
    rintro taskID ⟨t, ht, hid, hne⟩
    obtain ⟨t', ht', hev⟩ := exec_evolves stmt ht
    exact ⟨t', ht', hev.taskID.trans hid, hev.not_pending hne⟩
  refine forall_threads_set (fun x hx taskID hs => hold taskID (hI.started x hx taskID hs)) ?_
  intro taskID hs
  rcases started_step h hs with hs | ⟨runner, id, type, now, rfl, hreads⟩
  · exact hold taskID (hI.started l (List.mem_of_getElem? hl) taskID hs)
  · obtain ⟨t, ht, hid, htype, htask, -⟩ :=
      hI.reads l (List.mem_of_getElem? hl) runner id type taskID hreads
    by_cases hp : SystemTaskDB.isPending id type t = true
    · exact ⟨{ t with status := .running, lockedBy := runner, updatedAt := now },
        List.mem_map.mpr ⟨t, ht, if_pos hp⟩, htask, by simp⟩
    · refine ⟨t, List.mem_map.mpr ⟨t, ht, if_neg hp⟩, htask, ?_⟩
      intro hpending
      exact hp (isPending_iff.mpr ⟨hid, htype, hpending⟩)

theorem finished_kept (hI : LeaseInv c) (hl : c.threads[i]? = some l)
    (h : LeaseStep c.store l stmt l') :
    ∀ x ∈ c.threads.set i l', ∀ taskID, Finished taskID x →
      ∃ t ∈ (c.store.exec stmt).tasks, t.taskID = taskID ∧ t.status.terminal = true := by
  have hold : ∀ taskID, (∃ t ∈ c.store.tasks, t.taskID = taskID ∧ t.status.terminal = true) →
      ∃ t ∈ (c.store.exec stmt).tasks, t.taskID = taskID ∧ t.status.terminal = true := by
    rintro taskID ⟨t, ht, hid, hterm⟩
    obtain ⟨t', ht', hev⟩ := exec_evolves stmt ht
    rw [hev.final hterm] at ht'
    exact ⟨t, ht', hid, hterm⟩
  refine forall_threads_set (fun x hx taskID hs => hold taskID (hI.finished x hx taskID hs)) ?_
  intro taskID hs
  rcases finished_step h hs with hs | ⟨runner, now, status, result, error, rfl, hguard⟩
  · exact hold taskID (hI.finished l (List.mem_of_getElem? hl) taskID hs)
  · obtain ⟨t, ht, hp⟩ := List.any_eq_true.mp hguard
    obtain ⟨htask, -⟩ := leaseGuard_iff.mp hp
    refine ⟨_, List.mem_map.mpr ⟨t, ht, if_pos hp⟩, htask, ?_⟩
    cases status
    · rfl
    · rfl

theorem threat_congr {u : SystemTask} (htask : t.taskID = u.taskID) (htype : t.type = u.type)
    {n : Int} (h : Threat t n l) : Threat u n l := by
  unfold Threat at h ⊢
  rw [← htask, ← htype]
  exact h

theorem started_of_renews {taskID : String} {v : Int} (h : Renews taskID v l) :
    Started taskID l := by
  cases l with
  | work r id beat handler =>
    cases beat with
    | start | renew => exact h.1
    | waiting | cancelled => exact h.elim
  | claim | expire | create => exact h.elim

theorem threat_old (hI : LeaseInv c) (hl : c.threads[i]? = some l) (h : LeaseStep c.store l stmt l')
    (ht : t ∈ (c.store.exec stmt).tasks) (hrun : t.status = .running) {x : LeaseExec}
    (hx : x ∈ c.threads.set i l') {n : Int} (hthreat : Threat t n x) :
    ∃ x₀ ∈ c.threads, Threat t n x₀ := by
  rcases List.mem_or_eq_of_mem_set hx with hx | rfl
  · exact ⟨x, hx, hthreat⟩
  · rcases threat_step h hthreat with hold | ⟨id, task, hfind, rfl⟩ | rfl
    · exact ⟨l, List.mem_of_getElem? hl, hold⟩
    · have hmem : task ∈ c.store.tasks := List.mem_of_find?_eq_some hfind
      obtain ⟨-, htype, hpending⟩ := isPending_iff.mp (List.find?_some hfind)
      have hid : t.taskID = task.taskID :=
        hI.active.unique t ht task hmem (by rw [hrun]; rfl) (by rw [hpending]; rfl) htype.symm
      have heq : t = task := List.inj_on_of_nodup_map hI.wf.taskIDs ht hmem hid
      rw [heq, hpending] at hrun
      cases hrun
    · rcases mem_updateWhere ht with ⟨u, -, -, rfl⟩ | ⟨-, hp⟩
      · cases hrun
      · simp [hrun] at hp

/-- The lock of a running task, as an execution's next statement finds it,
survives that statement. -/
theorem lock_survives (hI : LeaseInv c) (hl : c.threads[i]? = some l)
    (h : LeaseStep c.store l stmt l') (ht : t ∈ c.store.tasks) (hrun : t.status = .running) :
    ∃ lock ∈ (c.store.exec stmt).locks, lock.type = t.type ∧ lock.taskID = t.taskID
      ∧ lock.lockedBy = t.lockedBy ∧ ∀ x ∈ c.threads, ∀ n, Threat t n x → n ≤ lock.lockedUntil := by
  have hmem : l ∈ c.threads := List.mem_of_getElem? hl
  have hsame : ∀ u ∈ c.store.tasks, u.taskID = t.taskID → u = t :=
    fun u hu => List.inj_on_of_nodup_map hI.wf.taskIDs hu ht
  obtain ⟨lock, hlock, htype, htask, hby, hlease⟩ := hI.leased t ht hrun
  rcases exec_lock stmt hlock with
    ⟨lock', hlock', htype', htask', hby', huntil⟩ | ⟨now, new, rfl, hnew, hlt⟩
      | ⟨old, now, rfl, hold, hlt⟩ | rfl
  · refine ⟨lock', hlock', htype'.trans htype, htask'.trans htask, hby'.trans hby, ?_⟩
    intro x hx n hthreat
    rcases huntil with heq | ⟨r, now, rfl⟩
    · rw [heq]
      exact hlease x hx n hthreat
    · exact hI.renewals l hmem _ _ (renew_step h) t ht htask.symm hrun x hx n hthreat
  · have hle := hlease l hmem now (takeover_step h (hnew.trans htype))
    omega
  · have hle := hlease l hmem now (deleteExpired_step h (hold.trans htask))
    omega
  · exfalso
    rcases release_step h with ⟨id, type, hreads⟩ | hfin
    · obtain ⟨u, hu, -, -, hutask, hnot⟩ := hI.reads l hmem _ id type _ hreads
      rw [hsame u hu (hutask.trans htask)] at hnot
      exact hnot hrun hby.symm
    · obtain ⟨u, hu, hutask, hterm⟩ := hI.finished l hmem _ hfin
      rw [hsame u hu (hutask.trans htask), hrun] at hterm
      cases hterm

/-- The statement, if it starts a task, finds a lock in force for it. -/
def StartsInForce (s : SystemTaskDB) (stmt : LeaseStmt) : Prop :=
  ∀ id type runner now, stmt = .setRunning id type runner now → ∀ t ∈ s.tasks,
    SystemTaskDB.isPending id type t = true → ∃ lock ∈ s.locks, lock.type = type
      ∧ lock.taskID = t.taskID ∧ lock.lockedBy = runner ∧ s.clock ≤ lock.lockedUntil

theorem leased_step (hI : LeaseInv c) (hl : c.threads[i]? = some l)
    (h : LeaseStep c.store l stmt l') (hforce : StartsInForce c.store stmt) :
    ∀ t ∈ (c.store.exec stmt).tasks, t.status = .running → ∃ lock ∈ (c.store.exec stmt).locks,
      lock.type = t.type ∧ lock.taskID = t.taskID ∧ lock.lockedBy = t.lockedBy
        ∧ ∀ x ∈ c.threads.set i l', ∀ n, Threat t n x → n ≤ lock.lockedUntil := by
  intro t' ht' hrun
  have hnew : ∀ row, stmt = .createTask row → row.status = .pending := by
    rintro row rfl
    exact (create_step h).1
  rcases exec_running ht' hrun hnew with
    ⟨t, ht, htrun, htask, htype, hby⟩ | ⟨id, type, runner, now, rfl, t, ht, hp, htask, htype, hby⟩
  · obtain ⟨lock, hlock, hltype, hltask, hlby, hlease⟩ := lock_survives hI hl h ht htrun
    refine ⟨lock, hlock, hltype.trans htype.symm, hltask.trans htask.symm, hlby.trans hby.symm, ?_⟩
    intro x hx n hthreat
    obtain ⟨x₀, hx₀, hold⟩ := threat_old hI hl h ht' hrun hx hthreat
    exact hlease x₀ hx₀ n (threat_congr htask htype hold)
  · obtain ⟨lock, hlock, hltype, hltask, hlby, hclock⟩ :=
      hforce id type runner now rfl t ht hp
    obtain ⟨-, hptype, -⟩ := isPending_iff.mp hp
    refine ⟨lock, hlock, hltype.trans (htype.trans hptype).symm, hltask.trans htask.symm,
      hlby.trans hby.symm, ?_⟩
    intro x hx n hthreat
    obtain ⟨x₀, hx₀, hold⟩ := threat_old hI hl h ht' hrun hx hthreat
    exact Int.le_trans (hI.stamps x₀ hx₀ n (stamp_of_threat hold)) hclock

theorem renewals_step (hI : LeaseInv c) (hl : c.threads[i]? = some l)
    (h : LeaseStep c.store l stmt l') :
    ∀ x ∈ c.threads.set i l', ∀ taskID v, Renews taskID v x →
      ∀ t ∈ (c.store.exec stmt).tasks, t.taskID = taskID → t.status = .running →
      ∀ y ∈ c.threads.set i l', ∀ n, Threat t n y → n ≤ v := by
  intro x hx taskID v hrenews t' ht' hid hrun y hy n hthreat
  have hnew : ∀ row, stmt = .createTask row → row.status = .pending := by
    rintro row rfl
    exact (create_step h).1
  obtain ⟨y₀, hy₀, hold⟩ := threat_old hI hl h ht' hrun hy hthreat
  have hstamp : n ≤ c.store.clock := hI.stamps y₀ hy₀ n (stamp_of_threat hold)
  have hrenewed : (∃ x₀ ∈ c.threads, Renews taskID v x₀) ∨ v = c.store.clock + systemTaskLockTTL := by
    rcases List.mem_or_eq_of_mem_set hx with hx | rfl
    · exact Or.inl ⟨x, hx, hrenews⟩
    · rcases renews_step h hrenews with hr | hv
      · exact Or.inl ⟨l, List.mem_of_getElem? hl, hr⟩
      · exact Or.inr hv
  rcases hrenewed with ⟨x₀, hx₀, hr⟩ | rfl
  · rcases exec_running ht' hrun hnew with
      ⟨t, ht, htrun, htask, htype, -⟩ | ⟨id, type, runner, now, rfl, t, ht, hp, htask, -⟩
    · exact hI.renewals x₀ hx₀ taskID v hr t ht (htask.symm.trans hid) htrun y₀ hy₀ n
        (threat_congr htask htype hold)
    · -- nobody works on a task that is still pending
      obtain ⟨-, -, hpending⟩ := isPending_iff.mp hp
      obtain ⟨u, hu, hutask, hne⟩ := hI.started x₀ hx₀ taskID (started_of_renews hr)
      have heq : u = t :=
        List.inj_on_of_nodup_map hI.wf.taskIDs hu ht (hutask.trans (hid.symm.trans htask))
      rw [heq] at hne
      exact absurd hpending hne
  · simp only [systemTaskLockTTL]
    omega

theorem leaseInv_step (hI : LeaseInv c) (hl : c.threads[i]? = some l)
    (h : LeaseStep c.store l stmt l') (hforce : StartsInForce c.store stmt) :
    LeaseInv ⟨c.store.exec stmt, c.threads.set i l'⟩ where
  wf := exec_wellFormed hI.wf stmt
  active := by
    refine oneActive_exec hI.active ?_
    rintro row rfl
    exact create_step h
  alone runner := alone_step hI hl h runner _
  token runner j := token_step hI hl h runner j
  stamps := stamps_step hI (List.mem_of_getElem? hl) h
  reads := reads_kept hI hl h
  started := started_kept hI hl h
  finished := finished_kept hI hl h
  leased := leased_step hI hl h hforce
  renewals := renewals_step hI hl h

theorem LeaseInv.later (hI : LeaseInv c) (elapsed : Nat) :
    LeaseInv ⟨c.store.later elapsed, c.threads⟩ where
  wf := ⟨hI.wf.ids, hI.wf.taskIDs, hI.wf.lockTypes⟩
  active := ⟨hI.active.key, hI.active.unique⟩
  alone := hI.alone
  token := hI.token
  stamps x hx n hn := by
    have hle := hI.stamps x hx n hn
    simp only [SystemTaskDB.later]
    omega
  reads := hI.reads
  started := hI.started
  finished := hI.finished
  leased := hI.leased
  renewals := hI.renewals

/-! ## Runs -/

/-- Where a run starts: tables that the database accepts, each running task
with a lock of its own, and no execution under way. -/
structure LeaseStart (c : Conf SystemTaskDB LeaseExec) : Prop where
  wf : c.store.WellFormed
  active : OneActive c.store
  fresh : ∀ l ∈ c.threads, (∃ runner id type, l = .claim runner id type .enter)
    ∨ l = .expire .start ∨ ∃ id taskID type state, l = .create id taskID type state false
  leased : ∀ t ∈ c.store.tasks, t.status = .running → ∃ lock ∈ c.store.locks,
    lock.type = t.type ∧ lock.taskID = t.taskID ∧ lock.lockedBy = t.lockedBy

theorem leaseInv_start (h : LeaseStart c) : LeaseInv c := by
  have hquiet : ∀ l ∈ c.threads, (∀ r, ¬ InClaim r l) ∧ l.stamp = none
      ∧ (∀ t n, ¬ Threat t n l) ∧ (∀ r id ty tid, ¬ Reads r id ty tid l)
      ∧ (∀ tid, ¬ Started tid l) ∧ ∀ tid, ¬ Finished tid l := by
    intro l hl
    rcases h.fresh l hl with ⟨runner, id, type, rfl⟩ | rfl | ⟨id, taskID, type, state, rfl⟩
    · refine ⟨fun r hr => hr.2.1 rfl, rfl, fun _ _ h => h, ?_, fun _ h => h, fun _ h => h⟩
      rintro r id' ty tid ⟨-, -, -, task, htask, -⟩
      cases htask
    · exact ⟨fun _ h => h, rfl, fun _ _ h => h, fun _ _ _ _ h => h, fun _ h => h, fun _ h => h⟩
    · exact ⟨fun _ h => h, rfl, fun _ _ h => h, fun _ _ _ _ h => h, fun _ h => h, fun _ h => h⟩
  have hnobody : ∀ r j, ¬ Inside (InClaim r) c j := by
    rintro r j ⟨l, hl, hin⟩
    exact (hquiet l (List.mem_of_getElem? hl)).1 r hin
  refine ⟨h.wf, h.active, fun r j _ hj => absurd hj (hnobody r j),
    fun r j hj => absurd hj (hnobody r j), ?_, ?_, ?_, ?_, ?_, ?_⟩
  · intro l hl n hn
    rw [(hquiet l hl).2.1] at hn
    cases hn
  · intro l hl r id ty tid hr
    exact absurd hr ((hquiet l hl).2.2.2.1 r id ty tid)
  · intro l hl tid hs
    exact absurd hs ((hquiet l hl).2.2.2.2.1 tid)
  · intro l hl tid hf
    exact absurd hf ((hquiet l hl).2.2.2.2.2 tid)
  · intro t ht hrun
    obtain ⟨lock, hlock, htype, htask, hby⟩ := h.leased t ht hrun
    exact ⟨lock, hlock, htype, htask, hby, fun l hl n hn => absurd hn ((hquiet l hl).2.2.1 t n)⟩
  · intro l hl tid v hr
    exact absurd (started_of_renews hr) ((hquiet l hl).2.2.2.2.1 tid)

theorem leaseInv_run {c₀ : Conf SystemTaskDB LeaseExec} (h₀ : LeaseStart c₀)
    (hrun : Steps leaseMachine LeaseInForce c₀ c) : LeaseInv c := by
  refine Steps.invariant (leaseInv_start h₀) ?_ hrun
  intro c i e l s' l' hI hok hl hn
  obtain ⟨stmt, hnext, rfl⟩ := leaseMachine_next hn
  have hstep := leaseStep_of_next _ hnext
  refine leaseInv_step (hI.later e.elapsed) hl hstep ?_
  rintro id type runner now rfl t ht hp
  obtain ⟨task, rfl⟩ := setRunning_step hstep
  have hfails : e.fails = false := by
    by_contra hf
    rw [Bool.not_eq_false] at hf
    simp [LeaseExec.next, claimSystemTask, hf] at hnext
  obtain ⟨lock, hlock, htype, htask, hby, huntil⟩ :=
    hok runner id type task now hl hfails (List.any_eq_true.mpr ⟨t, ht, hp⟩)
  -- the row the statement starts is the row the claim has read
  obtain ⟨u, hu, huid, -, hutask, -⟩ := hI.reads _ (List.mem_of_getElem? hl) runner id type
    task.taskID ⟨rfl, rfl, rfl, task, rfl, rfl⟩
  obtain ⟨htid, -, -⟩ := isPending_iff.mp hp
  have heq : t = u := List.inj_on_of_nodup_map hI.wf.ids ht hu (htid.trans huid.symm)
  exact ⟨lock, hlock, htype, by rw [htask, heq, hutask], hby, huntil⟩

/-- In every run in which a task is started only while the lease its claim
acquired is in force, every running task is named by the lock of its type. -/
theorem running_task_locked {c₀ : Conf SystemTaskDB LeaseExec} (h₀ : LeaseStart c₀)
    (hrun : Steps leaseMachine LeaseInForce c₀ c) :
    ∀ t ∈ c.store.tasks, t.status = .running →
      ∃ lock ∈ c.store.locks, lock.type = t.type ∧ lock.taskID = t.taskID := by
  intro t ht hrunning
  obtain ⟨lock, hlock, htype, htask, -⟩ := (leaseInv_run h₀ hrun).leased t ht hrunning
  exact ⟨lock, hlock, htype, htask⟩

/-- `LeaseInForce`, computed. -/
def startsInForce (s : SystemTaskDB) (e : LeaseTick) : Option LeaseExec → Bool
  | some (.claim runner id type (.setRunning task _)) =>
    e.fails || !s.tasks.any (SystemTaskDB.isPending id type) || s.locks.any fun lock =>
      lock.type == type && lock.taskID == task.taskID && lock.lockedBy == runner
        && decide (s.clock + e.elapsed ≤ lock.lockedUntil)
  | _ => true

theorem startsInForce_iff (c : Conf SystemTaskDB LeaseExec) (i : Nat) (e : LeaseTick) :
    startsInForce c.store e c.threads[i]? = true ↔ LeaseInForce c i e := by
  unfold LeaseInForce
  generalize c.threads[i]? = l
  constructor
  · rintro h runner id type task now rfl hfails hpending
    simpa [startsInForce, hfails, hpending, and_assoc] using h
  · intro h
    unfold startsInForce
    split
    · rename_i runner id type task now
      by_cases hgo : e.fails = false ∧ c.store.tasks.any (SystemTaskDB.isPending id type) = true
      · simpa [hgo.1, hgo.2, and_assoc] using h runner id type task now rfl hgo.1 hgo.2
      · rcases not_and_or.mp hgo with hf | hp
        · rw [Bool.not_eq_false] at hf
          simp [hf]
        · rw [Bool.not_eq_true] at hp
          simp [hp]
    · rfl

instance (c : Conf SystemTaskDB LeaseExec) (i : Nat) (e : LeaseTick) :
    Decidable (LeaseInForce c i e) :=
  decidable_of_iff _ (startsInForce_iff c i e)

end

end

/-! ## A task that nobody can recover -/

/-- A step that succeeds after so many seconds. -/
def after (elapsed : Nat) : LeaseTick := ⟨elapsed, false, false, .updateState "null"⟩

/-- Two runners that claim the pending task of `onePending`. -/
def twoClaims : Sched.Conf SystemTaskDB LeaseExec :=
  ⟨onePending, [.claim "node-a" 1 "log_cleanup" .enter, .claim "node-b" 1 "log_cleanup" .enter]⟩

/-- The witness of `running_task_locked`: the first runner claims the task in
time, and its lock is there. -/
theorem running_task_locked_claimed :
    ∃ c, Sched.Steps leaseMachine LeaseInForce twoClaims c
      ∧ (∃ t ∈ c.store.tasks, t.status = .running)
      ∧ ∀ t ∈ c.store.tasks, t.status = .running →
          ∃ lock ∈ c.store.locks, lock.type = t.type ∧ lock.taskID = t.taskID := by
  have hstart : LeaseStart twoClaims := by
    refine ⟨⟨by decide, by decide, by decide⟩, ⟨by decide, by decide⟩, ?_, by decide⟩
    intro l hl
    simp only [twoClaims, List.mem_cons, List.not_mem_nil, or_false] at hl
    rcases hl with rfl | rfl
    · exact Or.inl ⟨_, _, _, rfl⟩
    · exact Or.inl ⟨_, _, _, rfl⟩
  exact Sched.exists_of_run_and (List.replicate 5 (0, after 1)) (by decide)
    fun c hrun _ => running_task_locked hstart hrun

/-- The first runner acquires the lock and stops for longer than the lease; the
second takes the lock over; the first starts the task; the second finds the task
no longer pending and releases the lock. No statement failed, the task runs,
and no lock is left. -/
theorem running_task_without_lock :
    ∃ c, Sched.Steps leaseMachine Sched.free twoClaims c
      ∧ ∃ t ∈ c.store.tasks, t.status = .running ∧ c.store.locks = [] :=
  Sched.exists_of_run (List.replicate 4 (0, after 1) ++ (1, after 100) ::
    List.replicate 5 (1, after 1) ++ [(0, after 1), (1, after 1), (1, after 1)]) (by decide)

end YouBox
