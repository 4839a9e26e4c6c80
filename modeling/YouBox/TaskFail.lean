import YouBox.TaskPoll

/-!
# Failures and their refunds

Who turns a task to FAILURE and who gives its quota back. The sweep, the video
poller and the webhook refund after their write, the Suno poller before it; the
two bulk failures of a polling pass and the realtime fetch do not refund at
all. Once the row is FAILURE no poll reads it again, so what these three leave
unrefunded stays so.

`Paired` says that a logged failure was legacy, free of charge, refunded by the
execution that made it, or is about to be. Every step keeps it unless it is one
of the three and turns a charged task to FAILURE (`PairsFailures` is the
condition that it does not), and so every FAILURE row of the table has a
refund to go with it (`failures_refunded`).
-/

namespace YouBox

def Refunded (s : TaskDB) (f : Failure) : Prop :=
  ⟨f.exec, f.row.id, .refund, f.row.quota, true⟩ ∈ s.bills

/-- On its way to refund what it turned to FAILURE. -/
def PollExec.Refunds (l : PollExec) (f : Failure) : Prop :=
  l.exec = f.exec ∧
    match l.pc with
    | .sweepRefund t _ => t.id = f.row.id ∧ t.quota = f.row.quota
    | .videoSettle u => u.shouldRefund = true ∧ u.task.id = f.row.id ∧ u.task.quota = f.row.quota
    | .videoRefund u => u.shouldRefund = true ∧ u.task.id = f.row.id ∧ u.task.quota = f.row.quota
    | .meshyRefund t => t.id = f.row.id ∧ t.quota = f.row.quota
    | _ => False

def Paired (c : Sched.Conf TaskDB PollExec) (f : Failure) : Prop :=
  f.row.isLegacy = true ∨ f.row.quota = 0 ∨ Refunded c.store f ∨ ∃ l ∈ c.threads, l.Refunds f

/-- What the next statement of an execution turns to FAILURE for good: the
executions that never refund. -/
def PollExec.unpaired (l : PollExec) (tasks : List Task) : List Task :=
  match l.pc with
  | .bulkFail ids _ => bulkVictims ids tasks
  | .realtimeWrite snap t =>
    if t.status = .failure ∧ snap.status ≠ .failure
        ∧ (findTask tasks t.id).any (fun r => decide (r.status = snap.status))
    then [t] else []
  | _ => []

/-- No database error, and no charged task turned to FAILURE by an execution
that does not refund. -/
def PairsFailures : Sched.Guard TaskDB PollExec PollTick := fun c i tick =>
  tick.fails = false ∧ ∀ l ∈ c.threads[i]?, ∀ t ∈ l.unpaired c.store.tasks,
    t.isLegacy = true ∨ t.quota = 0

instance (c : Sched.Conf TaskDB PollExec) (i : Nat) (tick : PollTick) :
    Decidable (PairsFailures c i tick) :=
  inferInstanceAs (Decidable (_ ∧ _))

/-! ## One step -/

/-- What the control state promises about the billing to come and the billing
done: the video poller refunds a charged failure, the Suno poller has. -/
def Sound (s : TaskDB) (l : PollExec) : Prop :=
  match l.pc with
  | .videoWrite _ u => u.shouldRefund = decide (u.task.status = .failure ∧ u.task.quota ≠ 0)
  | .sunoSave t _ _ => t.status = .failure → t.quota = 0 ∨ Refunded s ⟨l.exec, t⟩
  | _ => True

/-- The failures a step adds, and the refunds it owes and makes. -/
structure FailStep (s : TaskDB) (l : PollExec) (s' : TaskDB) (l' : PollExec) : Prop where
  exec : l'.exec = l.exec
  bills : ∀ b ∈ s.bills, b ∈ s'.bills
  failures : ∀ f ∈ s.failures, f ∈ s'.failures
  failed : ∀ f ∈ s'.failures, f ∈ s.failures ∨ f.row.isLegacy = true ∨ f.row.quota = 0
    ∨ Refunded s' f ∨ l'.Refunds f
  pays : ∀ f, l.Refunds f → f.row.quota = 0 ∨ Refunded s' f ∨ l'.Refunds f
  logged : ∀ id t, findTask s'.tasks id = some t → t.status = .failure →
    (∃ r, findTask s.tasks id = some r ∧ r.status = .failure) ∨ ∃ f ∈ s'.failures, f.row.id = id
  sound : Sound s' l'

variable {s s' : TaskDB} {u : VideoUpdate}

section Kinds

variable {s : TaskDB} {l l' : PollExec}

theorem FailStep.quiet (hexec : l'.exec = l.exec) (hpays : ∀ f, l.Refunds f → l'.Refunds f)
    (hsound : Sound s l') : FailStep s l s l' where
  exec := hexec
  bills := fun _ hb => hb
  failures := fun _ hf => hf
  failed := fun _ hf => Or.inl hf
  pays := fun f hf => Or.inr (Or.inr (hpays f hf))
  logged := fun _ t ht hfail => Or.inl ⟨t, ht, hfail⟩
  sound := hsound

variable {exec : Nat} {t : Task} {fails : Bool}

variable {f : Failure} {adjusted byTokens : Int} {id : Nat}

theorem mem_write_failures :
    f ∈ (s.write exec t).failures → f ∈ s.failures ∨ (f = ⟨exec, t⟩ ∧ t.status = .failure
      ∧ (findTask s.tasks t.id).all (fun r => decide (r.status ≠ .failure)) = true) := by
  intro hf
  simp only [TaskDB.write] at hf
  split at hf
  · rename_i hnew
    rcases List.mem_cons.mp hf with heq | hmem
    · exact Or.inr ⟨heq, hnew⟩
    · exact Or.inl hmem
  · exact Or.inl hf

theorem write_failures_mono (hf : f ∈ s.failures) : f ∈ (s.write exec t).failures := by
  simp only [TaskDB.write]
  split
  · exact List.mem_cons_of_mem _ hf
  · exact hf

theorem write_logged {x : Task} (hx : findTask (s.write exec t).tasks id = some x)
    (hfail : x.status = .failure) :
    (∃ r, findTask s.tasks id = some r ∧ r.status = .failure)
      ∨ ∃ f ∈ (s.write exec t).failures, f.row.id = id := by
  simp only [TaskDB.write, findTask_writeTask, Option.map_eq_some_iff] at hx
  obtain ⟨r, hr, hx⟩ := hx
  have hrid : r.id = id := findTask_id hr
  by_cases hid : r.id = t.id
  · rw [if_pos hid] at hx
    subst hx
    by_cases hwas : r.status = .failure
    · exact Or.inl ⟨r, hr, hwas⟩
    · refine Or.inr ⟨⟨exec, t⟩, ?_, hid.symm.trans hrid⟩
      have hfind : findTask s.tasks t.id = some r := by rw [← hid, hrid]; exact hr
      simp [TaskDB.write, hfail, hfind, hwas]
  · rw [if_neg hid] at hx
    subst hx
    exact Or.inl ⟨r, hr, hfail⟩

theorem FailStep.write {t : Task} (hexec : l'.exec = l.exec)
    (hpaired : t.status = .failure →
      (findTask s.tasks t.id).all (fun r => decide (r.status ≠ .failure)) = true →
      t.isLegacy = true ∨ t.quota = 0 ∨ Refunded s ⟨l.exec, t⟩ ∨ l'.Refunds ⟨l.exec, t⟩)
    (hpays : ∀ f, ¬ l.Refunds f) (hsound : Sound (s.write l.exec t) l') :
    FailStep s l (s.write l.exec t) l' where
  exec := hexec
  bills := fun _ hb => hb
  failures := fun _ hf => write_failures_mono hf
  failed := by
    intro f hf
    rcases mem_write_failures hf with hmem | ⟨rfl, hfail, hnew⟩
    · exact Or.inl hmem
    · exact Or.inr (hpaired hfail hnew)
  pays := fun f hf => absurd hf (hpays f)
  logged := fun _ _ hx hfail => write_logged hx hfail
  sound := hsound

theorem refundTaskQuota_bills {b : Bill} (hb : b ∈ s.bills) :
    b ∈ (s.refundTaskQuota exec t fails).bills := by
  unfold TaskDB.refundTaskQuota
  split
  · exact hb
  · exact List.mem_cons_of_mem _ hb

theorem refundTaskQuota_refunded {exec : Nat} {t : Task} (hquota : t.quota ≠ 0) :
    Refunded (s.refundTaskQuota exec t false) ⟨exec, t⟩ := by
  unfold Refunded TaskDB.refundTaskQuota
  rw [if_neg hquota]
  exact List.mem_cons_self

theorem refundTaskQuota_frame :
    (s.refundTaskQuota exec t fails).tasks = s.tasks
      ∧ (s.refundTaskQuota exec t fails).failures = s.failures := by
  unfold TaskDB.refundTaskQuota
  split <;> exact ⟨rfl, rfl⟩

theorem FailStep.refund (hexec : l'.exec = l.exec)
    (hpays : ∀ f, l.Refunds f → l.exec = f.exec ∧ t.id = f.row.id ∧ t.quota = f.row.quota)
    (hsound : Sound (s.refundTaskQuota l.exec t false) l') :
    FailStep s l (s.refundTaskQuota l.exec t false) l' where
  exec := hexec
  bills := fun _ hb => refundTaskQuota_bills hb
  failures := fun f hf => by rw [refundTaskQuota_frame.2]; exact hf
  failed := fun f hf => Or.inl (by rw [refundTaskQuota_frame.2] at hf; exact hf)
  pays := by
    intro f hf
    obtain ⟨hx, hid, hquota⟩ := hpays f hf
    by_cases hz : f.row.quota = 0
    · exact Or.inl hz
    · refine Or.inr (Or.inl ?_)
      have hdone := @refundTaskQuota_refunded s l.exec t (by rw [hquota]; exact hz)
      unfold Refunded at hdone ⊢
      rw [← hx, ← hid, ← hquota]
      exact hdone
  logged := by
    intro id x hx hfail
    rw [refundTaskQuota_frame.1] at hx
    exact Or.inl ⟨x, hx, hfail⟩
  sound := hsound

theorem settle_logged {x : Task}
    (hx : findTask (s.settle exec u adjusted byTokens fails).tasks id = some x) :
    ∃ r, findTask s.tasks id = some r ∧ r.status = x.status := by
  have hupdated : ∀ quota : Int, findTask (updateQuota s.tasks u.task.id quota) id = some x →
      ∃ r, findTask s.tasks id = some r ∧ r.status = x.status := by
    intro quota hq
    simp only [findTask_updateQuota, Option.map_eq_some_iff] at hq
    obtain ⟨r, hr, hx⟩ := hq
    refine ⟨r, hr, ?_⟩
    rw [← hx]
    split <;> rfl
  simp only [TaskDB.settle] at hx
  split at hx
  · exact ⟨x, hx, rfl⟩
  · split at hx
    · exact ⟨x, hx, rfl⟩
    · exact hupdated _ hx

theorem FailStep.settle (hexec : l'.exec = l.exec) (hpays : ∀ f, l.Refunds f → l'.Refunds f)
    (hsound : Sound (s.settle l.exec u adjusted byTokens false) l') :
    FailStep s l (s.settle l.exec u adjusted byTokens false) l' where
  exec := hexec
  bills := fun _ hb => List.mem_cons_of_mem _ hb
  failures := fun _ hf => hf
  failed := fun _ hf => Or.inl hf
  pays := fun f hf => Or.inr (Or.inr (hpays f hf))
  logged := by
    intro id x hx hfail
    obtain ⟨r, hr, hstatus⟩ := settle_logged hx
    exact Or.inl ⟨r, hr, hstatus.trans hfail⟩
  sound := hsound

theorem FailStep.bulk {ids : List Nat} {reason : Option String} (hexec : l'.exec = l.exec)
    (hfree : ∀ t ∈ bulkVictims ids s.tasks, t.isLegacy = true ∨ t.quota = 0)
    (hpays : ∀ f, ¬ l.Refunds f) (hsound : Sound (s.bulkFail l.exec ids reason) l') :
    FailStep s l (s.bulkFail l.exec ids reason) l' where
  exec := hexec
  bills := fun _ hb => hb
  failures := fun _ hf => List.mem_append_right _ hf
  failed := by
    intro f hf
    rcases List.mem_append.mp hf with hnew | hmem
    · obtain ⟨t, ht, rfl⟩ := List.mem_map.mp hnew
      rcases hfree t ht with hlegacy | hzero
      · exact Or.inr (Or.inl hlegacy)
      · exact Or.inr (Or.inr (Or.inl hzero))
    · exact Or.inl hmem
  pays := fun f hf => absurd hf (hpays f)
  logged := by
    intro id x hx hfail
    simp only [TaskDB.bulkFail, findTask_bulk, Option.map_eq_some_iff] at hx
    obtain ⟨r, hr, hx⟩ := hx
    by_cases hwas : r.status = .failure
    · exact Or.inl ⟨r, hr, hwas⟩
    · by_cases hin : r.id ∈ ids
      · have hid : r.id = id := findTask_id hr
        refine Or.inr ⟨⟨l.exec, r.bulkFailed reason⟩, List.mem_append_left _ ?_, hid⟩
        refine List.mem_map.mpr ⟨r, ?_, rfl⟩
        exact List.mem_filter.mpr ⟨findTask_mem hr, decide_eq_true ⟨hin, hwas⟩⟩
      · rw [if_neg hin] at hx
        subst hx
        exact absurd hfail hwas
  sound := hsound

end Kinds

variable {exec : Nat} {call : PollCall}

theorem writeVideo_refunds {snap : Task}
    (hsound : u.shouldRefund = decide (u.task.status = .failure ∧ u.task.quota ≠ 0)) :
    FailStep s ⟨exec, call, .videoWrite snap u⟩ (writeVideo s exec false snap u).1
      ⟨exec, call, .videoSettle (writeVideo s exec false snap u).2⟩ := by
  have hnone : ∀ f, ¬ PollExec.Refunds ⟨exec, call, .videoWrite snap u⟩ f := fun f hf => hf.2
  have hquiet : ∀ u', FailStep s ⟨exec, call, .videoWrite snap u⟩ s
      ⟨exec, call, .videoSettle u'⟩ := fun u' =>
    .quiet rfl (fun f hf => absurd hf (hnone f)) trivial
  unfold writeVideo
  split
  · simp only [Bool.false_eq_true, if_false]
    split
    · exact hquiet _
    · refine .write rfl ?_ hnone trivial
      intro hfail _
      by_cases hz : u.task.quota = 0
      · exact Or.inr (Or.inl hz)
      · refine Or.inr (Or.inr (Or.inr ⟨rfl, ?_, rfl, rfl⟩))
        rw [hsound]
        exact decide_eq_true ⟨hfail, hz⟩
  · rename_i hcond
    split
    · exact hquiet _
    simp only [Bool.false_eq_true, if_false]
    split
    · exact hquiet _
    · rename_i tasks' hwon
      refine .write rfl ?_ hnone trivial
      -- not a transition: the row the write replaces is FAILURE already
      intro hfail hnew
      obtain ⟨r, hr, hstatus, -⟩ := updateWithStatus_some hwon
      have hsame : snap.status = u.task.status := by
        by_contra hne
        exact hcond ⟨by rw [hfail]; rfl, hne⟩
      rw [hr] at hnew
      simp [hstatus, hsame, hfail] at hnew

theorem sunoLoop_refunds {t : Task} {item : SunoDataResponse} {items : List SunoDataResponse}
    {taskM : List Task} :
    FailStep s ⟨exec, call, .sunoLoop (item :: items) taskM⟩
      (if t.sunoFailed item then s.refundTaskQuota exec (updateSuno t item) false else s)
      ⟨exec, call, .sunoSave (updateSuno t item) items (writeTask taskM (updateSuno t item))⟩ := by
  have hnone : ∀ f, ¬ PollExec.Refunds ⟨exec, call, .sunoLoop (item :: items) taskM⟩ f :=
    fun f hf => hf.2
  by_cases hfailed : t.sunoFailed item = true
  · rw [if_pos hfailed]
    refine .refund rfl (fun f hf => absurd hf (hnone f)) ?_
    intro _
    by_cases hz : (updateSuno t item).quota = 0
    · exact Or.inl hz
    · exact Or.inr (refundTaskQuota_refunded hz)
  · rw [if_neg hfailed]
    refine .quiet rfl (fun f hf => absurd hf (hnone f)) ?_
    intro hfail
    have hstatus : (t.withSuno item).status = .failure := hfail
    exact absurd (decide_eq_true (Or.inr hstatus)) hfailed

theorem begin_sound (env : TaskEnv) (now : Int) :
    Sound s ⟨exec, call, call.begin env now s.tasks⟩ := by
  cases call <;> simp only [PollCall.begin]
  all_goals
    repeat' split
    all_goals trivial

variable {tick : PollTick} {env : TaskEnv}

theorem failStep {pc pc' : PollPc} (hfails : tick.fails = false)
    (hfree : ∀ t ∈ PollExec.unpaired ⟨exec, call, pc⟩ s.tasks, t.isLegacy = true ∨ t.quota = 0)
    (hsound : Sound s ⟨exec, call, pc⟩) (h : pc.next call exec env tick s = some (s', pc')) :
    FailStep s ⟨exec, call, pc⟩ s' ⟨exec, call, pc'⟩ := by
  cases pc with
  | start =>
    cases h
    rw [hfails]
    exact .quiet rfl (fun f hf => hf.2.elim) (begin_sound env tick.now)
  | sweepLoop todo =>
    cases todo with
    | nil =>
      cases h
      exact .quiet rfl (fun f hf => hf.2.elim) trivial
    | cons t todo =>
      simp only [PollPc.next, hfails, Bool.false_eq_true, if_false] at h
      split at h
      · cases h
        exact .quiet rfl (fun f hf => hf.2.elim) trivial
      · cases h
        refine .write rfl (fun _ _ => ?_) (fun f hf => hf.2) (by split <;> trivial)
        by_cases hlegacy : t.isLegacy = true
        · exact Or.inl hlegacy
        by_cases hz : t.quota = 0
        · exact Or.inr (Or.inl hz)
        refine Or.inr (Or.inr (Or.inr ?_))
        rw [if_pos (by simp [hlegacy, hz])]
        exact ⟨rfl, rfl, rfl⟩
  | sweepRefund t todo =>
    cases h
    rw [hfails]
    exact .refund rfl (fun f hf => hf) trivial
  | videoFetch t =>
    simp only [PollPc.next] at h
    split at h
    · split at h
      · cases h
        exact .quiet rfl (fun f hf => hf.2.elim) trivial
      · rename_i u hu
        cases h
        exact .quiet rfl (fun f hf => hf.2.elim) (updateVideo_some hu).2.2.2.2
    · cases h
      exact .quiet rfl (fun f hf => hf.2.elim) trivial
  | videoWrite snap u =>
    cases h
    rw [hfails]
    exact writeVideo_refunds hsound
  | videoSettle u =>
    simp only [PollPc.next, hfails] at h
    split at h
    · split at h
      · cases h
        exact .settle rfl (fun f hf => hf) trivial
      · cases h
        exact .settle rfl (fun f hf => hf) trivial
    · cases h
      exact .quiet rfl (fun f hf => hf) trivial
  | videoRefund u =>
    cases h
    rw [hfails]
    by_cases hr : u.shouldRefund = true
    · rw [if_pos hr]
      exact .refund rfl (fun f hf => ⟨hf.1, hf.2.2⟩) trivial
    · rw [if_neg hr]
      exact .quiet rfl (fun f hf => absurd hf.2.1 hr) trivial
  | meshyWrite oldStatus t =>
    simp only [PollPc.next, hfails, Bool.false_eq_true, if_false] at h
    split at h
    · cases h
      exact .quiet rfl (fun f hf => hf.2.elim) trivial
    · cases h
      refine .write rfl (fun hfail _ => ?_) (fun f hf => hf.2) (by split <;> trivial)
      by_cases hz : t.quota = 0
      · exact Or.inr (Or.inl hz)
      · rw [if_pos ⟨hfail, hz⟩]
        exact Or.inr (Or.inr (Or.inr ⟨rfl, rfl, rfl⟩))
  | meshyRefund t =>
    cases h
    rw [hfails]
    exact .refund rfl (fun f hf => hf) trivial
  | bulkFail ids reason =>
    cases h
    rw [hfails]
    exact .bulk rfl hfree (fun f hf => hf.2) trivial
  | sunoFetch taskM =>
    simp only [PollPc.next] at h
    split at h
    · cases h
      exact .quiet rfl (fun f hf => hf.2.elim) trivial
    · cases h
      exact .quiet rfl (fun f hf => hf.2.elim) trivial
  | sunoLoop items taskM =>
    cases items with
    | nil =>
      cases h
      exact .quiet rfl (fun f hf => hf.2.elim) trivial
    | cons item items =>
      simp only [PollPc.next] at h
      split at h
      · cases h
        exact .quiet rfl (fun f hf => hf.2.elim) trivial
      split at h
      · cases h
        rw [hfails]
        exact sunoLoop_refunds
      · cases h
        exact .quiet rfl (fun f hf => hf.2.elim) trivial
  | sunoSave t items taskM =>
    cases h
    rw [hfails]
    refine .write rfl (fun hfail _ => ?_) (fun f hf => hf.2) trivial
    rcases hsound hfail with hz | hdone
    · exact Or.inr (Or.inl hz)
    · exact Or.inr (Or.inr (Or.inl hdone))
  | realtimeFetch t =>
    simp only [PollPc.next] at h
    split at h
    · cases h
      exact .quiet rfl (fun f hf => hf.2.elim) trivial
    · cases h
      exact .quiet rfl (fun f hf => hf.2.elim) trivial
  | realtimeWrite snap t =>
    simp only [PollPc.next] at h
    split at h
    · cases h
      exact .quiet rfl (fun f hf => hf.2.elim) trivial
    split at h
    · cases h
      exact .quiet rfl (fun f hf => hf.2.elim) trivial
    · rename_i tasks' hwon
      cases h
      refine .write rfl (fun hfail hnew => ?_) (fun f hf => hf.2) trivial
      obtain ⟨r, hr, hstatus, -⟩ := updateWithStatus_some hwon
      rw [hr] at hnew
      have hne : snap.status ≠ .failure := by rw [← hstatus]; simpa using hnew
      have hvictim : t ∈ PollExec.unpaired ⟨exec, call, .realtimeWrite snap t⟩ s.tasks := by
        simp [PollExec.unpaired, hfail, hne, hr, hstatus]
      rcases hfree t hvictim with hlegacy | hz
      · exact Or.inl hlegacy
      · exact Or.inr (Or.inl hz)
  | ended => cases h

/-! ## Runs -/

/-- Every logged failure is paired, and every FAILURE row has a logged one. -/
structure FailInv (c : Sched.Conf TaskDB PollExec) : Prop where
  sound : ∀ l ∈ c.threads, Sound c.store l
  paired : ∀ f ∈ c.store.failures, Paired c f
  logged : ∀ id t, findTask c.store.tasks id = some t → t.status = .failure →
    ∃ f ∈ c.store.failures, f.row.id = id

variable {l : PollExec}

theorem Sound.mono (h : Sound s l) (hbills : ∀ b ∈ s.bills, b ∈ s'.bills) : Sound s' l := by
  obtain ⟨exec, call, pc⟩ := l
  cases pc with
  | sunoSave t items taskM =>
    intro hfail
    rcases h hfail with hz | hdone
    · exact Or.inl hz
    · exact Or.inr (hbills _ hdone)
  | videoWrite snap u => exact h
  | _ => trivial

theorem FailInv.step {c : Sched.Conf TaskDB PollExec} {i : Nat} {l' : PollExec} (hinv : FailInv c)
    (hok : PairsFailures c i tick) (hl : c.threads[i]? = some l)
    (hn : (taskMachine env).next tick c.store l = some (s', l')) :
    FailInv ⟨s', c.threads.set i l'⟩ := by
  have hmem : l ∈ c.threads := List.mem_of_getElem? hl
  obtain ⟨hr, hl'⟩ := taskMachine_next hn
  have hstep : FailStep c.store l s' l' := by
    rw [hl']
    exact failStep hok.1 (hok.2 l hl) (hinv.sound l hmem) hr
  -- the mover is in the list after the step
  have hmoved : l' ∈ c.threads.set i l' := List.mem_set (List.getElem?_eq_some_iff.mp hl).1 _
  refine ⟨?_, ?_, ?_⟩
  · refine Sched.forall_threads_set (fun l hl => ?_) hstep.sound
    exact (hinv.sound l hl).mono hstep.bills
  · intro f hf
    rcases hstep.failed f hf with hold | hlegacy | hz | hdone | howed
    · -- an old failure: its refund was made, or was owed by someone
      rcases hinv.paired f hold with hlegacy | hz | hdone | ⟨x, hx, howed⟩
      · exact Or.inl hlegacy
      · exact Or.inr (Or.inl hz)
      · exact Or.inr (Or.inr (Or.inl (hstep.bills _ hdone)))
      · obtain ⟨j, hj⟩ := List.mem_iff_getElem?.mp hx
        by_cases hji : j = i
        · subst hji
          obtain rfl : l = x := Option.some.inj (hl.symm.trans hj)
          rcases hstep.pays f howed with hz | hdone | howed
          · exact Or.inr (Or.inl hz)
          · exact Or.inr (Or.inr (Or.inl hdone))
          · exact Or.inr (Or.inr (Or.inr ⟨_, hmoved, howed⟩))
        · have hkept : (c.threads.set i l')[j]? = some x := by
            rw [List.getElem?_set_ne (Ne.symm hji)]
            exact hj
          exact Or.inr (Or.inr (Or.inr ⟨x, List.mem_of_getElem? hkept, howed⟩))
    · exact Or.inl hlegacy
    · exact Or.inr (Or.inl hz)
    · exact Or.inr (Or.inr (Or.inl hdone))
    · exact Or.inr (Or.inr (Or.inr ⟨_, hmoved, howed⟩))
  · intro id t ht hfail
    rcases hstep.logged id t ht hfail with ⟨r, hr', hfail'⟩ | hnew
    · obtain ⟨f, hf, hid⟩ := hinv.logged id r hr' hfail'
      exact ⟨f, hstep.failures f hf, hid⟩
    · exact hnew

/-- **No failure is left unrefunded**: in every run without a database error in
which the bulk failures and the realtime fetch fail no charged task, the last
execution that turned a FAILURE row to FAILURE found it legacy or free of
charge, has refunded its quota, or is about to. -/
theorem failures_refunded {env : TaskEnv} {tasks : List Task} {calls : List PollCall}
    {c : Sched.Conf TaskDB PollExec} (hfresh : ∀ t ∈ tasks, t.status ≠ .failure)
    (hrun : Sched.Steps (taskMachine env) PairsFailures (pollStart tasks calls) c)
    {id : Nat} {t : Task} (hrow : findTask c.store.tasks id = some t)
    (hfail : t.status = .failure) :
    ∃ f, c.store.failures.find? (fun f => decide (f.row.id = id)) = some f ∧ Paired c f := by
  have h₀ : FailInv (pollStart tasks calls) := by
    refine ⟨fun l hl => ?_, fun f hf => absurd hf List.not_mem_nil, fun id t ht hfail => ?_⟩
    · unfold Sound
      rw [(pollStart_threads hl).1]
      trivial
    · exact absurd hfail (hfresh t (findTask_mem ht))
  have hinv : FailInv c := Sched.Steps.invariant h₀ (fun hI hok hl hn => hI.step hok hl hn) hrun
  obtain ⟨f, hf, hid⟩ := hinv.logged id t hrow hfail
  have hsome : (c.store.failures.find? fun f => decide (f.row.id = id)).isSome = true :=
    List.find?_isSome.mpr ⟨f, hf, decide_eq_true hid⟩
  obtain ⟨g, hg⟩ := Option.isSome_iff_exists.mp hsome
  exact ⟨g, hg, hinv.paired g (List.mem_of_find?_eq_some hg)⟩

/-! The task of the race, with a Gemini channel. -/

def geminiTask : Task := { meshyTask with platform := .other "24" }

/-- Timed out by the sweep while a client looks at it. -/
theorem failures_refunded_after_timeout :
    ∃ c, Sched.Steps (taskMachine pollEnv) PairsFailures
        (pollStart [geminiTask] [.sweepTimedOutTasks, .tryRealtimeFetch 7 "task_a"]) c
      ∧ c.store.bills = [⟨0, 1, .refund, 100, true⟩]
      ∧ ∃ f, c.store.failures.find? (fun f => decide (f.row.id = 1)) = some f ∧ Paired c f := by
  have hrun : ∃ c, Sched.Steps (taskMachine pollEnv) PairsFailures
        (pollStart [geminiTask] [.sweepTimedOutTasks, .tryRealtimeFetch 7 "task_a"]) c
      ∧ c.store.bills = [⟨0, 1, .refund, 100, true⟩]
      ∧ ∃ t ∈ findTask c.store.tasks 1, t.status = .failure := Sched.exists_of_run
    [(0, at200000 .silent), (1, at200000 .silent), (0, at200000 .silent),
      (1, at200000 (.realtime meshyFailed)), (0, at200000 .silent), (1, at200000 .silent)]
    (by decide)
  obtain ⟨c, hc, hbills, t, ht, hfail⟩ := hrun
  exact ⟨c, hc, hbills, failures_refunded (by decide) hc ht hfail⟩

/-- Nothing is ever wrong with the database. -/
def noDbError : Sched.Guard TaskDB PollExec PollTick := fun _ _ tick => tick.fails = false

instance (c : Sched.Conf TaskDB PollExec) (i : Nat) (tick : PollTick) :
    Decidable (noDbError c i tick) :=
  inferInstanceAs (Decidable (_ = _))

/-- A channel that is gone, and a realtime fetch that sees the failure first:
the task is FAILURE, its 100 are not refunded, and everybody is done. -/
theorem failure_unrefunded :
    (∃ c, Sched.Steps (taskMachine pollEnv) noDbError
        (pollStart [meshyTask] [.lostChannel .meshy 2]) c
      ∧ (∀ l ∈ c.threads, l.pc = .ended) ∧ c.store.bills = []
      ∧ ∃ t, findTask c.store.tasks 1 = some t ∧ t.status = .failure ∧ t.isLegacy = false
        ∧ t.quota = 100)
    ∧ ∃ c, Sched.Steps (taskMachine pollEnv) noDbError
        (pollStart [geminiTask] [.tryRealtimeFetch 7 "task_a", .updateVideoSingleTask 1]) c
      ∧ (∀ l ∈ c.threads, l.pc = .ended) ∧ c.store.bills = []
      ∧ ∃ t, findTask c.store.tasks 1 = some t ∧ t.status = .failure ∧ t.isLegacy = false
        ∧ t.quota = 100 := by
  constructor
  · exact Sched.exists_of_run [(0, at200000 .silent), (0, at200000 .silent)] (by decide)
  · exact Sched.exists_of_run [(0, at200000 .silent), (0, at200000 (.realtime meshyFailed)),
      (0, at200000 .silent), (1, at200000 .silent)] (by decide)

end YouBox
