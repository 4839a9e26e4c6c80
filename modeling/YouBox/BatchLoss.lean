import YouBox.Batch

/-!
# A flush whose statements fail

`batchUpdate` logs an error of a row write and goes on: the entry is out of the map already
and nobody puts it back. Here every statement of the batched run may fail, those of the
operations that write at once among them, and each execution remembers what its failed
statements would have written.

That is all that is lost (`lost_by_failed`): a failure does not disturb the entries around
it, so for every column of every row the failed entries make up exactly the difference to
the same operations without batching.
-/

namespace YouBox.BatchLoss

/-- What the next statement of an execution writes, if it is a row write. -/
def writes (pick : Nat) : BatchExec → List (BatchType × Nat × Int)
  | .op op .start => if !op.refused && op.direct then op.records else []
  | .op _ _ => []
  | .flush (.tokens todo _) =>
    match todo[pick]? with
    | some (id, value) => [(.tokenQuota, id, value)]
    | none => []
  | .flush (.channels todo _) =>
    match todo[pick]? with
    | some (id, value) => [(.channelUsedQuota, id, value)]
    | none => []
  | .flush (.users todo taken) =>
    match todo[pick]? with
    | some id =>
      [(.userQuota, id, (taken .userQuota).get id), (.usedQuota, id, (taken .usedQuota).get id),
        (.requestCount, id, (taken .requestCount).get id)]
    | none => []
  | .flush _ => []

/-- An execution, and what its failed statements would have written. -/
structure Exec where
  exec : BatchExec
  failed : List (BatchType × Nat × Int)

/-- A step with the answer of the database: a statement that fails writes nothing. -/
def failingMachine : Sched.Machine BatchDB Exec (Nat × Bool) where
  next e s l := (batchMachine.next e.1 s l.exec).map fun r =>
    if e.2 then ({ r.1 with rows := s.rows }, ⟨r.2, l.failed ++ writes e.1 l.exec⟩)
    else (r.1, ⟨r.2, l.failed⟩)

def failingStart (rows : QuotaRows) (ops : List QuotaOp) (flushes : Nat) :
    Sched.Conf BatchDB Exec :=
  ⟨(batchStart rows ops flushes).store, (batchStart rows ops flushes).threads.map (⟨·, []⟩)⟩

variable {s s' : BatchDB} {l l' : BatchExec} {pick : Nat} {c : Sched.Conf BatchDB Exec}

theorem recordSum_append (k : BatchType) (j : Nat) (xs ys : List (BatchType × Nat × Int)) :
    recordSum k j (xs ++ ys) = recordSum k j xs + recordSum k j ys := by
  simp [recordSum]

theorem column_next (h : batchMachine.next pick s l = some (s', l')) (k : BatchType) (j : Nat) :
    s'.rows.column k j = s.rows.column k j + recordSum k j (writes pick l) := by
  cases l with
  | op op pc =>
    obtain ⟨⟨s₁, pc₁⟩, hnext, heq⟩ := Option.map_eq_some_iff.mp h
    cases heq
    cases pc with
    | start =>
      simp only [opNext] at hnext
      split at hnext
      · rename_i href
        cases hnext
        simp [writes, href, recordSum]
      · rename_i href
        split at hnext
        · rename_i hdirect
          cases hnext
          simpa [writes, href, hdirect] using column_write op s.rows k j
        · rename_i hdirect
          cases hnext
          simp [writes, hdirect, recordSum]
    | adding todo => cases todo <;> cases hnext <;> simp [writes, recordSum, BatchDB.addNewRecord]
    | ended => cases hnext
  | flush pc =>
    obtain ⟨⟨s₁, pc₁⟩, hnext, heq⟩ := Option.map_eq_some_iff.mp h
    cases heq
    cases pc with
    | check k₀ =>
      simp only [batchUpdate] at hnext
      split at hnext
      · cases hnext
        simp [writes, recordSum]
      · split at hnext <;> cases hnext <;> simp [writes, recordSum]
    | swap k₀ taken =>
      simp only [batchUpdate] at hnext
      split at hnext <;> cases hnext <;> simp [writes, recordSum]
    | tokens todo taken =>
      cases todo with
      | nil =>
        cases hnext
        simp [writes, recordSum]
      | cons x xs =>
        simp only [batchUpdate] at hnext
        split at hnext <;> cases hnext
        rename_i hpick
        simp [writes, hpick, recordSum, recordDelta, column_addTokenQuota]
    | channels todo taken =>
      cases todo with
      | nil =>
        cases hnext
        simp [writes, recordSum]
      | cons x xs =>
        simp only [batchUpdate] at hnext
        split at hnext <;> cases hnext
        rename_i hpick
        simp [writes, hpick, recordSum, recordDelta, column_updateChannelUsedQuota]
    | users todo taken =>
      cases todo with
      | nil =>
        cases hnext
        simp [writes, recordSum]
      | cons x xs =>
        simp only [batchUpdate] at hnext
        split at hnext <;> cases hnext
        rename_i hpick
        rw [column_updateUserQuotaUsedQuotaAndRequestCount]
        cases k <;> simp [writes, hpick, recordSum, recordDelta]
    | ended => cases hnext

/-- What an execution still owes and what it has failed to write. -/
def Exec.owed (k : BatchType) (j : Nat) (l : Exec) : Int :=
  l.exec.owed k j + recordSum k j l.failed

/-- Everything that has been handed in: what the row holds, what waits in the map, what the
executions owe, and what failed. -/
def handedIn (k : BatchType) (j : Nat) (c : Sched.Conf BatchDB Exec) : Int :=
  c.store.rows.column k j + (c.store.stores k).get j + (c.threads.map (Exec.owed k j)).sum

/-- **What failed is all that is lost.** Operations and flushes run in any interleaving, and
any of their statements fail. Then for every column of every row, what it holds, what is on
its way to it and what failed statements would have added come to what the operations give
without batching and without a failure. -/
theorem lost_by_failed (rows : QuotaRows) (ops : List QuotaOp) (flushes : Nat)
    (hrun : Sched.Steps failingMachine Sched.free (failingStart rows ops flushes) c)
    (k : BatchType) (j : Nat) : handedIn k j c = (runDirect rows ops).column k j := by
  obtain ⟨-, hsum⟩ := Sched.Steps.conserved (I := fun _ => True) (g := Exec.owed k j)
    (f := fun s : BatchDB => s.rows.column k j + (s.stores k).get j) trivial
    (fun {c i e l s' l'} _ _ _ hn => by
      refine ⟨trivial, ?_⟩
      obtain ⟨⟨s₁, l₁⟩, hnext, heq⟩ := Option.map_eq_some_iff.mp hn
      have hkeeps := batchMachine_keeps hnext k j
      have hcolumn := column_next hnext k j
      simp only at heq
      split at heq <;> cases heq <;> simp only [Exec.owed, recordSum_append] <;> omega) hrun
  have hstart := accounted_start rows ops flushes k j
  have hthreads : (failingStart rows ops flushes).threads.map (Exec.owed k j)
      = (batchStart rows ops flushes).threads.map (BatchExec.owed k j) := by
    simp [failingStart, Exec.owed, recordSum, Function.comp_def]
  rw [hthreads] at hsum
  simp only [accounted] at hstart
  simp only [failingStart] at hsum
  unfold handedIn
  omega

/-- The user row of a charge cannot be written: the charge and its usage record are lost. -/
theorem charge_lost : ∃ c,
    Sched.Steps failingMachine Sched.free (failingStart someRows chargeOps 1) c ∧
      ((∀ l ∈ c.threads, l.exec.Ended) ∧ c.store.rows.column .userQuota 1 = 100 ∧
        c.threads.flatMap Exec.failed
          = [(.userQuota, 1, -30), (.usedQuota, 1, 30), (.requestCount, 1, 1)]) ∧
      handedIn .userQuota 1 c = (runDirect someRows chargeOps).column .userQuota 1 :=
  Sched.exists_of_run_and
    (List.replicate 3 (0, 0, false) ++ List.replicate 4 (1, 0, false)
      ++ List.replicate 8 (2, 0, false) ++ [(2, 0, true), (2, 0, false)]) (by decide)
    fun _ hrun _ => lost_by_failed someRows chargeOps 1 hrun .userQuota 1

end YouBox.BatchLoss
