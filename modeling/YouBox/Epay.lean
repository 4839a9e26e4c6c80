import YouBox.TopUp

/-!
# Epay orders

`EpayNotify` does in three separate statements what the other providers do in
one transaction: it reads the order, saves it as successful, and credits the
user, under `LockOrder`, which only the executions of the same process see.
An administrator's `ManualCompleteTopUp` may run beside it and takes no such
lock.

The books balance as long as two things do not happen: an execution reads the
order while another that has read it as pending has not written yet, and a
credit fails after the order was saved as successful (`EpayGuard` names the
steps that avoid both). Then each order that is successful has its credit, made
or about to be made by exactly one execution: `EpayInv.paid` counts them.
-/

namespace YouBox

/-- `quotaToAdd`. -/
def epayQuota (quotaPerUnit : ℚ) (t : TopUp) : Int := toQuota (t.amount * quotaPerUnit)

inductive NotifyPc where
  | lock
  | select
  | save (t : TopUp)
  | credit (t : TopUp)
  | unlock
  | ended
deriving DecidableEq

/-- An execution on the order: a notification that arrived at `node`, whose
payload says the user paid by `type`, or an administrator's transaction. -/
inductive EpayThread where
  | notify (node : Nat) (type : String) (pc : NotifyPc)
  | manual (pc : FulfilPc)
deriving DecidableEq

/-- The order and its credits, and the nodes whose order lock is held. -/
structure EpayDB where
  db : TopUpDB
  locked : List Nat

/-- `topUp.PaymentMethod = verifyInfo.Type; topUp.Status = "success"`; the
completion time stays as it was. -/
def TopUp.paidBy (t : TopUp) (type : String) : TopUp :=
  { t with paymentMethod := type, status := .success }

def epayNotify (quotaPerUnit : ℚ) (node : Nat) (type : String) (tick : Tick) (s : EpayDB) :
    NotifyPc → Option (EpayDB × NotifyPc)
  | .lock =>
    if node ∈ s.locked then none else some ({ s with locked := node :: s.locked }, .select)
  | .select =>
    if tick.fails ∨ s.db.topUp.paymentProvider ≠ .epay ∨ s.db.topUp.status ≠ .pending then
      some (s, .unlock)
    else some (s, .save s.db.topUp)
  | .save t =>
    if tick.fails then some (s, .unlock)
    else some ({ s with db := ⟨t.paidBy type, s.db.credits⟩ }, .credit t)
  | .credit t =>
    -- IncreaseUserQuota refuses a negative amount before it reaches the database
    if epayQuota quotaPerUnit t < 0 ∨ tick.fails then some (s, .unlock)
    else some ({ s with
      db := ⟨s.db.topUp, (epayQuota quotaPerUnit t : ℚ) :: s.db.credits⟩ }, .unlock)
  | .unlock => some ({ s with locked := s.locked.erase node }, .ended)
  | .ended => none

def epayMachine (quotaPerUnit : ℚ) : Sched.Machine EpayDB EpayThread Tick where
  next tick s l :=
    match l with
    | .notify node type pc =>
      (epayNotify quotaPerUnit node type tick s pc).map fun r =>
        (r.1, .notify node type r.2)
    | .manual pc =>
      (manualCompleteTopUp.next quotaPerUnit tick s.db pc).map fun r =>
        ({ s with db := r.1 }, .manual r.2)

/-! ## What a step can do -/

namespace EpayThread

/-- About to read the order. -/
def Reads : EpayThread → Prop
  | .notify _ _ pc => pc = .select
  | .manual pc => pc = .select

/-- Has read the order as pending and not written it yet. -/
def Open : EpayThread → Prop
  | .notify _ _ (.save _) => True
  | .notify _ _ _ => False
  | .manual pc => pc.open

/-- The order it has saved as successful and not credited yet, as it read it. -/
def creditDue : EpayThread → Option TopUp
  | .notify _ _ (.credit t) => some t
  | _ => none

def Ended : EpayThread → Prop
  | .notify _ _ pc => pc = .ended
  | .manual (.ended _) => True
  | .manual _ => False

instance : DecidablePred Reads
  | .notify _ _ _ => inferInstanceAs (Decidable (_ = _))
  | .manual _ => inferInstanceAs (Decidable (_ = _))

instance : DecidablePred Open
  | .notify _ _ (.save _) => .isTrue trivial
  | .notify _ _ .lock => .isFalse id
  | .notify _ _ .select => .isFalse id
  | .notify _ _ (.credit _) => .isFalse id
  | .notify _ _ .unlock => .isFalse id
  | .notify _ _ .ended => .isFalse id
  | .manual pc => inferInstanceAs (Decidable pc.open)

def owed (l : EpayThread) : Int := if l.creditDue.isSome then 1 else 0

end EpayThread

/-- Everything a step can do to the order and its credits. -/
inductive EpayStep (quotaPerUnit : ℚ) (tick : Tick) (db db' : TopUpDB) :
    EpayThread → EpayThread → Prop where
  | quiet {l l'} (same : db' = db) (owes : l'.creditDue = l.creditDue)
      (opens : l'.Open → l.Open ∨ (l.Reads ∧ db.topUp.status = .pending)) :
      EpayStep quotaPerUnit tick db db' l l'
  | saved {node type t} (wrote : db' = ⟨t.paidBy type, db.credits⟩) :
      EpayStep quotaPerUnit tick db db' (.notify node type (.save t))
        (.notify node type (.credit t))
  | credited {node type t} (wrote : db' = ⟨db.topUp, (epayQuota quotaPerUnit t : ℚ)
      :: db.credits⟩) :
      EpayStep quotaPerUnit tick db db' (.notify node type (.credit t))
        (.notify node type .unlock)
  | lost {node type t} (same : db' = db)
      (why : epayQuota quotaPerUnit t < 0 ∨ tick.fails = true) :
      EpayStep quotaPerUnit tick db db' (.notify node type (.credit t))
        (.notify node type .unlock)
  | manual {t now q} (wrote : db' = ⟨t.complete now, q :: db.credits⟩) :
      EpayStep quotaPerUnit tick db db' (.manual (.commit t now q)) (.manual (.ended none))

variable {s' : EpayDB} {l l' : EpayThread} {tick : Tick}

theorem epay_step {quotaPerUnit : ℚ} {s : EpayDB}
    (h : (epayMachine quotaPerUnit).next tick s l = some (s', l')) :
    EpayStep quotaPerUnit tick s.db s'.db l l' := by
  cases l with
  | manual pc =>
    simp only [epayMachine, Option.map_eq_some_iff] at h
    obtain ⟨r, hr, heq⟩ := h
    cases heq
    rcases Fulfil.next_cases hr with ⟨hsame, hopen⟩ | ⟨t, now, q, hpc, hpc', hdb⟩
    · exact .quiet hsame rfl hopen
    · rw [hpc, hpc']
      exact .manual hdb
  | notify node type pc =>
    simp only [epayMachine, Option.map_eq_some_iff] at h
    obtain ⟨r, hr, heq⟩ := h
    cases heq
    cases pc with
    | lock =>
      simp only [epayNotify] at hr
      split at hr
      · cases hr
      · cases hr
        exact .quiet rfl rfl (fun ho => ho.elim)
    | select =>
      simp only [epayNotify] at hr
      split at hr
      · cases hr
        exact .quiet rfl rfl (fun ho => ho.elim)
      · rename_i hgo
        cases hr
        obtain ⟨-, hrest⟩ := not_or.mp hgo
        obtain ⟨-, hpending⟩ := not_or.mp hrest
        exact .quiet rfl rfl (fun _ => Or.inr ⟨rfl, not_not.mp hpending⟩)
    | save t =>
      simp only [epayNotify] at hr
      split at hr
      · cases hr
        exact .quiet rfl rfl (fun ho => ho.elim)
      · cases hr
        exact .saved rfl
    | credit t =>
      simp only [epayNotify] at hr
      split at hr
      · rename_i hwhy
        cases hr
        exact .lost rfl hwhy
      · cases hr
        exact .credited rfl
    | unlock =>
      simp only [epayNotify] at hr
      cases hr
      exact .quiet rfl rfl (fun ho => ho.elim)
    | ended => cases hr

/-! ## The runs in which the books balance -/

/-- A credit that is due does not fail. -/
def CreditSucceeds (quotaPerUnit : ℚ) : Sched.Guard EpayDB EpayThread Tick :=
  fun c i tick => ∀ l ∈ c.threads[i]?, ∀ t ∈ l.creditDue,
    0 ≤ epayQuota quotaPerUnit t ∧ tick.fails = false

def EpayGuard (quotaPerUnit : ℚ) : Sched.Guard EpayDB EpayThread Tick :=
  fun c i tick => Sched.Exclusive EpayThread.Reads EpayThread.Open c i tick
    ∧ CreditSucceeds quotaPerUnit c i tick

/-- What the credits owed and made must add up to. -/
def duePayments (t : TopUp) : Int := if t.status = .success then 1 else 0

structure EpayInv (c : Sched.Conf EpayDB EpayThread) : Prop where
  alone : Sched.AtMostOne EpayThread.Open c
  right : ∀ i, Sched.Inside EpayThread.Open c i → c.store.db.topUp.status = .pending
  paid : c.store.db.credits.length + (c.threads.map EpayThread.owed).sum
    = duePayments c.store.db.topUp

theorem duePayments_pending {t : TopUp} (h : t.status = .pending) : duePayments t = 0 := by
  simp [duePayments, h]

theorem epayInv_step {quotaPerUnit : ℚ} {c : Sched.Conf EpayDB EpayThread} {i : Nat}
    (hinv : EpayInv c) (hok : EpayGuard quotaPerUnit c i tick) (hl : c.threads[i]? = some l)
    (hn : (epayMachine quotaPerUnit).next tick c.store l = some (s', l')) :
    EpayInv ⟨s', c.threads.set i l'⟩ := by
  have hsum := Sched.sum_threads_set EpayThread.owed l' hl
  have hpaid := hinv.paid
  cases epay_step hn with
  | quiet same owes opens =>
    have howed : l'.owed = l.owed := by simp only [EpayThread.owed, owes]
    refine ⟨Sched.atMostOne_step hinv.alone hok.1 hl ?_, ?_, ?_⟩
    · intro hin
      rcases opens hin with hwas | ⟨hreads, -⟩
      · exact Or.inl hwas
      · exact Or.inr hreads
    · intro j hj
      rw [same]
      rcases hj.of_set with ⟨rfl, hin⟩ | ⟨-, hj'⟩
      · rcases opens hin with hwas | ⟨-, hpending⟩
        · exact hinv.right j ⟨l, hl, hwas⟩
        · exact hpending
      · exact hinv.right j hj'
    · simp only [same, hsum, howed]
      omega
  | saved wrote =>
    rename_i node type t
    have hzero := duePayments_pending (hinv.right i ⟨_, hl, trivial⟩)
    have hone : duePayments s'.db.topUp = 1 := by rw [wrote]; rfl
    have howed : EpayThread.owed (.notify node type (.credit t)) = 1 := rfl
    have hnone : EpayThread.owed (.notify node type (.save t)) = 0 := rfl
    have hempty : ∀ j, ¬ Sched.Inside EpayThread.Open
        ⟨s', c.threads.set i (.notify node type (.credit t))⟩ j :=
      hinv.alone.left hl trivial id
    refine ⟨fun a b ha => absurd ha (hempty a), fun j hj => absurd hj (hempty j), ?_⟩
    simp only [hsum, howed, hnone, hone]
    have hcredits : s'.db.credits.length = c.store.db.credits.length := by rw [wrote]
    omega
  | credited wrote =>
    rename_i node type t
    have howed : EpayThread.owed (.notify node type .unlock) = 0 := rfl
    have hone : EpayThread.owed (.notify node type (.credit t)) = 1 := rfl
    have htopUp : s'.db.topUp = c.store.db.topUp := by rw [wrote]
    have hcredits : s'.db.credits.length = c.store.db.credits.length + 1 := by
      rw [wrote]; rfl
    refine ⟨Sched.atMostOne_step hinv.alone hok.1 hl (fun ho => ho.elim), ?_, ?_⟩
    · intro j hj
      rw [htopUp]
      rcases hj.of_set with ⟨-, hin⟩ | ⟨-, hj'⟩
      · exact hin.elim
      · exact hinv.right j hj'
    · simp only [hsum, howed, hone, htopUp]
      omega
  | lost same why =>
    rename_i node type t
    obtain ⟨hnn, hfine⟩ := hok.2 _ hl t rfl
    rcases why with hneg | hfails
    · omega
    · rw [hfine] at hfails
      cases hfails
  | manual wrote =>
    rename_i t now q
    have hzero := duePayments_pending (hinv.right i ⟨_, hl, trivial⟩)
    have hone : duePayments s'.db.topUp = 1 := by rw [wrote]; rfl
    have hcredits : s'.db.credits.length = c.store.db.credits.length + 1 := by
      rw [wrote]; rfl
    have howed : EpayThread.owed (.manual (.ended none)) = 0 := rfl
    have hnone : EpayThread.owed (.manual (.commit t now q)) = 0 := rfl
    have hempty : ∀ j, ¬ Sched.Inside EpayThread.Open
        ⟨s', c.threads.set i (.manual (.ended none))⟩ j :=
      hinv.alone.left hl trivial id
    refine ⟨fun a b ha => absurd ha (hempty a), fun j hj => absurd hj (hempty j), ?_⟩
    simp only [hsum, howed, hnone, hone]
    omega

/-- The executions on an order: where a notification arrived, and by what
means it says the user paid; or an administrator's call. -/
inductive EpayCall where
  | notify (node : Nat) (type : String)
  | manual

def EpayCall.thread : EpayCall → EpayThread
  | .notify node type => .notify node type .lock
  | .manual => .manual .select

def epayStart (t : TopUp) (credits : List ℚ) (calls : List EpayCall) :
    Sched.Conf EpayDB EpayThread :=
  ⟨⟨⟨t, credits⟩, []⟩, calls.map EpayCall.thread⟩

theorem epayCall_thread_fresh (call : EpayCall) :
    ¬ call.thread.Open ∧ call.thread.owed = 0 := by
  cases call with
  | notify node type => exact ⟨id, rfl⟩
  | manual => exact ⟨id, rfl⟩

theorem epayInv_start {t : TopUp} {credits : List ℚ} {calls : List EpayCall}
    (hstart : (credits.length : Int) = duePayments t) : EpayInv (epayStart t credits calls) := by
  have hnone : ∀ i, ¬ Sched.Inside EpayThread.Open (epayStart t credits calls) i := by
    rintro i ⟨l, hl, hin⟩
    obtain ⟨call, -, rfl⟩ := List.mem_map.mp (List.mem_of_getElem? hl)
    exact (epayCall_thread_fresh call).1 hin
  have hsum : ((calls.map EpayCall.thread).map EpayThread.owed).sum = 0 := by
    refine List.sum_eq_zero ?_
    intro x hx
    obtain ⟨l, hl, rfl⟩ := List.mem_map.mp hx
    obtain ⟨call, -, rfl⟩ := List.mem_map.mp hl
    exact (epayCall_thread_fresh call).2
  refine ⟨fun a b ha => absurd ha (hnone a), fun i hi => absurd hi (hnone i), ?_⟩
  show (credits.length : Int) + ((calls.map EpayCall.thread).map EpayThread.owed).sum = _
  rw [hsum, Int.add_zero]
  exact hstart

theorem owed_nonneg (l : EpayThread) : 0 ≤ l.owed := by
  unfold EpayThread.owed
  split <;> omega

theorem owed_ended (h : l.Ended) : l.owed = 0 := by
  cases l with
  | notify node type pc =>
    obtain rfl : pc = .ended := h
    rfl
  | manual pc => rfl

theorem epay_credited_with_success {quotaPerUnit : ℚ} {t : TopUp} {credits : List ℚ}
    {calls : List EpayCall} {c : Sched.Conf EpayDB EpayThread}
    (hstart : (credits.length : Int) = duePayments t)
    (h : Sched.Steps (epayMachine quotaPerUnit) (EpayGuard quotaPerUnit)
      (epayStart t credits calls) c) :
    c.store.db.credits.length ≤ 1
      ∧ ((∀ l ∈ c.threads, l.Ended) →
        (c.store.db.topUp.status = .success ↔ c.store.db.credits ≠ [])) := by
  have hinv : EpayInv c := Sched.Steps.invariant (epayInv_start hstart)
    (fun hI hok hl hn => epayInv_step hI hok hl hn) h
  have hpaid := hinv.paid
  have hdue : duePayments c.store.db.topUp ≤ 1 := by
    unfold duePayments
    split <;> omega
  have hnn : 0 ≤ (c.threads.map EpayThread.owed).sum := by
    refine List.sum_nonneg ?_
    intro x hx
    obtain ⟨l, -, rfl⟩ := List.mem_map.mp hx
    exact owed_nonneg l
  refine ⟨by omega, fun hended => ?_⟩
  have hzero : (c.threads.map EpayThread.owed).sum = 0 := by
    refine List.sum_eq_zero ?_
    intro x hx
    obtain ⟨l, hl, rfl⟩ := List.mem_map.mp hx
    exact owed_ended (hended l hl)
  rw [hzero, Int.add_zero] at hpaid
  rw [← List.length_pos_iff]
  unfold duePayments at hpaid
  split at hpaid
  · rename_i hsucc
    exact iff_of_true hsucc (by omega)
  · rename_i hother
    exact iff_of_false hother (by omega)

/-! An order of 5 units. -/

def epayOrder : TopUp := ⟨7, 5, 5, "alipay", .epay, 1, 0, .pending⟩

def answered : Tick := ⟨false, 10⟩

instance (quotaPerUnit : ℚ) (c : Sched.Conf EpayDB EpayThread) (i : Nat) (tick : Tick) :
    Decidable (CreditSucceeds quotaPerUnit c i tick) :=
  inferInstanceAs (Decidable (∀ l ∈ c.threads[i]?, ∀ t ∈ l.creditDue, _ ∧ _))

instance (quotaPerUnit : ℚ) (c : Sched.Conf EpayDB EpayThread) (i : Nat) (tick : Tick) :
    Decidable (EpayGuard quotaPerUnit c i tick) :=
  inferInstanceAs (Decidable (_ ∧ _))

/-- Two nodes are notified, one after the other. -/
theorem epay_credited_with_success_in_turn :
    ∃ c, Sched.Steps (epayMachine 500000) (EpayGuard 500000)
        (epayStart epayOrder [] [.notify 0 "alipay", .notify 1 "alipay"]) c
      ∧ c.store.db.credits = [2500000] ∧ c.store.db.credits.length ≤ 1 :=
  Sched.exists_of_run_and ([0, 1, 0, 0, 1, 0, 0, 1].map (·, answered)) (by decide +kernel)
    fun _ hc _ => (epay_credited_with_success rfl hc).1

/-- Two nodes read the order before either writes it: two credits. And one
node whose credit fails: a successful order, and none. -/
theorem epay_double_and_lost_credit :
    (∃ c, Sched.Steps (epayMachine 500000) Sched.free
        (epayStart epayOrder [] [.notify 0 "alipay", .notify 1 "alipay"]) c
      ∧ c.store.db.credits.length = 2)
    ∧ ∃ c, Sched.Steps (epayMachine 500000) Sched.free
        (epayStart epayOrder [] [.notify 0 "alipay"]) c
      ∧ (∀ l ∈ c.threads, l.Ended) ∧ c.store.db.topUp.status = .success
      ∧ c.store.db.credits = [] := by
  constructor
  · exact Sched.exists_of_run ([0, 1, 0, 1, 0, 1, 0, 1].map (·, answered)) (by decide +kernel)
  · have hrun : ∃ c, Sched.Steps (epayMachine 500000) Sched.free
          (epayStart epayOrder [] [.notify 0 "alipay"]) c
        ∧ c.threads = [.notify 0 "alipay" .ended] ∧ c.store.db.topUp.status = .success
        ∧ c.store.db.credits = [] := Sched.exists_of_run
      [(0, answered), (0, answered), (0, answered), (0, ⟨true, 10⟩), (0, answered)]
      (by decide +kernel)
    obtain ⟨c, hc, hthreads, hend⟩ := hrun
    refine ⟨c, hc, ?_, hend⟩
    intro l hl
    rw [hthreads] at hl
    obtain rfl := List.mem_singleton.mp hl
    rfl

end YouBox
