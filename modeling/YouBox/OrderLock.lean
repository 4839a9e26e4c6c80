import YouBox.Progress
import YouBox.Sched

/-!
# The lock of an order

`LockOrder` and `UnlockOrder`, statement by statement: an order number leads to a
pointer in `orderLocks`, and the pointer to a mutex with the number of callers that
look at it. Both functions change the map and the numbers under `createLock`, but
`UnlockOrder` looks its mutex up without it.

That a caller unlocks the mutex it has locked, and that two callers of one order never
have different mutexes, is `LockStore.Counts`: the number in an entry is the number of
callers that were counted and have not been uncounted, so an entry with a caller stays.
From it also follows that nobody waits for ever: a mutex that is locked has a holder, and
`createLock` is never asked for by somebody who has it.
-/

namespace YouBox

structure RefCountedMutex where
  locked : Bool
  refCount : Int

structure LockStore where
  createLock : Bool
  orderLocks : String → Option Nat
  /-- What a pointer leads to. -/
  heap : Nat → RefCountedMutex
  next : Nat

/-- The next statement of a caller. -/
inductive LockPc where
  | lockCreate
  | load
  | store
  | count (rcm : Nat)
  | unlockCreate (rcm : Nat)
  | lock (rcm : Nat)
  /-- `LockOrder` has returned, and `UnlockOrder` looks the mutex up next. -/
  | held
  | unlock (rcm : Nat)
  | lockCreateAgain (rcm : Nat)
  | uncount (rcm : Nat)
  | delete
  | unlockCreateAgain
  | done

/-- A caller of `LockOrder(tradeNo)` and then `UnlockOrder(tradeNo)`. -/
structure LockCaller where
  tradeNo : String
  pc : LockPc

namespace LockStore

def setMutex (s : LockStore) (rcm : Nat) (m : RefCountedMutex) : LockStore :=
  { s with heap := Function.update s.heap rcm m }

def setEntry (s : LockStore) (tradeNo : String) (entry : Option Nat) : LockStore :=
  { s with orderLocks := Function.update s.orderLocks tradeNo entry }

def next? (s : LockStore) (tradeNo : String) : LockPc → Option (LockStore × LockPc)
  | .lockCreate => if s.createLock then none else some ({ s with createLock := true }, .load)
  | .load =>
    match s.orderLocks tradeNo with
    | some rcm => some (s, .count rcm)
    | none => some (s, .store)
  | .store =>
    some ({ s.setMutex s.next ⟨false, 0⟩ with next := s.next + 1 }.setEntry tradeNo (some s.next),
      .count s.next)
  | .count rcm =>
    some (s.setMutex rcm ⟨(s.heap rcm).locked, (s.heap rcm).refCount + 1⟩, .unlockCreate rcm)
  | .unlockCreate rcm => some ({ s with createLock := false }, .lock rcm)
  | .lock rcm =>
    if (s.heap rcm).locked then none
    else some (s.setMutex rcm ⟨true, (s.heap rcm).refCount⟩, .held)
  | .held =>
    match s.orderLocks tradeNo with
    | some rcm => some (s, .unlock rcm)
    | none => some (s, .done)
  | .unlock rcm => some (s.setMutex rcm ⟨false, (s.heap rcm).refCount⟩, .lockCreateAgain rcm)
  | .lockCreateAgain rcm =>
    if s.createLock then none else some ({ s with createLock := true }, .uncount rcm)
  | .uncount rcm =>
    some (s.setMutex rcm ⟨(s.heap rcm).locked, (s.heap rcm).refCount - 1⟩,
      if (s.heap rcm).refCount - 1 = 0 then .delete else .unlockCreateAgain)
  | .delete => some (s.setEntry tradeNo none, .unlockCreateAgain)
  | .unlockCreateAgain => some ({ s with createLock := false }, .done)
  | .done => none

end LockStore

def lockMachine : Sched.Machine LockStore LockCaller Unit where
  next _ s l := (s.next? l.tradeNo l.pc).map fun r => (r.1, { l with pc := r.2 })

/-- Callers for these orders, none of which has begun. -/
def lockCallers (tradeNos : List String) : Sched.Conf LockStore LockCaller :=
  ⟨⟨false, fun _ => none, fun _ => ⟨false, 0⟩, 0⟩, tradeNos.map fun t => ⟨t, .lockCreate⟩⟩

namespace LockPc

/-- Between `createLock.Lock()` and `createLock.Unlock()`. -/
def inCreate : LockPc → Bool
  | .load | .store | .count _ | .unlockCreate _ => true
  | .uncount _ | .delete | .unlockCreateAgain => true
  | _ => false

/-- Counted in `refCount`. -/
def counted : LockPc → Bool
  | .unlockCreate _ | .lock _ | .held | .unlock _ | .lockCreateAgain _ | .uncount _ => true
  | _ => false

/-- Between `rcm.mu.Lock()` and `rcm.mu.Unlock()`. -/
def holds : LockPc → Bool
  | .held | .unlock _ => true
  | _ => false

/-- On its way to the mutex, waiting for it or holding it, or not done with giving it
back: before `refCount` was counted down, or with the entry still to be deleted. -/
def uses : LockPc → Bool
  | .count _ | .delete => true
  | pc => pc.counted

end LockPc

/-! ## Callers of one order -/

/-- One for a caller of the order whose next statement is among these. -/
def tally (p : LockPc → Bool) (t : String) (l : LockCaller) : Int :=
  if l.tradeNo = t ∧ p l.pc = true then 1 else 0

def LockCaller.UsesOrder (t : String) (l : LockCaller) : Prop := l.tradeNo = t ∧ l.pc.uses = true

variable {c : Sched.Conf LockStore LockCaller} {s s' : LockStore} {i : Nat} {t : String}
  {l : LockCaller} {p : LockPc → Bool} {pc pc' : LockPc} {ts : List LockCaller}

theorem tally_nonneg (p : LockPc → Bool) (t : String) (l : LockCaller) : 0 ≤ tally p t l := by
  unfold tally
  split <;> omega

theorem tally_self : tally p t ⟨t, pc⟩ = if p pc = true then 1 else 0 := by simp [tally]

theorem tally_other (h : l.tradeNo ≠ t) : tally p t l = 0 := if_neg fun hl => h hl.1

theorem total_pos (hl : l ∈ ts) (ht : l.tradeNo = t) (hp : p l.pc = true) :
    1 ≤ (ts.map (tally p t)).sum := by
  have hle := List.single_le_sum (l := ts.map (tally p t))
    (by simpa using fun x _ => tally_nonneg p t x) _ (List.mem_map_of_mem hl)
  rwa [tally, if_pos ⟨ht, hp⟩] at hle

theorem exists_of_total (h : (ts.map (tally p t)).sum ≠ 0) :
    ∃ l ∈ ts, l.tradeNo = t ∧ p l.pc = true := by
  by_contra hnone
  refine h (List.sum_eq_zero ?_)
  intro x hx
  obtain ⟨l, hl, rfl⟩ := List.mem_map.mp hx
  exact if_neg fun hp => hnone ⟨l, hl, hp⟩

theorem atMostOne_holds (h : (c.threads.map (tally LockPc.holds t)).sum ≤ 1) :
    Sched.AtMostOne (fun l => l.tradeNo = t ∧ l.pc.holds = true) c := by
  rintro i j ⟨a, ha, hta, hpa⟩ ⟨b, hb, htb, hpb⟩
  by_contra hne
  have hsum := Sched.sum_threads_set (tally LockPc.holds t) ⟨t, .done⟩ ha
  rw [tally, if_pos ⟨hta, hpa⟩, tally_self] at hsum
  have hmem : b ∈ c.threads.set i ⟨t, .done⟩ :=
    List.mem_of_getElem? (by rwa [List.getElem?_set_ne hne])
  have hpos := total_pos hmem htb hpb
  simp only [LockPc.holds, Bool.false_eq_true, if_false] at hsum
  omega

/-! ## The invariant -/

/-- What the entry of an order says about its callers. -/
structure LockStore.Counts (t : String) (s : LockStore) (ts : List LockCaller) : Prop where
  absent : s.orderLocks t = none → (ts.map (tally LockPc.counted t)).sum = 0
  fresh : ∀ rcm, s.orderLocks t = some rcm → rcm < s.next
  count : ∀ rcm, s.orderLocks t = some rcm →
    (s.heap rcm).refCount = (ts.map (tally LockPc.counted t)).sum
  lock : ∀ rcm, s.orderLocks t = some rcm →
    (if (s.heap rcm).locked then 1 else 0) = (ts.map (tally LockPc.holds t)).sum
  used : ∀ rcm, s.orderLocks t = some rcm → ∃ l ∈ ts, l.UsesOrder t

/-- What a caller has learnt of the store still holds. -/
def LockCaller.Knows (s : LockStore) (l : LockCaller) : Prop :=
  match l.pc with
  | .store => s.orderLocks l.tradeNo = none
  | .count rcm | .unlockCreate rcm | .lock rcm => s.orderLocks l.tradeNo = some rcm
  | .unlock rcm | .lockCreateAgain rcm | .uncount rcm => s.orderLocks l.tradeNo = some rcm
  | .delete => ∃ rcm, s.orderLocks l.tradeNo = some rcm ∧ (s.heap rcm).refCount = 0
  | .lockCreate | .load | .held | .unlockCreateAgain | .done => True

structure OrderLockInv (c : Sched.Conf LockStore LockCaller) : Prop where
  create : Sched.LockInv (fun l => l.pc.inCreate = true) LockStore.createLock c
  apart : ∀ t u rcm, c.store.orderLocks t = some rcm → c.store.orderLocks u = some rcm → t = u
  counts : ∀ t, c.store.Counts t c.threads
  knows : ∀ l ∈ c.threads, l.Knows c.store

theorem createEntry_step (h : s.next? t pc = some (s', pc')) :
    (pc'.inCreate = true → ¬ pc.inCreate = true → s.createLock = false) ∧
      (pc'.inCreate = true → (pc.inCreate = true → s.createLock = true) → s'.createLock = true) ∧
      (¬ pc.inCreate = true → s.createLock = true → s'.createLock = true) := by
  cases pc <;> simp only [LockStore.next?] at h
  case lockCreate | lockCreateAgain =>
    split at h
    · cases h
    · rename_i hfree
      cases h
      exact ⟨fun _ _ => Bool.eq_false_iff.mpr hfree, fun _ _ => rfl, fun _ _ => rfl⟩
  case load | held => split at h <;> cases h <;> simp [LockPc.inCreate]
  case lock =>
    split at h
    · cases h
    · cases h
      simp [LockPc.inCreate, LockStore.setMutex]
  case uncount =>
    cases h
    split <;> simp [LockPc.inCreate, LockStore.setMutex]
  all_goals
    cases h
    try simp [LockPc.inCreate, LockStore.setMutex, LockStore.setEntry]

theorem LockStore.Counts.other {u : String} (h : s.Counts u ts) (hl : ts[i]? = some ⟨t, pc⟩)
    (hu : u ≠ t) (horder : s'.orderLocks u = s.orderLocks u)
    (hheap : ∀ rcm, s.orderLocks u = some rcm → s'.heap rcm = s.heap rcm)
    (hnext : s.next ≤ s'.next) : s'.Counts u (ts.set i ⟨t, pc'⟩) := by
  have htotal : ∀ p : LockPc → Bool,
      ((ts.set i ⟨t, pc'⟩).map (tally p u)).sum = (ts.map (tally p u)).sum := by
    intro p
    rw [Sched.sum_threads_set (tally p u) ⟨t, pc'⟩ hl, tally_other hu.symm, tally_other hu.symm]
    omega
  constructor
  · rw [horder, htotal]
    exact h.absent
  · intro rcm hrcm
    exact lt_of_lt_of_le (h.fresh rcm (horder ▸ hrcm)) hnext
  · intro rcm hrcm
    rw [horder] at hrcm
    rw [hheap rcm hrcm, htotal, h.count rcm hrcm]
  · intro rcm hrcm
    rw [horder] at hrcm
    rw [hheap rcm hrcm, htotal, h.lock rcm hrcm]
  · intro rcm hrcm
    exact Sched.exists_threads_set hl (h.used rcm (horder ▸ hrcm)) fun hp => absurd hp.1.symm hu

theorem OrderLockInv.move (h : OrderLockInv c) (hl : c.threads[i]? = some ⟨t, pc⟩)
    (hn : c.store.next? t pc = some (s', pc'))
    (horders : ∀ u ≠ t, s'.orderLocks u = c.store.orderLocks u)
    (hheap : ∀ u ≠ t, ∀ rcm, c.store.orderLocks u = some rcm → s'.heap rcm = c.store.heap rcm)
    (hnext : c.store.next ≤ s'.next)
    (hapart : ∀ u ≠ t, ∀ rcm, c.store.orderLocks u = some rcm → s'.orderLocks t ≠ some rcm)
    (hcounts : s'.Counts t (c.threads.set i ⟨t, pc'⟩)) (hmine : LockCaller.Knows s' ⟨t, pc'⟩)
    (htheirs : ∀ l ∈ c.threads, l.tradeNo = t → (pc.inCreate = true → l.pc.inCreate = false) →
      l.Knows c.store → l.Knows s') : OrderLockInv ⟨s', c.threads.set i ⟨t, pc'⟩⟩ := by
  obtain ⟨henter, hheld, hother⟩ := createEntry_step hn
  refine ⟨h.create.step hl henter (fun hin => hheld hin fun hpc => h.create.held i ⟨_, hl, hpc⟩)
    hother, ?_, ?_, ?_⟩
  · intro a b rcm ha hb
    by_cases hat : a = t
    · by_cases hbt : b = t
      · rw [hat, hbt]
      · rw [horders b hbt] at hb
        exact absurd (hat ▸ ha) (hapart b hbt rcm hb)
    · rw [horders a hat] at ha
      by_cases hbt : b = t
      · exact absurd (hbt ▸ hb) (hapart a hat rcm ha)
      · exact h.apart a b rcm ha (horders b hbt ▸ hb)
  · intro u
    by_cases hu : u = t
    · exact hu ▸ hcounts
    · exact (h.counts u).other hl hu (horders u hu) (hheap u hu) hnext
  · intro x hx
    obtain ⟨j, hj⟩ := List.mem_iff_getElem?.mp hx
    obtain ⟨rfl, rfl⟩ | ⟨hne, hj⟩ := Sched.threads_set_cases hj
    · exact hmine
    have hknows := h.knows x (List.mem_of_getElem? hj)
    by_cases hxt : x.tradeNo = t
    · refine htheirs x (List.mem_of_getElem? hj) hxt (fun hin => ?_) hknows
      by_contra hxin
      exact hne (h.create.alone j i ⟨x, hj, by simpa using hxin⟩ ⟨_, hl, hin⟩)
    · unfold LockCaller.Knows at hknows ⊢
      cases hpc : x.pc <;> simp only [hpc, horders _ hxt] at hknows ⊢ <;> try exact hknows
      obtain ⟨rcm, hrcm, hzero⟩ := hknows
      exact ⟨rcm, hrcm, by rw [hheap _ hxt rcm hrcm, hzero]⟩

theorem total_move (p : LockPc → Bool) (hl : ts[i]? = some ⟨t, pc⟩) :
    ((ts.set i ⟨t, pc'⟩).map (tally p t)).sum = (ts.map (tally p t)).sum
      - (if p pc = true then 1 else 0) + (if p pc' = true then 1 else 0) := by
  rw [Sched.sum_threads_set (tally p t) ⟨t, pc'⟩ hl, tally_self, tally_self]

theorem OrderLockInv.quiet (h : OrderLockInv c) (hl : c.threads[i]? = some ⟨t, pc⟩)
    (hn : c.store.next? t pc = some (s', pc')) (horders : s'.orderLocks = c.store.orderLocks)
    (hheap : s'.heap = c.store.heap) (hnext : s'.next = c.store.next)
    (hcounted : pc'.counted = pc.counted) (hholds : pc'.holds = pc.holds)
    (huses : pc.uses = true → pc'.uses = true) (hmine : LockCaller.Knows s' ⟨t, pc'⟩) :
    OrderLockInv ⟨s', c.threads.set i ⟨t, pc'⟩⟩ := by
  have hc := h.counts t
  refine h.move hl hn (fun u _ => by rw [horders]) (fun u _ rcm _ => by rw [hheap]) hnext.ge
    (fun u hu rcm hrcm ht => hu (h.apart u t rcm hrcm (horders ▸ ht))) ⟨?_, ?_, ?_, ?_, ?_⟩ hmine ?_
  · rw [horders, total_move _ hl, hcounted, sub_add_cancel]
    exact hc.absent
  · rw [horders, hnext]
    exact hc.fresh
  · rw [horders, hheap, total_move _ hl, hcounted, sub_add_cancel]
    exact hc.count
  · rw [horders, hheap, total_move _ hl, hholds, sub_add_cancel]
    exact hc.lock
  · intro rcm hrcm
    exact Sched.exists_threads_set hl (hc.used rcm (horders ▸ hrcm)) fun hp => ⟨rfl, huses hp.2⟩
  · intro x _ _ _ hknows
    simpa only [LockCaller.Knows, horders, hheap] using hknows

theorem OrderLockInv.mutex {rcm : Nat} {m : RefCountedMutex} (h : OrderLockInv c)
    (hl : c.threads[i]? = some ⟨t, pc⟩)
    (hn : c.store.next? t pc = some (c.store.setMutex rcm m, pc'))
    (hrcm : c.store.orderLocks t = some rcm)
    (hcount : m.refCount = (c.store.heap rcm).refCount
      - (if pc.counted = true then 1 else 0) + (if pc'.counted = true then 1 else 0))
    (hlock : (if m.locked then 1 else 0 : Int) = (if (c.store.heap rcm).locked then 1 else 0)
      - (if pc.holds = true then 1 else 0) + (if pc'.holds = true then 1 else 0))
    (hused : ∃ l ∈ c.threads.set i ⟨t, pc'⟩, l.UsesOrder t)
    (hcreate : pc.inCreate = true ∨ m.refCount = (c.store.heap rcm).refCount)
    (hmine : LockCaller.Knows (c.store.setMutex rcm m) ⟨t, pc'⟩) :
    OrderLockInv ⟨c.store.setMutex rcm m, c.threads.set i ⟨t, pc'⟩⟩ := by
  have hc := h.counts t
  have hself : (c.store.setMutex rcm m).heap rcm = m := Function.update_self ..
  refine h.move hl hn (fun u _ => rfl) (fun u hu q hq => Function.update_of_ne ?_ ..) le_rfl
    (fun u hu q hq ht => hu (h.apart u t q hq ht)) ⟨?_, hc.fresh, ?_, ?_, fun _ _ => hused⟩ hmine ?_
  · rintro rfl
    exact hu (h.apart u t q hq hrcm)
  · intro hnone
    rw [show c.store.orderLocks t = none from hnone] at hrcm
    cases hrcm
  · intro q hq
    obtain rfl : rcm = q := Option.some.inj (hrcm.symm.trans hq)
    rw [hself, hcount, hc.count rcm hrcm, total_move _ hl]
  · intro q hq
    obtain rfl : rcm = q := Option.some.inj (hrcm.symm.trans hq)
    rw [hself, hlock, hc.lock rcm hrcm, total_move _ hl]
  · intro x _ _ hout hknows
    unfold LockCaller.Knows at hknows ⊢
    cases hpc : x.pc <;> simp only [hpc] at hknows ⊢ <;> try exact hknows
    obtain ⟨q, hq, hzero⟩ := hknows
    refine ⟨q, hq, ?_⟩
    by_cases heq : q = rcm
    · subst heq
      obtain hin | hsame := hcreate
      · have := hout hin
        rw [hpc] at this
        cases this
      · rw [hself, hsame, hzero]
    · rwa [show (c.store.setMutex rcm m).heap q = c.store.heap q from Function.update_of_ne heq ..]

theorem holds_of_counted (h : (ts.map (tally LockPc.counted t)).sum = 0) :
    (ts.map (tally LockPc.holds t)).sum = 0 := by
  by_contra hne
  obtain ⟨x, hx, hxt, hholds⟩ := exists_of_total hne
  have hcounted : x.pc.counted = true := by
    cases hpc : x.pc <;> first | rfl | (rw [hpc] at hholds; cases hholds)
  have hpos := total_pos hx hxt hcounted
  omega

theorem uses_of_counted (h : pc.counted = true) : pc.uses = true := by
  cases pc <;> first | rfl | cases h

theorem OrderLockInv.create_entry (h : OrderLockInv c) (hl : c.threads[i]? = some ⟨t, .store⟩)
    (hnone : c.store.orderLocks t = none) (hn : c.store.next? t .store = some (s', pc')) :
    OrderLockInv ⟨s', c.threads.set i ⟨t, pc'⟩⟩ := by
  cases hn
  have hc := h.counts t
  have hself : ∀ rcm, Function.update c.store.orderLocks t (some c.store.next) t = some rcm →
      c.store.next = rcm := by
    intro rcm hrcm
    rw [Function.update_self] at hrcm
    exact Option.some.inj hrcm
  have hcell : Function.update c.store.heap c.store.next ⟨false, 0⟩ c.store.next = ⟨false, 0⟩ :=
    Function.update_self ..
  have hholds := holds_of_counted (hc.absent hnone)
  refine h.move hl rfl (fun u hu => Function.update_of_ne hu ..) (fun u hu rcm hrcm => ?_)
    (Nat.le_succ _) (fun u hu rcm hrcm ht => ?_) ⟨fun ht => ?_, fun rcm ht => ?_, fun rcm ht => ?_,
      fun rcm ht => ?_, fun _ _ => ?_⟩ (Function.update_self ..) fun x _ hxt hout hknows => ?_
  · exact Function.update_of_ne ((h.counts u).fresh rcm hrcm).ne ..
  · obtain rfl := hself rcm ht
    exact lt_irrefl _ ((h.counts u).fresh _ hrcm)
  · cases (Function.update_self ..).symm.trans ht
  · exact hself rcm ht ▸ Nat.lt_succ_self _
  · obtain rfl := hself rcm ht
    rw [total_move _ hl, hc.absent hnone]
    exact congrArg RefCountedMutex.refCount hcell
  · obtain rfl := hself rcm ht
    rw [total_move _ hl, hholds]
    exact congrArg (fun m => (if m.locked then 1 else 0 : Int)) hcell
  · exact ⟨_, List.mem_set (List.getElem?_eq_some_iff.mp hl).1 _, rfl, rfl⟩
  · have hxout := hout rfl
    unfold LockCaller.Knows at hknows ⊢
    cases hpc : x.pc <;> simp only [hpc, hxt, hnone] at hxout hknows ⊢ <;>
      first | (cases hknows; done) | cases hxout

theorem OrderLockInv.delete_entry {rcm : Nat} (h : OrderLockInv c)
    (hl : c.threads[i]? = some ⟨t, .delete⟩) (hrcm : c.store.orderLocks t = some rcm)
    (hzero : (c.store.heap rcm).refCount = 0) (hn : c.store.next? t .delete = some (s', pc')) :
    OrderLockInv ⟨s', c.threads.set i ⟨t, pc'⟩⟩ := by
  cases hn
  have hc := h.counts t
  have htotal := hc.count rcm hrcm
  have hself : Function.update c.store.orderLocks t none t = none := Function.update_self ..
  have habsent : ∀ {q}, Function.update c.store.orderLocks t none t ≠ some q := by
    rw [hself]
    nofun
  refine h.move hl rfl (fun u hu => Function.update_of_ne hu ..) (fun _ _ _ _ => rfl) le_rfl
    (fun _ _ _ _ => habsent) ⟨fun _ => ?_, fun _ ht => absurd ht habsent,
      fun _ ht => absurd ht habsent, fun _ ht => absurd ht habsent,
      fun _ ht => absurd ht habsent⟩ trivial fun x hx hxt hout hknows => ?_
  · rw [total_move _ hl, ← htotal, hzero]
    rfl
  · -- whoever is not under `createLock` and knows the entry is counted
    have hxout := hout rfl
    have hnot : x.pc.counted = false := by
      by_contra hcounted
      have hpos := total_pos hx hxt (by simpa using hcounted)
      omega
    unfold LockCaller.Knows
    cases hpc : x.pc <;> simp only [hpc] at hxout hnot ⊢ <;>
      first | (cases hnot; done) | cases hxout

theorem OrderLockInv.step (h : OrderLockInv c) (hl : c.threads[i]? = some ⟨t, pc⟩)
    (hn : c.store.next? t pc = some (s', pc')) :
    OrderLockInv ⟨s', c.threads.set i ⟨t, pc'⟩⟩ := by
  have hc := h.counts t
  have hl' := List.mem_of_getElem? hl
  have hknows := h.knows _ hl'
  have hmem : ∀ pc', (⟨t, pc'⟩ : LockCaller) ∈ c.threads.set i ⟨t, pc'⟩ := fun _ =>
    List.mem_set (List.getElem?_eq_some_iff.mp hl).1 _
  have hstep := hn
  cases pc with
  | lockCreate =>
    simp only [LockStore.next?] at hstep
    split at hstep <;> cases hstep
    exact h.quiet hl hn rfl rfl rfl rfl rfl nofun trivial
  | load =>
    simp only [LockStore.next?] at hstep
    split at hstep <;> cases hstep <;> exact h.quiet hl hn rfl rfl rfl rfl rfl nofun ‹_›
  | store =>
    exact h.create_entry hl hknows hn
  | count rcm =>
    cases hn
    exact h.mutex hl rfl hknows (by simp [LockPc.counted]) (by simp [LockPc.holds])
      ⟨_, hmem _, rfl, rfl⟩ (.inl rfl) hknows
  | unlockCreate rcm =>
    cases hn
    exact h.quiet hl rfl rfl rfl rfl rfl rfl (fun _ => rfl) hknows
  | lock rcm =>
    simp only [LockStore.next?] at hstep
    split at hstep <;> cases hstep
    rename_i hfree
    exact h.mutex hl hn hknows (by simp [LockPc.counted]) (by simp [LockPc.holds, hfree])
      ⟨_, hmem _, rfl, rfl⟩ (.inr rfl) trivial
  | held =>
    simp only [LockStore.next?] at hstep
    split at hstep <;> cases hstep
    · exact h.quiet hl hn rfl rfl rfl rfl rfl (fun _ => rfl) ‹_›
    · -- the caller is counted
      have hpos : 1 ≤ (c.threads.map (tally LockPc.counted t)).sum := total_pos hl' rfl rfl
      rw [hc.absent ‹_›] at hpos
      omega
  | unlock rcm =>
    cases hn
    have hpos : 1 ≤ (c.threads.map (tally LockPc.holds t)).sum := total_pos hl' rfl rfl
    have hlock := hc.lock rcm hknows
    refine h.mutex hl rfl hknows (by simp [LockPc.counted]) ?_ ⟨_, hmem _, rfl, rfl⟩ (.inr rfl)
      hknows
    split at hlock
    · rename_i hlocked
      simp [LockPc.holds, hlocked]
    · omega
  | lockCreateAgain rcm =>
    simp only [LockStore.next?] at hstep
    split at hstep <;> cases hstep
    exact h.quiet hl hn rfl rfl rfl rfl rfl (fun _ => rfl) hknows
  | uncount rcm =>
    by_cases hzero : (c.store.heap rcm).refCount - 1 = 0
    · simp only [LockStore.next?, if_pos hzero] at hstep
      cases hstep
      refine h.mutex hl hn hknows (by simp [LockPc.counted]) (by simp [LockPc.holds])
        ⟨_, hmem _, rfl, rfl⟩ (.inl rfl) ⟨rcm, hknows, ?_⟩
      simpa [LockStore.setMutex] using hzero
    · simp only [LockStore.next?, if_neg hzero] at hstep
      cases hstep
      refine h.mutex hl hn hknows (by simp [LockPc.counted]) (by simp [LockPc.holds]) ?_ (.inl rfl)
        trivial
      -- somebody else is counted still
      have hne :
          ((c.threads.set i ⟨t, .unlockCreateAgain⟩).map (tally LockPc.counted t)).sum ≠ 0 := by
        rw [total_move _ hl, ← hc.count rcm hknows]
        simpa [LockPc.counted] using hzero
      obtain ⟨x, hx, hxt, hxc⟩ := exists_of_total hne
      exact ⟨x, hx, hxt, uses_of_counted hxc⟩
  | delete =>
    obtain ⟨rcm, hrcm, hzero⟩ := hknows
    exact h.delete_entry hl hrcm hzero hn
  | unlockCreateAgain =>
    cases hn
    exact h.quiet hl rfl rfl rfl rfl rfl rfl nofun trivial
  | done => cases hn

theorem orderLockInv_start (tradeNos : List String) : OrderLockInv (lockCallers tradeNos) := by
  have hpc : ∀ l ∈ (lockCallers tradeNos).threads, l.pc = .lockCreate := by
    intro l hl
    obtain ⟨t, -, rfl⟩ := List.mem_map.mp hl
    rfl
  refine ⟨Sched.LockInv.init fun l hl => ?_, nofun,
    fun t => ⟨fun _ => ?_, nofun, nofun, nofun, nofun⟩, fun l hl => ?_⟩
  · rw [hpc l hl]
    nofun
  · by_contra hne
    obtain ⟨l, hl, -, hcounted⟩ := exists_of_total hne
    rw [hpc l hl] at hcounted
    cases hcounted
  · simp only [LockCaller.Knows, hpc l hl]

/-- **The order lock excludes and does not leak**: at most one caller is between the return
of `LockOrder(t)` and the unlock in `UnlockOrder(t)`, and `orderLocks` has an entry for `t`
exactly while a caller uses it. -/
theorem order_lock_excludes (tradeNos : List String)
    (h : Sched.Steps lockMachine Sched.free (lockCallers tradeNos) c) (t : String) :
    Sched.AtMostOne (fun l => l.tradeNo = t ∧ l.pc.holds = true) c ∧
      ((c.store.orderLocks t).isSome ↔ ∃ l ∈ c.threads, l.tradeNo = t ∧ l.pc.uses = true) := by
  have hinv : OrderLockInv c := Sched.Steps.invariant (orderLockInv_start tradeNos)
    (fun {c i e l s' l'} hI _ hl hn => by
      obtain ⟨t, pc⟩ := l
      obtain ⟨⟨s₁, pc'⟩, hnext, heq⟩ := Option.map_eq_some_iff.mp hn
      cases heq
      exact hI.step hl hnext) h
  have hc := hinv.counts t
  cases hentry : c.store.orderLocks t with
  | none =>
    have hzero := hc.absent hentry
    refine ⟨atMostOne_holds (by rw [holds_of_counted hzero]; omega), nofun, ?_⟩
    rintro ⟨l, hl, hlt, huses⟩
    have hknows := hinv.knows l hl
    cases hcounted : l.pc.counted with
    | true =>
      have hpos := total_pos hl hlt hcounted
      omega
    | false =>
      unfold LockCaller.Knows at hknows
      cases hpc : l.pc <;> simp only [hpc, hlt, hentry] at huses hcounted hknows <;>
        first | (cases huses; done) | (cases hcounted; done) | (cases hknows; done) |
          cases hknows.choose_spec.1
  | some rcm =>
    have hlock := hc.lock rcm hentry
    exact ⟨atMostOne_holds (by rw [← hlock]; split <;> omega), fun _ => hc.used rcm hentry,
      fun _ => rfl⟩

/-- One caller holds the lock of an order, and another waits for it. -/
theorem one_of_two_holds :
    ∃ c, Sched.Steps lockMachine Sched.free (lockCallers ["a", "a"]) c ∧
      c.threads.map (fun l => l.pc.holds) = [true, false] ∧
      Sched.AtMostOne (fun l => l.tradeNo = "a" ∧ l.pc.holds = true) c ∧
      ((c.store.orderLocks "a").isSome ↔ ∃ l ∈ c.threads, l.tradeNo = "a" ∧ l.pc.uses = true) :=
  Sched.exists_of_run_and ([0, 0, 0, 0, 0, 0, 1, 1, 1, 1].map (·, ())) (by decide)
    fun _ hrun _ => order_lock_excludes ["a", "a"] hrun "a"

/-! ## Nobody waits for ever -/

/-- How many statements a caller has before it, at most. -/
def LockPc.left : LockPc → Nat
  | .lockCreate => 12
  | .load => 11
  | .store => 10
  | .count _ => 9
  | .unlockCreate _ => 8
  | .lock _ => 7
  | .held => 6
  | .unlock _ => 5
  | .lockCreateAgain _ => 4
  | .uncount _ => 3
  | .delete => 2
  | .unlockCreateAgain => 1
  | .done => 0

/-- `createLock` is taken by somebody. -/
def CreateHeld (c : Sched.Conf LockStore LockCaller) : Prop :=
  c.store.createLock = true → ∃ l ∈ c.threads, l.pc.inCreate = true

/-- Every statement is a step to the end, and one of the section keeps `createLock`, or
gives it back. -/
theorem statement_left (h : s.next? t pc = some (s', pc')) : pc'.left < pc.left ∧
    (s'.createLock = true → (pc.inCreate = true → pc'.inCreate = true) ∧
      (s.createLock = true ∨ pc'.inCreate = true)) := by
  cases pc <;> simp only [LockStore.next?] at h
  case lockCreate | lockCreateAgain =>
    split at h
    · cases h
    · cases h
      exact ⟨by simp [LockPc.left], fun _ => ⟨fun _ => rfl, .inr rfl⟩⟩
  case load =>
    split at h <;> cases h <;>
      exact ⟨by simp [LockPc.left], fun hlock => ⟨fun _ => rfl, .inl hlock⟩⟩
  case held =>
    split at h <;> cases h <;>
      exact ⟨by simp [LockPc.left], fun hlock => ⟨fun hin => (by cases hin), .inl hlock⟩⟩
  case lock =>
    split at h
    · cases h
    · cases h
      exact ⟨by simp [LockPc.left], fun hlock => ⟨fun hin => (by cases hin), .inl hlock⟩⟩
  case uncount =>
    cases h
    split <;> exact ⟨by simp [LockPc.left], fun hlock => ⟨fun _ => rfl, .inl hlock⟩⟩
  case unlockCreate | unlockCreateAgain =>
    cases h
    exact ⟨by simp [LockPc.left], fun h => by cases h⟩
  case unlock =>
    cases h
    exact ⟨by simp [LockPc.left], fun hlock => ⟨fun hin => (by cases hin), .inl hlock⟩⟩
  case done => cases h
  all_goals
    cases h
    exact ⟨by simp [LockPc.left], fun hlock => ⟨fun _ => rfl, .inl hlock⟩⟩

theorem CreateHeld.step (h : CreateHeld c) (hl : c.threads[i]? = some ⟨t, pc⟩)
    (hn : c.store.next? t pc = some (s', pc')) :
    CreateHeld ⟨s', c.threads.set i ⟨t, pc'⟩⟩ := by
  intro hlock
  obtain ⟨hkeep, hwas | hin⟩ := (statement_left hn).2 hlock
  · exact Sched.exists_threads_set hl (h hwas) hkeep
  · exact ⟨_, List.mem_set (List.getElem?_eq_some_iff.mp hl).1 _, hin⟩

theorem moves_inCreate (h : pc.inCreate = true) : (s.next? t pc).isSome = true := by
  cases pc <;> first | rfl | (cases h; done) | skip
  simp only [LockStore.next?]
  split <;> rfl

theorem moves_holds (h : pc.holds = true) : (s.next? t pc).isSome = true := by
  cases pc <;> first | rfl | (cases h; done) | skip
  simp only [LockStore.next?]
  split <;> rfl

/-- As long as somebody is not done, somebody can move: a caller under `createLock`, the
holder of the mutex that a caller waits for, or the caller itself. -/
theorem OrderLockInv.moves (h : OrderLockInv c) (hcreate : CreateHeld c) (hl : l ∈ c.threads)
    (hpc : l.pc ≠ .done) : ∃ x ∈ c.threads, (c.store.next? x.tradeNo x.pc).isSome = true := by
  by_cases hin : ∃ x ∈ c.threads, x.pc.inCreate = true
  · obtain ⟨x, hx, hin⟩ := hin
    exact ⟨x, hx, moves_inCreate hin⟩
  have hfree : c.store.createLock = false := Bool.eq_false_iff.mpr fun hlock => hin (hcreate hlock)
  have hknows := h.knows l hl
  obtain ⟨t, pc⟩ := l
  cases pc with
  | lock rcm =>
    cases hlocked : (c.store.heap rcm).locked with
    | true =>
      have hholder : (c.threads.map (tally LockPc.holds t)).sum ≠ 0 := by
        rw [← (h.counts t).lock rcm hknows, hlocked]
        decide
      obtain ⟨x, hx, -, hholds⟩ := exists_of_total hholder
      exact ⟨x, hx, moves_holds hholds⟩
    | false => exact ⟨_, hl, by simp [LockStore.next?, hlocked]⟩
  | lockCreate | lockCreateAgain rcm => exact ⟨_, hl, by simp [LockStore.next?, hfree]⟩
  | held => exact ⟨_, hl, moves_holds rfl⟩
  | load | store | count rcm | unlockCreate rcm => exact ⟨_, hl, moves_inCreate rfl⟩
  | uncount rcm | delete | unlockCreateAgain => exact ⟨_, hl, moves_inCreate rfl⟩
  | unlock rcm => exact ⟨_, hl, rfl⟩
  | done => exact absurd rfl hpc

/-- What is over when everybody is done. -/
def LocksReturned (c : Sched.Conf LockStore LockCaller) : Prop :=
  (∀ l ∈ c.threads, l.pc = .done) ∧ ∀ t, c.store.orderLocks t = none

/-- **The order lock comes to everybody.** Whatever callers there are for whatever orders
and whatever they have done so far: there is a caller that can move until all of them have
returned from `UnlockOrder`, every choice of the one that moves ends there, and then
`orderLocks` is empty. -/
theorem order_lock_comes (tradeNos : List String)
    (h : Sched.Steps lockMachine Sched.free (lockCallers tradeNos) c) :
    Progress.Inevitable (Sched.Step lockMachine Sched.free)
      (Sched.Step lockMachine Sched.free) LocksReturned c := by
  have hstep : ∀ {c : Sched.Conf LockStore LockCaller} {i e l s' l'},
      OrderLockInv c ∧ CreateHeld c → c.threads[i]? = some l →
      lockMachine.next e c.store l = some (s', l') →
      (OrderLockInv ⟨s', c.threads.set i l'⟩ ∧ CreateHeld ⟨s', c.threads.set i l'⟩) ∧
        l'.pc.left < l.pc.left := by
    rintro c i e ⟨t, pc⟩ s' l' ⟨hinv, hcreate⟩ hl hn
    obtain ⟨⟨s₁, pc'⟩, hnext, heq⟩ := Option.map_eq_some_iff.mp hn
    cases heq
    exact ⟨⟨hinv.step hl hnext, hcreate.step hl hnext⟩, (statement_left hnext).1⟩
  have hinv : OrderLockInv c ∧ CreateHeld c := Sched.Steps.invariant
    ⟨orderLockInv_start tradeNos, fun h => by cases h⟩ (fun hI _ hl hn => (hstep hI hl hn).1) h
  refine Progress.inevitable_of_measure (fun c => OrderLockInv c ∧ CreateHeld c)
    (fun c => (c.threads.map fun l => l.pc.left).sum) ?_ ?_ hinv
  · rintro c c' hI - ⟨i, e, -, hs⟩
    obtain ⟨l, s', l', hl, hn, rfl⟩ := Sched.stepAt_eq_some hs
    obtain ⟨hI', hleft⟩ := hstep hI hl hn
    exact ⟨hI', Sched.sum_threads_set_lt _ hl hleft⟩
  · rintro c ⟨hI, hcreate⟩ hnot
    obtain ⟨l, hl, hpc⟩ : ∃ l ∈ c.threads, l.pc ≠ .done := by
      by_contra hdone
      push Not at hdone
      refine hnot ⟨hdone, fun t => ?_⟩
      cases hentry : c.store.orderLocks t with
      | none => rfl
      | some rcm =>
        obtain ⟨x, hx, -, huses⟩ := (hI.counts t).used rcm hentry
        rw [hdone x hx] at huses
        cases huses
    obtain ⟨x, hx, hmoves⟩ := hI.moves hcreate hl hpc
    obtain ⟨⟨s', pc'⟩, hnext⟩ := Option.isSome_iff_exists.mp hmoves
    obtain ⟨i, hi⟩ := List.mem_iff_getElem?.mp hx
    exact ⟨⟨s', c.threads.set i { x with pc := pc' }⟩, i, (), trivial,
      by simp [Sched.Conf.stepAt, hi, lockMachine, hnext]⟩

/-- Three callers of two orders, of which one waits. -/
theorem waiting_caller_is_served :
    ∃ c, Sched.Steps lockMachine Sched.free (lockCallers ["a", "a", "b"]) c ∧
      c.threads.map (fun l => l.pc.holds) = [true, false, false] ∧
      Progress.Inevitable (Sched.Step lockMachine Sched.free)
        (Sched.Step lockMachine Sched.free) LocksReturned c :=
  Sched.exists_of_run_and ([0, 0, 0, 0, 0, 0, 1, 1, 1, 1, 2].map (·, ())) (by decide)
    fun _ hrun _ => order_lock_comes ["a", "a", "b"] hrun

end YouBox
