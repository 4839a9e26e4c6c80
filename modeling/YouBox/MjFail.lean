import YouBox.MjPoll

/-!
# Failed and forgotten Midjourney tasks

Two promises of the poll. A task that ends as a failure has its quota returned;
and every pass brings the unfinished tasks up to date.

The pass keeps the first for the failures it finds itself. The two bulk updates
(tasks without an upstream id, tasks of a channel that is gone) and the
notification fail a row and return nothing, and no later pass reads a finished
row: `MjPairs` is the condition that these three fail no charged task. The
second fails where two unfinished tasks have one `mj_id`, because the pass keeps
one of them per id, and where the row has moved on since it was read;
`MjFresh` is the condition that neither happens.
-/

namespace YouBox

/-- What each submission was charged. -/
def mjCharge (subs : List MjSubmission) (i : Nat) : Int := (subs[i]?.map (·.charged)).getD 0

/-- The next statement of `l` fails no charged task for good without returning
its quota. -/
def MjExec.pairedOk (charge : Nat → Int) (tick : MjTick) (s : MjDB) (l : MjExec) : Bool :=
  (match l.pc.bulk tick with
    | some (hit, _) => s.rows.all fun r => !hit r || r.failed || charge r.id == 0
    | none => true)
  && match l.pc with
    | .save t => !t.failed || (findMj s.rows t.id).any (·.failed) || charge t.id == 0
    | _ => true

/-- No database error, and no charged task failed by a bulk update or a
notification. -/
def MjPairs (charge : Nat → Int) : Sched.Guard MjDB MjExec MjTick := fun c i tick =>
  tick.fails = false ∧ ∀ l ∈ c.threads[i]?, l.pairedOk charge tick c.store = true

instance (charge : Nat → Int) (c : Sched.Conf MjDB MjExec) (i : Nat) (tick : MjTick) :
    Decidable (MjPairs charge c i tick) :=
  inferInstanceAs (Decidable (_ ∧ _))

/-- A pass reads no two tasks with one `mj_id`, and a task it writes is still in
the status it was read in. -/
def MjExec.freshOk (tick : MjTick) (s : MjDB) (l : MjExec) : Bool :=
  match l.pc, l.call with
  | .start, .runMidjourneyTaskUpdateOnce =>
    decide ((MjPass.read s.rows).taskM.map (·.mjId)).Nodup
  | pc, _ =>
    match pc.writes tick with
    | some (t, _) => mjWon s.rows t t.status
    | none => true

def MjFresh : Sched.Guard MjDB MjExec MjTick := fun c i tick =>
  tick.fails = false ∧ ∀ l ∈ c.threads[i]?, l.freshOk tick c.store = true

instance (c : Sched.Conf MjDB MjExec) (i : Nat) (tick : MjTick) : Decidable (MjFresh c i tick) :=
  inferInstanceAs (Decidable (_ ∧ _))

/-! ## Failures and their returns -/

def MjPaid (s : MjDB) (id : Nat) : Prop := ∃ b ∈ s.returns, b.task = id ∧ b.done = true

/-- Some pass is about to return the quota of task `id`. -/
def MjPaying (c : Sched.Conf MjDB MjExec) (id : Nat) : Prop :=
  ∃ l ∈ c.threads, ∃ t, l.pc.returning = some t ∧ t.id = id

def MjPaired (charge : Nat → Int) (c : Sched.Conf MjDB MjExec) : Prop :=
  ∀ r ∈ c.store.rows, r.failed = true →
    charge r.id = 0 ∨ MjPaid c.store r.id ∨ MjPaying c r.id

variable {c : Sched.Conf MjDB MjExec} {i : Nat} {l l' : MjExec} {s' : MjDB} {tick : MjTick}
  {exec : Nat} {s : MjDB}

theorem MjPaying.other {id : Nat} (h : MjPaying c id) (hl : c.threads[i]? = some l)
    (hmover : ∀ t, l.pc.returning = some t → t.id ≠ id) :
    MjPaying ⟨s', c.threads.set i l'⟩ id := by
  obtain ⟨x, hx, t, ht, hid⟩ := h
  obtain ⟨j, hj⟩ := List.mem_iff_getElem?.mp hx
  by_cases hji : j = i
  · subst hji
    obtain rfl : l = x := Option.some.inj (hl.symm.trans hj)
    exact absurd hid (hmover t ht)
  · refine ⟨x, List.mem_of_getElem? (i := j) ?_, t, ht, hid⟩
    rw [List.getElem?_set_ne (fun h => hji h.symm)]
    exact hj

theorem MjPaying.mover {t : Midjourney} (hl : c.threads[i]? = some l)
    (ht : l'.pc.returning = some t) :
    MjPaying ⟨s', c.threads.set i l'⟩ t.id := by
  have hlt : i < c.threads.length := (List.getElem?_eq_some_iff.mp hl).1
  exact ⟨l', List.mem_of_getElem? (List.getElem?_set_self hlt), t, ht, rfl⟩

theorem MjPaired.step {charge q : Nat → Int} (hcharge : ∀ j, charge j = 0 ∨ charge j = q j)
    (hquotas : MjQuotas q c) (hinv : MjPaired charge c) (hok : MjPairs charge c i tick)
    (hl : c.threads[i]? = some l) (hn : mjMachine.next tick c.store l = some (s', l')) :
    MjPaired charge ⟨s', c.threads.set i l'⟩ := by
  obtain ⟨h, -⟩ := mjMachine_next hn
  obtain ⟨hfails, hok⟩ := hok
  have hpaired := hok l hl
  unfold MjExec.pairedOk at hpaired
  rw [Bool.and_eq_true] at hpaired
  obtain ⟨hbulk, hsave⟩ := hpaired
  -- what is settled for a task stays so while the mover returns nothing
  have hkeep : l.pc.returning = none → c.store.returns = s'.returns → ∀ id,
      charge id = 0 ∨ MjPaid c.store id ∨ MjPaying c id →
      charge id = 0 ∨ MjPaid s' id ∨ MjPaying ⟨s', c.threads.set i l'⟩ id := by
    intro hnone hreturns id hid
    rcases hid with hzero | ⟨b, hb, hpaid⟩ | hpaying
    · exact Or.inl hzero
    · exact Or.inr (Or.inl ⟨b, hreturns ▸ hb, hpaid⟩)
    · refine Or.inr (Or.inr (hpaying.other hl fun t ht => ?_))
      rw [hnone] at ht
      cases ht
  cases mjEffect h with
  | quiet hpc hpc' => exact fun r hr hfailed => hkeep hpc rfl r.id (hinv r hr hfailed)
  | @bulk _ hit reason hpc hnone hpc' =>
    intro r hr hfailed
    obtain ⟨x, hx, rfl⟩ := List.mem_map.mp hr
    rw [hpc] at hbulk
    by_cases hhit : hit x = true
    · rw [if_pos hhit] at hfailed ⊢
      have hvictim := List.all_eq_true.mp hbulk x hx
      simp only [hhit, Bool.not_true, Bool.false_or, Bool.or_eq_true, beq_iff_eq] at hvictim
      rcases hvictim with hwas | hzero
      · exact hkeep hnone rfl x.id (hinv x hx hwas)
      · exact Or.inl hzero
    · rw [if_neg hhit] at hfailed ⊢
      exact hkeep hnone rfl x.id (hinv x hx hfailed)
  | @write _ t seen hpc hnone hwon hpc' =>
    intro r hr hfailed
    rcases mem_saveMj hr with rfl | hmem
    · -- the pass that fails a task returns its quota next
      have hfails' := fails_of_failed hfailed
      by_cases hz : t.quota = 0
      · have hq := hquotas.held l (List.mem_of_getElem? hl) t (writes_mem hpc)
        rcases hcharge t.id with hzero | heq
        · exact Or.inl (by rw [updated_id]; exact hzero)
        · exact Or.inl (by rw [updated_id, heq, ← hq, hz])
      · rw [if_pos (by simp [hfails', hz])] at hpc'
        exact Or.inr (Or.inr (MjPaying.mover hl hpc'))
    · exact hkeep hnone rfl r.id (hinv r hmem hfailed)
  | @returned _ t hpc hpc' =>
    intro r hr hfailed
    by_cases hid : t.id = r.id
    · refine Or.inr (Or.inl ⟨_, List.mem_cons_self, hid, ?_⟩)
      rw [hfails]
      rfl
    · rcases hinv r hr hfailed with hzero | ⟨b, hb, hpaid⟩ | hpaying
      · exact Or.inl hzero
      · exact Or.inr (Or.inl ⟨b, List.mem_cons_of_mem _ hb, hpaid⟩)
      · refine Or.inr (Or.inr (hpaying.other hl fun x hx => ?_))
        rw [hpc] at hx
        obtain rfl := Option.some.inj hx
        exact hid
  | @save _ t hpc hpc' =>
    intro r hr hfailed
    have hnone : l.pc.returning = none := by rw [hpc]; rfl
    rcases mem_saveMj hr with rfl | hmem
    · rw [hpc] at hsave
      simp only [hfailed, Bool.not_true, Bool.false_or, Bool.or_eq_true, Option.any_eq_true,
        beq_iff_eq] at hsave
      rcases hsave with ⟨x, hx, hwas⟩ | hzero
      · have hid : x.id = r.id := findMj_id hx
        rw [← hid]
        exact hkeep hnone rfl x.id (hinv x (findMj_mem hx) hwas)
      · exact Or.inl hzero
    · exact hkeep hnone rfl r.id (hinv r hmem hfailed)

theorem mjCharge_quota (subs : List MjSubmission) (i : Nat) :
    mjCharge subs i = 0 ∨ mjCharge subs i = mjQuota subs i := by
  unfold mjCharge mjQuota
  cases subs[i]? with
  | none => exact Or.inl rfl
  | some m =>
    simp only [Option.map_some, Option.getD_some]
    unfold MjSubmission.charged
    split
    · exact Or.inr rfl
    · exact Or.inl rfl

/-! ## What a pass brings up to date -/

/-- What identifies a task to a pass. -/
def Midjourney.key (t : Midjourney) : Nat × String := (t.id, t.mjId)

/-- The tasks a pass asks upstream about. -/
def MjPass.asked (p : MjPass) : List Midjourney := p.snapshot.filter fun t => t.mjId != ""

/-- The item has been written to every task of the snapshot it is about. -/
def MjPass.wrote (p : MjPass) (item : MidjourneyDto) : Prop :=
  ∀ r ∈ p.asked, r.mjId = item.mjId → (r.id, item) ∈ p.updates

/-- A pass with the items `todo` of its last answer ahead of it. -/
structure PassInv (todo : List MidjourneyDto) (p : MjPass) : Prop where
  keys : p.taskM.map Midjourney.key = p.asked.map Midjourney.key
  ids : (p.asked.map (·.id)).Nodup
  mjIds : (p.asked.map (·.mjId)).Nodup
  items : ∀ a ∈ p.answers, ∀ item ∈ a.2, item ∈ todo ∨ p.wrote item
  channels : ∀ r ∈ p.asked, r.channelId ∈ p.remaining ∨ r.channelId ∈ p.lost
    ∨ r.channelId ∈ p.silent ∨ ∃ items, (r.channelId, items) ∈ p.answers

section Pass

variable {p : MjPass} {todo : List MidjourneyDto} {item : MidjourneyDto} {t : Midjourney}

theorem PassInv.asked_of_mem (h : PassInv todo p) (ht : t ∈ p.taskM) :
    ∃ r ∈ p.asked, r.id = t.id ∧ r.mjId = t.mjId := by
  have hkey : t.key ∈ p.asked.map Midjourney.key := by
    rw [← h.keys]
    exact List.mem_map_of_mem ht
  obtain ⟨r, hr, heq⟩ := List.mem_map.mp hkey
  obtain ⟨hid, hmj⟩ := Prod.mk.inj heq
  exact ⟨r, hr, hid, hmj⟩

variable {r : Midjourney}

theorem PassInv.lookup_id (h : PassInv todo p) (ht : lookupMj p.taskM item.mjId = some t)
    (hr : r ∈ p.asked) (hmj : r.mjId = item.mjId) : r.id = t.id := by
  have htm : t.mjId = item.mjId := by simpa using List.find?_some ht
  obtain ⟨x, hx, hid, hxm⟩ := h.asked_of_mem (mem_lookupMj ht)
  have hxr : x = r := List.inj_on_of_nodup_map h.mjIds hx hr (hxm.trans (htm.trans hmj.symm))
  rw [← hxr]
  exact hid

theorem PassInv.lookup_none (h : PassInv todo p) (ht : lookupMj p.taskM item.mjId = none)
    (hr : r ∈ p.asked) : r.mjId ≠ item.mjId := by
  intro hmj
  have hkey : r.key ∈ p.taskM.map Midjourney.key := by
    rw [h.keys]
    exact List.mem_map_of_mem hr
  obtain ⟨x, hx, heq⟩ := List.mem_map.mp hkey
  have hxm : x.mjId = r.mjId := (Prod.mk.inj heq).2
  have hno := List.find?_eq_none.mp ht x (List.mem_reverse.mpr hx)
  rw [hxm, hmj] at hno
  exact hno (beq_self_eq_true _)

theorem PassInv.keys_save (h : PassInv todo p) (ht : t ∈ p.taskM) {u : Midjourney}
    (hu : u.key = t.key) :
    (saveMj p.taskM u).map Midjourney.key = p.asked.map Midjourney.key := by
  have hids : (p.taskM.map (·.id)).Nodup := by
    have hmap : p.taskM.map (·.id) = p.asked.map (·.id) := by
      have hfst := congrArg (List.map Prod.fst) h.keys
      simpa [List.map_map, Function.comp_def, Midjourney.key] using hfst
    rw [hmap]
    exact h.ids
  rw [← h.keys]
  unfold saveMj
  rw [List.map_map]
  refine List.map_congr_left fun r hr => ?_
  by_cases hid : r.id = u.id
  · have hrt : r = t :=
      List.inj_on_of_nodup_map hids hr ht (hid.trans (Prod.mk.inj hu).1)
    simp only [Function.comp_apply, if_pos hid]
    rw [hu, hrt]
  · simp only [Function.comp_apply, if_neg hid]

theorem PassInv.took {p' : MjPass} (h : PassInv (item :: todo) p)
    (hkeys : p'.taskM.map Midjourney.key = p.asked.map Midjourney.key)
    (hsame : p'.snapshot = p.snapshot ∧ p'.remaining = p.remaining ∧ p'.lost = p.lost
      ∧ p'.silent = p.silent ∧ p'.answers = p.answers)
    (hmore : ∀ x ∈ p.updates, x ∈ p'.updates) (hwrote : p'.wrote item) : PassInv todo p' := by
  obtain ⟨hsnap, hrem, hlost, hsilent, hanswers⟩ := hsame
  have hasked : p'.asked = p.asked := by
    unfold MjPass.asked
    rw [hsnap]
  refine ⟨by rw [hkeys, hasked], by rw [hasked]; exact h.ids, by rw [hasked]; exact h.mjIds, ?_, ?_⟩
  · rw [hanswers]
    intro a ha x hx
    rcases h.items a ha x hx with hmem | hdone
    · rcases List.mem_cons.mp hmem with rfl | hmem
      · exact Or.inr hwrote
      · exact Or.inl hmem
    · refine Or.inr fun r hr hmj => hmore _ (hdone r ?_ hmj)
      rw [← hasked]
      exact hr
  · rw [hasked, hrem, hlost, hsilent, hanswers]
    exact h.channels

/-- An item of a task still in the status it was read in is written, or finds
the row up to date. -/
theorem PassInv.atItem {tick : MjTick} {s : MjDB} (h : PassInv (item :: todo) p)
    (ht : lookupMj p.taskM item.mjId = some t) (hfails : tick.fails = false)
    (hwon : checkMjTaskNeedUpdate t (item.overdue tick.now t) = true →
      mjWon s.rows t t.status = true) :
    ∃ p' u, ((p.atItem t item todo tick s).2 = .items todo p'
        ∨ (p.atItem t item todo tick s).2 = .returnQuota u todo p') ∧ PassInv todo p' := by
  have hwrote : ∀ taskM, MjPass.wrote
      { p with taskM := taskM, updates := (t.id, item) :: p.updates } item := by
    intro taskM r hr hmj
    rw [h.lookup_id ht hr hmj]
    exact List.mem_cons_self
  unfold MjPass.atItem
  simp only
  by_cases hneed : checkMjTaskNeedUpdate t (item.overdue tick.now t) = false
  · rw [if_pos hneed]
    refine ⟨_, t, Or.inl rfl, h.took h.keys ⟨rfl, rfl, rfl, rfl, rfl⟩
      (fun x hx => List.mem_cons_of_mem _ hx) (hwrote p.taskM)⟩
  rw [if_neg hneed]
  have hwon' : mjWon s.rows (t.updated (item.overdue tick.now t)) t.status = true := by
    have hw := hwon (Bool.eq_true_of_not_eq_false hneed)
    simpa [mjWon] using hw
  rw [if_neg (by simp [hfails, hwon'])]
  have hkey : (t.updated (item.overdue tick.now t)).key = t.key := by
    simp [Midjourney.key]
  have hinv : PassInv todo { p with
      taskM := saveMj p.taskM (t.updated (item.overdue tick.now t))
      updates := (t.id, item) :: p.updates } :=
    h.took (h.keys_save (mem_lookupMj ht) hkey) ⟨rfl, rfl, rfl, rfl, rfl⟩
      (fun x hx => List.mem_cons_of_mem _ hx) (hwrote _)
  by_cases hret : (t.fails (item.overdue tick.now t) && t.quota != 0) = true
  · simp only [hret, if_true]
    exact ⟨_, _, Or.inr rfl, hinv⟩
  · simp only [hret, Bool.false_eq_true, if_false]
    exact ⟨_, t, Or.inl rfl, hinv⟩

theorem PassInv.read {rows : List Midjourney} (hids : (rows.map (·.id)).Nodup)
    (hmj : ((MjPass.read rows).taskM.map (·.mjId)).Nodup) : PassInv [] (MjPass.read rows) where
  keys := rfl
  ids := by
    refine hids.sublist (List.Sublist.map _ ?_)
    exact List.filter_sublist.trans List.filter_sublist
  mjIds := hmj
  items := fun a ha => (List.not_mem_nil ha).elim
  channels := fun r hr => Or.inl (List.mem_dedup.mpr (List.mem_map_of_mem hr))

theorem PassInv.erase (ch : Nat) (h : PassInv [] p) (hr : r ∈ p.asked) :
    r.channelId = ch ∨ r.channelId ∈ p.remaining.erase ch ∨ r.channelId ∈ p.lost
      ∨ r.channelId ∈ p.silent ∨ ∃ items, (r.channelId, items) ∈ p.answers := by
  by_cases hch : r.channelId = ch
  · exact Or.inl hch
  · rcases h.channels r hr with hrem | hrest
    · exact Or.inr (Or.inl ((List.mem_erase_of_ne hch).mpr hrem))
    · exact Or.inr (Or.inr hrest)

end Pass

/-- The pass of an execution is in order, and a pass that is through has met
every channel unless it was cancelled. -/
def MjExec.InOrder (l : MjExec) : Prop :=
  match l.pc with
  | .nullTasks p => PassInv [] p
  | .channels p => PassInv [] p
  | .items todo p => PassInv todo p
  | .returnQuota _ todo p => PassInv todo p
  | .passed p => PassInv [] p ∧ (p.cancelled = true ∨ p.remaining = [])
  | _ => True

theorem atChannel_inOrder {call : MjCall} {p : MjPass} {ch : Nat} (h : PassInv [] p) :
    MjExec.InOrder ⟨exec, call, (p.atChannel ch tick s).2⟩ := by
  unfold MjPass.atChannel
  cases tick.answer with
  | cancelled => exact ⟨⟨h.keys, h.ids, h.mjIds, h.items, h.channels⟩, Or.inl rfl⟩
  | lost =>
    refine ⟨h.keys, h.ids, h.mjIds, h.items, fun r hr => ?_⟩
    rcases h.erase ch hr with hch | hrem | hlost | hrest
    · exact Or.inr (Or.inl (by rw [hch]; exact List.mem_cons_self))
    · exact Or.inl hrem
    · exact Or.inr (Or.inl (List.mem_cons_of_mem _ hlost))
    · exact Or.inr (Or.inr hrest)
  | silent =>
    refine ⟨h.keys, h.ids, h.mjIds, h.items, fun r hr => ?_⟩
    rcases h.erase ch hr with hch | hrem | hlost | hsilent | hrest
    · exact Or.inr (Or.inr (Or.inl (by rw [hch]; exact List.mem_cons_self)))
    · exact Or.inl hrem
    · exact Or.inr (Or.inl hlost)
    · exact Or.inr (Or.inr (Or.inl (List.mem_cons_of_mem _ hsilent)))
    · exact Or.inr (Or.inr (Or.inr hrest))
  | items items =>
    refine ⟨h.keys, h.ids, h.mjIds, fun a ha x hx => ?_, fun r hr => ?_⟩
    · rcases List.mem_cons.mp ha with rfl | hmem
      · exact Or.inl hx
      · rcases h.items a hmem x hx with hnil | hdone
        · exact (List.not_mem_nil hnil).elim
        · exact Or.inr hdone
    · rcases h.erase ch hr with hch | hrem | hlost | hsilent | ⟨its, hits⟩
      · refine Or.inr (Or.inr (Or.inr ⟨items, ?_⟩))
        rw [hch]
        exact List.mem_cons_self
      · exact Or.inl hrem
      · exact Or.inr (Or.inl hlost)
      · exact Or.inr (Or.inr (Or.inl hsilent))
      · exact Or.inr (Or.inr (Or.inr ⟨its, List.mem_cons_of_mem _ hits⟩))

theorem mjRows_ids {pc pc' : MjPc} (h : MjEffect exec tick s pc s' pc') :
    s'.rows.map (·.id) = s.rows.map (·.id) := by
  have hsave : ∀ t : Midjourney, (saveMj s.rows t).map (·.id) = s.rows.map (·.id) := by
    intro t
    unfold saveMj
    rw [List.map_map]
    refine List.map_congr_left fun r _ => ?_
    by_cases hid : r.id = t.id
    · simp [hid]
    · simp [hid]
  cases h with
  | quiet => rfl
  | bulk =>
    show (mjBulkUpdate _ _ s.rows).map (·.id) = s.rows.map (·.id)
    unfold mjBulkUpdate
    rw [List.map_map]
    refine List.map_congr_left fun r _ => ?_
    simp only [Function.comp_apply]
    split <;> rfl
  | write => exact hsave _
  | returned => rfl
  | save => exact hsave _

theorem inOrder_step {call : MjCall} {pc pc' : MjPc} (hids : (s.rows.map (·.id)).Nodup)
    (hin : MjExec.InOrder ⟨exec, call, pc⟩) (hfails : tick.fails = false)
    (hok : MjExec.freshOk tick s ⟨exec, call, pc⟩ = true)
    (h : pc.next call exec tick s = some (s', pc')) : MjExec.InOrder ⟨exec, call, pc'⟩ := by
  cases pc with
  | start =>
    cases call with
    | runMidjourneyTaskUpdateOnce =>
      cases h
      rw [hfails]
      exact PassInv.read hids (of_decide_eq_true hok)
    | relayMidjourneyNotify item =>
      simp only [MjPc.next] at h
      split at h
      · cases h
        trivial
      · cases h
        rw [hfails]
        trivial
  | nullTasks p =>
    cases h
    exact hin
  | channels p =>
    have hin : PassInv [] p := hin
    simp only [MjPc.next] at h
    split at h
    · rename_i hnone
      cases h
      refine ⟨hin, Or.inr ?_⟩
      by_contra hne
      have hlen : 0 < p.remaining.length := List.length_pos_of_ne_nil hne
      have hge := List.getElem?_eq_none_iff.mp hnone
      have hlt := Nat.mod_lt tick.pick hlen
      omega
    · rename_i ch hch
      have hpc : (p.atChannel ch tick s).2 = pc' := by rw [Option.some.inj h]
      rw [← hpc]
      exact atChannel_inOrder hin
  | items todo p =>
    have hin : PassInv todo p := hin
    cases todo with
    | nil =>
      cases h
      exact hin
    | cons item todo =>
      simp only [MjPc.next] at h
      split at h
      · rename_i hnone
        cases h
        exact hin.took hin.keys ⟨rfl, rfl, rfl, rfl, rfl⟩ (fun x hx => hx)
          fun r hr hmj => absurd hmj (hin.lookup_none hnone hr)
      · rename_i t ht
        have hpc : (p.atItem t item todo tick s).2 = pc' := by rw [Option.some.inj h]
        have hwon : checkMjTaskNeedUpdate t (item.overdue tick.now t) = true →
            mjWon s.rows t t.status = true := by
          intro hneed
          simpa [MjExec.freshOk, MjPc.writes, ht, hneed] using hok
        obtain ⟨p', u, hwhere, hinv⟩ := hin.atItem ht hfails hwon
        rw [← hpc]
        rcases hwhere with heq | heq
        · rw [heq]
          exact hinv
        · rw [heq]
          exact hinv
  | returnQuota t todo p =>
    cases h
    exact hin
  | save t =>
    cases h
    trivial
  | passed p => cases h
  | ended => cases h

/-! ## Whole runs -/

theorem mjStart_ids (subs : List MjSubmission) (calls : List MjCall) :
    ((mjStart subs calls).store.rows.map (·.id)).Nodup := by
  have hids : (mjStart subs calls).store.rows.map (·.id) = List.range subs.length := by
    refine List.ext_getElem? fun i => ?_
    simp only [mjStart, List.getElem?_map, List.getElem?_mapIdx, Option.map_map]
    by_cases hi : i < subs.length
    · rw [List.getElem?_eq_getElem hi, List.getElem?_range hi]
      exact congrArg some (row_keeps _ i).1
    · rw [List.getElem?_eq_none (by omega), List.getElem?_eq_none (by simpa using hi)]
      rfl
  rw [hids]
  exact List.nodup_range

/-- **Failures are returned for, and passes keep tasks up to date.** In every
run that fails no charged task by a bulk update or a notification, a charged
task that has ended as a failure has had its quota returned, or the pass that
failed it is about to. In every run whose passes meet no shared `mj_id` and no
row that has moved on, a pass that went through has written each item of each
answer to the task it is about, for every unfinished task it read; the tasks it
missed are those of channels that are gone or gave no answer. -/
theorem mj_failed_returned_and_updated (subs : List MjSubmission) (calls : List MjCall)
    (c : Sched.Conf MjDB MjExec) :
    (Sched.Steps mjMachine (MjPairs (mjCharge subs)) (mjStart subs calls) c →
      ∀ r ∈ c.store.rows, r.failed = true → mjCharge subs r.id ≠ 0 →
        (∃ b ∈ c.store.returns, b.task = r.id ∧ b.quota = mjCharge subs r.id ∧ b.done = true)
          ∨ MjPaying c r.id)
    ∧ (Sched.Steps mjMachine MjFresh (mjStart subs calls) c →
      ∀ l ∈ c.threads, ∀ p, l.pc = .passed p → p.cancelled = false →
        ∀ r ∈ p.snapshot, r.mjId ≠ "" →
          r.channelId ∈ p.lost ∨ r.channelId ∈ p.silent
            ∨ ∃ items, (r.channelId, items) ∈ p.answers
              ∧ ∀ item ∈ items, item.mjId = r.mjId → (r.id, item) ∈ p.updates) := by
  constructor
  · intro hrun r hr hfailed hcharged
    have h₀ : MjPaired (mjCharge subs) (mjStart subs calls)
        ∧ MjQuotas (mjQuota subs) (mjStart subs calls) := by
      refine ⟨fun x hx hfailed => ?_, mjStart_quotas subs calls⟩
      obtain ⟨i, m, -, rfl⟩ := mjStart_rows hx
      rw [(row_keeps m i).2.2] at hfailed
      cases hfailed
    obtain ⟨hpaired, hquotas⟩ : MjPaired (mjCharge subs) c ∧ MjQuotas (mjQuota subs) c :=
      Sched.Steps.invariant
        (I := fun c => MjPaired (mjCharge subs) c ∧ MjQuotas (mjQuota subs) c) h₀
        (fun hI hok hl hn =>
          ⟨hI.1.step (mjCharge_quota subs) hI.2 hok hl hn, hI.2.step hl hn⟩) hrun
    rcases hpaired r hr hfailed with hzero | ⟨b, hb, hid, hdone⟩ | hpaying
    · exact absurd hzero hcharged
    · refine Or.inl ⟨b, hb, hid, ?_, hdone⟩
      rw [hquotas.returns b hb, hid]
      exact ((mjCharge_quota subs r.id).resolve_left hcharged).symm
    · exact Or.inr hpaying
  · intro hrun l hl p hpc hcancelled r hr hmj
    have h₀ : ((mjStart subs calls).store.rows.map (·.id)).Nodup
        ∧ ∀ l ∈ (mjStart subs calls).threads, l.InOrder := by
      refine ⟨mjStart_ids subs calls, fun l hl => ?_⟩
      unfold MjExec.InOrder
      rw [mjStart_threads hl]
      trivial
    obtain ⟨-, horder⟩ : (c.store.rows.map (·.id)).Nodup ∧ ∀ l ∈ c.threads, l.InOrder := by
      refine Sched.Steps.invariant
        (I := fun c => (c.store.rows.map (·.id)).Nodup ∧ ∀ l ∈ c.threads, l.InOrder) h₀
        (fun hI hok hl hn => ?_) hrun
      obtain ⟨h, hl'⟩ := mjMachine_next hn
      refine ⟨by rw [mjRows_ids (mjEffect h)]; exact hI.1, ?_⟩
      refine Sched.forall_threads_set hI.2 ?_
      rw [hl']
      exact inOrder_step hI.1 (hI.2 _ (List.mem_of_getElem? hl)) hok.1 (hok.2 _ hl) h
    have hin := horder l hl
    unfold MjExec.InOrder at hin
    rw [hpc] at hin
    obtain ⟨hpass, hthrough⟩ := hin
    have hrem : p.remaining = [] := hthrough.resolve_left (by rw [hcancelled]; exact Bool.false_ne_true)
    have hasked : r ∈ p.asked := List.mem_filter.mpr ⟨hr, bne_iff_ne.mpr hmj⟩
    rcases hpass.channels r hasked with hmem | hlost | hsilent | ⟨items, hitems⟩
    · rw [hrem] at hmem
      exact (List.not_mem_nil hmem).elim
    · exact Or.inl hlost
    · exact Or.inr (Or.inl hsilent)
    · refine Or.inr (Or.inr ⟨items, hitems, fun item hitem heq => ?_⟩)
      rcases hpass.items _ hitems item hitem with hnil | hwrote
      · exact (List.not_mem_nil hnil).elim
      · exact hwrote r hasked heq.symm

/-! The task of `MjPoll`, and a pass that finds it failed. -/

def mjBanned : MidjourneyDto := mjReport "FAILURE" "100%" "banned"

/-- The pass once it is through. -/
def mjBannedPass : MjPass where
  snapshot := [imagineTask.row 0]
  taskM := [(imagineTask.row 0).updated mjBanned]
  remaining := []
  cancelled := false
  lost := []
  silent := []
  answers := [(2, [mjBanned])]
  updates := [(0, mjBanned)]

def mjBannedRun : List (Nat × MjTick) :=
  [(0, mjTick .silent), (0, mjTick .silent), (0, mjTick (.items [mjBanned])), (0, mjTick .silent),
    (0, mjTick .silent), (0, mjTick .silent), (0, mjTick .silent)]

theorem mj_failed_returned_and_updated_in_a_pass :
    (∃ c r, Sched.Steps mjMachine (MjPairs (mjCharge [imagineTask]))
          (mjStart [imagineTask] [.runMidjourneyTaskUpdateOnce]) c
        ∧ r ∈ c.store.rows ∧ r.failed = true
        ∧ ((∃ b ∈ c.store.returns, b.task = r.id ∧ b.quota = mjCharge [imagineTask] r.id
          ∧ b.done = true) ∨ MjPaying c r.id))
      ∧ ∃ c, Sched.Steps mjMachine MjFresh
          (mjStart [imagineTask] [.runMidjourneyTaskUpdateOnce]) c
        ∧ ⟨0, .runMidjourneyTaskUpdateOnce, .passed mjBannedPass⟩ ∈ c.threads
        ∧ ∀ r ∈ mjBannedPass.snapshot, r.mjId ≠ "" →
          r.channelId ∈ mjBannedPass.lost ∨ r.channelId ∈ mjBannedPass.silent
            ∨ ∃ items, (r.channelId, items) ∈ mjBannedPass.answers
              ∧ ∀ item ∈ items, item.mjId = r.mjId → (r.id, item) ∈ mjBannedPass.updates := by
  constructor
  · have hrun : ∃ c, Sched.Steps mjMachine (MjPairs (mjCharge [imagineTask]))
          (mjStart [imagineTask] [.runMidjourneyTaskUpdateOnce]) c
        ∧ ∃ r ∈ c.store.rows, r.failed = true ∧ mjCharge [imagineTask] r.id ≠ 0 :=
      Sched.exists_of_run mjBannedRun (by decide)
    obtain ⟨c, hc, r, hr, hfailed, hcharged⟩ := hrun
    exact ⟨c, r, hc, hr, hfailed, (mj_failed_returned_and_updated [imagineTask] _ c).1 hc r hr
      hfailed hcharged⟩
  · exact Sched.exists_of_run_and mjBannedRun (by decide) fun c hc hmem =>
      (mj_failed_returned_and_updated [imagineTask] _ c).2 hc _ hmem _ rfl rfl

/-- A charged task without an upstream id; a notification of a failure; and two
tasks under one upstream id, of which a pass sees the second only. -/
theorem mj_failed_unreturned_and_forgotten :
    (∃ m : MjSubmission, m.charged = 100
      ∧ ∃ c, Sched.Steps mjMachine Sched.free (mjStart [m] [.runMidjourneyTaskUpdateOnce]) c
        ∧ (∃ r ∈ c.store.rows, r.failed = true) ∧ c.store.returns = []
        ∧ ∀ l ∈ c.threads, l.pc.next l.call l.exec (mjTick .silent) c.store = none)
    ∧ (∃ c, Sched.Steps mjMachine Sched.free
          (mjStart [imagineTask] [.relayMidjourneyNotify mjBanned]) c
        ∧ (∃ r ∈ c.store.rows, r.failed = true) ∧ c.store.returns = []
        ∧ ∀ l ∈ c.threads, l.pc = .ended)
    ∧ ∃ c, Sched.Steps mjMachine Sched.free
          (mjStart [imagineTask, imagineTask] [.runMidjourneyTaskUpdateOnce]) c
        ∧ ∃ l ∈ c.threads, ∃ p, l.pc = .passed p ∧ p.cancelled = false
          ∧ (2, [mjBanned]) ∈ p.answers ∧ p.snapshot.map (·.id) = [0, 1]
          ∧ p.updates = [(1, mjBanned)] := by
  refine ⟨⟨{ imagineTask with response := ⟨200, 1, "ok", "", none⟩ }, rfl, ?_⟩, ?_, ?_⟩
  · exact Sched.exists_of_run (List.replicate 3 (0, mjTick .silent)) (by decide)
  · exact Sched.exists_of_run (List.replicate 2 (0, mjTick .silent)) (by decide)
  · have hrun : ∃ c, Sched.Steps mjMachine Sched.free
          (mjStart [imagineTask, imagineTask] [.runMidjourneyTaskUpdateOnce]) c
        ∧ ∃ l ∈ c.threads, (match l.pc with
          | .passed p => decide (p.cancelled = false ∧ (2, [mjBanned]) ∈ p.answers
              ∧ p.snapshot.map (·.id) = [0, 1] ∧ p.updates = [(1, mjBanned)])
          | _ => false) = true := Sched.exists_of_run mjBannedRun (by decide)
    obtain ⟨c, hc, l, hl, hpass⟩ := hrun
    split at hpass
    · rename_i p hpc
      exact ⟨c, hc, l, hl, p, hpc, of_decide_eq_true hpass⟩
    · cases hpass

end YouBox
