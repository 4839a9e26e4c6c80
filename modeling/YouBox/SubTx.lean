import YouBox.Sched
import YouBox.BillingOpen
import YouBox.SubRefund

/-!
# Subscription transactions, interleaved

`PreConsumeUserSubscription`, `PostConsumeUserSubscriptionDelta`,
`RefundSubscriptionPreConsume` and `AdminInvalidateUserSubscription` as
transactions that run side by side. All but the last read rows, compute in Go
and write the *full* rows back with `Save`; their SELECTs carry the query
option that the installed gorm ignores, so nothing keeps another transaction
from committing in between. The invalidation updates two columns only.

Writes become visible when a transaction commits, and a refund's inner
transaction commits on its own. The store keeps a log of the committed effects,
and `replay` says what a row should look like after them: that is the
specification of "no update is lost". It holds of a row in every run in which
no SELECT comes between another transaction's SELECT of that row and its commit
(`subTx_step`, `no_update_lost`).
-/

namespace YouBox

/-! ## Effects -/

inductive SubEffect where
  /-- A delta, clamped at zero. -/
  | adjust (delta : Int)
  /-- A charge of `amount`, on top of a reset that zeroes the usage or not. -/
  | consume (zeroes : Bool) (amount : Int)
  | cancel
deriving DecidableEq

/-- The two columns the effects are about: usage and status. -/
def SubEffect.apply (e : SubEffect) (v : Int × SubStatus) : Int × SubStatus :=
  match e with
  | .adjust delta => (newUsed v.1 delta, v.2)
  | .consume zeroes amount => ((if zeroes then 0 else v.1) + amount, v.2)
  | .cancel => (v.1, .cancelled)

/-- The effects on subscription `id`, in the order of their commits. -/
def effectsOn (id : Nat) (log : List (Nat × SubEffect)) : List SubEffect :=
  (log.filter fun p => decide (p.1 = id)).map (·.2)

def replay (id : Nat) (log : List (Nat × SubEffect)) (v : Int × SubStatus) : Int × SubStatus :=
  (effectsOn id log).foldl (fun v e => e.apply v) v

def UserSubscription.view (s : UserSubscription) : Int × SubStatus := (s.amountUsed, s.status)

theorem replay_append (id : Nat) (log log' : List (Nat × SubEffect)) (v : Int × SubStatus) :
    replay id (log ++ log') v = replay id log' (replay id log v) := by
  simp [replay, effectsOn, List.filter_append, List.map_append, List.foldl_append]

theorem replay_nil (id : Nat) (v : Int × SubStatus) : replay id [] v = v := rfl

theorem replay_cons_self (id : Nat) (e : SubEffect) (log : List (Nat × SubEffect))
    (v : Int × SubStatus) : replay id ((id, e) :: log) v = replay id log (e.apply v) := by
  simp [replay, effectsOn]

variable {env : Int → Env} {j : Nat}

theorem replay_cons_ne {id : Nat} (h : j ≠ id) (e : SubEffect) (log : List (Nat × SubEffect))
    (v : Int × SubStatus) : replay id ((j, e) :: log) v = replay id log v := by
  simp [replay, effectsOn, h]

theorem replay_cancelled {id : Nat} {log : List (Nat × SubEffect)} :
    ∀ {v : Int × SubStatus}, v.2 = .cancelled ∨ (id, SubEffect.cancel) ∈ log →
      (replay id log v).2 = .cancelled := by
  induction log with
  | nil =>
    rintro v (h | h)
    · exact h
    · cases h
  | cons p rest ih =>
    obtain ⟨j, e⟩ := p
    intro v h
    by_cases hj : j = id
    · subst hj
      rw [replay_cons_self]
      refine ih ?_
      rcases h with h | h
      · cases e <;> exact Or.inl (by simp [SubEffect.apply, h])
      · rcases List.mem_cons.mp h with heq | hmem
        · obtain rfl := (Prod.mk.inj heq).2
          exact Or.inl rfl
        · exact Or.inr hmem
    · rw [replay_cons_ne hj]
      refine ih ?_
      rcases h with h | h
      · exact Or.inl h
      · rcases List.mem_cons.mp h with heq | hmem
        · exact absurd (Prod.mk.inj heq).1.symm hj
        · exact Or.inr hmem

/-! ## The transactions -/

structure SubDB where
  subs : List UserSubscription
  records : List SubscriptionPreConsumeRecord
  log : List (Nat × SubEffect)

inductive SubCall where
  /-- `now` is the timestamp the call took before its transaction. -/
  | preConsume (now : Int) (requestId : String) (userId : Nat) (amount : Int)
  | postConsume (userSubscriptionId : Nat) (delta : Int)
  | refund (requestId : String)
  | invalidate (userSubscriptionId : Nat)

/-- A delta to apply, for its own sake or as the inner transaction of the
refund of `record`. -/
structure Adjust where
  id : Nat
  delta : Int
  record : Option SubscriptionPreConsumeRecord
deriving DecidableEq

inductive SubPc where
  | start
  | selectCands
  | loop (cands : List UserSubscription)
  | create (cands : List UserSubscription) (p : Picked)
  /-- `charge` is false when the INSERT found the record of another attempt. -/
  | commitPre (cands : List UserSubscription) (p : Picked) (charge : Bool)
  | selectRow (job : Adjust)
  | saveRow (job : Adjust) (row : UserSubscription)
  | commitRow (job : Adjust) (row : UserSubscription)
  | markRecord (record : SubscriptionPreConsumeRecord)
  | commitOuter (record : SubscriptionPreConsumeRecord)
  | selectCancel
  | update (row : UserSubscription)
  | commitCancel (row : UserSubscription)
  | ended (err : Option SubErr)
deriving DecidableEq

/-- The rows a pre-consume saves, each with what it charges. -/
def Picked.saves (p : Picked) (amount : Int) (charge : Bool) :
    List (UserSubscription × Int) :=
  p.resets.map (fun r => (r, 0)) ++ if charge then [(p.charged amount, amount)] else []

/-- The effect of saving a row that started from the snapshot `cands`. -/
def saveEffect (env : Env) (cands : List UserSubscription) (w : UserSubscription × Int) :
    Nat × SubEffect :=
  (w.1.id, .consume (((findSub cands w.1.id).map (dueZeroes env)).getD false) w.2)

def SubDB.charge (s : SubDB) (env : Env) (cands : List UserSubscription)
    (saves : List (UserSubscription × Int)) : SubDB :=
  { s with
    subs := (saves.map (·.1)).foldl saveSub s.subs
    log := s.log ++ saves.map (saveEffect env cands) }

def SubDB.adjusted (s : SubDB) (job : Adjust) (row : UserSubscription) : SubDB :=
  { s with
    subs := saveSub s.subs (row.withUsed (newUsed row.amountUsed job.delta))
    log := s.log ++ [(row.id, .adjust job.delta)] }

/-- `UPDATE .. SET status = 'cancelled', end_time = ? WHERE id = ?`. -/
def cancelRow (id : Nat) (now : Int) (r : UserSubscription) : UserSubscription :=
  if r.id = id then { r with status := .cancelled, endTime := now } else r

def SubDB.cancelled (s : SubDB) (id : Nat) (now : Int) : SubDB :=
  { s with
    subs := s.subs.map (cancelRow id now)
    log := s.log ++ [(id, .cancel)] }

structure SubTick where
  fails : Bool
  now : Int

/-- The statements before the first SELECT on `user_subscriptions`. -/
def SubCall.begin (call : SubCall) (fails : Bool) (s : SubDB) : SubPc :=
  match call with
  | .preConsume _ requestId userId amount =>
    if userId = 0 then .ended (some .invalidUserId)
    else if blank requestId then .ended (some .emptyRequestId)
    else if amount ≤ 0 then .ended (some .amountNotPositive)
    else if fails then .ended (some .db)
    else
      match findRecord s.records requestId with
      | none => .selectCands
      | some existing =>
        if existing.status = .refunded then .ended (some .alreadyRefunded)
        else if (findSub s.subs existing.userSubscriptionId).isSome then .ended none
        else .ended (some .notFound)
  | .postConsume id delta =>
    if id = 0 then .ended (some .invalidUserSubscriptionId)
    else if delta = 0 then .ended none
    else .selectRow ⟨id, delta, none⟩
  | .refund requestId =>
    if blank requestId then .ended (some .emptyRequestId)
    else if fails then .ended (some .db)
    else
      match findRecord s.records requestId with
      | none => .ended (some .notFound)
      | some record =>
        if record.status = .refunded then .ended none
        else if record.preConsumed ≤ 0 then .markRecord record
        else if record.userSubscriptionId = 0 then .ended (some .invalidUserSubscriptionId)
        else .selectRow ⟨record.userSubscriptionId, -record.preConsumed, some record⟩
  | .invalidate id =>
    if id = 0 then .ended (some .invalidUserSubscriptionId) else .selectCancel

/-- `env now` is what a call with timestamp `now` sees: its clock and the plans. -/
def SubCall.next (call : SubCall) (env : Int → Env) (tick : SubTick) (s : SubDB) :
    SubPc → Option (SubDB × SubPc)
  | .start => some (s, call.begin tick.fails s)
  | .selectCands =>
    match call with
    | .preConsume now _ userId _ =>
      if tick.fails ∨ candidates (env now).dbNow userId s.subs = [] then
        some (s, .ended (some .noActiveSubscription))
      else some (s, .loop (candidates (env now).dbNow userId s.subs))
    | _ => none
  | .loop cands =>
    match call with
    | .preConsume now _ _ amount =>
      if tick.fails then some (s, .ended (some .db))
      else
        match pick (env now) none amount cands with
        | .error e => some (s, .ended (some e))
        | .ok p => some (s, .create cands p)
    | _ => none
  | .create cands p =>
    match call with
    | .preConsume _ requestId _ _ =>
      if tick.fails then some (s, .ended (some .db))
      else
        match findRecord s.records requestId with
        | none => some (s, .commitPre cands p true)
        | some dup =>
          if dup.status = .refunded then some (s, .ended (some .alreadyRefunded))
          else some (s, .commitPre cands p false)
    | _ => none
  | .commitPre cands p charge =>
    match call with
    | .preConsume now requestId userId amount =>
      -- two inserts of one request id cannot both commit
      if tick.fails ∨ (charge ∧ (findRecord s.records requestId).isSome) then
        some (s, .ended (some .db))
      else
        let s := s.charge (env now) cands (p.saves amount charge)
        some ({ s with
          records := if charge then ⟨requestId, userId, p.chosen.id, amount, .consumed⟩
            :: s.records else s.records }, .ended none)
    | _ => none
  | .selectRow job =>
    if tick.fails then some (s, .ended (some .db))
    else
      match findSub s.subs job.id with
      | none => some (s, .ended (some .notFound))
      | some row => some (s, .saveRow job row)
  | .saveRow job row =>
    if tick.fails then some (s, .ended (some .db))
    else
      match applyDelta row job.delta with
      | .error e => some (s, .ended (some e))
      | .ok _ => some (s, .commitRow job row)
  | .commitRow job row =>
    if tick.fails then some (s, .ended (some .db))
    else
      match job.record with
      | none => some (s.adjusted job row, .ended none)
      | some record => some (s.adjusted job row, .markRecord record)
  | .markRecord record =>
    if tick.fails then some (s, .ended (some .db)) else some (s, .commitOuter record)
  | .commitOuter record =>
    if tick.fails then some (s, .ended (some .db))
    else some ({ s with records := saveRecord s.records record.refund }, .ended none)
  | .selectCancel =>
    match call with
    | .invalidate id =>
      if tick.fails then some (s, .ended (some .db))
      else
        match findSub s.subs id with
        | none => some (s, .ended (some .notFound))
        | some row => some (s, .update row)
    | _ => none
  | .update row =>
    -- the two-column UPDATE and the group downgrade after it
    if tick.fails then some (s, .ended (some .db)) else some (s, .commitCancel row)
  | .commitCancel row =>
    if tick.fails then some (s, .ended (some .db))
    else some (s.cancelled row.id tick.now, .ended none)
  | .ended _ => none

def subMachine (env : Int → Env) : Sched.Machine SubDB (SubCall × SubPc) SubTick where
  next tick s l := (l.1.next env tick s l.2).map fun r => (r.1, l.1, r.2)

/-! ## Snapshots -/

/-- The rows a transaction has read and not yet written back or given up. -/
def SubPc.snapshot : SubPc → List UserSubscription
  | .loop cands => cands
  | .create cands _ => cands
  | .commitPre cands _ _ => cands
  | .saveRow _ row => [row]
  | .commitRow _ row => [row]
  | .update row => [row]
  | .commitCancel row => [row]
  | _ => []

/-- About to SELECT from `user_subscriptions`. -/
def SubPc.selects : SubPc → Bool
  | .selectCands => true
  | .selectRow _ => true
  | .selectCancel => true
  | _ => false

def SubCall.Selects (l : SubCall × SubPc) : Prop := l.2.selects = true

instance : DecidablePred SubCall.Selects := fun l =>
  inferInstanceAs (Decidable (l.2.selects = true))

/-- Between the SELECT of row `id` and the end of the transaction. -/
def SubCall.Holds (id : Nat) (l : SubCall × SubPc) : Prop := ∃ c ∈ l.2.snapshot, c.id = id

instance (id : Nat) : DecidablePred (SubCall.Holds id) := fun l =>
  inferInstanceAs (Decidable (∃ c ∈ l.2.snapshot, c.id = id))

/-- What the candidate loop decided is what `pick` decides on the snapshot. -/
def PickedFrom (env : Int → Env) (l : SubCall × SubPc) : Prop :=
  match l.1, l.2 with
  | .preConsume now _ _ amount, .create cands p => pick (env now) none amount cands = .ok p
  | .preConsume now _ _ amount, .commitPre cands p _ => pick (env now) none amount cands = .ok p
  | _, _ => True

/-! ## What a commit does to one row -/

theorem findSub_isSome_of_mem {cands : List UserSubscription} {c : UserSubscription}
    (hc : c ∈ cands) : ∃ x ∈ cands, x.id = c.id ∧ findSub cands c.id = some x := by
  cases hf : findSub cands c.id with
  | none =>
    have := List.find?_eq_none.mp hf c hc
    simp at this
  | some x => exact ⟨x, findSub_mem hf, findSub_id hf, rfl⟩

variable {now : Int} {subs : List UserSubscription} {err : Option SubErr} {l' : SubCall × SubPc}
  {s s' : SubDB} {tick : SubTick}

section Saves

variable {env : Env} {cands : List UserSubscription} {id : Nat} {row : UserSubscription}

/-- A row of the snapshot, after its reset and a charge of `d`. -/
def FromSnapshot (env : Env) (cands : List UserSubscription) (w : UserSubscription × Int) :
    Prop :=
  ∃ c ∈ cands, w.1 = (dueRow env c).withUsed ((dueRow env c).amountUsed + w.2)

theorem save_view (hrow : ∀ c ∈ cands, c.id = id → c = row) {w : UserSubscription × Int}
    (hw : FromSnapshot env cands w) {cur : UserSubscription} (hcur : findSub subs id = some cur)
    (hc : cur = row ∨ cur = dueRow env row) :
    ∃ cur', findSub (saveSub subs w.1) id = some cur'
      ∧ cur'.view = replay id [saveEffect env cands w] cur.view
      ∧ (w.2 = 0 → cur' = row ∨ cur' = dueRow env row) := by
  obtain ⟨c, hmem, hw⟩ := hw
  have hid : w.1.id = c.id := by rw [hw, withUsed_id, dueRow_id]
  by_cases hcid : c.id = id
  · obtain rfl := hrow c hmem hcid
    obtain ⟨x, hx, hxid, hfind⟩ := findSub_isSome_of_mem hmem
    obtain rfl := hrow x hx (hxid.trans hcid)
    have heffect : saveEffect env cands w = (id, .consume (dueZeroes env x) w.2) := by
      rw [hcid] at hfind
      simp only [saveEffect, hid, hcid, hfind, Option.map_some, Option.getD_some]
    have hself : findSub (saveSub subs w.1) id = some w.1 := by
      rw [← hcid, ← hid] at hcur ⊢
      exact findSub_saveSub_self hcur
    refine ⟨w.1, hself, ?_, ?_⟩
    · rw [heffect, replay_cons_self, replay_nil, hw]
      simp only [UserSubscription.view, SubEffect.apply, withUsed_amountUsed]
      have hstatus : ((dueRow env x).withUsed ((dueRow env x).amountUsed + w.2)).status
          = x.status := dueRow_status env x
      rw [hstatus, dueRow_amountUsed]
      rcases hc with rfl | rfl
      · rfl
      · rw [dueRow_status, dueRow_amountUsed]
        cases dueZeroes env x <;> simp
    · intro hz
      rw [hw, hz, Int.add_zero]
      exact Or.inr rfl
  · -- another row is saved
    have hne : id ≠ w.1.id := by rw [hid]; exact fun h => hcid h.symm
    refine ⟨cur, by rw [findSub_saveSub_ne hne]; exact hcur, ?_, fun _ => hc⟩
    rw [saveEffect, replay_cons_ne (Ne.symm hne), replay_nil]

theorem resets_view (hrow : ∀ c ∈ cands, c.id = id → c = row) :
    ∀ {resets subs : List UserSubscription} {cur : UserSubscription},
      (∀ r ∈ resets, ∃ c ∈ cands, r = dueRow env c) → findSub subs id = some cur →
      (cur = row ∨ cur = dueRow env row) →
      ∃ cur', findSub (resets.foldl saveSub subs) id = some cur'
        ∧ cur'.view = replay id ((resets.map fun r => (r, 0)).map (saveEffect env cands)) cur.view
        ∧ (cur' = row ∨ cur' = dueRow env row) := by
  intro resets
  induction resets with
  | nil =>
    intro subs cur _ hcur hc
    exact ⟨cur, hcur, rfl, hc⟩
  | cons r rest ih =>
    intro subs cur hres hcur hc
    have hw : FromSnapshot env cands (r, 0) := by
      obtain ⟨c, hmem, rfl⟩ := hres r List.mem_cons_self
      exact ⟨c, hmem, by rw [Int.add_zero]; rfl⟩
    obtain ⟨cur₁, hcur₁, hview₁, hc₁⟩ := save_view hrow hw hcur hc
    obtain ⟨cur₂, hcur₂, hview₂, hc₂⟩ :=
      ih (fun r' hr' => hres r' (List.mem_cons_of_mem _ hr')) hcur₁ (hc₁ rfl)
    refine ⟨cur₂, hcur₂, ?_, hc₂⟩
    rw [hview₂, hview₁, ← replay_append]
    rfl

variable {amount : Int} {rows : List UserSubscription} {p : Picked}

theorem charge_view (charge : Bool) (hpick : pick env none amount cands = .ok p)
    (hrow : ∀ c ∈ cands, c.id = id → c = row) (hcur : findSub s.subs id = some row) :
    ∃ row', findSub (s.charge env cands (p.saves amount charge)).subs id = some row'
      ∧ row'.view = replay id ((p.saves amount charge).map (saveEffect env cands)) row.view := by
  obtain ⟨⟨c, hmem, hchosen, -⟩, hres⟩ := pick_ok hpick
  obtain ⟨cur, hcur₁, hview₁, hc₁⟩ := resets_view hrow hres hcur (Or.inl rfl)
  cases charge with
  | false =>
    refine ⟨cur, ?_, ?_⟩
    · simpa [SubDB.charge, Picked.saves, List.map_map, Function.comp_def] using hcur₁
    · simpa [Picked.saves] using hview₁
  | true =>
    have hw : FromSnapshot env cands (p.charged amount, amount) :=
      ⟨c, hmem, by rw [Picked.charged, hchosen]⟩
    obtain ⟨row', hrow', hview', -⟩ := save_view hrow hw hcur₁ hc₁
    refine ⟨row', ?_, ?_⟩
    · simpa [SubDB.charge, Picked.saves, List.map_map, Function.comp_def,
        List.foldl_append] using hrow'
    · rw [hview', hview₁, ← replay_append]
      simp [Picked.saves]

theorem foldl_saveSub_ne :
    ∀ {subs : List UserSubscription}, (∀ r ∈ rows, r.id ≠ id) →
      findSub (rows.foldl saveSub subs) id = findSub subs id := by
  induction rows with
  | nil => exact fun _ => rfl
  | cons r rest ih =>
    intro subs h
    rw [List.foldl_cons, ih fun r' hr' => h r' (List.mem_cons_of_mem _ hr'),
      findSub_saveSub_ne (Ne.symm (h r List.mem_cons_self))]

theorem foldl_saveSub_ids :
    ∀ {subs : List UserSubscription},
      (rows.foldl saveSub subs).map (·.id) = subs.map (·.id) := by
  induction rows with
  | nil => exact rfl
  | cons r rest ih =>
    intro subs
    rw [List.foldl_cons, ih, saveSub_ids]

theorem saves_ids {charge : Bool} (hpick : pick env none amount cands = .ok p) :
    ∀ w ∈ p.saves amount charge, ∃ c ∈ cands, w.1.id = c.id := by
  obtain ⟨⟨c, hmem, hchosen, -⟩, hres⟩ := pick_ok hpick
  intro w hw
  rcases List.mem_append.mp hw with hw | hw
  · obtain ⟨r, hr, rfl⟩ := List.mem_map.mp hw
    obtain ⟨c', hc', rfl⟩ := hres r hr
    exact ⟨c', hc', dueRow_id env c'⟩
  · cases charge with
    | false => cases hw
    | true =>
      obtain rfl := List.mem_singleton.mp hw
      exact ⟨c, hmem, by rw [Picked.charged, withUsed_id, hchosen, dueRow_id]⟩

end Saves

theorem cancelRow_id {r : UserSubscription} : (cancelRow j now r).id = r.id := by
  unfold cancelRow
  split <;> rfl

theorem findSub_cancelRow {id : Nat} :
    findSub (subs.map (cancelRow j now)) id = (findSub subs id).map (cancelRow j now) := by
  induction subs with
  | nil => rfl
  | cons r rest ih =>
    simp only [findSub, List.map_cons, List.find?_cons, cancelRow_id] at ih ⊢
    by_cases hr : r.id = id
    · simp [hr]
    · simp only [hr, decide_false]
      exact ih

/-! ## One step -/

/-- Everything a step of a transaction can be: it leaves the rows alone, and
then what it has read is what it had read or what it now reads; or it commits,
and then it holds nothing any more. -/
inductive SubStep (env : Int → Env) (s : SubDB) (l : SubCall × SubPc) :
    SubDB → SubCall × SubPc → Prop
  | quiet {s' : SubDB} {l' : SubCall × SubPc} (hsubs : s'.subs = s.subs) (hlog : s'.log = s.log)
      (hread : ∀ c ∈ l'.2.snapshot,
        c ∈ l.2.snapshot ∨ (SubCall.Selects l ∧ c ∈ s.subs))
      (hpicked : PickedFrom env l → PickedFrom env l') : SubStep env s l s' l'
  | charged {s' : SubDB} {l' : SubCall × SubPc} {now : Int} {p : Picked} {amount : Int}
      {charge : Bool} (hpick : PickedFrom env l → pick (env now) none amount l.2.snapshot = .ok p)
      (hsubs : s'.subs = (s.charge (env now) l.2.snapshot (p.saves amount charge)).subs)
      (hlog : s'.log = (s.charge (env now) l.2.snapshot (p.saves amount charge)).log)
      (hout : l'.2.snapshot = []) (hpicked : PickedFrom env l') : SubStep env s l s' l'
  | adjusted {l' : SubCall × SubPc} {job : Adjust} {row : UserSubscription}
      (hread : l.2.snapshot = [row]) (hout : l'.2.snapshot = [])
      (hpicked : PickedFrom env l') : SubStep env s l (s.adjusted job row) l'
  | cancelled {l' : SubCall × SubPc} {row : UserSubscription} {now : Int}
      (hread : l.2.snapshot = [row]) (hout : l'.2.snapshot = [])
      (hpicked : PickedFrom env l') : SubStep env s l (s.cancelled row.id now) l'

theorem SubStep.idle {env : Int → Env} {s s' : SubDB} {l l' : SubCall × SubPc}
    (hsubs : s'.subs = s.subs) (hlog : s'.log = s.log) (hout : l'.2.snapshot = [])
    (hpicked : PickedFrom env l') : SubStep env s l s' l' := by
  refine .quiet hsubs hlog ?_ (fun _ => hpicked)
  rw [hout]
  exact fun c hc => absurd hc List.not_mem_nil

theorem pickedFrom_ended {call : SubCall} : PickedFrom env (call, .ended err) := by
  cases call <;> trivial

theorem SubStep.stop {l : SubCall × SubPc} (hsubs : s'.subs = s.subs) (hlog : s'.log = s.log) :
    SubStep env s l s' (l.1, .ended err) :=
  .idle hsubs hlog rfl pickedFrom_ended

/-- Before its first SELECT on `user_subscriptions` a transaction has read no
row of it. -/
theorem begin_idle (env : Int → Env) (call : SubCall) (fails : Bool) (s : SubDB) :
    (call.begin fails s).snapshot = [] ∧ PickedFrom env (call, call.begin fails s) := by
  generalize hpc : call.begin fails s = pc
  cases call <;> simp only [SubCall.begin] at hpc
  all_goals
    repeat' split at hpc
    all_goals
      subst hpc
      exact ⟨rfl, trivial⟩

theorem subTx_step {l : SubCall × SubPc} (h : (subMachine env).next tick s l = some (s', l')) :
    SubStep env s l s' l' := by
  obtain ⟨call, pc⟩ := l
  simp only [subMachine, Option.map_eq_some_iff] at h
  obtain ⟨r, hr, heq⟩ := h
  cases heq
  cases pc with
  | start =>
    cases hr
    obtain ⟨hout, hpicked⟩ := begin_idle env call tick.fails s
    exact .idle rfl rfl hout hpicked
  | selectCands =>
    cases call with
    | preConsume now requestId userId amount =>
      simp only [SubCall.next] at hr
      split at hr
      · cases hr
        exact .stop rfl rfl
      · cases hr
        refine .quiet rfl rfl (fun c hc => Or.inr ⟨rfl, ?_⟩) (fun _ => trivial)
        exact (candidates_mem hc).1
    | _ => cases hr
  | loop cands =>
    cases call with
    | preConsume now requestId userId amount =>
      simp only [SubCall.next] at hr
      split at hr
      · cases hr
        exact .stop rfl rfl
      · cases hpick : pick (env now) none amount cands with
        | error e =>
          rw [hpick] at hr
          cases hr
          exact .stop rfl rfl
        | ok p =>
          rw [hpick] at hr
          cases hr
          exact .quiet rfl rfl (fun c hc => Or.inl hc) (fun _ => hpick)
    | _ => cases hr
  | create cands p =>
    cases call with
    | preConsume now requestId userId amount =>
      simp only [SubCall.next] at hr
      split at hr
      · cases hr
        exact .stop rfl rfl
      split at hr
      · cases hr
        exact .quiet rfl rfl (fun c hc => Or.inl hc) (fun hpick => hpick)
      split at hr
      · cases hr
        exact .stop rfl rfl
      · cases hr
        exact .quiet rfl rfl (fun c hc => Or.inl hc) (fun hpick => hpick)
    | _ => cases hr
  | commitPre cands p charge =>
    cases call with
    | preConsume now requestId userId amount =>
      simp only [SubCall.next] at hr
      split at hr
      · cases hr
        exact .stop rfl rfl
      · cases hr
        exact .charged (fun hpick => hpick) rfl rfl rfl trivial
    | _ => cases hr
  | selectRow job =>
    simp only [SubCall.next] at hr
    split at hr
    · cases hr
      exact .stop rfl rfl
    · cases hfind : findSub s.subs job.id with
      | none =>
        rw [hfind] at hr
        cases hr
        exact .stop rfl rfl
      | some row =>
        rw [hfind] at hr
        cases hr
        refine .quiet rfl rfl (fun c hc => Or.inr ⟨rfl, ?_⟩)
          (fun _ => by cases call <;> trivial)
        obtain rfl := List.mem_singleton.mp hc
        exact findSub_mem hfind
  | saveRow job row =>
    simp only [SubCall.next] at hr
    split at hr
    · cases hr
      exact .stop rfl rfl
    split at hr
    · cases hr
      exact .stop rfl rfl
    · cases hr
      exact .quiet rfl rfl (fun c hc => Or.inl hc) (fun _ => by cases call <;> trivial)
  | commitRow job row =>
    simp only [SubCall.next] at hr
    split at hr
    · cases hr
      exact .stop rfl rfl
    split at hr
    all_goals
      cases hr
      exact .adjusted rfl rfl (by cases call <;> trivial)
  | markRecord record =>
    simp only [SubCall.next] at hr
    split at hr
    · cases hr
      exact .stop rfl rfl
    · cases hr
      exact .idle rfl rfl rfl (by cases call <;> trivial)
  | commitOuter record =>
    simp only [SubCall.next] at hr
    split at hr
    · cases hr
      exact .stop rfl rfl
    · cases hr
      exact .stop rfl rfl
  | selectCancel =>
    cases call with
    | invalidate id =>
      simp only [SubCall.next] at hr
      split at hr
      · cases hr
        exact .stop rfl rfl
      · cases hfind : findSub s.subs id with
        | none =>
          rw [hfind] at hr
          cases hr
          exact .stop rfl rfl
        | some row =>
          rw [hfind] at hr
          cases hr
          refine .quiet rfl rfl (fun c hc => Or.inr ⟨rfl, ?_⟩) (fun _ => trivial)
          obtain rfl := List.mem_singleton.mp hc
          exact findSub_mem hfind
    | _ => cases hr
  | update row =>
    simp only [SubCall.next] at hr
    split at hr
    · cases hr
      exact .stop rfl rfl
    · cases hr
      exact .quiet rfl rfl (fun c hc => Or.inl hc) (fun _ => by cases call <;> trivial)
  | commitCancel row =>
    simp only [SubCall.next] at hr
    split at hr
    · cases hr
      exact .stop rfl rfl
    · cases hr
      exact .cancelled rfl rfl pickedFrom_ended
  | ended err => cases hr

section Step

variable {env : Int → Env} {s s' : SubDB} {l l' : SubCall × SubPc} {id : Nat} {row : UserSubscription}

theorem SubStep.ids (h : SubStep env s l s' l') : s'.subs.map (·.id) = s.subs.map (·.id) := by
  cases h with
  | quiet hsubs => rw [hsubs]
  | charged _ hsubs => rw [hsubs]; exact foldl_saveSub_ids
  | adjusted => exact saveSub_ids _ _
  | cancelled =>
    simp only [SubDB.cancelled, List.map_map]
    refine List.map_congr_left fun r _ => ?_
    exact cancelRow_id

theorem SubStep.picked (h : SubStep env s l s' l') (hpicked : PickedFrom env l) :
    PickedFrom env l' := by
  cases h with
  | quiet _ _ _ h => exact h hpicked
  | charged _ _ _ _ h => exact h
  | adjusted _ _ h => exact h
  | cancelled _ _ h => exact h

theorem SubStep.read (h : SubStep env s l s' l') {c : UserSubscription}
    (hc : c ∈ l'.2.snapshot) :
    s'.subs = s.subs ∧ (c ∈ l.2.snapshot ∨ (SubCall.Selects l ∧ c ∈ s.subs)) := by
  cases h with
  | quiet hsubs _ hread _ => exact ⟨hsubs, hread c hc⟩
  | charged _ _ _ hout _ => rw [hout] at hc; cases hc
  | adjusted _ hout _ => rw [hout] at hc; cases hc
  | cancelled _ hout _ => rw [hout] at hc; cases hc

theorem SubStep.others (h : SubStep env s l s' l') (hpicked : PickedFrom env l)
    (hout : ¬ SubCall.Holds id l) : findSub s'.subs id = findSub s.subs id := by
  cases h with
  | quiet hsubs => rw [hsubs]
  | charged hpick hsubs =>
    rw [hsubs]
    refine foldl_saveSub_ne fun r hr heq => ?_
    obtain ⟨w, hw, rfl⟩ := List.mem_map.mp hr
    obtain ⟨c, hc, hid⟩ := saves_ids (hpick hpicked) w hw
    exact hout ⟨c, hc, hid.symm.trans heq⟩
  | @adjusted _ job r hread =>
    refine findSub_saveSub_ne fun heq => hout ⟨r, ?_, heq.symm⟩
    rw [hread]
    exact List.mem_singleton.mpr rfl
  | @cancelled _ r now hread =>
    simp only [SubDB.cancelled]
    rw [findSub_cancelRow]
    cases hfind : findSub s.subs id with
    | none => rfl
    | some x =>
      have hne : x.id ≠ r.id := by
        intro heq
        refine hout ⟨r, ?_, heq.symm.trans (findSub_id hfind)⟩
        rw [hread]
        exact List.mem_singleton.mpr rfl
      simp [cancelRow, hne]

/-- A step appends to the log exactly what it does to the row, if what it has
read of the row is still so. -/
theorem SubStep.row_view (h : SubStep env s l s' l') (hpicked : PickedFrom env l)
    (hrow : findSub s.subs id = some row) (hread : ∀ c ∈ l.2.snapshot, c.id = id → c = row) :
    ∃ row' new, s'.log = s.log ++ new ∧ findSub s'.subs id = some row'
      ∧ row'.view = replay id new row.view := by
  cases h with
  | quiet hsubs hlog =>
    exact ⟨row, [], by rw [hlog, List.append_nil], by rw [hsubs]; exact hrow, rfl⟩
  | @charged _ _ now p amount charge hpick hsubs hlog =>
    obtain ⟨row', hrow', hview⟩ := charge_view charge (hpick hpicked) hread hrow
    exact ⟨row', _, hlog, by rw [hsubs]; exact hrow', hview⟩
  | @adjusted _ job r hsnap =>
    by_cases hid : r.id = id
    · obtain rfl : r = row := hread r (by rw [hsnap]; exact List.mem_singleton.mpr rfl) hid
      refine ⟨r.withUsed (newUsed r.amountUsed job.delta), _, rfl, ?_, ?_⟩
      · rw [← hid] at hrow ⊢
        rw [← withUsed_id r (newUsed r.amountUsed job.delta)] at hrow ⊢
        exact findSub_saveSub_self hrow
      · rw [hid, replay_cons_self, replay_nil]
        rfl
    · refine ⟨row, _, rfl, ?_, ?_⟩
      · have hne : id ≠ (r.withUsed (newUsed r.amountUsed job.delta)).id := Ne.symm hid
        exact (findSub_saveSub_ne hne).trans hrow
      · rw [replay_cons_ne hid, replay_nil]
  | @cancelled _ r now hsnap =>
    refine ⟨cancelRow r.id now row, _, rfl, ?_, ?_⟩
    · simp only [SubDB.cancelled]
      rw [findSub_cancelRow, hrow, Option.map_some]
    · by_cases hid : r.id = id
      · have hrid : row.id = r.id := (findSub_id hrow).trans hid.symm
        rw [hid, replay_cons_self, replay_nil, ← hid]
        simp [cancelRow, hrid, UserSubscription.view, SubEffect.apply]
      · have hrid : row.id ≠ r.id := fun heq => hid (heq.symm.trans (findSub_id hrow))
        rw [replay_cons_ne hid, replay_nil]
        simp [cancelRow, hrid]

end Step

/-! ## Runs -/

/-- The invariant of row `id`: nobody works from a stale copy of it, and it
looks as the committed effects say. -/
structure SubTxInv (env : Int → Env) (id : Nat) (init : UserSubscription)
    (c : Sched.Conf SubDB (SubCall × SubPc)) : Prop where
  nodup : (c.store.subs.map (·.id)).Nodup
  picked : ∀ l ∈ c.threads, PickedFrom env l
  alone : Sched.AtMostOne (SubCall.Holds id) c
  fresh : ∀ l ∈ c.threads, ∀ x ∈ l.2.snapshot, x.id = id → findSub c.store.subs id = some x
  replayed : ∃ row, findSub c.store.subs id = some row
    ∧ row.view = replay id c.store.log init.view

/-- No SELECT on the subscriptions while another transaction is between its
SELECT of row `id` and its end: what a row lock would give. -/
abbrev RowExclusive (id : Nat) : Sched.Guard SubDB (SubCall × SubPc) SubTick :=
  Sched.Exclusive SubCall.Selects (SubCall.Holds id)

theorem SubTxInv.step {id : Nat} {init : UserSubscription} {c : Sched.Conf SubDB (SubCall × SubPc)}
    {i : Nat} {l : SubCall × SubPc} (hinv : SubTxInv env id init c) (hok : RowExclusive id c i tick)
    (hl : c.threads[i]? = some l) (hn : (subMachine env).next tick c.store l = some (s', l')) :
    SubTxInv env id init ⟨s', c.threads.set i l'⟩ := by
  have hmem : l ∈ c.threads := List.mem_of_getElem? hl
  have hpicked : PickedFrom env l := hinv.picked l hmem
  have hstep : SubStep env c.store l s' l' := subTx_step hn
  obtain ⟨row, hrow, hview⟩ := hinv.replayed
  have hread : ∀ x ∈ l.2.snapshot, x.id = id → x = row := by
    intro x hx hid
    exact Option.some.inj ((hinv.fresh l hmem x hx hid).symm.trans hrow)
  refine ⟨?_, ?_, ?_, ?_, ?_⟩
  · exact hstep.ids ▸ hinv.nodup
  · exact Sched.forall_threads_set hinv.picked (hstep.picked hpicked)
  · refine Sched.atMostOne_step hinv.alone hok hl ?_
    rintro ⟨x, hx, hid⟩
    rcases (hstep.read hx).2 with hhad | ⟨hsel, -⟩
    · exact Or.inl ⟨x, hhad, hid⟩
    · exact Or.inr hsel
  · intro l₁ hl₁ x hx hid
    obtain ⟨j, hj⟩ := List.mem_iff_getElem?.mp hl₁
    rcases Sched.threads_set_cases hj with ⟨-, rfl⟩ | ⟨hne, hj'⟩
    · -- the mover: what it holds it had, or has just read
      obtain ⟨hsubs, hhad | ⟨-, hin⟩⟩ := hstep.read hx
      · rw [hsubs]
        exact hinv.fresh l hmem x hhad hid
      · rw [hsubs, ← hid]
        exact findSub_of_mem hinv.nodup hin
    · -- another holder of the row: then the mover has not read it
      have hout : ¬ SubCall.Holds id l := fun hholds =>
        hne (hinv.alone j i ⟨l₁, hj', x, hx, hid⟩ ⟨l, hl, hholds⟩)
      have hsame : findSub s'.subs id = findSub c.store.subs id := hstep.others hpicked hout
      rw [hsame]
      exact hinv.fresh l₁ (List.mem_of_getElem? hj') x hx hid
  · obtain ⟨row', new, hlog, hrow', hview'⟩ := hstep.row_view hpicked hrow hread
    exact ⟨row', hrow', by rw [hlog, replay_append, ← hview, hview']⟩

/-- **No update of a subscription is lost**, and no cancelled subscription
comes back, in every run that keeps the SELECTs out of other transactions on
the row. -/
theorem no_update_lost {env : Int → Env} {id : Nat} {init : UserSubscription}
    {c₀ c : Sched.Conf SubDB (SubCall × SubPc)}
    (hnodup : (c₀.store.subs.map (·.id)).Nodup) (hinit : findSub c₀.store.subs id = some init)
    (hlog : c₀.store.log = []) (hstart : ∀ l ∈ c₀.threads, l.2 = .start)
    (hrun : Sched.Steps (subMachine env) (RowExclusive id) c₀ c) :
    ∃ row, findSub c.store.subs id = some row
      ∧ row.amountUsed = (replay id c.store.log init.view).1
      ∧ ((id, SubEffect.cancel) ∈ c.store.log → row.status = .cancelled) := by
  have hidle : ∀ l ∈ c₀.threads, l.2.snapshot = [] ∧ PickedFrom env l := by
    intro l hl
    have hpc := hstart l hl
    obtain ⟨call, pc⟩ := l
    obtain rfl : pc = .start := hpc
    exact ⟨rfl, by cases call <;> trivial⟩
  have hnone : ∀ i, ¬ Sched.Inside (SubCall.Holds id) c₀ i := by
    rintro i ⟨l, hl, x, hx, -⟩
    rw [(hidle l (List.mem_of_getElem? hl)).1] at hx
    cases hx
  have h₀ : SubTxInv env id init c₀ := by
    refine ⟨hnodup, fun l hl => (hidle l hl).2, fun i _ hi => absurd hi (hnone i), ?_,
      init, hinit, by rw [hlog, replay_nil]⟩
    intro l hl x hx
    rw [(hidle l hl).1] at hx
    cases hx
  have hinv : SubTxInv env id init c :=
    Sched.Steps.invariant h₀ (fun hI hok hl hn => hI.step hok hl hn) hrun
  obtain ⟨row, hrow, hview⟩ := hinv.replayed
  refine ⟨row, hrow, by rw [← hview]; rfl, fun hcancel => ?_⟩
  have hstatus : row.view.2 = .cancelled := by
    rw [hview]
    exact replay_cancelled (Or.inr hcancel)
  exact hstatus

/-! A subscription of 1000 with 100 used, and transactions on it. -/

def consuming (calls : List SubCall) : Sched.Conf SubDB (SubCall × SubPc) :=
  ⟨⟨[openSub], [], []⟩, calls.map fun call => (call, .start)⟩

/-- `n` statements of transaction `i`. -/
def turn (i n : Nat) : List (Nat × SubTick) := List.replicate n (i, ⟨false, 60⟩)

theorem no_update_lost_in_turn :
    ∃ c, Sched.Steps (subMachine fun _ => openEnv) (RowExclusive 1)
        (consuming [.preConsume 50 "r9" 7 20, .postConsume 1 5, .refund "r9", .invalidate 1]) c
      ∧ c.store.log.length = 4
      ∧ ∃ row, findSub c.store.subs 1 = some row ∧ row.amountUsed = 105
        ∧ row.status = .cancelled := by
  have hrun : ∃ c, Sched.Steps (subMachine fun _ => openEnv) (RowExclusive 1)
        (consuming [.preConsume 50 "r9" 7 20, .postConsume 1 5, .refund "r9", .invalidate 1]) c
      ∧ c.store.log.length = 4 ∧ (1, SubEffect.cancel) ∈ c.store.log
      ∧ (replay 1 c.store.log openSub.view).1 = 105 := Sched.exists_of_run
    (turn 1 1 ++ turn 3 1 ++ turn 0 5 ++ turn 2 1 ++ turn 1 3 ++ turn 2 5 ++ turn 3 3) (by decide)
  obtain ⟨c, hc, hlen, hcancel, hreplay⟩ := hrun
  have hinit : findSub (consuming [.preConsume 50 "r9" 7 20, .postConsume 1 5, .refund "r9",
    .invalidate 1]).store.subs 1 = some openSub := by decide
  obtain ⟨row, hrow, hused, hstatus⟩ :=
    no_update_lost (by decide) hinit rfl (by decide) hc
  exact ⟨c, hc, hlen, row, hrow, hused.trans hreplay, hstatus hcancel⟩

/-- Both read before either commits: a delta is gone, or the invalidation is. -/
theorem update_lost :
    (∃ c, Sched.Steps (subMachine fun _ => openEnv) Sched.free
        (consuming [.postConsume 1 5, .postConsume 1 5]) c
      ∧ (∀ l ∈ c.threads, l.2 = .ended none)
      ∧ c.store.log = [(1, .adjust 5), (1, .adjust 5)]
      ∧ (findSub c.store.subs 1).map (·.amountUsed) = some 105
      ∧ (replay 1 c.store.log openSub.view).1 = 110)
    ∧ ∃ c, Sched.Steps (subMachine fun _ => openEnv) Sched.free
        (consuming [.postConsume 1 5, .invalidate 1]) c
      ∧ (∀ l ∈ c.threads, l.2 = .ended none)
      ∧ (1, SubEffect.cancel) ∈ c.store.log
      ∧ (findSub c.store.subs 1).map (·.status) = some .active := by
  constructor
  · exact Sched.exists_of_run (turn 0 2 ++ turn 1 2 ++ turn 0 2 ++ turn 1 2) (by decide)
  · exact Sched.exists_of_run (turn 0 2 ++ turn 1 4 ++ turn 0 2) (by decide)

end YouBox
