import YouBox.Store

/-!
# Consuming from a subscription

`PreConsumeUserSubscription` and `PostConsumeUserSubscriptionDelta`, each as
one database transaction run by one client. A transaction that fails leaves
no trace, so both return `Except`: on an error the database is the one they
were given. Which statement of the pre-consume fails is an input (`PreStmt`).

The rules for reading the tables back after a `Save` come first; the loop
over the candidates is a pure function (`pick`) that says which rows it
saves, so that the concurrent model can commit the same rows later.
-/

namespace YouBox

/-- The errors of the subscription functions. `noActiveSubscription` and
`quotaInsufficient` are the two whose text the billing session looks for. -/
inductive SubErr where
  | invalidUserId
  | emptyRequestId
  | amountNotPositive
  | invalidUserSubscriptionId
  | noActiveSubscription
  | quotaInsufficient (need : Int)
  | alreadyRefunded
  | usedExceedsTotal (used total : Int)
  | notFound
  | db
deriving DecidableEq

/-! ## Table access -/

/-- The row with another `AmountUsed`. -/
def UserSubscription.withUsed (s : UserSubscription) (used : Int) : UserSubscription :=
  { s with amountUsed := used }

@[simp] theorem withUsed_id (s : UserSubscription) (used : Int) :
    (s.withUsed used).id = s.id := rfl

@[simp] theorem withUsed_amountUsed (s : UserSubscription) (used : Int) :
    (s.withUsed used).amountUsed = used := rfl

@[simp] theorem withUsed_amountTotal (s : UserSubscription) (used : Int) :
    (s.withUsed used).amountTotal = s.amountTotal := rfl

@[simp] theorem withUsed_withUsed (s : UserSubscription) (used used' : Int) :
    (s.withUsed used).withUsed used' = s.withUsed used' := rfl

def findSub (subs : List UserSubscription) (id : Nat) : Option UserSubscription :=
  subs.find? fun s => decide (s.id = id)

/-- `tx.Save(&sub)` on an existing row: every column is written. -/
def saveSub (subs : List UserSubscription) (row : UserSubscription) :
    List UserSubscription :=
  subs.map fun s => if s.id = row.id then row else s

/-- The usage of subscription `id`. -/
def usedIn (subs : List UserSubscription) (id : Nat) : Int :=
  ((findSub subs id).map (·.amountUsed)).getD 0

def findRecord (records : List SubscriptionPreConsumeRecord) (requestId : String) :
    Option SubscriptionPreConsumeRecord :=
  records.find? fun r => decide (r.requestId = requestId)

def saveRecord (records : List SubscriptionPreConsumeRecord)
    (row : SubscriptionPreConsumeRecord) : List SubscriptionPreConsumeRecord :=
  records.map fun r => if r.requestId = row.requestId then row else r

/-- Go's `unicode.IsSpace`. -/
def isSpace (c : Char) : Bool :=
  let n := c.toNat
  (0x09 ≤ n && n ≤ 0x0D) || (0x2000 ≤ n && n ≤ 0x200A)
    || n ∈ [0x20, 0x85, 0xA0, 0x1680, 0x2028, 0x2029, 0x202F, 0x205F, 0x3000]

def trimSpace (s : String) : String :=
  String.ofList ((s.toList.dropWhile isSpace).reverse.dropWhile isSpace).reverse

theorem trimSpace_eq_self {s : String} (hhead : ∀ c ∈ s.toList.head?, isSpace c = false)
    (hlast : ∀ c ∈ s.toList.getLast?, isSpace c = false) : trimSpace s = s := by
  have hfront : s.toList.dropWhile isSpace = s.toList := by
    cases hs : s.toList with
    | nil => rfl
    | cons c rest =>
      rw [hs] at hhead
      exact List.dropWhile_cons_of_neg (by rw [hhead c rfl]; exact Bool.false_ne_true)
  have hback : s.toList.reverse.dropWhile isSpace = s.toList.reverse := by
    rw [← List.head?_reverse] at hlast
    cases hs : s.toList.reverse with
    | nil => rfl
    | cons c rest =>
      rw [hs] at hlast
      exact List.dropWhile_cons_of_neg (by rw [hlast c rfl]; exact Bool.false_ne_true)
  rw [trimSpace, hfront, hback, List.reverse_reverse, String.ofList_toList]

/-- `strings.TrimSpace(requestId) == ""`. -/
def blank (s : String) : Bool := decide (trimSpace s = "")

variable {subs : List UserSubscription} {id : Nat} {s row : UserSubscription} {env : Env}
  {sub : UserSubscription} {db : DB} {delta : Int}

theorem findSub_id (h : findSub subs id = some s) : s.id = id := by
  simpa using List.find?_some h

theorem findSub_mem (h : findSub subs id = some s) : s ∈ subs :=
  List.mem_of_find?_eq_some h

theorem findSub_saveSub_self {old : UserSubscription} (h : findSub subs row.id = some old) :
    findSub (saveSub subs row) row.id = some row := by
  induction subs with
  | nil => cases h
  | cons s rest ih =>
    simp only [findSub, saveSub, List.map_cons, List.find?_cons] at h ⊢
    by_cases hs : s.id = row.id
    · simp [hs]
    · simp only [hs, decide_false, if_false] at h ⊢
      exact ih h

theorem findSub_saveSub_ne (hne : id ≠ row.id) :
    findSub (saveSub subs row) id = findSub subs id := by
  induction subs with
  | nil => rfl
  | cons s rest ih =>
    simp only [findSub, saveSub, List.map_cons, List.find?_cons] at ih ⊢
    by_cases hs : s.id = row.id
    · have h1 : ¬ row.id = id := fun h => hne h.symm
      have h2 : ¬ s.id = id := fun h => hne (h ▸ hs)
      simp only [hs, if_true, h1, decide_false]
      exact ih
    · simp only [hs, if_false]
      by_cases hid : s.id = id
      · simp [hid]
      · simp only [hid, decide_false]
        exact ih

theorem findSub_of_mem (hnd : (subs.map (·.id)).Nodup) (hs : s ∈ subs) :
    findSub subs s.id = some s := by
  induction subs with
  | nil => cases hs
  | cons x rest ih =>
    rw [List.map_cons, List.nodup_cons] at hnd
    simp only [findSub, List.find?_cons]
    rcases List.mem_cons.mp hs with rfl | hmem
    · simp
    · have hne : ¬ x.id = s.id := fun h =>
        hnd.1 (List.mem_map.mpr ⟨s, hmem, h.symm⟩)
      simp only [hne, decide_false]
      exact ih hnd.2 hmem

theorem saveSub_ids (subs : List UserSubscription) (row : UserSubscription) :
    (saveSub subs row).map (·.id) = subs.map (·.id) := by
  induction subs with
  | nil => rfl
  | cons s rest ih =>
    simp only [saveSub, List.map_cons, List.cons.injEq] at ih ⊢
    refine ⟨?_, ih⟩
    by_cases hs : s.id = row.id <;> simp [hs]

theorem findRecord_saveRecord_self {records : List SubscriptionPreConsumeRecord}
    {row old : SubscriptionPreConsumeRecord}
    (h : findRecord records row.requestId = some old) :
    findRecord (saveRecord records row) row.requestId = some row := by
  induction records with
  | nil => cases h
  | cons r rest ih =>
    simp only [findRecord, saveRecord, List.map_cons, List.find?_cons] at h ⊢
    by_cases hr : r.requestId = row.requestId
    · simp [hr]
    · simp only [hr, decide_false, if_false] at h ⊢
      exact ih h

/-! ## PreConsumeUserSubscription -/

/-- The statements of the pre-consume transaction, as places to fail. -/
inductive PreStmt where
  | begin
  | readRecord
  | readExisting
  | readSubs
  | readPlan
  | saveReset
  | createRecord
  | saveSub
  | commit
deriving DecidableEq

structure SubscriptionPreConsumeResult where
  userSubscriptionId : Nat
  preConsumed : Int
  amountTotal : Int
  amountUsedBefore : Int
  amountUsedAfter : Int

/-- `ORDER BY end_time asc, id asc`. -/
def soonerEnd (a b : UserSubscription) : Prop :=
  a.endTime < b.endTime ∨ (a.endTime = b.endTime ∧ a.id ≤ b.id)

instance : DecidableRel soonerEnd := fun _ _ =>
  inferInstanceAs (Decidable (_ ∨ _))

/-- The user's active subscriptions, soonest end first. -/
def candidates (now : Int) (userId : Nat) (subs : List UserSubscription) :
    List UserSubscription :=
  (subs.filter fun s =>
    decide (s.userId = userId ∧ s.status = .active ∧ s.endTime > now)).insertionSort
    soonerEnd

/-- What the candidate loop decided: the rows its resets saved on the way,
and the subscription it stopped at (after its own reset). -/
structure Picked where
  resets : List UserSubscription
  chosen : UserSubscription
deriving DecidableEq

/-- `for _, candidate := range subs { ... }`, up to the point where a
candidate with enough room is found. -/
def pick (env : Env) (fault : Option PreStmt) (amount : Int) :
    List UserSubscription → Except SubErr Picked
  | [] => .error (.quotaInsufficient amount)
  | candidate :: rest =>
    if fault = some .readPlan then .error .db
    else
      match env.plans candidate.planId with
      | none => .error .notFound
      | some plan =>
        let reset := maybeResetUserSubscriptionWithPlan env.cal env.dbNow candidate plan
        if fault = some .saveReset ∧ reset.isSome then .error .db
        else
          let sub := afterReset env.cal env.dbNow candidate plan
          if 0 < sub.amountTotal ∧ sub.amountTotal - sub.amountUsed < amount then
            match pick env fault amount rest with
            | .error e => .error e
            | .ok p => .ok { p with resets := reset.toList ++ p.resets }
          else .ok ⟨reset.toList, sub⟩

def Picked.charged (p : Picked) (amount : Int) : UserSubscription :=
  p.chosen.withUsed (p.chosen.amountUsed + amount)

def preConsumeUserSubscription (env : Env) (fault : Option PreStmt)
    (requestId : String) (userId : Nat) (amount : Int) (db : DB) :
    Except SubErr (SubscriptionPreConsumeResult × DB) :=
  if userId = 0 then .error .invalidUserId
  else if blank requestId then .error .emptyRequestId
  else if amount ≤ 0 then .error .amountNotPositive
  else if fault = some .begin ∨ fault = some .readRecord then .error .db
  else
    match findRecord db.records requestId with
    | some existing =>
      if existing.status = .refunded then .error .alreadyRefunded
      else if fault = some .readExisting then .error .db
      else
        match findSub db.subs existing.userSubscriptionId with
        | none => .error .notFound
        | some sub =>
          if fault = some .commit then .error .db
          else .ok (⟨sub.id, existing.preConsumed, sub.amountTotal, sub.amountUsed,
            sub.amountUsed⟩, db)
    | none =>
      -- a failing SELECT is reported with the same text as an empty result
      if fault = some .readSubs then .error .noActiveSubscription
      else if candidates env.dbNow userId db.subs = [] then .error .noActiveSubscription
      else
        match pick env fault amount (candidates env.dbNow userId db.subs) with
        | .error e => .error e
        | .ok p =>
          if fault = some .createRecord ∨ fault = some .saveSub ∨ fault = some .commit
          then .error .db
          else .ok (⟨p.chosen.id, amount, p.chosen.amountTotal, p.chosen.amountUsed,
            p.chosen.amountUsed + amount⟩,
            { db with
              subs := saveSub (p.resets.foldl saveSub db.subs) (p.charged amount)
              records :=
                ⟨requestId, userId, p.chosen.id, amount, .consumed⟩ :: db.records })

/-! ## What a pre-consume does to the tables

It charges one row, on top of that row's due reset, and may run the due reset
of rows it passed over; nothing else changes. -/

/-- The row after the reset that is due now. -/
def dueRow (env : Env) (sub : UserSubscription) : UserSubscription :=
  match env.plans sub.planId with
  | none => sub
  | some plan => afterReset env.cal env.dbNow sub plan

/-- That reset zeroes the usage. -/
def dueZeroes (env : Env) (sub : UserSubscription) : Bool :=
  match env.plans sub.planId with
  | none => false
  | some plan => resetZeroes env.cal env.dbNow sub plan

theorem dueRow_spec (env : Env) (sub : UserSubscription) :
    ∃ last next, dueRow env sub =
        { sub with
          amountUsed := if dueZeroes env sub then 0 else sub.amountUsed
          lastResetTime := last
          nextResetTime := next } := by
  unfold dueRow dueZeroes
  cases env.plans sub.planId with
  | none => exact ⟨sub.lastResetTime, sub.nextResetTime, rfl⟩
  | some plan => exact afterReset_spec env.cal env.dbNow sub plan

@[simp] theorem dueRow_id (env : Env) (sub : UserSubscription) :
    (dueRow env sub).id = sub.id := by
  obtain ⟨_, _, h⟩ := dueRow_spec env sub
  rw [h]

@[simp] theorem dueRow_status (env : Env) (sub : UserSubscription) :
    (dueRow env sub).status = sub.status := by
  obtain ⟨_, _, h⟩ := dueRow_spec env sub
  rw [h]

theorem dueRow_amountUsed (env : Env) (sub : UserSubscription) :
    (dueRow env sub).amountUsed = if dueZeroes env sub then 0 else sub.amountUsed := by
  obtain ⟨_, _, h⟩ := dueRow_spec env sub
  rw [h]

theorem dueRow_nonneg (h : 0 ≤ sub.amountUsed) :
    0 ≤ (dueRow env sub).amountUsed := by
  rw [dueRow_amountUsed]
  split
  · exact le_refl 0
  · exact h

/-- The total, if there is one, covers the usage. -/
def withinTotal (sub : UserSubscription) : Prop :=
  0 < sub.amountTotal → sub.amountUsed ≤ sub.amountTotal

variable {db' : DB} {amount : Int} {userId : Nat} {fault : Option PreStmt}

variable {env : Env} {base : List UserSubscription} {requestId : String}
  {res : SubscriptionPreConsumeResult} {c : UserSubscription}

theorem pick_ok :
    ∀ {cands : List UserSubscription} {p : Picked}, pick env fault amount cands = .ok p →
      (∃ c ∈ cands, p.chosen = dueRow env c ∧ withinTotal (p.charged amount))
        ∧ ∀ r ∈ p.resets, ∃ c ∈ cands, r = dueRow env c
  | [], p, h => by cases h
  | c :: rest, p, h => by
    unfold pick at h
    split at h
    · cases h
    · cases hplan : env.plans c.planId with
      | none => rw [hplan] at h; cases h
      | some plan =>
        rw [hplan] at h
        simp only at h
        have hdue : dueRow env c = afterReset env.cal env.dbNow c plan := by
          simp only [dueRow, hplan]
        have hreset : ∀ r ∈ (maybeResetUserSubscriptionWithPlan env.cal env.dbNow c
            plan).toList, r = dueRow env c := by
          intro r hr
          rw [hdue, afterReset, Option.mem_toList.mp hr]
          rfl
        split at h
        · cases h
        · rw [← hdue] at h
          split at h
          · cases hrec : pick env fault amount rest with
            | error e => rw [hrec] at h; cases h
            | ok q =>
              rw [hrec] at h
              cases h
              obtain ⟨⟨c', hc', hch⟩, hres⟩ := pick_ok hrec
              refine ⟨⟨c', List.mem_cons_of_mem c hc', hch⟩, fun r hr => ?_⟩
              rcases List.mem_append.mp hr with hr | hr
              · exact ⟨c, List.mem_cons_self, hreset r hr⟩
              · obtain ⟨c'', hc'', hr'⟩ := hres r hr
                exact ⟨c'', List.mem_cons_of_mem c hc'', hr'⟩
          · rename_i hroom
            cases h
            refine ⟨⟨c, List.mem_cons_self, rfl, ?_⟩,
              fun r hr => ⟨c, List.mem_cons_self, hreset r hr⟩⟩
            intro htotal
            simp only [Picked.charged, withUsed_amountTotal, withUsed_amountUsed] at htotal ⊢
            omega

/-- `subs'` is `subs` with some due resets run. -/
def DueResets (env : Env) (subs subs' : List UserSubscription) : Prop :=
  ∀ j, findSub subs' j = findSub subs j
    ∨ findSub subs' j = (findSub subs j).map (dueRow env)

theorem dueResets_saveSub (h : DueResets env base subs) (hc : findSub base c.id = some c) :
    DueResets env base (saveSub subs (dueRow env c)) := by
  intro j
  by_cases hj : j = c.id
  · subst hj
    obtain ⟨old, hold⟩ : ∃ old, findSub subs (dueRow env c).id = some old := by
      rw [dueRow_id]
      rcases h c.id with h' | h'
      · exact ⟨c, by rw [h', hc]⟩
      · exact ⟨dueRow env c, by rw [h', hc]; rfl⟩
    have hself := findSub_saveSub_self hold
    rw [dueRow_id] at hself
    exact Or.inr (by rw [hself, hc]; rfl)
  · rw [findSub_saveSub_ne (by rwa [dueRow_id])]
    exact h j

theorem dueResets_foldl :
    ∀ {resets subs : List UserSubscription}, DueResets env base subs →
      (∀ r ∈ resets, ∃ c, findSub base c.id = some c ∧ r = dueRow env c) →
      DueResets env base (resets.foldl saveSub subs)
  | [], _, h, _ => h
  | r :: rest, subs, h, hres => by
    obtain ⟨c, hc, rfl⟩ := hres r List.mem_cons_self
    rw [List.foldl_cons]
    exact dueResets_foldl (dueResets_saveSub h hc)
      fun r' hr' => hres r' (List.mem_cons_of_mem _ hr')

theorem candidates_mem {now : Int} (h : c ∈ candidates now userId subs) :
    c ∈ subs ∧ c.userId = userId ∧ c.status = .active ∧ now < c.endTime := by
  unfold candidates at h
  rw [List.mem_insertionSort, List.mem_filter] at h
  exact ⟨h.1, of_decide_eq_true h.2⟩

/-- What a successful pre-consume of `amount` did to the subscriptions. -/
structure SubCharged (env : Env) (subs subs' : List UserSubscription) (userId id : Nat)
    (amount : Int) : Prop where
  row : ∃ sub, findSub subs id = some sub ∧ sub.userId = userId ∧ sub.status = .active
    ∧ findSub subs' id =
        some ((dueRow env sub).withUsed ((dueRow env sub).amountUsed + amount))
    ∧ withinTotal ((dueRow env sub).withUsed ((dueRow env sub).amountUsed + amount))
  others : ∀ j, j ≠ id → findSub subs' j = findSub subs j
    ∨ findSub subs' j = (findSub subs j).map (dueRow env)

/-- What an accepted pre-consume has done: nothing, if the request is recorded, or the
charge of the subscription it picked. -/
theorem preConsume_cases
    (h : preConsumeUserSubscription env fault requestId userId amount db = .ok (res, db')) :
    blank requestId = false ∧ 0 < amount ∧
      (((findRecord db.records requestId).isSome ∧ db' = db) ∨
        ∃ p, pick env fault amount (candidates env.dbNow userId db.subs) = .ok p ∧
          res = ⟨p.chosen.id, amount, p.chosen.amountTotal, p.chosen.amountUsed,
            p.chosen.amountUsed + amount⟩ ∧
          db' = { db with
            subs := saveSub (p.resets.foldl saveSub db.subs) (p.charged amount)
            records := ⟨requestId, userId, p.chosen.id, amount, .consumed⟩ :: db.records }) := by
  unfold preConsumeUserSubscription at h
  by_cases hid : userId = 0
  · rw [if_pos hid] at h
    cases h
  cases hblank : blank requestId with
  | true =>
    rw [if_neg hid, hblank, if_pos rfl] at h
    cases h
  | false =>
    rw [if_neg hid, hblank, if_neg Bool.false_ne_true] at h
    by_cases hamount : amount ≤ 0
    · rw [if_pos hamount] at h
      cases h
    refine ⟨rfl, not_le.mp hamount, ?_⟩
    rw [if_neg hamount] at h
    split at h
    · cases h
    cases hrec : findRecord db.records requestId with
    | some existing =>
      rw [hrec] at h
      simp only at h
      repeat' split at h
      all_goals cases h
      exact Or.inl ⟨rfl, rfl⟩
    | none =>
      rw [hrec] at h
      simp only at h
      split at h
      · cases h
      split at h
      · cases h
      cases hpick : pick env fault amount (candidates env.dbNow userId db.subs) with
      | error e => rw [hpick] at h; cases h
      | ok p =>
        rw [hpick] at h
        simp only at h
        split at h
        · cases h
        · cases h
          exact Or.inr ⟨p, rfl, rfl, rfl⟩

theorem preConsume_ok (hnd : (db.subs.map (·.id)).Nodup)
    (hnew : findRecord db.records requestId = none)
    (h : preConsumeUserSubscription env fault requestId userId amount db = .ok (res, db')) :
    blank requestId = false ∧ 0 < amount ∧ res.preConsumed = amount
      ∧ SubCharged env db.subs db'.subs userId res.userSubscriptionId amount
      ∧ db' = { db with
          subs := db'.subs
          records := ⟨requestId, userId, res.userSubscriptionId, amount, .consumed⟩
            :: db.records } := by
  obtain ⟨hblank, hpos, ⟨hrec, -⟩ | ⟨p, hpick, rfl, rfl⟩⟩ := preConsume_cases h
  · rw [hnew] at hrec
    cases hrec
  · obtain ⟨⟨c, hc, hchosen, hroom⟩, hresets⟩ := pick_ok hpick
    have hfind : ∀ {c}, c ∈ candidates env.dbNow userId db.subs →
        findSub db.subs c.id = some c := fun hc => findSub_of_mem hnd (candidates_mem hc).1
    have hdue : DueResets env db.subs (p.resets.foldl saveSub db.subs) := by
      refine dueResets_foldl (fun j => Or.inl rfl) fun r hr => ?_
      obtain ⟨c', hc', rfl⟩ := hresets r hr
      exact ⟨c', hfind hc', rfl⟩
    have hid : (p.charged amount).id = c.id := by
      rw [Picked.charged, withUsed_id, hchosen, dueRow_id]
    have hcid : p.chosen.id = c.id := by rw [hchosen, dueRow_id]
    obtain ⟨old, hold⟩ : ∃ old, findSub (p.resets.foldl saveSub db.subs)
        (p.charged amount).id = some old := by
      rw [hid]
      rcases hdue c.id with h' | h'
      · exact ⟨c, by rw [h', hfind hc]⟩
      · exact ⟨dueRow env c, by rw [h', hfind hc]; rfl⟩
    have hself := findSub_saveSub_self hold
    rw [hid] at hself
    have hcharged : p.charged amount
        = (dueRow env c).withUsed ((dueRow env c).amountUsed + amount) := by
      rw [Picked.charged, hchosen]
    obtain ⟨-, huser, hactive, -⟩ := candidates_mem hc
    refine ⟨hblank, hpos, rfl, ⟨⟨c, ?_, huser, hactive, ?_, ?_⟩, ?_⟩, rfl⟩
    · rw [hcid]; exact hfind hc
    · rw [hcid, ← hcharged]; exact hself
    · rw [← hcharged]; exact hroom
    · intro j hj
      rw [hcid] at hj
      rw [findSub_saveSub_ne (by rwa [hid])]
      exact hdue j

/-! ## PostConsumeUserSubscriptionDelta -/

/-- `newUsed`: the usage after `delta`, never below zero. -/
def newUsed (used delta : Int) : Int :=
  if used + delta < 0 then 0 else used + delta

theorem newUsed_eq (used delta : Int) : newUsed used delta = max 0 (used + delta) := by
  unfold newUsed
  split <;> omega

/-- The delta would push the usage over the subscription's total. -/
def overTotal (sub : UserSubscription) (delta : Int) : Prop :=
  0 < sub.amountTotal ∧ newUsed sub.amountUsed delta > sub.amountTotal

instance (sub : UserSubscription) (delta : Int) : Decidable (overTotal sub delta) :=
  inferInstanceAs (Decidable (_ ∧ _))

/-- The row the delta leads to, or the refusal. -/
def applyDelta (sub : UserSubscription) (delta : Int) : Except SubErr UserSubscription :=
  if overTotal sub delta then
    .error (.usedExceedsTotal (newUsed sub.amountUsed delta) sub.amountTotal)
  else .ok (sub.withUsed (newUsed sub.amountUsed delta))

def postConsumeUserSubscriptionDelta (fails : Bool) (userSubscriptionId : Nat)
    (delta : Int) (db : DB) : Except SubErr DB :=
  if userSubscriptionId = 0 then .error .invalidUserSubscriptionId
  else if delta = 0 then .ok db
  else if fails then .error .db
  else
    match findSub db.subs userSubscriptionId with
    | none => .error .notFound
    | some sub =>
      match applyDelta sub delta with
      | .error e => .error e
      | .ok row => .ok { db with subs := saveSub db.subs row }

theorem applyDelta_ok (h : applyDelta sub delta = .ok row) :
    ¬ overTotal sub delta
      ∧ row = sub.withUsed (newUsed sub.amountUsed delta) := by
  unfold applyDelta at h
  split at h
  · cases h
  · rename_i hover
    exact ⟨hover, (Except.ok.inj h).symm⟩

theorem postConsume_ok {fails : Bool} (hdelta : delta ≠ 0)
    (h : postConsumeUserSubscriptionDelta fails id delta db = .ok db') :
    ∃ sub, findSub db.subs id = some sub ∧ ¬ overTotal sub delta
      ∧ db' = { db with
          subs := saveSub db.subs (sub.withUsed (newUsed sub.amountUsed delta)) } := by
  unfold postConsumeUserSubscriptionDelta at h
  rw [if_neg hdelta] at h
  split at h
  · cases h
  · split at h
    · cases h
    · cases hf : findSub db.subs id with
      | none => rw [hf] at h; cases h
      | some sub =>
        rw [hf] at h
        simp only at h
        cases ha : applyDelta sub delta with
        | error e => rw [ha] at h; cases h
        | ok row =>
          rw [ha] at h
          obtain ⟨hover, rfl⟩ := applyDelta_ok ha
          exact ⟨sub, rfl, hover, (Except.ok.inj h).symm⟩

/-- On an existing subscription, with no failing statement, only the total
can refuse a delta. -/
theorem postConsume_succeeds (hid : id ≠ 0) (hdelta : delta ≠ 0)
    (hf : findSub db.subs id = some sub) (hover : ¬ overTotal sub delta) :
    postConsumeUserSubscriptionDelta false id delta db =
      .ok { db with
        subs := saveSub db.subs (sub.withUsed (newUsed sub.amountUsed delta)) } := by
  unfold postConsumeUserSubscriptionDelta
  rw [if_neg hid, if_neg hdelta, if_neg (by simp), hf]
  simp only [applyDelta, if_neg hover]

end YouBox
