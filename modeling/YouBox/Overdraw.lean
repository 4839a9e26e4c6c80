import YouBox.Billing
import YouBox.Sched
import YouBox.Store

/-!
# Openings side by side

`NewBillingSession` on the wallet, without the trust bypass, as a sequence of
statements that other openings interleave with: read the balance and compare,
read the token and compare, take the token's share, take the wallet's. The
comparison is made on what was read; the two `UPDATE`s that follow are
unconditional.

Batching is off, so a write changes its row at once, and what the caches hold
is what the rows hold.

Money is conserved whatever the interleaving: what a row has lost is what the
openings hold of it (`OpenInv.wallet`, `OpenInv.token`). That the openings stay
within the starting balance needs each decrement to find its amount still
there, which is `Covered`.
-/

namespace YouBox

structure OpenCall where
  userId : Nat
  tokenId : Nat
  isPlayground : Bool
  tokenUnlimited : Bool
  quota : Int

inductive OpenPc where
  | readWallet
  | readToken
  | takeToken
  | takeWallet
  | rollback
  | opened
  | failed
  /-- The rollback of the token failed too. -/
  | leaked
deriving DecidableEq

/-- One statement of an opening, with the comparison on what it read. -/
def OpenCall.next (call : OpenCall) (env : Env) (fails : Bool) (db : DB) :
    OpenPc → Option (DB × OpenPc)
  | .readWallet =>
    match getUserQuota fails none call.userId db with
    | .error _ => some (db, .failed)
    | .ok userQuota =>
      if userQuota ≤ 0 ∨ userQuota - call.quota < 0 then some (db, .failed)
      else if 0 < call.quota then
        if call.isPlayground then some (db, .takeWallet) else some (db, .readToken)
      else some (db, .opened)
  | .readToken =>
    match getTokenRemain fails none call.tokenId db with
    | .error _ => some (db, .failed)
    | .ok remain =>
      if !call.tokenUnlimited && decide (remain < call.quota) then some (db, .failed)
      else some (db, .takeToken)
  | .takeToken =>
    match decreaseTokenQuota env fails call.tokenId call.quota db with
    | .error _ => some (db, .failed)
    | .ok db' => some (db', .takeWallet)
  | .takeWallet =>
    match decreaseUserQuota env fails call.userId call.quota false db with
    | .error _ => some (db, if call.isPlayground then .failed else .rollback)
    | .ok db' => some (db', .opened)
  | .rollback =>
    match increaseTokenQuota env fails call.tokenId call.quota db with
    | .error _ => some (db, .leaked)
    | .ok db' => some (db', .failed)
  | .opened => none
  | .failed => none
  | .leaked => none

def openMachine (env : Env) : Sched.Machine DB (OpenCall × OpenPc) Bool where
  next fails db l := (l.1.next env fails db l.2).map fun r => (r.1, l.1, r.2)

/-- What an opening has taken from the wallet of `u`. -/
def fromWallet (u : Nat) (l : OpenCall × OpenPc) : Int :=
  if l.1.userId = u ∧ l.2 = .opened then l.1.quota else 0

/-- What an opening holds of token `t`. -/
def fromToken (t : Nat) (l : OpenCall × OpenPc) : Int :=
  if l.1.tokenId = t ∧ l.1.isPlayground = false ∧ l.2 ∈ [.takeWallet, .rollback, .opened, .leaked]
  then l.1.quota else 0

/-- What a finished opening was opened with, on token `t`. -/
def openedOn (t : Nat) (l : OpenCall × OpenPc) : Int :=
  if l.1.tokenId = t ∧ l.1.isPlayground = false ∧ l.2 = .opened then l.1.quota else 0

/-! ## What a step can do -/

inductive OpenStep (db db' : DB) : OpenCall × OpenPc → OpenCall × OpenPc → Prop where
  | quiet {call pc pc'} (same : db' = db)
      (wallet : ∀ u, fromWallet u (call, pc') = fromWallet u (call, pc))
      (token : ∀ t, fromToken t (call, pc') = fromToken t (call, pc)) :
      OpenStep db db' (call, pc) (call, pc')
  | tookToken {call} (notPlayground : call.isPlayground = false) (users : db'.users = db.users)
      (tokens : ∀ t, (db'.tokens t).remainQuota
        = (db.tokens t).remainQuota - if call.tokenId = t then call.quota else 0) :
      OpenStep db db' (call, .takeToken) (call, .takeWallet)
  | tookWallet {call} (tokens : db'.tokens = db.tokens)
      (users : ∀ u, db'.users u = db.users u - if call.userId = u then call.quota else 0) :
      OpenStep db db' (call, .takeWallet) (call, .opened)
  | gaveBack {call} (notPlayground : call.isPlayground = false) (users : db'.users = db.users)
      (tokens : ∀ t, (db'.tokens t).remainQuota
        = (db.tokens t).remainQuota + if call.tokenId = t then call.quota else 0) :
      OpenStep db db' (call, .rollback) (call, .failed)

variable {fails : Bool} {db' start : DB} {env : Env}

variable {db : DB} {delta quota : Int} {calls : List OpenCall} {id : Nat} {l' : OpenCall × OpenPc}
  {c : Sched.Conf DB (OpenCall × OpenPc)}

theorem writeTokenQuota_remain (hbatch : env.batchUpdateEnabled = false)
    (h : writeTokenQuota env fails id quota delta db = .ok db') :
    db'.users = db.users ∧ ∀ t, (db'.tokens t).remainQuota
      = (db.tokens t).remainQuota + if id = t then delta else 0 := by
  obtain rfl := writeTokenQuota_row hbatch h
  refine ⟨rfl, fun t => ?_⟩
  by_cases ht : id = t
  · subst ht; simp
  · simp [Function.update_of_ne (Ne.symm ht), ht]

theorem writeUserQuota_users {direct : Bool} (hbatch : env.batchUpdateEnabled = false)
    (h : writeUserQuota env fails id quota delta direct db = .ok db') :
    db'.tokens = db.tokens ∧ ∀ u, db'.users u = db.users u + if id = u then delta else 0 := by
  obtain rfl := writeUserQuota_row hbatch h
  refine ⟨rfl, fun u => ?_⟩
  by_cases hu : id = u
  · subst hu; simp
  · simp [Function.update_of_ne (Ne.symm hu), hu]

theorem sub_if_neg (p : Prop) [Decidable p] (x d : Int) :
    (x + if p then -d else 0) = x - if p then d else 0 := by
  split <;> omega

/-- A playground opening never gets to the token. -/
def Placed (l : OpenCall × OpenPc) : Prop :=
  0 ≤ l.1.quota ∧ (l.2 ∈ [.readToken, .takeToken, .rollback] → l.1.isPlayground = false)

theorem opening_step {l : OpenCall × OpenPc} (hbatch : env.batchUpdateEnabled = false)
    (hplaced : Placed l) (h : (openMachine env).next fails db l = some (db', l')) :
    OpenStep db db' l l' ∧ Placed l' := by
  obtain ⟨call, pc⟩ := l
  obtain ⟨hq, hplay⟩ := hplaced
  simp only [openMachine, Option.map_eq_some_iff] at h
  obtain ⟨r, hr, heq⟩ := h
  cases heq
  cases pc with
  | readWallet =>
    simp only [OpenCall.next] at hr
    cases hread : getUserQuota fails none call.userId db with
    | error e =>
      rw [hread] at hr
      cases hr
      exact ⟨.quiet rfl (by simp [fromWallet]) (by simp [fromToken]), hq, by simp⟩
    | ok userQuota =>
      rw [hread] at hr
      simp only at hr
      split at hr
      · cases hr
        exact ⟨.quiet rfl (by simp [fromWallet]) (by simp [fromToken]), hq, by simp⟩
      split at hr
      · split at hr
        · rename_i hp
          cases hr
          exact ⟨.quiet rfl (by simp [fromWallet]) (by simp [fromToken, hp]), hq, by simp⟩
        · rename_i hp
          cases hr
          exact ⟨.quiet rfl (by simp [fromWallet]) (by simp [fromToken]), hq,
            fun _ => by simpa using hp⟩
      · -- nothing to take: the session is open at once
        rename_i hzero
        cases hr
        have hz : call.quota = 0 := by
          have : (0 : Int) ≤ call.quota := hq
          omega
        exact ⟨.quiet rfl (by simp [fromWallet, hz]) (by simp [fromToken, hz]), hq, by simp⟩
  | readToken =>
    have hp : call.isPlayground = false := hplay (by simp)
    simp only [OpenCall.next] at hr
    cases hread : getTokenRemain fails none call.tokenId db with
    | error e =>
      rw [hread] at hr
      cases hr
      exact ⟨.quiet rfl (by simp [fromWallet]) (by simp [fromToken]), hq, by simp⟩
    | ok remain =>
      rw [hread] at hr
      simp only at hr
      split at hr
      · cases hr
        exact ⟨.quiet rfl (by simp [fromWallet]) (by simp [fromToken]), hq, by simp⟩
      · cases hr
        exact ⟨.quiet rfl (by simp [fromWallet]) (by simp [fromToken]), hq, fun _ => hp⟩
  | takeToken =>
    have hp : call.isPlayground = false := hplay (by simp)
    simp only [OpenCall.next] at hr
    cases hdec : decreaseTokenQuota env fails call.tokenId call.quota db with
    | error e =>
      rw [hdec] at hr
      cases hr
      exact ⟨.quiet rfl (by simp [fromWallet]) (by simp [fromToken]), hq, by simp⟩
    | ok db₁ =>
      rw [hdec] at hr
      cases hr
      obtain ⟨husers, htokens⟩ := writeTokenQuota_remain hbatch hdec
      refine ⟨.tookToken hp husers (fun t => ?_), hq, by simp⟩
      rw [htokens t, sub_if_neg]
  | takeWallet =>
    simp only [OpenCall.next] at hr
    cases hdec : decreaseUserQuota env fails call.userId call.quota false db with
    | error e =>
      rw [hdec] at hr
      cases hr
      cases hp : call.isPlayground with
      | true => exact ⟨.quiet rfl (by simp [fromWallet]) (by simp [fromToken, hp]), hq, by simp⟩
      | false =>
        exact ⟨.quiet rfl (by simp [fromWallet]) (by simp [fromToken]), hq, fun _ => hp⟩
    | ok db₁ =>
      rw [hdec] at hr
      cases hr
      obtain ⟨htokens, husers⟩ := writeUserQuota_users hbatch hdec
      refine ⟨.tookWallet htokens (fun u => ?_), hq, by simp⟩
      rw [husers u, sub_if_neg]
  | rollback =>
    have hp : call.isPlayground = false := hplay (by simp)
    simp only [OpenCall.next] at hr
    cases hinc : increaseTokenQuota env fails call.tokenId call.quota db with
    | error e =>
      rw [hinc] at hr
      cases hr
      exact ⟨.quiet rfl (by simp [fromWallet]) (by simp [fromToken]), hq, by simp⟩
    | ok db₁ =>
      rw [hinc] at hr
      cases hr
      obtain ⟨husers, htokens⟩ := writeTokenQuota_remain hbatch hinc
      exact ⟨.gaveBack hp husers htokens, hq, by simp⟩
  | opened => cases hr
  | failed => cases hr
  | leaked => cases hr

/-! ## Runs -/

/-- Each decrement still finds its amount in the row. -/
def Covered : Sched.Guard DB (OpenCall × OpenPc) Bool :=
  fun c i _ => ∀ l ∈ c.threads[i]?,
    (l.2 = .takeWallet → l.1.quota ≤ c.store.users l.1.userId)
      ∧ (l.2 = .takeToken → l.1.tokenUnlimited = false →
        l.1.quota ≤ (c.store.tokens l.1.tokenId).remainQuota)

/-- No opening on token `t` claims that it is unlimited. -/
def Limited (t : Nat) (l : OpenCall × OpenPc) : Prop :=
  l.1.tokenId = t → l.1.tokenUnlimited = false

structure OpenInv (start : DB) (c : Sched.Conf DB (OpenCall × OpenPc)) : Prop where
  placed : ∀ l ∈ c.threads, Placed l
  wallet : ∀ u, c.store.users u + (c.threads.map (fromWallet u)).sum = start.users u
    ∧ min 0 (start.users u) ≤ c.store.users u
  token : ∀ t, (c.store.tokens t).remainQuota + (c.threads.map (fromToken t)).sum
      = (start.tokens t).remainQuota
    ∧ ((∀ l ∈ c.threads, Limited t l) →
      min 0 (start.tokens t).remainQuota ≤ (c.store.tokens t).remainQuota)

theorem limited_before {t : Nat} {call : OpenCall} {pc pc' : OpenPc}
    {ts : List (OpenCall × OpenPc)} {i : Nat} (hl : ts[i]? = some (call, pc))
    (h : ∀ l ∈ ts.set i (call, pc'), Limited t l) : ∀ l ∈ ts, Limited t l := by
  intro l hmem
  obtain ⟨j, hj⟩ := List.mem_iff_getElem?.mp hmem
  by_cases hji : j = i
  · subst hji
    obtain rfl : (call, pc) = l := Option.some.inj (hl.symm.trans hj)
    have hset : (call, pc') ∈ ts.set j (call, pc') :=
      List.mem_set (List.getElem?_eq_some_iff.mp hl).1 _
    exact h (call, pc') hset
  · have hset : l ∈ ts.set i (call, pc') :=
      List.mem_iff_getElem?.mpr ⟨j, by rw [List.getElem?_set_ne (fun h => hji h.symm)]; exact hj⟩
    exact h l hset

theorem openInv_step (hbatch : env.batchUpdateEnabled = false) {i : Nat} {l : OpenCall × OpenPc}
    (hinv : OpenInv start c) (hok : Covered c i fails) (hl : c.threads[i]? = some l)
    (hn : (openMachine env).next fails c.store l = some (db', l')) :
    OpenInv start ⟨db', c.threads.set i l'⟩ := by
  have hplaced : Placed l := hinv.placed l (List.mem_of_getElem? hl)
  have hwsum := fun u => Sched.sum_threads_set (fromWallet u) l' hl
  have htsum := fun t => Sched.sum_threads_set (fromToken t) l' hl
  obtain ⟨hstep, hplaced'⟩ := opening_step hbatch hplaced hn
  have hall : ∀ x ∈ c.threads.set i l', Placed x :=
    Sched.forall_threads_set hinv.placed hplaced'
  obtain ⟨hcw, hct⟩ := hok l hl
  cases hstep with
  | quiet same wallet token =>
    subst same
    refine ⟨hall, fun u => ?_, fun t => ?_⟩
    · have := hinv.wallet u
      simp only [hwsum u, wallet u]
      omega
    · obtain ⟨hsum, hmin⟩ := hinv.token t
      refine ⟨?_, fun hlim => hmin (limited_before hl hlim)⟩
      simp only [htsum t, token t]
      omega
  | tookToken hp users tokens =>
    rename_i call
    refine ⟨hall, fun u => ?_, fun t => ?_⟩
    · have hsame : fromWallet u (call, .takeWallet) = fromWallet u (call, .takeToken) := by
        simp [fromWallet]
      have := hinv.wallet u
      simp only [hwsum u, users, hsame]
      omega
    · obtain ⟨hsum, hmin⟩ := hinv.token t
      have htook : fromToken t (call, .takeWallet)
          = if call.tokenId = t then call.quota else 0 := by simp [fromToken, hp]
      have hbefore : fromToken t (call, .takeToken) = 0 := by simp [fromToken]
      simp only [htsum t, htook, hbefore, tokens t]
      refine ⟨by omega, fun hlim => ?_⟩
      have hlim' := limited_before hl hlim
      have hfloor := hmin hlim'
      by_cases ht : call.tokenId = t
      · -- the guard: the row still covers what the check let through
        have hcov := hct rfl (hlim' _ (List.mem_of_getElem? hl) ht)
        simp only [ht, if_true] at hcov ⊢
        omega
      · simp only [ht, if_false]
        omega
  | tookWallet tokens users =>
    rename_i call
    refine ⟨hall, fun u => ?_, fun t => ?_⟩
    · obtain ⟨hsum, hfloor⟩ := hinv.wallet u
      have hopened : fromWallet u (call, .opened)
          = if call.userId = u then call.quota else 0 := by simp [fromWallet]
      have hbefore : fromWallet u (call, .takeWallet) = 0 := by simp [fromWallet]
      simp only [hwsum u, hopened, hbefore, users u]
      refine ⟨by omega, ?_⟩
      by_cases hu : call.userId = u
      · have hcov := hcw rfl
        simp only [hu, if_true] at hcov ⊢
        omega
      · simp only [hu, if_false]
        omega
    · obtain ⟨hsum, hmin⟩ := hinv.token t
      have hsame : fromToken t (call, .opened) = fromToken t (call, .takeWallet) := by
        simp [fromToken]
      refine ⟨?_, fun hlim => ?_⟩
      · simp only [htsum t, hsame, tokens]
        omega
      · simp only [tokens]
        exact hmin (limited_before hl hlim)
  | gaveBack hp users tokens =>
    rename_i call
    refine ⟨hall, fun u => ?_, fun t => ?_⟩
    · have hsame : fromWallet u (call, .failed) = fromWallet u (call, .rollback) := by
        simp [fromWallet]
      have := hinv.wallet u
      simp only [hwsum u, users, hsame]
      omega
    · obtain ⟨hsum, hmin⟩ := hinv.token t
      have hgave : fromToken t (call, .failed) = 0 := by simp [fromToken]
      have hbefore : fromToken t (call, .rollback)
          = if call.tokenId = t then call.quota else 0 := by simp [fromToken, hp]
      have hq : 0 ≤ if call.tokenId = t then call.quota else 0 := by
        split
        · exact hplaced.1
        · exact le_refl 0
      simp only [htsum t, hgave, hbefore, tokens t]
      refine ⟨by omega, fun hlim => ?_⟩
      have := hmin (limited_before hl hlim)
      omega

/-- Any openings, none begun. -/
def openStart (start : DB) (calls : List OpenCall) : Sched.Conf DB (OpenCall × OpenPc) :=
  ⟨start, calls.map fun call => (call, .readWallet)⟩

theorem openInv_start (hq : ∀ call ∈ calls, 0 ≤ call.quota) :
    OpenInv start (openStart start calls) := by
  have hzero : ∀ f : OpenCall × OpenPc → Int, (∀ call, f (call, .readWallet) = 0) →
      ((openStart start calls).threads.map f).sum = 0 := by
    intro f hf
    refine List.sum_eq_zero ?_
    intro x hx
    obtain ⟨l, hl, rfl⟩ := List.mem_map.mp hx
    obtain ⟨call, -, rfl⟩ := List.mem_map.mp hl
    exact hf call
  refine ⟨?_, fun u => ?_, fun t => ?_⟩
  · intro l hl
    obtain ⟨call, hcall, rfl⟩ := List.mem_map.mp hl
    exact ⟨hq call hcall, by simp⟩
  · rw [hzero (fromWallet u) (by simp [fromWallet])]
    exact ⟨Int.add_zero _, min_le_right _ _⟩
  · rw [hzero (fromToken t) (by simp [fromToken])]
    exact ⟨Int.add_zero _, fun _ => min_le_right _ _⟩

theorem openedOn_le_fromToken {t : Nat} {l : OpenCall × OpenPc} (h : Placed l) :
    openedOn t l ≤ fromToken t l := by
  have hq := h.1
  unfold openedOn fromToken
  split
  · rename_i ho
    rw [if_pos ⟨ho.1, ho.2.1, by simp [ho.2.2]⟩]
  · split
    · exact hq
    · exact le_refl 0

theorem openStart_calls {ok : Sched.Guard DB (OpenCall × OpenPc) Bool}
    (h : Sched.Steps (openMachine env) ok (openStart start calls) c) :
    ∀ l ∈ c.threads, l.1 ∈ calls := by
  refine Sched.Steps.invariant (I := fun c => ∀ l ∈ c.threads, l.1 ∈ calls) ?_ ?_ h
  · intro l hl
    obtain ⟨call, hcall, rfl⟩ := List.mem_map.mp hl
    exact hcall
  · intro c i e l s' l' hI _ hl hn
    refine Sched.forall_threads_set hI ?_
    simp only [openMachine, Option.map_eq_some_iff] at hn
    obtain ⟨r, -, heq⟩ := hn
    obtain ⟨-, rfl⟩ := Prod.mk.inj heq
    exact hI l (List.mem_of_getElem? hl)

theorem openings_within_balance {env : Env} (hbatch : env.batchUpdateEnabled = false)
    {start : DB} {calls : List OpenCall} (hq : ∀ call ∈ calls, 0 ≤ call.quota)
    {c : Sched.Conf DB (OpenCall × OpenPc)}
    (h : Sched.Steps (openMachine env) Covered (openStart start calls) c) :
    (∀ u, (c.threads.map (fromWallet u)).sum ≤ max 0 (start.users u))
      ∧ ∀ t, (∀ call ∈ calls, call.tokenId = t → call.tokenUnlimited = false) →
        (c.threads.map (openedOn t)).sum ≤ max 0 (start.tokens t).remainQuota := by
  have hinv : OpenInv start c := Sched.Steps.invariant (openInv_start hq)
    (fun hI hok hl hn => openInv_step hbatch hI hok hl hn) h
  constructor
  · intro u
    have := hinv.wallet u
    omega
  · intro t hlim
    obtain ⟨hsum, hmin⟩ := hinv.token t
    have hfloor := hmin fun l hl => hlim l.1 (openStart_calls h l hl)
    have hle : (c.threads.map (openedOn t)).sum ≤ (c.threads.map (fromToken t)).sum :=
      List.sum_le_sum fun l hl => openedOn_le_fromToken (hinv.placed l hl)
    omega

/-! Two openings of 80 for a user with 100 in the wallet and 100 on the token. -/

def eighty : OpenCall := ⟨7, 3, false, false, 80⟩

def hundredDB : DB where
  users u := if u = 7 then 100 else 0
  tokens t := if t = 3 then ⟨100, 0⟩ else ⟨0, 0⟩
  subs := []
  records := []
  batchUsers _ := 0
  batchTokens _ := 0

def directEnv : Env where
  batchUpdateEnabled := false
  trustQuota := 0
  cal := ⟨(· + 86400), (· + 604800), (· + 2592000), (· + · * 31536000), (· + · * 2592000),
    lt_day_later, lt_week_later, lt_thirty_days_later⟩
  plans _ := none
  dbNow := 10
  now := 10

instance (c : Sched.Conf DB (OpenCall × OpenPc)) (i : Nat) (fails : Bool) :
    Decidable (Covered c i fails) :=
  inferInstanceAs (Decidable (∀ l ∈ c.threads[i]?, _ ∧ _))

theorem openings_within_balance_in_turn :
    ∃ c, Sched.Steps (openMachine directEnv) Covered (openStart hundredDB [eighty, eighty]) c
      ∧ (c.threads.map (fromWallet 7)).sum = 80
      ∧ (c.threads.map (fromWallet 7)).sum ≤ max 0 (hundredDB.users 7) :=
  Sched.exists_of_run_and ([0, 0, 0, 0, 1].map (·, false)) (by decide)
    fun _ hc _ => (openings_within_balance rfl (by decide) hc).1 7

/-- Both compare before either decrements: 160 out of 100, twice over. -/
theorem openings_overdraw :
    ∃ c, Sched.Steps (openMachine directEnv) Sched.free (openStart hundredDB [eighty, eighty]) c
      ∧ (c.threads.map (fromWallet 7)).sum = 160 ∧ hundredDB.users 7 = 100
      ∧ (c.threads.map (openedOn 3)).sum = 160 ∧ (hundredDB.tokens 3).remainQuota = 100 :=
  Sched.exists_of_run ([0, 1, 0, 1, 0, 1, 0, 1].map (·, false)) (by decide)

end YouBox
