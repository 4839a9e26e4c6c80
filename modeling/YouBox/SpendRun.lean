import YouBox.SpendLimit

/-!
# Runs across reset windows

What a token has is five numbers (`TokenAccount`): the row, the two places a
batched delta can wait in, the limit, and how many windows have ended. A step
of any execution charges the account, refills it, or moves a waiting delta
along (`account_step`); the invariant is about the account and the ledgers
only.

`spend_within_limit` is the result: as long as no step gives back more than
its request took in the window, the row stays within the limit; and when every
charge is also covered by what is left, so is what the token spends in a
window.
-/

namespace YouBox

/-! ## A token's account -/

structure TokenAccount where
  remain : Int
  pending : Int
  held : Int
  limit : Int
  ended : Nat

namespace TokenAccount

def left (a : TokenAccount) : Int := a.remain + a.pending + a.held

def charge (a : TokenAccount) (batch : Bool) (paid : Int) : TokenAccount :=
  if batch then { a with pending := a.pending - paid } else { a with remain := a.remain - paid }

def refill (a : TokenAccount) (spendLimit : Int) (elapsed : Bool) : TokenAccount :=
  { a with remain := spendLimit, ended := a.ended + if elapsed then 1 else 0 }

/-- The flusher takes what is pending. -/
def take (a : TokenAccount) : TokenAccount := { a with pending := 0, held := a.pending }

/-- The flusher writes what it holds, or loses it. -/
def write (a : TokenAccount) (fails : Bool) : TokenAccount :=
  { a with remain := if fails then a.remain else a.remain + a.held, held := 0 }

/-- An account within its limit, of which `spent` has been taken in the
window: the row is, with and without what the flusher will add, and so are the
spending and what is left together. -/
structure Within (a : TokenAccount) (batch : Bool) (limit spent : Int) : Prop where
  bound : a.limit = limit
  direct : batch = false → a.pending = 0 ∧ a.held = 0
  row : a.remain ≤ limit
  flushed : a.remain + a.held ≤ limit
  total : a.left + spent ≤ limit

section Within

variable {a : TokenAccount} {batch : Bool} {limit spent : Int}

theorem left_charge (a : TokenAccount) (batch : Bool) (paid : Int) :
    (a.charge batch paid).left = a.left - paid := by
  cases batch with
  | true =>
    simp only [charge, left, if_true]
    omega
  | false =>
    simp only [charge, left, Bool.false_eq_true, if_false]
    omega

theorem Within.charge {paid : Int} (h : a.Within batch limit spent) (hspent : 0 ≤ spent + paid) :
    (a.charge batch paid).Within batch limit (spent + paid) := by
  have htotal := h.total
  have hleft := left_charge a batch paid
  cases batch with
  | true => exact ⟨h.bound, nofun, h.row, h.flushed, by omega⟩
  | false =>
    -- nothing waits anywhere: the row is all there is
    obtain ⟨hpending, hheld⟩ := h.direct rfl
    have hrow : (a.charge false paid).remain = a.remain - paid := rfl
    simp only [left, hpending, hheld] at htotal
    refine ⟨h.bound, fun _ => ⟨hpending, hheld⟩, ?_, ?_, ?_⟩
    · omega
    · show a.remain - paid + a.held ≤ limit
      omega
    · rw [hleft]
      simp only [left, hpending, hheld]
      omega

theorem Within.refill {elapsed : Bool} (h : a.Within batch limit spent) (hpending : a.pending ≤ 0)
    (hheld : a.held ≤ 0) : (a.refill limit elapsed).Within batch limit 0 := by
  refine ⟨h.bound, h.direct, ?_, ?_, ?_⟩
  · exact le_refl limit
  · show limit + a.held ≤ limit
    omega
  · show limit + a.pending + a.held + 0 ≤ limit
    omega

theorem left_take (hheld : a.held = 0) : a.take.left = a.left := by
  simp only [take, left]
  omega

theorem Within.take (h : a.Within batch limit spent) (hspent : 0 ≤ spent) (hheld : a.held = 0) :
    a.take.Within batch limit spent := by
  have htotal := h.total
  refine ⟨h.bound, fun hb => ⟨rfl, (h.direct hb).1⟩, h.row, ?_, ?_⟩
  · simp only [left, hheld] at htotal
    show a.remain + a.pending ≤ limit
    omega
  · rw [left_take hheld]
    exact htotal

theorem left_write (a : TokenAccount) : (a.write false).left = a.left := by
  simp only [write, left, Bool.false_eq_true, if_false]
  omega

theorem Within.write (h : a.Within batch limit spent) :
    (a.write false).Within batch limit spent := by
  refine ⟨h.bound, fun hb => ⟨(h.direct hb).1, rfl⟩, h.flushed, ?_, ?_⟩
  · show a.remain + a.held + 0 ≤ limit
    have := h.flushed
    omega
  · rw [left_write]
    exact h.total

end Within

end TokenAccount

def LimitDB.account (s : LimitDB) (t : Nat) : TokenAccount where
  remain := s.remain t
  pending := s.db.batchTokens t
  held := s.held t
  limit := s.limit t
  ended := s.ended t

theorem left_eq (s : LimitDB) (t : Nat) : s.left t = (s.account t).left := by
  unfold LimitDB.left TokenAccount.left
  rfl

/-- What an execution has taken from token `t` in the window numbered
`window`. -/
def SpendExec.spentOn (t window : Nat) : SpendExec → Int
  | .request pc g => if pc.info.tokenId = t then g.inWindow window else 0
  | .reset _ => 0
  | .flusher => 0

/-! ## What a step does to an account -/

/-- The entries the flusher holds are of different tokens. -/
def LimitDB.KeysNodup (s : LimitDB) : Prop := (s.flushing.map Prod.fst).Nodup

inductive AccountStep (env : Env) (t : Nat) (e : SpendEvent) (s s' : LimitDB) :
    SpendExec → SpendExec → Prop where
  | kept {l l' : SpendExec} (hacc : s'.account t = s.account t)
      (hspent : l'.spentOn t (s.ended t) = l.spentOn t (s.ended t)) :
      AccountStep env t e s s' l l'
  | charged {pc : RequestPc} {g : Ledger} {l' : SpendExec} {paid : Int}
      (ht : pc.info.tokenId = t) (hpaid : paid = 0 ∨ paid = tokenDelta env e pc)
      (hacc : s'.account t = (s.account t).charge env.batchUpdateEnabled paid)
      (hspent : l'.spentOn t (s.ended t) = g.inWindow (s.ended t) + paid) :
      AccountStep env t e s s' (.request pc g) l'
  | refilled {now : Int} {token : SpendWindow} {rest : List (Nat × SpendWindow)} {n : Nat}
      (he : e = .update false) (hnext : token.nextResetTime ≠ 0)
      (hacc : s'.account t
        = (s.account t).refill token.spendLimit ((s.windows t).elapsed now)) :
      AccountStep env t e s s' (.reset (.loop now ((t, token) :: rest) n))
        (.reset (.loop now rest (n + 1)))
  | taken (hheld : s.held t = 0) (hacc : s'.account t = (s.account t).take) :
      AccountStep env t e s s' .flusher .flusher
  | written {fails : Bool} {v : Int} {rest : List (Nat × Int)} (he : e = .writeBatch fails)
      (hfl : s.flushing = (t, v) :: rest) (hacc : s'.account t = (s.account t).write fails) :
      AccountStep env t e s s' .flusher .flusher

variable {env : Env} {limit : Int} {s s' : LimitDB} {rest : List (Nat × Int)} {ended t : Nat}
  {e : SpendEvent} {l l' : SpendExec}

variable {db' : DB} {v : Int}

theorem TokenMove.account {paid : Int} (h : TokenMove env t (-paid) s.db db') :
    ({ s with db := db' } : LimitDB).account t
      = (s.account t).charge env.batchUpdateEnabled paid := by
  have hbooks := h.books t
  simp only [DB.books, if_pos] at hbooks
  cases hb : env.batchUpdateEnabled with
  | true =>
    have hrows := h.rows hb
    rw [hrows] at hbooks
    have hpending : db'.batchTokens t = s.db.batchTokens t - paid := by omega
    simp [LimitDB.account, LimitDB.remain, LimitDB.held, LimitDB.limit, TokenAccount.charge,
      hrows, hpending]
  | false =>
    have hqueue := h.queue hb
    rw [hqueue] at hbooks
    have hremain : (db'.tokens t).remainQuota = (s.db.tokens t).remainQuota - paid := by omega
    simp [LimitDB.account, LimitDB.remain, LimitDB.held, LimitDB.limit, TokenAccount.charge,
      hqueue, hremain]

theorem TokenMove.account_ne {u : Nat} {d : Int} (h : TokenMove env u d s.db db') (hne : t ≠ u) :
    ({ s with db := db' } : LimitDB).account t = s.account t := by
  have hbooks := h.books t
  simp only [DB.books, if_neg hne] at hbooks
  cases hb : env.batchUpdateEnabled with
  | true =>
    have hrows := h.rows hb
    rw [hrows] at hbooks
    have hpending : db'.batchTokens t = s.db.batchTokens t := by omega
    simp [LimitDB.account, LimitDB.remain, LimitDB.held, LimitDB.limit, hrows, hpending]
  | false =>
    have hqueue := h.queue hb
    rw [hqueue] at hbooks
    have hremain : (db'.tokens t).remainQuota = (s.db.tokens t).remainQuota := by omega
    simp [LimitDB.account, LimitDB.remain, LimitDB.held, LimitDB.limit, hqueue, hremain]

theorem request_account {pc : RequestPc} {g : Ledger} (hone : pc.OneToken)
    (hn : (spendMachine env).next e s (.request pc g) = some (s', l')) :
    AccountStep env t e s s' (.request pc g) l' := by
  simp only [spendMachine, Option.map_eq_some_iff] at hn
  obtain ⟨⟨db', pc'⟩, hr, heq⟩ := hn
  cases heq
  obtain ⟨htok, -, paid, hpaid, hmove⟩ := request_step hone hr
  by_cases ht : pc.info.tokenId = t
  · rw [ht] at hmove
    refine .charged ht hpaid hmove.account ?_
    have hbooks : db'.books.token t = s.db.books.token t + -paid := by
      rw [hmove.books t, if_pos rfl]
    simp only [SpendExec.spentOn, htok, ht, if_true, Ledger.book, Ledger.inWindow, hbooks]
    omega
  · refine .kept (hmove.account_ne fun h => ht h.symm) ?_
    simp only [SpendExec.spentOn, htok, ht, if_false]

/-! The reset and the flusher. -/

theorem schedule_account (s : LimitDB) (id t : Nat) (next : Int) :
    (s.schedule id next).account t = s.account t := by
  by_cases ht : t = id
  · subst ht
    simp [LimitDB.account, LimitDB.schedule, LimitDB.setNextResetTime, LimitDB.limit,
      LimitDB.remain, LimitDB.held]
  · simp [LimitDB.account, LimitDB.schedule, LimitDB.setNextResetTime, LimitDB.limit,
      LimitDB.remain, LimitDB.held, ht]

theorem refill_account (s : LimitDB) (now : Int) (t : Nat) (spendLimit next : Int) :
    (s.refill now t spendLimit next).account t
      = (s.account t).refill spendLimit ((s.windows t).elapsed now) := by
  simp [LimitDB.account, LimitDB.refill, LimitDB.setNextResetTime, LimitDB.limit,
    LimitDB.remain, LimitDB.held, TokenAccount.refill]

theorem refill_account_ne (s : LimitDB) (now : Int) {id : Nat} (hne : t ≠ id)
    (spendLimit next : Int) : (s.refill now id spendLimit next).account t = s.account t := by
  simp [LimitDB.account, LimitDB.refill, LimitDB.setNextResetTime, LimitDB.limit,
    LimitDB.remain, LimitDB.held, hne]

theorem reset_account {pc : ResetPc}
    (hn : (spendMachine env).next e s (.reset pc) = some (s', l')) :
    AccountStep env t e s s' (.reset pc) l' := by
  simp only [spendMachine, Option.map_eq_some_iff] at hn
  obtain ⟨⟨s₁, pc'⟩, hr, heq⟩ := hn
  cases heq
  unfold resetNext at hr
  split at hr
  · cases hr
    exact .kept rfl rfl
  · cases hr
    exact .kept rfl rfl
  · rename_i now id token rest processed fails
    split at hr
    · cases hr
      exact .kept rfl rfl
    · rename_i s₁ hreset
      cases hr
      unfold LimitDB.resetToken at hreset
      simp only at hreset
      split at hreset
      · cases hreset
      rename_i hgo
      have hfails : fails = false := by
        cases fails with
        | false => rfl
        | true => simp at hgo
      split at hreset
      · cases hreset
        exact .kept (schedule_account s id t _) rfl
      · rename_i hnext
        cases hreset
        by_cases ht : t = id
        · subst ht
          have hnext : token.nextResetTime ≠ 0 := by simpa using hnext
          exact .refilled (by rw [hfails]) hnext (refill_account s now t _ _)
        · exact .kept (refill_account_ne s now ht _ _) rfl
  · cases hr

theorem held_of_not_mem (h : t ∉ s.flushing.map Prod.fst) : s.held t = 0 := by
  have hnone : (s.flushing.filter fun entry => entry.1 == t) = [] := by
    rw [List.filter_eq_nil_iff]
    intro entry hentry hkey
    have hkey : entry.1 = t := by simpa using hkey
    exact h (List.mem_map.mpr ⟨entry, hentry, hkey⟩)
  rw [LimitDB.held, hnone]
  rfl

theorem held_takeBatch (s : LimitDB) (t : Nat) {keys : List Nat} (hnd : keys.Nodup) :
    (s.takeBatch keys).held t = if t ∈ keys then s.db.batchTokens t else 0 := by
  induction keys with
  | nil => rfl
  | cons k rest ih =>
    obtain ⟨hk, hrest⟩ := List.nodup_cons.mp hnd
    have ih := ih hrest
    simp only [LimitDB.held, LimitDB.takeBatch, List.map_cons, List.filter_cons] at ih ⊢
    by_cases hkt : k = t
    · subst hkt
      simp only [hk, if_false] at ih
      simp [ih]
    · have htk : ¬ t = k := fun h => hkt h.symm
      simp [hkt, htk, ih]

theorem takeBatch_account (s : LimitDB) (t : Nat) {keys : List Nat} (hnd : keys.Nodup)
    (hempty : s.flushing = []) :
    (s.takeBatch keys).account t = if t ∈ keys then (s.account t).take else s.account t := by
  have hheld := held_takeBatch s t hnd
  have hzero : s.held t = 0 := held_of_not_mem (by simp [hempty])
  by_cases ht : t ∈ keys
  · rw [if_pos ht] at hheld ⊢
    simp only [LimitDB.account, hheld, TokenAccount.take, TokenAccount.mk.injEq]
    simp [LimitDB.remain, LimitDB.takeBatch, LimitDB.limit, ht]
  · rw [if_neg ht] at hheld ⊢
    simp only [LimitDB.account, hheld, hzero, TokenAccount.mk.injEq]
    simp [LimitDB.remain, LimitDB.takeBatch, LimitDB.limit, ht]

theorem writeBatch_account (hkeys : s.KeysNodup) (hfl : s.flushing = (t, v) :: rest)
    (fails : Bool) : (s.writeBatch fails t v rest).account t = (s.account t).write fails := by
  unfold LimitDB.KeysNodup at hkeys
  rw [hfl, List.map_cons, List.nodup_cons] at hkeys
  have hrest : (s.writeBatch fails t v rest).held t = 0 := held_of_not_mem hkeys.1
  have hheld : s.held t = v := by
    have hsum : s.held t = v + (s.writeBatch fails t v rest).held t := by
      simp [LimitDB.held, LimitDB.writeBatch, hfl]
    omega
  simp only [LimitDB.account, hrest, hheld, TokenAccount.write, TokenAccount.mk.injEq]
  cases fails with
  | true => simp [LimitDB.remain, LimitDB.writeBatch, LimitDB.limit]
  | false => simp [LimitDB.remain, LimitDB.writeBatch, LimitDB.limit]

theorem writeBatch_account_ne {id : Nat} (hfl : s.flushing = (id, v) :: rest) (hne : t ≠ id)
    (fails : Bool) : (s.writeBatch fails id v rest).account t = s.account t := by
  have hheld : s.held t = (s.writeBatch fails id v rest).held t := by
    have hid : ¬ id = t := fun h => hne h.symm
    simp [LimitDB.held, LimitDB.writeBatch, hfl, hid]
  simp only [LimitDB.account, hheld, TokenAccount.mk.injEq]
  cases fails with
  | true => simp [LimitDB.remain, LimitDB.writeBatch, LimitDB.limit]
  | false => simp [LimitDB.remain, LimitDB.writeBatch, LimitDB.limit, hne]

theorem flush_account (hkeys : s.KeysNodup)
    (hn : (spendMachine env).next e s .flusher = some (s', l')) :
    AccountStep env t e s s' .flusher l' := by
  simp only [spendMachine, Option.map_eq_some_iff] at hn
  obtain ⟨s₁, hf, heq⟩ := hn
  cases heq
  unfold flushNext at hf
  split at hf
  · rename_i keys hempty
    split at hf
    · rename_i hnd
      cases hf
      have hacc := takeBatch_account s t hnd hempty
      by_cases ht : t ∈ keys
      · rw [if_pos ht] at hacc
        exact .taken (held_of_not_mem (by simp [hempty])) hacc
      · rw [if_neg ht] at hacc
        exact .kept hacc rfl
    · cases hf
  · rename_i fails id v rest hfl
    cases hf
    by_cases ht : t = id
    · subst ht
      exact .written rfl hfl (writeBatch_account hkeys hfl fails)
    · exact .kept (writeBatch_account_ne hfl ht fails) rfl
  · cases hf

/-! ## The executions along a run -/

/-- What every execution remembers is right: a ledger is not ahead of its
token, and a snapshot has the token's limit. -/
def SpendExec.Sound (t ended : Nat) (limit : Int) : SpendExec → Prop
  | .request pc g => pc.OneToken ∧ (pc.info.tokenId = t → g.window ≤ ended)
  | .reset (.loop _ tokens _) => ∀ token, (t, token) ∈ tokens → token.spendLimit = limit
  | .reset .idle => True
  | .flusher => True

theorem SpendExec.Sound.mono {ended' : Nat} (h : l.Sound t ended limit) (hle : ended ≤ ended') :
    l.Sound t ended' limit := by
  cases l with
  | request pc g => exact ⟨h.1, fun ht => (h.2 ht).trans hle⟩
  | reset pc =>
    cases pc with
    | idle => trivial
    | loop now tokens processed => exact h
  | flusher => trivial

theorem SpendExec.Sound.spentOn_next (h : l.Sound t ended limit) : l.spentOn t (ended + 1) = 0 := by
  cases l with
  | request pc g =>
    simp only [SpendExec.spentOn]
    split
    · rename_i ht
      have hle := h.2 ht
      simp only [Ledger.inWindow]
      rw [if_neg (by omega)]
    · rfl
  | reset pc => rfl
  | flusher => rfl

theorem account_step (hsound : l.Sound t (s.ended t) limit) (hkeys : s.KeysNodup)
    (hn : (spendMachine env).next e s l = some (s', l')) : AccountStep env t e s s' l l' := by
  cases l with
  | request pc g => exact request_account hsound.1 hn
  | reset pc => exact reset_account hn
  | flusher => exact flush_account hkeys hn

theorem account_ended {a : TokenAccount} (h : s'.account t = a) : s'.ended t = a.ended :=
  congrArg TokenAccount.ended h

theorem charge_ended (a : TokenAccount) (batch : Bool) (paid : Int) :
    (a.charge batch paid).ended = a.ended := by
  cases batch with
  | true => rfl
  | false => rfl

theorem sound_select {now : Int} (n : Int) (k : Nat) (hlimit : s.limit t = limit) :
    (SpendExec.reset (.loop now (s.selectDue n now) k)).Sound t ended limit := by
  intro token hmem
  unfold LimitDB.selectDue at hmem
  obtain ⟨id, -, heq⟩ := List.mem_map.mp hmem
  cases heq
  exact hlimit

theorem sound_step (hsound : l.Sound t (s.ended t) limit) (hlimit : s.limit t = limit)
    (hn : (spendMachine env).next e s l = some (s', l')) : l'.Sound t (s'.ended t) limit := by
  cases l with
  | request pc g =>
    simp only [spendMachine, Option.map_eq_some_iff] at hn
    obtain ⟨⟨db', pc'⟩, hr, heq⟩ := hn
    cases heq
    obtain ⟨htok, hone, -⟩ := request_step hsound.1 hr
    refine ⟨hone, ?_⟩
    intro ht
    rw [htok] at ht
    rw [ht]
    exact le_refl _
  | reset pc =>
    simp only [spendMachine, Option.map_eq_some_iff] at hn
    obtain ⟨⟨s₁, pc'⟩, hr, heq⟩ := hn
    cases heq
    unfold resetNext at hr
    split at hr
    · cases hr
      split
      · trivial
      · exact sound_select _ 0 hlimit
    · cases hr
      trivial
    · split at hr
      · cases hr
        exact fun token hmem => hsound token (List.mem_cons_of_mem _ hmem)
      · cases hr
        exact fun token hmem => hsound token (List.mem_cons_of_mem _ hmem)
    · cases hr
  | flusher =>
    simp only [spendMachine, Option.map_eq_some_iff] at hn
    obtain ⟨s₁, -, heq⟩ := hn
    obtain ⟨-, rfl⟩ := Prod.mk.inj heq
    trivial

theorem keysNodup_step (hkeys : s.KeysNodup) (hn : (spendMachine env).next e s l = some (s', l')) :
    s'.KeysNodup := by
  cases l with
  | request pc g =>
    simp only [spendMachine, Option.map_eq_some_iff] at hn
    obtain ⟨r, -, heq⟩ := hn
    obtain ⟨rfl, -⟩ := Prod.mk.inj heq
    exact hkeys
  | reset pc =>
    simp only [spendMachine, Option.map_eq_some_iff] at hn
    obtain ⟨⟨s₁, pc'⟩, hr, heq⟩ := hn
    obtain ⟨rfl, -⟩ := Prod.mk.inj heq
    unfold resetNext at hr
    split at hr
    · cases hr
      exact hkeys
    · cases hr
      exact hkeys
    · split at hr
      · cases hr
        exact hkeys
      · rename_i hreset
        cases hr
        unfold LimitDB.resetToken at hreset
        simp only at hreset
        split at hreset
        · cases hreset
        split at hreset
        · cases hreset
          exact hkeys
        · cases hreset
          exact hkeys
    · cases hr
  | flusher =>
    simp only [spendMachine, Option.map_eq_some_iff] at hn
    obtain ⟨s₁, hf, heq⟩ := hn
    obtain ⟨rfl, -⟩ := Prod.mk.inj heq
    unfold flushNext at hf
    split at hf
    · split at hf
      · rename_i hnd
        cases hf
        have hid : (Prod.fst ∘ fun id => (id, s.db.batchTokens id)) = id := rfl
        simpa [LimitDB.KeysNodup, LimitDB.takeBatch, List.map_map, hid] using hnd
      · cases hf
    · rename_i hfl
      cases hf
      unfold LimitDB.KeysNodup at hkeys ⊢
      rw [hfl, List.map_cons, List.nodup_cons] at hkeys
      exact hkeys.2
    · cases hf

/-! ## Runs -/

def spent (t : Nat) (c : Sched.Conf LimitDB SpendExec) : Int :=
  (c.threads.map (SpendExec.spentOn t (c.store.ended t))).sum

structure LimitInv (env : Env) (t : Nat) (limit : Int) (c : Sched.Conf LimitDB SpendExec) :
    Prop where
  execs : ∀ l ∈ c.threads, l.Sound t (c.store.ended t) limit
  keys : c.store.KeysNodup
  nonneg : ∀ l ∈ c.threads, 0 ≤ l.spentOn t (c.store.ended t)
  account : (c.store.account t).Within env.batchUpdateEnabled limit (spent t c)

/-- The statement of the step fails. -/
def SpendEvent.fails : SpendEvent → Bool
  | .update fails => fails
  | .writeBatch fails => fails
  | _ => false

/-- The step keeps to the window of token `t`: a request gives back no more
than it has taken in it, a refill finds the window elapsed and nothing waiting
to be added, and no batched delta is lost. -/
def SpendExec.InWindow (env : Env) (t : Nat) (s : LimitDB) (e : SpendEvent) : SpendExec → Prop
  | .request pc g => pc.info.tokenId = t → -tokenDelta env e pc ≤ g.inWindow (s.ended t)
  | .reset (.loop now ((id, token) :: _) _) =>
    id = t → token.nextResetTime ≠ 0 → e.fails = false →
      (s.windows t).elapsed now = true ∧ s.db.batchTokens t ≤ 0 ∧ s.held t ≤ 0
  | .reset _ => True
  | .flusher => s.flushing.head?.map Prod.fst = some t → e.fails = false

def GivesBackInWindow (env : Env) (t : Nat) : Sched.Guard LimitDB SpendExec SpendEvent :=
  fun c i e => ∀ l ∈ c.threads[i]?, l.InWindow env t c.store e

/-- A request charges token `t` no more than is left on it. -/
def SpendExec.Affords (env : Env) (t : Nat) (s : LimitDB) (e : SpendEvent) : SpendExec → Prop
  | .request pc _ => pc.info.tokenId = t → tokenDelta env e pc ≤ s.left t
  | .reset _ => True
  | .flusher => True

def CoveredInWindow (env : Env) (t : Nat) : Sched.Guard LimitDB SpendExec SpendEvent :=
  fun c i e => GivesBackInWindow env t c i e ∧ ∀ l ∈ c.threads[i]?, l.Affords env t c.store e

instance (env : Env) (t : Nat) (s : LimitDB) (e : SpendEvent) :
    DecidablePred (SpendExec.InWindow env t s e)
  | .request _ _ => inferInstanceAs (Decidable (_ → _))
  | .reset .idle => inferInstanceAs (Decidable True)
  | .reset (.loop _ [] _) => inferInstanceAs (Decidable True)
  | .reset (.loop _ (_ :: _) _) => inferInstanceAs (Decidable (_ → _ → _ → _ ∧ _ ∧ _))
  | .flusher => inferInstanceAs (Decidable (_ → _))

instance (env : Env) (t : Nat) (s : LimitDB) (e : SpendEvent) :
    DecidablePred (SpendExec.Affords env t s e)
  | .request _ _ => inferInstanceAs (Decidable (_ → _))
  | .reset _ => inferInstanceAs (Decidable True)
  | .flusher => inferInstanceAs (Decidable True)

instance (env : Env) (t : Nat) (c : Sched.Conf LimitDB SpendExec) (i : Nat) (e : SpendEvent) :
    Decidable (GivesBackInWindow env t c i e) :=
  inferInstanceAs (Decidable (∀ l ∈ c.threads[i]?, _))

instance (env : Env) (t : Nat) (c : Sched.Conf LimitDB SpendExec) (i : Nat) (e : SpendEvent) :
    Decidable (CoveredInWindow env t c i e) :=
  inferInstanceAs (Decidable (_ ∧ ∀ l ∈ c.threads[i]?, _))

section Runs

variable {env : Env} {t : Nat} {limit : Int} {c : Sched.Conf LimitDB SpendExec} {i : Nat}
  {e : SpendEvent} {l l' : SpendExec} {s' : LimitDB}

theorem LimitInv.spentOn_nonneg (h : LimitInv env t limit c) :
    ∀ x ∈ c.threads.map (SpendExec.spentOn t (c.store.ended t)), 0 ≤ x := by
  intro x hx
  obtain ⟨l, hl, rfl⟩ := List.mem_map.mp hx
  exact h.nonneg l hl

theorem LimitInv.spent_nonneg (h : LimitInv env t limit c) : 0 ≤ spent t c :=
  List.sum_nonneg h.spentOn_nonneg

theorem LimitInv.spentOn_le (h : LimitInv env t limit c) (hl : l ∈ c.threads) :
    l.spentOn t (c.store.ended t) ≤ spent t c :=
  List.single_le_sum h.spentOn_nonneg _ (List.mem_map_of_mem hl)

theorem not_lost {fails : Bool} (hin : SpendExec.flusher.InWindow env t s e)
    (he : e = .writeBatch fails) (hfl : s.flushing = (t, v) :: rest) : fails = false := by
  have hlost := hin (by rw [hfl]; rfl)
  rw [he] at hlost
  exact hlost

theorem spent_set (hl : c.threads[i]? = some l) (hended : s'.ended t = c.store.ended t) :
    spent t ⟨s', c.threads.set i l'⟩
      = spent t c - l.spentOn t (c.store.ended t) + l'.spentOn t (c.store.ended t) := by
  unfold spent
  rw [hended]
  exact Sched.sum_threads_set _ l' hl

theorem LimitInv.same_window (hinv : LimitInv env t limit c) (hl : c.threads[i]? = some l)
    (hended : s'.ended t = c.store.ended t) (hsound' : l'.Sound t (s'.ended t) limit)
    (hkeys : s'.KeysNodup) (hl' : 0 ≤ l'.spentOn t (c.store.ended t))
    (hacc : (s'.account t).Within env.batchUpdateEnabled limit
      (spent t c - l.spentOn t (c.store.ended t) + l'.spentOn t (c.store.ended t))) :
    LimitInv env t limit ⟨s', c.threads.set i l'⟩ := by
  refine ⟨?_, hkeys, ?_, ?_⟩
  · exact Sched.forall_threads_set (fun x hx => (hinv.execs x hx).mono hended.ge) hsound'
  · show ∀ x ∈ c.threads.set i l', 0 ≤ x.spentOn t (s'.ended t)
    rw [hended]
    exact Sched.forall_threads_set hinv.nonneg hl'
  · rw [spent_set hl hended]
    exact hacc

theorem LimitInv.next_window (hinv : LimitInv env t limit c)
    (hended : s'.ended t = c.store.ended t + 1) (hsound' : l'.Sound t (s'.ended t) limit)
    (hkeys : s'.KeysNodup) (hl' : l'.spentOn t (s'.ended t) = 0)
    (hacc : (s'.account t).Within env.batchUpdateEnabled limit 0) :
    LimitInv env t limit ⟨s', c.threads.set i l'⟩ := by
  have hzero : ∀ x ∈ c.threads.set i l', x.spentOn t (s'.ended t) = 0 := by
    refine Sched.forall_threads_set ?_ hl'
    intro x hx
    rw [hended]
    exact (hinv.execs x hx).spentOn_next
  have hnone : spent t ⟨s', c.threads.set i l'⟩ = 0 := by
    refine List.sum_eq_zero ?_
    intro v hv
    obtain ⟨x, hx, rfl⟩ := List.mem_map.mp hv
    exact hzero x hx
  have hle : c.store.ended t ≤ s'.ended t := by omega
  refine ⟨?_, hkeys, fun x hx => (hzero x hx).ge, ?_⟩
  · exact Sched.forall_threads_set (fun x hx => (hinv.execs x hx).mono hle) hsound'
  · rw [hnone]
    exact hacc

theorem limitInv_step (hinv : LimitInv env t limit c) (hok : GivesBackInWindow env t c i e)
    (hl : c.threads[i]? = some l) (hn : (spendMachine env).next e c.store l = some (s', l')) :
    LimitInv env t limit ⟨s', c.threads.set i l'⟩ := by
  have hmem : l ∈ c.threads := List.mem_of_getElem? hl
  have hsound := hinv.execs l hmem
  have hsound' := sound_step hsound hinv.account.bound hn
  have hkeys := keysNodup_step hinv.keys hn
  have hin : l.InWindow env t c.store e := hok l hl
  cases account_step hsound hinv.keys hn with
  | kept hacc hsame =>
    refine hinv.same_window hl (account_ended hacc) hsound' hkeys ?_ ?_
    · rw [hsame]
      exact hinv.nonneg l hmem
    · rw [hsame, hacc, Int.sub_add_cancel]
      exact hinv.account
  | @charged pc g _ paid ht hpaid hacc hpays =>
    have hended : s'.ended t = c.store.ended t := (account_ended hacc).trans (charge_ended _ _ _)
    have hwas : (SpendExec.request pc g).spentOn t (c.store.ended t)
        = g.inWindow (c.store.ended t) := by
      simp only [SpendExec.spentOn, ht, if_true]
    have hold := hinv.nonneg _ hmem
    have hle := hinv.spentOn_le hmem
    rw [hwas] at hold hle
    -- what is given back was taken in this window
    have hnow : 0 ≤ g.inWindow (c.store.ended t) + paid := by
      have hback := hin ht
      rcases hpaid with rfl | rfl
      · omega
      · omega
    have hsum : spent t c - g.inWindow (c.store.ended t) + (g.inWindow (c.store.ended t) + paid)
        = spent t c + paid := by omega
    refine hinv.same_window hl hended hsound' hkeys (by rw [hpays]; exact hnow) ?_
    rw [hwas, hpays, hsum, hacc]
    exact hinv.account.charge (by omega)
  | @refilled now token rest n he hnext hacc =>
    obtain ⟨helapsed, hpending, hheld⟩ := hin rfl hnext (by rw [he]; rfl)
    have hlimit : token.spendLimit = limit := hsound token List.mem_cons_self
    rw [helapsed, hlimit] at hacc
    refine hinv.next_window (account_ended hacc) hsound' hkeys rfl ?_
    rw [hacc]
    exact hinv.account.refill hpending hheld
  | taken hheld hacc =>
    refine hinv.same_window hl (account_ended hacc) hsound' hkeys (le_refl 0) ?_
    rw [hacc, Int.sub_add_cancel]
    exact hinv.account.take hinv.spent_nonneg hheld
  | @written fails v rest he hfl hacc =>
    refine hinv.same_window hl (account_ended hacc) hsound' hkeys (le_refl 0) ?_
    rw [hacc, Int.sub_add_cancel, not_lost hin he hfl]
    exact hinv.account.write

theorem left_step (hinv : LimitInv env t limit c) (hleft : 0 ≤ c.store.left t)
    (hok : CoveredInWindow env t c i e) (hl : c.threads[i]? = some l)
    (hn : (spendMachine env).next e c.store l = some (s', l')) : 0 ≤ s'.left t := by
  have hmem : l ∈ c.threads := List.mem_of_getElem? hl
  have hsound := hinv.execs l hmem
  have hin : l.InWindow env t c.store e := hok.1 l hl
  have hafford : l.Affords env t c.store e := hok.2 l hl
  rw [left_eq] at hleft ⊢
  cases account_step hsound hinv.keys hn with
  | kept hacc hsame =>
    rw [hacc]
    exact hleft
  | @charged pc g _ paid ht hpaid hacc hpays =>
    have hcover := hafford ht
    rw [left_eq] at hcover
    rw [hacc, TokenAccount.left_charge]
    rcases hpaid with rfl | rfl
    · omega
    · omega
  | @refilled now token rest n he hnext hacc =>
    have hlimit : token.spendLimit = limit := hsound token List.mem_cons_self
    have hrow := hinv.account.row
    rw [hacc, hlimit]
    simp only [TokenAccount.left] at hleft
    show 0 ≤ limit + (c.store.account t).pending + (c.store.account t).held
    omega
  | taken hheld hacc =>
    rw [hacc, TokenAccount.left_take hheld]
    exact hleft
  | @written fails v rest he hfl hacc =>
    rw [hacc, not_lost hin he hfl, TokenAccount.left_write]
    exact hleft

/-- No execution has begun. -/
def SpendExec.Fresh : SpendExec → Prop
  | .request (.idle _) g => g.window = 0 ∧ g.net = 0
  | .request _ _ => False
  | .reset pc => pc = .idle
  | .flusher => True

/-- A token with a budget of at most its limit, and nothing under way. -/
structure SpendStart (t : Nat) (c : Sched.Conf LimitDB SpendExec) : Prop where
  fresh : ∀ l ∈ c.threads, l.Fresh
  budget : 0 ≤ c.store.remain t ∧ c.store.remain t ≤ c.store.limit t
  pending : c.store.db.batchTokens t = 0
  flushing : c.store.flushing = []

theorem SpendExec.Fresh.sound (h : l.Fresh) : l.Sound t ended limit := by
  cases l with
  | request pc g =>
    cases pc with
    | idle info =>
      have hwindow : g.window = 0 := h.1
      exact ⟨trivial, fun _ => by omega⟩
    | taken s quota => cases h
    | session s r => cases h
  | reset pc =>
    obtain rfl : pc = .idle := h
    trivial
  | flusher => trivial

theorem SpendExec.Fresh.spentOn_eq {window : Nat} (h : l.Fresh) : l.spentOn t window = 0 := by
  cases l with
  | request pc g =>
    cases pc with
    | idle info =>
      have hnet : g.net = 0 := h.2
      simp only [SpendExec.spentOn, Ledger.inWindow, hnet, ite_self]
    | taken s quota => cases h
    | session s r => cases h
  | reset pc => rfl
  | flusher => rfl

theorem limitInv_start (h : SpendStart t c) : LimitInv env t (c.store.limit t) c := by
  have hheld : c.store.held t = 0 := held_of_not_mem (by simp [h.flushing])
  have hspent : spent t c = 0 := by
    refine List.sum_eq_zero ?_
    intro v hv
    obtain ⟨l, hl, rfl⟩ := List.mem_map.mp hv
    exact (h.fresh l hl).spentOn_eq
  have hrow := h.budget.2
  refine ⟨fun l hl => (h.fresh l hl).sound, ?_, fun l hl => (h.fresh l hl).spentOn_eq.ge, ?_⟩
  · simp [LimitDB.KeysNodup, h.flushing]
  · refine ⟨rfl, fun _ => ⟨h.pending, hheld⟩, hrow, ?_, ?_⟩
    · show c.store.remain t + c.store.held t ≤ c.store.limit t
      omega
    · rw [hspent]
      show c.store.remain t + c.store.db.batchTokens t + c.store.held t + 0 ≤ c.store.limit t
      rw [h.pending, hheld]
      omega

variable {c₀ : Sched.Conf LimitDB SpendExec}

theorem limit_run (h₀ : SpendStart t c₀)
    (hrun : Sched.Steps (spendMachine env) (GivesBackInWindow env t) c₀ c) :
    LimitInv env t (c₀.store.limit t) c :=
  Sched.Steps.invariant (limitInv_start h₀) (fun hI hok hl hn => limitInv_step hI hok hl hn) hrun

theorem covered_run (h₀ : SpendStart t c₀)
    (hrun : Sched.Steps (spendMachine env) (CoveredInWindow env t) c₀ c) :
    LimitInv env t (c₀.store.limit t) c ∧ 0 ≤ c.store.left t := by
  have hheld : c₀.store.held t = 0 := held_of_not_mem (by simp [h₀.flushing])
  have hleft : 0 ≤ c₀.store.left t := by
    have := h₀.budget.1
    show 0 ≤ c₀.store.remain t + c₀.store.db.batchTokens t + c₀.store.held t
    rw [h₀.pending, hheld]
    omega
  exact Sched.Steps.invariant
    (I := fun c => LimitInv env t (c₀.store.limit t) c ∧ 0 ≤ c.store.left t)
    ⟨limitInv_start h₀, hleft⟩
    (fun hI hok hl hn => ⟨limitInv_step hI.1 hok.1 hl hn, left_step hI.1 hI.2 hok hl hn⟩) hrun

end Runs

/-- **Within the limit.** As long as what requests give back to a token was
taken in its window, the row never holds more than the spend limit; and while
the charges are covered, too, no more than the limit is spent in a window. -/
theorem spend_within_limit {env : Env} {t : Nat} {c₀ c : Sched.Conf LimitDB SpendExec}
    (h₀ : SpendStart t c₀)
    (hrun : Sched.Steps (spendMachine env) (GivesBackInWindow env t) c₀ c) :
    c.store.limit t = c₀.store.limit t
      ∧ c.store.remain t ≤ c.store.limit t
      ∧ (Sched.Steps (spendMachine env) (CoveredInWindow env t) c₀ c →
        spent t c ≤ c.store.limit t) := by
  have hinv := limit_run h₀ hrun
  have hlimit : c.store.limit t = c₀.store.limit t := hinv.account.bound
  refine ⟨hlimit, ?_, ?_⟩
  · rw [hlimit]
    exact hinv.account.row
  · intro hcovered
    obtain ⟨-, hleft⟩ := covered_run h₀ hcovered
    have htotal := hinv.account.total
    rw [left_eq] at hleft
    omega

/-! A token with a daily limit of 100, due at 1000, and a request of 60. -/

def limitedStore : LimitDB where
  db := { (fundedDB 500) with tokens := fun _ => ⟨100, 0⟩ }
  ids := [3]
  windows _ := ⟨100, .daily, 1000⟩
  flushing := []
  ended _ := 0

def limitedStart : Sched.Conf LimitDB SpendExec :=
  ⟨limitedStore,
    [.request (.idle walletInfo) ⟨0, 0⟩, .reset .idle, .request (.idle walletInfo) ⟨0, 0⟩]⟩

/-- Request `i` opens a session for `quota`. -/
def openSteps (i : Nat) (quota : Int) : List (Nat × SpendEvent) :=
  [(i, .preConsume (.wallet 7 0) 500 quota {}), (i, .fund {})]

def resetSteps : List (Nat × SpendEvent) := [(1, .select 0 1000 false), (1, .update false)]

theorem limitedStart_spendStart : SpendStart 3 limitedStart where
  fresh := by
    intro l hl
    rcases List.mem_cons.mp hl with rfl | hl
    · exact ⟨rfl, rfl⟩
    rcases List.mem_cons.mp hl with rfl | hl
    · rfl
    · obtain rfl := List.mem_singleton.mp hl
      exact ⟨rfl, rfl⟩
  budget := by decide
  pending := rfl
  flushing := rfl

/-- The request is settled at 40 before the reset; a second one then takes 30
in the new window. -/
theorem spend_within_limit_across_a_reset :
    ∃ c, Sched.Steps (spendMachine openEnv) (GivesBackInWindow openEnv 3) limitedStart c
      ∧ c.store.remain 3 = 70 ∧ spent 3 c = 30
      ∧ c.store.remain 3 ≤ c.store.limit 3 ∧ spent 3 c ≤ c.store.limit 3 := by
  have hrun : ∃ c, Sched.Steps (spendMachine openEnv) (CoveredInWindow openEnv 3) limitedStart c
      ∧ c.store.remain 3 = 70 ∧ spent 3 c = 30 := Sched.exists_of_run
    (openSteps 0 60 ++ [(0, .settle 40 {})] ++ resetSteps ++ openSteps 2 30) (by decide)
  obtain ⟨c, hc, hremain, hspent⟩ := hrun
  have hweak : Sched.Steps (spendMachine openEnv) (GivesBackInWindow openEnv 3) limitedStart c :=
    Relation.ReflTransGen.mono (fun _ _ ⟨i, e, hok, hs⟩ => ⟨i, e, hok.1, hs⟩) _ _ hc
  obtain ⟨-, hrow, hcovered⟩ := spend_within_limit limitedStart_spendStart hweak
  exact ⟨c, hweak, hremain, hspent, hrow, hcovered hc⟩

/-- The request fails after the reset: its 60 come back on top of a full
budget. -/
theorem refund_after_reset_exceeds_limit :
    ∃ c, SpendStart 3 limitedStart
      ∧ Sched.Steps (spendMachine openEnv) Sched.free limitedStart c
      ∧ c.store.remain 3 = 160 ∧ c.store.limit 3 = 100 := by
  have hrun : ∃ c, Sched.Steps (spendMachine openEnv) Sched.free limitedStart c
      ∧ c.store.remain 3 = 160 ∧ c.store.limit 3 = 100 := Sched.exists_of_run
    (openSteps 0 60 ++ resetSteps ++ [(0, .refund), (0, .refundWrites {})]) (by decide)
  obtain ⟨c, hc, hend⟩ := hrun
  exact ⟨c, limitedStart_spendStart, hc, hend⟩

end YouBox
