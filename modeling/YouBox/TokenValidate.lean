import YouBox.SpendLimit

/-!
# Validating a token

`ValidateUserToken` against everything that happens to one token: its quota
operations, batched or not and mirrored into Redis or not, the goroutines
that refresh the cached copy, and the reset of its spend limit.

The validator looks at the status before the quota, and without Redis it
writes the status back: a token found empty becomes `Exhausted` in its row.
The reset refills `remain_quota` and leaves the status alone, and only the
owner can set it back. `refilled_token_accepted_iff` says that this is the one
way in which a refilled token is refused, a cached copy that survived the
refill apart.

Everything asynchronous is a queue in the state and a step that runs one
entry of it, at any later time and in any order.
-/

namespace YouBox

/-! ## The token -/

inductive TokenStatus where
  | enabled
  | disabled
  | expired
  | exhausted
deriving DecidableEq

/-- The columns of a token that validation, quota operations and the reset
use. -/
structure TokenRow where
  status : TokenStatus
  expiredTime : Int
  remainQuota : Int
  usedQuota : Int
  unlimitedQuota : Bool
  window : SpendWindow

namespace TokenRow

def isExpired (token : TokenRow) (now : Int) : Bool :=
  token.expiredTime != -1 && decide (token.expiredTime < now)

def isExhausted (token : TokenRow) : Bool :=
  !token.unlimitedQuota && decide (token.remainQuota ≤ 0)

end TokenRow

/-- Why `ValidateUserToken` answers with an error. -/
inductive TokenInvalid where
  /-- The status is not `Enabled`. -/
  | status
  /-- The token is found expired or exhausted now, and this is its status from
  here on. -/
  | found (status : TokenStatus)
deriving DecidableEq

def checkToken (token : TokenRow) (now : Int) : Except TokenInvalid Unit :=
  if token.status != .enabled then .error .status
  else if token.isExpired now then .error (.found .expired)
  else if token.isExhausted then .error (.found .exhausted)
  else .ok ()

/-! ## The state -/

structure TokenConfig where
  redisEnabled : Bool
  batchUpdateEnabled : Bool

structure TokenState where
  row : TokenRow
  /-- The hash in Redis, while its TTL runs. -/
  cache : Option TokenRow
  /-- `cacheSetToken` calls that have not run. -/
  cacheSets : List TokenRow
  /-- `cacheIncrTokenQuota` calls that have not run. -/
  cacheIncrs : List Int
  /-- The batched delta. -/
  pending : Int
  /-- `SelectUpdate` calls of validations that have read the token. -/
  statusWrites : List TokenStatus
  /-- Tokens selected by a `ResetDueTokenSpendLimits` that has not come to
  them, with the time of its start. -/
  resets : List (Int × SpendWindow)

def TokenState.start (row : TokenRow) : TokenState := ⟨row, none, [], [], 0, [], []⟩

/-! ## The operations -/

/-- `GetTokenByKey(key, false)`; `none` is an error of the database. -/
def getTokenByKey (cfg : TokenConfig) (getFails readFails : Bool) (st : TokenState) :
    Option TokenRow × TokenState :=
  match (if cfg.redisEnabled && !getFails then st.cache else none) with
  | some token => (some token, st)
  | none =>
    if readFails then (none, st)
    else if cfg.redisEnabled then
      (some st.row, { st with cacheSets := st.cacheSets ++ [st.row] })
    else (some st.row, st)

/-- Whether the token is accepted, and what is left behind. -/
def validateUserToken (cfg : TokenConfig) (now : Int) (getFails readFails : Bool)
    (st : TokenState) : Bool × TokenState :=
  match getTokenByKey cfg getFails readFails st with
  | (none, st) => (false, st)
  | (some token, st) =>
    match checkToken token now with
    | .ok () => (true, st)
    | .error .status => (false, st)
    | .error (.found status) =>
      if cfg.redisEnabled then (false, st)
      else (false, { st with statusWrites := st.statusWrites ++ [status] })

/-- The body `IncreaseTokenQuota` and `DecreaseTokenQuota` share. -/
def writeQuota (cfg : TokenConfig) (fails : Bool) (quota delta : Int) (st : TokenState) :
    TokenState :=
  if quota < 0 then st
  else
    let st := if cfg.redisEnabled then { st with cacheIncrs := st.cacheIncrs ++ [delta] } else st
    if cfg.batchUpdateEnabled then { st with pending := st.pending + delta }
    else if fails then st
    else { st with
      row := { st.row with
        remainQuota := st.row.remainQuota + delta
        usedQuota := st.row.usedQuota - delta } }

/-- The reset comes to the token it selected. -/
def resetSelected (cfg : TokenConfig) (fails delFails : Bool) (now : Int) (token : SpendWindow)
    (st : TokenState) : TokenState :=
  let next := computeNextResetTime now token.resetPeriod
  if next == 0 || fails then st
  else if token.nextResetTime == 0 then
    { st with row := { st.row with window := { st.row.window with nextResetTime := next } } }
  else { st with
    row := { st.row with
      remainQuota := token.spendLimit
      usedQuota := 0
      window := { st.row.window with nextResetTime := next } }
    cache := if cfg.redisEnabled && !delFails then none else st.cache }

inductive TokenOp where
  | validate (now : Int) (getFails readFails : Bool)
  | selectUpdate (i : Nat) (fails : Bool)
  | increaseTokenQuota (quota : Int) (fails : Bool)
  | decreaseTokenQuota (quota : Int) (fails : Bool)
  | batchUpdate (fails : Bool)
  | cacheSet (i : Nat) (fails : Bool)
  | cacheIncr (i : Nat) (fails : Bool)
  | cacheExpire
  | select (now : Int)
  | reset (i : Nat) (fails delFails : Bool)

def TokenOp.exec (cfg : TokenConfig) (st : TokenState) : TokenOp → TokenState
  | .validate now getFails readFails => (validateUserToken cfg now getFails readFails st).2
  | .selectUpdate i fails =>
    match st.statusWrites[i]? with
    | none => st
    | some status => { st with
        row := if fails then st.row else { st.row with status := status }
        statusWrites := st.statusWrites.eraseIdx i }
  | .increaseTokenQuota quota fails => writeQuota cfg fails quota quota st
  | .decreaseTokenQuota quota fails => writeQuota cfg fails quota (-quota) st
  | .batchUpdate fails => { st with
      row := if fails then st.row
        else { st.row with
          remainQuota := st.row.remainQuota + st.pending
          usedQuota := st.row.usedQuota - st.pending }
      pending := 0 }
  | .cacheSet i fails =>
    match st.cacheSets[i]? with
    | none => st
    | some token => { st with
        cache := if fails then st.cache else some token
        cacheSets := st.cacheSets.eraseIdx i }
  | .cacheIncr i fails =>
    match st.cacheIncrs[i]? with
    | none => st
    | some delta => { st with
        -- `RedisHIncrBy` does nothing to a key that is not there
        cache := if fails then st.cache
          else st.cache.map fun token => { token with remainQuota := token.remainQuota + delta }
        cacheIncrs := st.cacheIncrs.eraseIdx i }
  | .cacheExpire => { st with cache := none }
  | .select now =>
    if st.row.window.due now then { st with resets := st.resets ++ [(now, st.row.window)] }
    else st
  | .reset i fails delFails =>
    match st.resets[i]? with
    | none => st
    | some (now, token) =>
      { resetSelected cfg fails delFails now token st with
        resets := st.resets.eraseIdx i }

def runTokenOps (cfg : TokenConfig) : List TokenOp → TokenState → TokenState
  | [], st => st
  | op :: rest, st => runTokenOps cfg rest (op.exec cfg st)

/-- The step writes a status that a validation found. -/
def TokenOp.writesStatus (st : TokenState) : TokenOp → Bool
  | .selectUpdate i fails => !fails && (st.statusWrites[i]?).isSome
  | _ => false

/-- Some step of the run does. -/
def statusWritten (cfg : TokenConfig) : List TokenOp → TokenState → Bool
  | [], _ => false
  | op :: rest, st => op.writesStatus st || statusWritten cfg rest (op.exec cfg st)

/-! ## What a step does -/

/-- The step leaves the status and the expiry of the row alone, and adds
nothing to the two queues that lead to a write of the row. -/
structure Quiet (st st' : TokenState) : Prop where
  status : st'.row.status = st.row.status
  expiredTime : st'.row.expiredTime = st.row.expiredTime
  statusWrites : st'.statusWrites ⊆ st.statusWrites
  resets : st'.resets ⊆ st.resets

inductive OpEffect (cfg : TokenConfig) (st st' : TokenState) : TokenOp → Prop where
  | quiet {op : TokenOp} (h : Quiet st st') (hw : op.writesStatus st = false) :
      OpEffect cfg st st' op
  | found {op : TokenOp} {status : TokenStatus} (hredis : cfg.redisEnabled = false)
      (hs : status ≠ .enabled) (hw : op.writesStatus st = false)
      (h : st' = { st with statusWrites := st.statusWrites ++ [status] }) :
      OpEffect cfg st st' op
  | wrote {op : TokenOp} {status : TokenStatus} (hmem : status ∈ st.statusWrites)
      (hw : op.writesStatus st = true) (hst : st'.row.status = status)
      (hexp : st'.row.expiredTime = st.row.expiredTime)
      (hrest : st'.statusWrites ⊆ st.statusWrites) (hresets : st'.resets = st.resets) :
      OpEffect cfg st st' op
  | selected {now : Int} (hdue : st.row.window.due now = true)
      (h : st' = { st with resets := st.resets ++ [(now, st.row.window)] }) :
      OpEffect cfg st st' (.select now)

variable {getFails : Bool} {now : Int} {token : TokenRow}

section Effects

variable {cfg : TokenConfig} {st : TokenState}

theorem Quiet.refl (st : TokenState) : Quiet st st :=
  ⟨rfl, rfl, List.Subset.refl _, List.Subset.refl _⟩

theorem getTokenByKey_quiet (getFails readFails : Bool) :
    Quiet st (getTokenByKey cfg getFails readFails st).2 := by
  unfold getTokenByKey
  split
  · exact Quiet.refl st
  split
  · exact Quiet.refl st
  split
  · exact ⟨rfl, rfl, List.Subset.refl _, List.Subset.refl _⟩
  · exact Quiet.refl st

theorem getTokenByKey_direct {readFails : Bool} (hredis : cfg.redisEnabled = false) :
    (getTokenByKey cfg getFails readFails st).2 = st := by
  unfold getTokenByKey
  rw [hredis]
  simp only [Bool.false_and, Bool.false_eq_true, if_false]
  split
  · rfl
  · rfl

theorem found_ne_enabled {status : TokenStatus}
    (h : checkToken token now = .error (.found status)) : status ≠ .enabled := by
  unfold checkToken at h
  split at h
  · cases h
  split at h
  · cases h
    decide
  split at h
  · cases h
    decide
  · cases h

theorem validate_effect (now : Int) (getFails readFails : Bool) :
    OpEffect cfg st (validateUserToken cfg now getFails readFails st).2
      (.validate now getFails readFails) := by
  have hquiet : Quiet st (getTokenByKey cfg getFails readFails st).2 :=
    getTokenByKey_quiet getFails readFails
  unfold validateUserToken
  split
  · rename_i st₁ hget
    rw [hget] at hquiet
    exact .quiet hquiet rfl
  · rename_i token st₁ hget
    split
    · rw [hget] at hquiet
      exact .quiet hquiet rfl
    · rw [hget] at hquiet
      exact .quiet hquiet rfl
    · rename_i status hcheck
      cases hredis : cfg.redisEnabled with
      | true =>
        rw [hget] at hquiet
        exact .quiet hquiet rfl
      | false =>
        have hsame : (getTokenByKey cfg getFails readFails st).2 = st :=
          getTokenByKey_direct hredis
        rw [hget] at hsame
        have hsame : st₁ = st := hsame
        subst hsame
        exact .found hredis (found_ne_enabled hcheck) rfl rfl

theorem writeQuota_quiet (fails : Bool) (quota delta : Int) :
    Quiet st (writeQuota cfg fails quota delta st) := by
  unfold writeQuota
  split
  · exact Quiet.refl st
  cases cfg.redisEnabled with
  | true =>
    simp only [if_true]
    split
    · exact ⟨rfl, rfl, List.Subset.refl _, List.Subset.refl _⟩
    split
    · exact ⟨rfl, rfl, List.Subset.refl _, List.Subset.refl _⟩
    · exact ⟨rfl, rfl, List.Subset.refl _, List.Subset.refl _⟩
  | false =>
    simp only [Bool.false_eq_true, if_false]
    split
    · exact ⟨rfl, rfl, List.Subset.refl _, List.Subset.refl _⟩
    split
    · exact Quiet.refl st
    · exact ⟨rfl, rfl, List.Subset.refl _, List.Subset.refl _⟩

theorem resetSelected_quiet (fails delFails : Bool) (now : Int) (token : SpendWindow) :
    Quiet st (resetSelected cfg fails delFails now token st) := by
  unfold resetSelected
  simp only
  split
  · exact Quiet.refl st
  split
  · exact ⟨rfl, rfl, List.Subset.refl _, List.Subset.refl _⟩
  · exact ⟨rfl, rfl, List.Subset.refl _, List.Subset.refl _⟩

theorem selectUpdate_effect (i : Nat) (fails : Bool) :
    OpEffect cfg st ((TokenOp.selectUpdate i fails).exec cfg st) (.selectUpdate i fails) := by
  cases hi : st.statusWrites[i]? with
  | none =>
    have hw : (TokenOp.selectUpdate i fails).writesStatus st = false := by
      simp [TokenOp.writesStatus, hi]
    simp only [TokenOp.exec, hi]
    exact .quiet (Quiet.refl st) hw
  | some status =>
    have hrest : st.statusWrites.eraseIdx i ⊆ st.statusWrites := List.eraseIdx_subset
    simp only [TokenOp.exec, hi]
    cases fails with
    | true => exact .quiet ⟨rfl, rfl, hrest, List.Subset.refl _⟩ rfl
    | false =>
      have hw : (TokenOp.selectUpdate i false).writesStatus st = true := by
        simp [TokenOp.writesStatus, hi]
      exact .wrote (List.mem_of_getElem? hi) hw rfl rfl hrest rfl

theorem exec_effect (cfg : TokenConfig) (st : TokenState) (op : TokenOp) :
    OpEffect cfg st (op.exec cfg st) op := by
  cases op with
  | validate now getFails readFails => exact validate_effect now getFails readFails
  | selectUpdate i fails => exact selectUpdate_effect i fails
  | increaseTokenQuota quota fails => exact .quiet (writeQuota_quiet fails quota quota) rfl
  | decreaseTokenQuota quota fails => exact .quiet (writeQuota_quiet fails quota (-quota)) rfl
  | batchUpdate fails =>
    refine .quiet ?_ rfl
    cases fails with
    | true => exact ⟨rfl, rfl, List.Subset.refl _, List.Subset.refl _⟩
    | false => exact ⟨rfl, rfl, List.Subset.refl _, List.Subset.refl _⟩
  | cacheSet i fails =>
    refine .quiet ?_ rfl
    simp only [TokenOp.exec]
    split
    · exact Quiet.refl st
    · exact ⟨rfl, rfl, List.Subset.refl _, List.Subset.refl _⟩
  | cacheIncr i fails =>
    refine .quiet ?_ rfl
    simp only [TokenOp.exec]
    split
    · exact Quiet.refl st
    · exact ⟨rfl, rfl, List.Subset.refl _, List.Subset.refl _⟩
  | cacheExpire => exact .quiet ⟨rfl, rfl, List.Subset.refl _, List.Subset.refl _⟩ rfl
  | select now =>
    cases hdue : st.row.window.due now with
    | true => exact .selected hdue (by simp [TokenOp.exec, hdue])
    | false =>
      simp only [TokenOp.exec, hdue, Bool.false_eq_true, if_false]
      exact .quiet (Quiet.refl st) rfl
  | reset i fails delFails =>
    refine .quiet ?_ rfl
    simp only [TokenOp.exec]
    split
    · exact Quiet.refl st
    · rename_i now token _
      have hquiet : Quiet st (resetSelected cfg fails delFails now token st) :=
        resetSelected_quiet fails delFails now token
      exact ⟨hquiet.status, hquiet.expiredTime, hquiet.statusWrites, List.eraseIdx_subset⟩

end Effects

/-! ## Runs -/

/-- What holds of every state: no validation waits to enable the token, and
every selected token has a limit to be refilled to. -/
structure TokenInv (expiredTime : Int) (st : TokenState) : Prop where
  expiry : st.row.expiredTime = expiredTime
  found : ∀ status ∈ st.statusWrites, status ≠ .enabled
  limits : ∀ entry ∈ st.resets, 0 < entry.2.spendLimit

section Runs

variable {cfg : TokenConfig} {expiredTime : Int} {st : TokenState}

theorem TokenInv.exec (h : TokenInv expiredTime st) (op : TokenOp) :
    TokenInv expiredTime (op.exec cfg st) := by
  cases exec_effect cfg st op with
  | quiet hq hw =>
    exact ⟨hq.expiredTime.trans h.expiry, fun x hx => h.found x (hq.statusWrites hx),
      fun x hx => h.limits x (hq.resets hx)⟩
  | found hredis hs hw heq =>
    rw [heq]
    refine ⟨h.expiry, ?_, h.limits⟩
    intro x hx
    rcases List.mem_append.mp hx with hx | hx
    · exact h.found x hx
    · rw [List.mem_singleton.mp hx]
      exact hs
  | wrote hmem hw hst hexp hrest hresets =>
    exact ⟨hexp.trans h.expiry, fun x hx => h.found x (hrest hx),
      fun x hx => h.limits x (hresets ▸ hx)⟩
  | selected hdue heq =>
    rw [heq]
    refine ⟨h.expiry, h.found, ?_⟩
    intro x hx
    rcases List.mem_append.mp hx with hx | hx
    · exact h.limits x hx
    · rw [List.mem_singleton.mp hx]
      simp only [SpendWindow.due, Bool.and_eq_true, decide_eq_true_eq] at hdue
      exact hdue.1.2

theorem exec_enabled_iff (h : TokenInv expiredTime st) (op : TokenOp) :
    (op.exec cfg st).row.status = .enabled
      ↔ st.row.status = .enabled ∧ op.writesStatus st = false := by
  cases exec_effect cfg st op with
  | quiet hq hw => rw [hq.status, hw, eq_self, and_true]
  | found hredis hs hw heq => rw [heq, hw, eq_self, and_true]
  | wrote hmem hw hst hexp hrest hresets =>
    rw [hst, hw]
    have hne := h.found _ hmem
    exact ⟨fun heq => absurd heq hne, nofun⟩
  | selected hdue heq =>
    rw [heq]
    exact ⟨fun h' => ⟨h', rfl⟩, fun h' => h'.1⟩

theorem run_inv (h : TokenInv expiredTime st) (ops : List TokenOp) :
    TokenInv expiredTime (runTokenOps cfg ops st) := by
  induction ops generalizing st with
  | nil => exact h
  | cons op rest ih => exact ih (h.exec op)

theorem run_enabled_iff (h : TokenInv expiredTime st) (ops : List TokenOp) :
    (runTokenOps cfg ops st).row.status = .enabled
      ↔ st.row.status = .enabled ∧ statusWritten cfg ops st = false := by
  induction ops generalizing st with
  | nil => exact ⟨fun h' => ⟨h', rfl⟩, fun h' => h'.1⟩
  | cons op rest ih =>
    simp only [runTokenOps, statusWritten, Bool.or_eq_false_iff]
    rw [ih (h.exec op), exec_enabled_iff h op, and_assoc]

theorem run_redis_quiet (hredis : cfg.redisEnabled = true) (hnone : st.statusWrites = [])
    (ops : List TokenOp) : statusWritten cfg ops st = false := by
  induction ops generalizing st with
  | nil => rfl
  | cons op rest ih =>
    have hnow : op.writesStatus st = false ∧ (op.exec cfg st).statusWrites = [] := by
      cases exec_effect cfg st op with
      | quiet hq hw =>
        refine ⟨hw, List.eq_nil_of_subset_nil ?_⟩
        rw [← hnone]
        exact hq.statusWrites
      | found hno hs hw heq =>
        rw [hredis] at hno
        cases hno
      | wrote hmem hw hst hexp hrest hresets =>
        rw [hnone] at hmem
        cases hmem
      | selected hdue heq =>
        rw [heq]
        exact ⟨rfl, hnone⟩
    rw [statusWritten, hnow.1, ih hnow.2]
    rfl

end Runs

/-! ## After a refill -/

/-- The reset refills the token it selected: it does not only schedule it. -/
def resetRefills (now : Int) (token : SpendWindow) : Bool :=
  computeNextResetTime now token.resetPeriod != 0 && token.nextResetTime != 0

/-- The cached copy that a failed `cacheDeleteToken` leaves for the next read. -/
def survivingCopy (cfg : TokenConfig) (delFails getFails : Bool) (st : TokenState) :
    Option TokenRow :=
  if cfg.redisEnabled && delFails && !getFails then st.cache else none

theorem checkToken_ok_iff :
    checkToken token now = .ok ()
      ↔ token.status = .enabled ∧ token.isExpired now = false ∧ token.isExhausted = false := by
  unfold checkToken
  by_cases hst : token.status = .enabled
  · cases hexp : token.isExpired now with
    | true => simp [hst]
    | false =>
      cases hexh : token.isExhausted with
      | true => simp [hst]
      | false => simp [hst]
  · simp [hst]

theorem validate_accepts_iff {cfg : TokenConfig} {st : TokenState} :
    (validateUserToken cfg now getFails false st).1 = true
      ↔ checkToken ((if cfg.redisEnabled && !getFails then st.cache else none).getD st.row) now
        = .ok () := by
  have hcheck : ∀ (token : TokenRow) (st' : TokenState),
      (match checkToken token now with
        | .ok () => (true, st')
        | .error .status => (false, st')
        | .error (.found status) =>
          if cfg.redisEnabled then (false, st')
          else (false, { st' with statusWrites := st'.statusWrites ++ [status] })).1 = true
      ↔ checkToken token now = .ok () := by
    intro token st'
    cases checkToken token now with
    | ok u => simp
    | error e =>
      cases e with
      | status => simp
      | found status => cases cfg.redisEnabled <;> simp
  unfold validateUserToken getTokenByKey
  cases (if cfg.redisEnabled && !getFails then st.cache else none) with
  | some token => exact hcheck token st
  | none =>
    cases hredis : cfg.redisEnabled with
    | true =>
      rw [hredis] at hcheck
      exact hcheck st.row { st with cacheSets := st.cacheSets ++ [st.row] }
    | false =>
      rw [hredis] at hcheck
      exact hcheck st.row st

section Refill

variable {cfg : TokenConfig} {st : TokenState} {i : Nat} {now : Int} {token : SpendWindow}
  {delFails : Bool}

theorem refill_row (hsel : st.resets[i]? = some (now, token))
    (hrefill : resetRefills now token = true) :
    ((TokenOp.reset i false delFails).exec cfg st).row
      = { st.row with
          remainQuota := token.spendLimit
          usedQuota := 0
          window := { st.row.window with
            nextResetTime := computeNextResetTime now token.resetPeriod } } := by
  obtain ⟨hnext, hsched⟩ : computeNextResetTime now token.resetPeriod ≠ 0
      ∧ token.nextResetTime ≠ 0 := by simpa [resetRefills] using hrefill
  simp [TokenOp.exec, hsel, resetSelected, hnext, hsched]

theorem refill_cache (hsel : st.resets[i]? = some (now, token))
    (hrefill : resetRefills now token = true) :
    ((TokenOp.reset i false delFails).exec cfg st).cache
      = if cfg.redisEnabled && !delFails then none else st.cache := by
  obtain ⟨hnext, hsched⟩ : computeNextResetTime now token.resetPeriod ≠ 0
      ∧ token.nextResetTime ≠ 0 := by simpa [resetRefills] using hrefill
  simp [TokenOp.exec, hsel, resetSelected, hnext, hsched]

theorem refill_hit (getFails : Bool) (hsel : st.resets[i]? = some (now, token))
    (hrefill : resetRefills now token = true) :
    (if cfg.redisEnabled && !getFails then ((TokenOp.reset i false delFails).exec cfg st).cache
      else none) = survivingCopy cfg delFails getFails st := by
  rw [refill_cache hsel hrefill, survivingCopy]
  cases cfg.redisEnabled <;> cases delFails <;> cases getFails <;> rfl

end Refill

/-- **Usable again.** A token that was enabled at the start is accepted right
after a refill exactly when no validation of the run has written a status into
its row, and no cached copy that fails the check has survived the refill. With
Redis, no validation ever writes one. -/
theorem refilled_token_accepted_iff (cfg : TokenConfig) (row : TokenRow) (ops : List TokenOp)
    (henabled : row.status = .enabled) {i : Nat} {now : Int} {token : SpendWindow}
    (hsel : (runTokenOps cfg ops (.start row)).resets[i]? = some (now, token))
    (hrefill : resetRefills now token = true) {later : Int} (hlive : row.isExpired later = false)
    (delFails getFails : Bool) :
    ((validateUserToken cfg later getFails false
        ((TokenOp.reset i false delFails).exec cfg (runTokenOps cfg ops (.start row)))).1 = true
      ↔ statusWritten cfg ops (.start row) = false
        ∧ ∀ copy ∈ survivingCopy cfg delFails getFails (runTokenOps cfg ops (.start row)),
            checkToken copy later = .ok ())
      ∧ (cfg.redisEnabled = true → statusWritten cfg ops (.start row) = false) := by
  have hinv₀ : TokenInv row.expiredTime (.start row) := ⟨rfl, nofun, nofun⟩
  have hinv : TokenInv row.expiredTime (runTokenOps cfg ops (.start row)) := run_inv hinv₀ ops
  have hstatus : (runTokenOps cfg ops (.start row)).row.status = .enabled
      ↔ statusWritten cfg ops (.start row) = false := by
    rw [run_enabled_iff hinv₀ ops]
    exact ⟨fun h => h.2, fun h => ⟨henabled, h⟩⟩
  have hquiet : cfg.redisEnabled = true → statusWritten cfg ops (.start row) = false :=
    fun hredis => run_redis_quiet hredis rfl ops
  refine ⟨?_, hquiet⟩
  rw [validate_accepts_iff, refill_hit getFails hsel hrefill]
  generalize runTokenOps cfg ops (.start row) = st at *
  cases hcopy : survivingCopy cfg delFails getFails st with
  | some copy =>
    -- a copy survives with Redis only, and then the row was never written
    have hredis : cfg.redisEnabled = true := by
      by_contra hno
      simp [survivingCopy, hno] at hcopy
    have hwritten := hquiet hredis
    simp [hwritten]
  | none =>
    have hpositive : 0 < token.spendLimit := hinv.limits _ (List.mem_of_getElem? hsel)
    rw [Option.getD_none, refill_row hsel hrefill, checkToken_ok_iff]
    have hexp : st.row.isExpired later = false := by
      rw [← hlive]
      simp only [TokenRow.isExpired, hinv.expiry]
    have hquota : ¬ token.spendLimit ≤ 0 := by omega
    constructor
    · intro h
      exact ⟨hstatus.mp h.1, fun copy hnone => by cases hnone⟩
    · intro h
      refine ⟨hstatus.mpr h.1, hexp, ?_⟩
      simp [TokenRow.isExhausted, hquota]

/-! A token with 10 left and a daily limit of 100, due at 1000. -/

def limitedToken : TokenRow := ⟨.enabled, -1, 10, 90, false, ⟨100, .daily, 1000⟩⟩

/-- The last 10 are spent, and a validation at 900 finds the token empty
before the reset comes. -/
def exhaustedOps : List TokenOp :=
  [.decreaseTokenQuota 10 false, .validate 900 false false, .selectUpdate 0 false, .select 1000]

theorem refilled_token_accepted_with_redis :
    (validateUserToken ⟨true, false⟩ 1000 false false
      ((TokenOp.reset 0 false false).exec ⟨true, false⟩
        (runTokenOps ⟨true, false⟩ exhaustedOps (.start limitedToken)))).1 = true :=
  (refilled_token_accepted_iff ⟨true, false⟩ limitedToken exhaustedOps rfl
    (show _ = some ((1000 : Int), limitedToken.window) by decide) (by decide) (by decide)
    false false).1.mpr ⟨by decide, by decide⟩

/-- Without Redis that validation makes it `Exhausted` for good: the row has
100 again and the token is refused. -/
theorem refilled_token_refused :
    limitedToken.status = .enabled ∧ limitedToken.isExpired 1000 = false
      ∧ (runTokenOps ⟨false, false⟩ exhaustedOps (.start limitedToken)).resets[0]?
        = some (1000, limitedToken.window)
      ∧ resetRefills 1000 limitedToken.window = true
      ∧ ((TokenOp.reset 0 false false).exec ⟨false, false⟩
          (runTokenOps ⟨false, false⟩ exhaustedOps (.start limitedToken))).row.remainQuota = 100
      ∧ (validateUserToken ⟨false, false⟩ 1000 false false
          ((TokenOp.reset 0 false false).exec ⟨false, false⟩
            (runTokenOps ⟨false, false⟩ exhaustedOps (.start limitedToken)))).1 = false := by
  decide

end YouBox
