import Mathlib

/-!
# The auto-group retry loop

A request of a token in the group "auto" is tried on the channels of
the user's auto groups in order. The state of that walk is spread over
three places: the loop counter of `controller.Relay`, the index of the
current group in the request context, and a flag of the retry
parameter that swallows the next increment.
`CacheGetRandomSatisfiedChannel` rewrites all three from inside the
loop. The distributor makes the first selection with a retry parameter
of its own, so of that one only the context index survives.

The measure of the loop is not the counter but the pair of the group
index and the counter: `Walked` says that `index * (RetryTimes + 1) +
retry` bounds the attempts made so far. The channel tables may change
between two lookups (a failed attempt can disable a channel), so the
lookups are answered by a function of a call clock.
-/

namespace YouBox.AutoGroup

/-! ## Which errors are retried -/

/-- What the loop reads of a `types.NewAPIError`. -/
structure APIError where
  message : String
  errorCode : String
  statusCode : Int
  skipRetry : Bool
deriving DecidableEq

structure StatusCodeRange where
  start : Int
  finish : Int

structure RetryContext where
  affinitySkipRetry : Bool
  specificChannelId : Bool
  automaticRetryStatusCodeRanges : List StatusCodeRange

def isChannelError (e : APIError) : Bool :=
  "channel:".toList.isPrefixOf e.errorCode.toList

def isAlwaysSkipRetryStatusCode (code : Int) : Bool :=
  code == 504 || code == 524

def isAlwaysSkipRetryCode (errorCode : String) : Bool :=
  errorCode == "bad_response_body"

def shouldMatchStatusCodeRanges (ranges : List StatusCodeRange) (code : Int) : Bool :=
  if code < 100 || 599 < code then false else go ranges
where
  go : List StatusCodeRange → Bool
    | [] => false
    | r :: rs =>
      if code < r.start then false
      else if code ≤ r.finish then true
      else go rs

def shouldRetryByStatusCode (ranges : List StatusCodeRange) (code : Int) : Bool :=
  if isAlwaysSkipRetryStatusCode code then false
  else shouldMatchStatusCodeRanges ranges code

def shouldRetry (c : RetryContext) (e : APIError) (retryTimes : Int) : Bool :=
  if c.affinitySkipRetry then false
  else if isChannelError e then true
  else if e.skipRetry then false
  else if retryTimes ≤ 0 then false
  else if c.specificChannelId then false
  else if 200 ≤ e.statusCode && e.statusCode < 300 then false
  else if e.statusCode < 100 || 599 < e.statusCode then true
  else if isAlwaysSkipRetryCode e.errorCode then false
  else shouldRetryByStatusCode c.automaticRetryStatusCodeRanges e.statusCode

/-- The error is one the loop would try again if retries were left. -/
def retryable (c : RetryContext) (e : APIError) : Bool :=
  shouldRetry c e 1

theorem shouldRetry_of_pos {c : RetryContext} {e : APIError} {n : Int} (hn : 0 < n) :
    shouldRetry c e n = retryable c e := by
  have hn' : ¬ n ≤ 0 := by omega
  simp [retryable, shouldRetry, hn']

/-! ## The request and the selection state -/

/-- Everything outside the walk: settings, the answers of the channel
tables to the `n`-th lookup, and how each attempt ends. -/
structure Request (χ : Type) where
  tokenGroup : String
  modelName : String
  /-- `setting.GetAutoGroups()` -/
  autoGroups : List String
  /-- the keys of `GetUserUsableGroups(userGroup)` -/
  userUsableGroup : String → Bool
  crossGroupRetry : Bool
  retryTimes : Int
  retryContext : RetryContext
  /-- the channel the affinity cache prefers, when it is usable -/
  preferred : Option χ
  isChannelEnabledForGroupModel : String → χ → Bool
  getRandomSatisfiedChannel : Nat → String → Nat → Except String (Option χ)
  /-- `SetupContextForSelectedChannel` before the `n`-th attempt -/
  setupContext : Nat → χ → Option APIError
  /-- `GetBodyStorage` before the `n`-th attempt -/
  bodyStorage : Nat → Option APIError
  /-- the relay helper in the `n`-th attempt; `none` is success -/
  helper : Nat → χ → Option APIError

variable {χ : Type}

def Request.getUserAutoGroup (req : Request χ) : List String :=
  req.autoGroups.filter req.userUsableGroup

/-- The retry parameter, the group index of the request context, and
the clock of table lookups. -/
structure Selection where
  autoGroupIndex : Option Nat
  retry : Nat
  resetNextTry : Bool
  calls : Nat

def Selection.increaseRetry (s : Selection) : Selection :=
  if s.resetNextTry then { s with resetNextTry := false }
  else { s with retry := s.retry + 1 }

structure Pick (χ : Type) where
  channel : χ
  group : String
  index : Option Nat

/-- The loop over `autoGroups[i:]`; an error of the lookup counts as
"no channel". -/
def Request.searchAutoGroups (req : Request χ) (startGroupIndex : Nat) :
    List String → Nat → Selection → Option (Pick χ) × Selection
  | [], _, s => (none, s)
  | autoGroup :: rest, i, s =>
    let priorityRetry := if startGroupIndex < i then 0 else s.retry
    match req.getRandomSatisfiedChannel s.calls autoGroup priorityRetry with
    | .ok (some channel) =>
      let s := { s with calls := s.calls + 1 }
      (some ⟨channel, autoGroup, some i⟩,
        if req.crossGroupRetry && req.retryTimes ≤ (priorityRetry : Int) then
          { s with autoGroupIndex := some (i + 1), retry := 0, resetNextTry := true }
        else { s with autoGroupIndex := some i })
    | _ =>
      searchAutoGroups req startGroupIndex rest (i + 1)
        { s with autoGroupIndex := some (i + 1), retry := 0, calls := s.calls + 1 }

def Request.cacheGetRandomSatisfiedChannel (req : Request χ) (s : Selection) :
    Except String (Option (Pick χ)) × Selection :=
  if req.tokenGroup == "auto" then
    if req.autoGroups.isEmpty then (.error "auto groups is not enabled", s)
    else
      let startGroupIndex := s.autoGroupIndex.getD 0
      let (pick, s) := req.searchAutoGroups startGroupIndex
        (req.getUserAutoGroup.drop startGroupIndex) startGroupIndex s
      (.ok pick, s)
  else
    let answer := req.getRandomSatisfiedChannel s.calls req.tokenGroup s.retry
    (answer.map (·.map fun channel => ⟨channel, req.tokenGroup, none⟩),
      { s with calls := s.calls + 1 })

/-! ## The distributor and the relay loop -/

/-- One upstream attempt: its channel and the auto-group index it was
selected under (none for a channel preferred by affinity). -/
structure Attempt (χ : Type) where
  channel : χ
  index : Option Nat
deriving DecidableEq

inductive Stop where
  | succeeded
  /-- the distributor aborts with the message of this key -/
  | rejected (key : String)
  | noChannel (e : APIError)
  | aborted (e : APIError)
  | gaveUp (e : APIError)
  | exhausted
deriving DecidableEq

/-- The state at the head of the loop: `channel` and `index` are those
of the channel in the request context, `channelMeta` that an attempt
has read it. -/
structure Loop (χ : Type) where
  sel : Selection
  channel : χ
  index : Option Nat
  channelMeta : Bool
  attempts : List (Attempt χ)

def Request.preferredChannel (req : Request χ) : Option χ :=
  req.preferred.bind fun channel =>
    if req.tokenGroup == "auto" then
      if req.getUserAutoGroup.any (req.isChannelEnabledForGroupModel · channel) then some channel
      else none
    else if req.isChannelEnabledForGroupModel req.tokenGroup channel then some channel
    else none

def newSelection : Selection :=
  { autoGroupIndex := none, retry := 0, resetNextTry := false, calls := 0 }

/-- The first selection. `Relay` starts over with a retry parameter of
its own, so the counter and the flag left by it are dropped. -/
def Request.distribute (req : Request χ) : Except Stop (Loop χ) :=
  let start (sel : Selection) (channel : χ) (index : Option Nat) : Except Stop (Loop χ) :=
    match req.setupContext 0 channel with
    | some e => .error (.aborted e)
    | none =>
      .ok { sel := { sel with retry := 0, resetNextTry := false }, channel, index,
            channelMeta := false, attempts := [] }
  match req.preferredChannel with
  | some channel => start newSelection channel none
  | none =>
    match req.cacheGetRandomSatisfiedChannel newSelection with
    | (.error _, _) => .error (.rejected "distributor.get_channel_failed")
    | (.ok none, _) => .error (.rejected "distributor.no_available_channel")
    | (.ok (some pick), sel) => start sel pick.channel pick.index

def getChannelFailed (message : String) : APIError :=
  { message, errorCode := "get_channel_failed", statusCode := 500, skipRetry := true }

def Request.getChannel (req : Request χ) (st : Loop χ) : Except Stop (Loop χ) :=
  if st.channelMeta then
    match req.cacheGetRandomSatisfiedChannel st.sel with
    | (.error err, _) =>
      .error (.noChannel (getChannelFailed ("获取分组 " ++ req.tokenGroup ++ " 下模型 "
        ++ req.modelName ++ " 的可用渠道失败（retry）: " ++ err)))
    | (.ok none, _) =>
      .error (.noChannel (getChannelFailed ("分组 " ++ req.tokenGroup ++ " 下模型 "
        ++ req.modelName ++ " 的可用渠道不存在（retry）")))
    | (.ok (some pick), sel) =>
      match req.setupContext st.attempts.length pick.channel with
      | some e => .error (.aborted e)
      | none => .ok { st with sel, channel := pick.channel, index := pick.index }
  else .ok st

/-- The body of the loop with its post statement. -/
def Request.iteration (req : Request χ) (st : Loop χ) :
    Except (Stop × List (Attempt χ)) (Loop χ) :=
  match req.getChannel st with
  | .error stop => .error (stop, st.attempts)
  | .ok st =>
    match req.bodyStorage st.attempts.length with
    | some e => .error (.aborted e, st.attempts)
    | none =>
      let attempts := st.attempts ++ [⟨st.channel, st.index⟩]
      match req.helper st.attempts.length st.channel with
      | none => .error (.succeeded, attempts)
      | some e =>
        if shouldRetry req.retryContext e (req.retryTimes - st.sel.retry) then
          .ok { st with attempts, channelMeta := true, sel := st.sel.increaseRetry }
        else .error (.gaveUp e, attempts)

/-- The loop, given up (`none`) when `fuel` iterations did not end it. -/
def Request.relayLoop (req : Request χ) :
    Nat → Loop χ → Option (Stop × List (Attempt χ))
  | 0, _ => none
  | fuel + 1, st =>
    if req.retryTimes < (st.sel.retry : Int) then some (.exhausted, st.attempts)
    else
      match req.iteration st with
      | .error done => some done
      | .ok st => relayLoop req fuel st

def Request.relay (req : Request χ) (fuel : Nat) : Option (Stop × List (Attempt χ)) :=
  match req.distribute with
  | .error stop => some (stop, [])
  | .ok st => req.relayLoop fuel st

/-! ## What a selection does

`Satisfies` is a group that answers every lookup of the request with a
channel; `passed` below says that the walk only steps over groups that
failed to answer one. -/

def Selection.groupIndex (s : Selection) : Nat :=
  s.autoGroupIndex.getD 0

def Request.Satisfies (req : Request χ) (group : String) : Prop :=
  ∀ calls retry, ∃ channel, req.getRandomSatisfiedChannel calls group retry = .ok (some channel)

/-- The selection left behind when group `i` is chosen with the counter
at `retry`: the next group at a fresh counter once the retries of this
one are spent, else the same group. -/
def Request.settle (req : Request χ) (i retry : Nat) (s : Selection) : Selection :=
  if req.crossGroupRetry && req.retryTimes ≤ (retry : Int) then
    { s with autoGroupIndex := some (i + 1), retry := 0, resetNextTry := true }
  else { s with autoGroupIndex := some i, retry }

variable {req : Request χ} {i : Nat} {s s' : Selection} {pick : Pick χ} {st : Loop χ}

variable {groups : List String} {retry start : Nat} {sel : Selection}

/-- Below the head of the search the counter is zero, so the priority
used for a group is the counter at that point. -/
theorem searchAutoGroups_some (hi : start ≤ i) (hretry : start < i → s.retry = 0)
    (h : req.searchAutoGroups start groups i s = (some pick, s')) :
    ∃ k calls, k < groups.length ∧ pick.index = some (i + k) ∧
      (∀ group ∈ groups.take k, ¬ req.Satisfies group) ∧
      s' = req.settle (i + k) (if k = 0 then s.retry else 0) { s with calls } := by
  induction groups generalizing i s with
  | nil => simp [Request.searchAutoGroups] at h
  | cons group rest ih =>
    have hprio : (if start < i then 0 else s.retry) = s.retry := by
      split
      · exact (hretry ‹_›).symm
      · rfl
    simp only [Request.searchAutoGroups, hprio] at h
    split at h
    · obtain ⟨hpick, rfl⟩ := Prod.mk.inj h
      cases hpick
      refine ⟨0, s.calls + 1, by simp, rfl, by simp, ?_⟩
      simp [Request.settle]
    · rename_i hnone
      obtain ⟨k, calls, hk, hindex, htake, rfl⟩ := ih (by omega) (fun _ => rfl) h
      refine ⟨k + 1, calls, by simpa using hk, by rw [hindex]; congr 1; omega, ?_, ?_⟩
      · intro g hg
        rw [List.take_succ_cons, List.mem_cons] at hg
        obtain rfl | hg := hg
        · intro hsat
          obtain ⟨channel, hchannel⟩ := hsat s.calls s.retry
          exact hnone channel hchannel
        · exact htake g hg
      · have hzero : (if k = 0 then 0 else 0) = 0 := by split <;> rfl
        simp only [hzero, Nat.succ_ne_zero, if_false, Request.settle]
        rw [show i + (k + 1) = i + 1 + k by omega]

theorem searchAutoGroups_none (h : req.searchAutoGroups start groups i s = (none, s')) :
    ∀ group ∈ groups, ¬ req.Satisfies group := by
  induction groups generalizing i s with
  | nil => simp
  | cons group rest ih =>
    simp only [Request.searchAutoGroups] at h
    split at h
    · cases h
    · rename_i hnone
      intro g hg hsat
      obtain rfl | hg := List.mem_cons.1 hg
      · obtain ⟨channel, hchannel⟩ := hsat s.calls (if start < i then 0 else s.retry)
        exact hnone channel hchannel
      · exact ih h g hg hsat

theorem cacheGet_some (hauto : req.tokenGroup = "auto")
    (h : req.cacheGetRandomSatisfiedChannel s = (.ok (some pick), s')) :
    ∃ k calls, s.groupIndex + k < req.getUserAutoGroup.length ∧
      pick.index = some (s.groupIndex + k) ∧
      (∀ group ∈ (req.getUserAutoGroup.drop s.groupIndex).take k, ¬ req.Satisfies group) ∧
      s' = req.settle (s.groupIndex + k) (if k = 0 then s.retry else 0) { s with calls } := by
  simp only [Request.cacheGetRandomSatisfiedChannel, hauto, beq_self_eq_true, if_true] at h
  split at h
  · simp at h
  · obtain ⟨hpick, hs⟩ := Prod.mk.inj h
    obtain ⟨k, calls, hk, hindex, htake, hsel⟩ :=
      searchAutoGroups_some le_rfl (fun hlt => absurd hlt (lt_irrefl _))
        (Prod.ext (Except.ok.inj hpick) hs)
    rw [List.length_drop] at hk
    exact ⟨k, calls, by unfold Selection.groupIndex; omega, hindex, htake, hsel⟩

theorem cacheGet_none (hauto : req.tokenGroup = "auto")
    (h : req.cacheGetRandomSatisfiedChannel s = (.ok none, s')) :
    ∀ group ∈ req.getUserAutoGroup.drop s.groupIndex, ¬ req.Satisfies group := by
  simp only [Request.cacheGetRandomSatisfiedChannel, hauto, beq_self_eq_true, if_true] at h
  split at h
  · simp at h
  · obtain ⟨hpick, hs⟩ := Prod.mk.inj h
    exact searchAutoGroups_none (Prod.ext (Except.ok.inj hpick) hs)

theorem cacheGet_error {err : String} (hauto : req.tokenGroup = "auto")
    (h : req.cacheGetRandomSatisfiedChannel s = (.error err, s')) :
    req.getUserAutoGroup = [] := by
  simp only [Request.cacheGetRandomSatisfiedChannel, hauto, beq_self_eq_true, if_true] at h
  split at h
  · rename_i hempty
    simp [Request.getUserAutoGroup, List.isEmpty_iff.1 hempty]
  · simp at h

/-! ## The invariant of the loop -/

def indices (attempts : List (Attempt χ)) : List Nat :=
  attempts.filterMap (·.index)

/-- Attempts one group may take. -/
def Request.share (req : Request χ) : Nat :=
  (req.retryTimes + 1).toNat

/-- Every satisfying group below `bound` is among `tried`. -/
def Request.Covers (req : Request χ) (bound : Nat) (tried : List Nat) : Prop :=
  ∀ j group, req.getUserAutoGroup[j]? = some group → req.Satisfies group → j < bound → j ∈ tried

def Request.Persists (req : Request χ) : Prop :=
  req.crossGroupRetry = true ∧ 1 ≤ req.retryTimes

/-- At the head of the loop. -/
structure Walked (req : Request χ) (st : Loop χ) : Prop where
  flag : st.sel.resetNextTry = false
  spent : st.attempts.length ≤ st.sel.groupIndex * req.share + st.sel.retry
  room : st.attempts.length ≤ req.getUserAutoGroup.length * req.share
  sorted : (indices st.attempts).Pairwise (· ≤ ·)
  below : ∀ i ∈ indices st.attempts, i ≤ st.sel.groupIndex
  first : st.channelMeta = false → st.attempts = [] ∧ st.sel.retry = 0 ∧
    0 < req.getUserAutoGroup.length ∧ ∀ i, st.index = some i → i ≤ st.sel.groupIndex
  covered : req.Persists → req.Covers st.sel.groupIndex (indices st.attempts)
  left : req.Persists → (st.sel.retry : Int) ≤ req.retryTimes

/-- Between the selection and the attempt it is for. -/
structure Chosen (req : Request χ) (st : Loop χ) : Prop where
  flag : st.sel.increaseRetry.resetNextTry = false
  spent : st.attempts.length + 1 ≤
    st.sel.increaseRetry.groupIndex * req.share + st.sel.increaseRetry.retry
  room : st.attempts.length + 1 ≤ req.getUserAutoGroup.length * req.share
  sorted : (indices st.attempts).Pairwise (· ≤ ·)
  below : ∀ i ∈ indices st.attempts, i ≤ st.sel.increaseRetry.groupIndex
  next : ∀ i, st.index = some i →
    (∀ j ∈ indices st.attempts, j ≤ i) ∧ i ≤ st.sel.increaseRetry.groupIndex
  covered : req.Persists →
    req.Covers st.sel.increaseRetry.groupIndex (indices st.attempts ++ st.index.toList)
  left : req.Persists → (st.sel.increaseRetry.retry : Int) ≤ req.retryTimes
  more : req.Persists → (st.sel.retry : Int) < req.retryTimes

theorem indices_append (attempts : List (Attempt χ)) (channel : χ) (index : Option Nat) :
    indices (attempts ++ [⟨channel, index⟩]) = indices attempts ++ index.toList := by
  cases index <;> simp [indices]

theorem Chosen.attempt (h : Chosen req st) :
    Walked req { st with attempts := st.attempts ++ [⟨st.channel, st.index⟩],
                         channelMeta := true, sel := st.sel.increaseRetry } where
  flag := h.flag
  spent := by simpa using h.spent
  room := by simpa using h.room
  sorted := by
    rw [indices_append, List.pairwise_append]
    refine ⟨h.sorted, ?_, ?_⟩
    · cases st.index <;> simp
    · intro j hj i hi
      exact (h.next i (Option.mem_toList.1 hi)).1 j hj
  below := by
    intro i hi
    rw [indices_append, List.mem_append] at hi
    obtain hi | hi := hi
    · exact h.below i hi
    · exact (h.next i (Option.mem_toList.1 hi)).2
  first := fun hmeta => by cases hmeta
  covered := by
    rw [indices_append]
    exact h.covered
  left := h.left

theorem Walked.chosen_first (h : Walked req st) (hmeta : st.channelMeta = false)
    (hloop : (st.sel.retry : Int) ≤ req.retryTimes) :
    Chosen req st := by
  obtain ⟨hatt, hretry, hlen, hindex⟩ := h.first hmeta
  have hinc : st.sel.increaseRetry = { st.sel with retry := 1 } := by
    simp [Selection.increaseRetry, h.flag, hretry]
  have hshare : 1 ≤ req.share := by
    unfold Request.share
    omega
  constructor
  case flag => simpa [hinc] using h.flag
  case spent => simp [hinc, hatt]
  case room =>
    rw [hatt]
    exact Nat.mul_pos hlen hshare
  case sorted => exact h.sorted
  case below => simp [hatt, indices]
  case next =>
    intro i hi
    refine ⟨by simp [hatt, indices], ?_⟩
    rw [hinc]
    exact hindex i hi
  case covered =>
    intro hp j group hj hsat hlt
    rw [hinc] at hlt
    exact List.mem_append_left _ (h.covered hp j group hj hsat hlt)
  case left =>
    intro hp
    simpa [hinc] using hp.2
  case more =>
    intro hp
    have := hp.2
    omega

theorem mem_window {α : Type} {l : List α} {a k j : Nat} {x : α} (hx : l[j]? = some x)
    (ha : a ≤ j) (hk : j < a + k) : x ∈ (l.drop a).take k := by
  refine List.mem_iff_getElem?.2 ⟨j - a, ?_⟩
  rw [List.getElem?_take, if_pos (by omega), List.getElem?_drop, Nat.add_sub_cancel' ha, hx]

/-- Where the post statement leaves the walk after group `i` was chosen
with the counter at `retry`: at the next group with the counter at zero,
or in the same one. -/
structure Settled (req : Request χ) (i retry : Nat) (s : Selection) : Prop where
  flag : s.increaseRetry.resetNextTry = false
  moves : s.retry = 0 ∧ s.increaseRetry.retry = 0 ∧ s.increaseRetry.groupIndex = i + 1 ∨
    (req.Persists → (retry : Int) < req.retryTimes) ∧ s.retry = retry ∧
      s.increaseRetry.retry = retry + 1 ∧ s.increaseRetry.groupIndex = i

theorem settled_settle (req : Request χ) (i retry : Nat) (hflag : s.resetNextTry = false) :
    Settled req i retry (req.settle i retry s) := by
  by_cases hswitch : (req.crossGroupRetry && req.retryTimes ≤ (retry : Int)) = true
  · constructor <;>
      simp [Request.settle, hswitch, Selection.increaseRetry, Selection.groupIndex]
  · have hstay : req.Persists → (retry : Int) < req.retryTimes := by
      intro hp
      simp only [hp.1, Bool.true_and, decide_eq_true_eq, not_le] at hswitch
      exact hswitch
    refine ⟨?_, Or.inr ⟨hstay, ?_⟩⟩ <;>
      simp [Request.settle, hswitch, Selection.increaseRetry, Selection.groupIndex, hflag]

theorem Settled.le_groupIndex (h : Settled req i retry s) : i ≤ s.increaseRetry.groupIndex := by
  obtain ⟨-, -, hx⟩ | ⟨-, -, -, hx⟩ := h.moves <;> omega

theorem Settled.groupIndex_le (h : Settled req i retry s) : s.increaseRetry.groupIndex ≤ i + 1 := by
  obtain ⟨-, -, hx⟩ | ⟨-, -, -, hx⟩ := h.moves <;> omega

/-- A later attempt takes the channel of the next group that has one.
The counter is at most `RetryTimes` inside the loop, so the attempts so
far leave one more within the share of the current group. -/
theorem Walked.chosen_next (hauto : req.tokenGroup = "auto") (h : Walked req st)
    (hloop : (st.sel.retry : Int) ≤ req.retryTimes)
    (hpick : req.cacheGetRandomSatisfiedChannel st.sel = (.ok (some pick), sel)) :
    Chosen req { st with sel, channel := pick.channel, index := pick.index } := by
  obtain ⟨k, calls, hlen, hindex, hpassed, hsel⟩ := cacheGet_some hauto hpick
  have hsettled : Settled req (st.sel.groupIndex + k) (if k = 0 then st.sel.retry else 0) sel := by
    rw [hsel]
    exact settled_settle req _ _ h.flag
  have hge := hsettled.le_groupIndex
  have hshare : st.sel.retry + 1 ≤ req.share := by
    unfold Request.share
    omega
  have hspent := h.spent
  have hgroup : st.attempts.length + 1 ≤ (st.sel.groupIndex + 1) * req.share := by
    rw [Nat.add_mul]
    omega
  have hmono : ∀ {a b : Nat}, a ≤ b → a * req.share ≤ b * req.share :=
    fun hab => Nat.mul_le_mul_right _ hab
  constructor
  case flag => exact hsettled.flag
  case spent =>
    obtain ⟨-, hzero, hx⟩ | ⟨-, -, hsucc, hx⟩ := hsettled.moves
    · simp only [hx, hzero]
      exact le_trans hgroup (hmono (by omega))
    · simp only [hx, hsucc]
      by_cases hk : k = 0
      · simp only [hk, if_true, Nat.add_zero]
        omega
      · have := hmono (show st.sel.groupIndex + 1 ≤ st.sel.groupIndex + k by omega)
        omega
  case room => exact le_trans hgroup (hmono (by omega))
  case sorted => exact h.sorted
  case below =>
    intro j hj
    exact le_trans (h.below j hj) (le_trans (Nat.le_add_right _ k) hge)
  case next =>
    intro j hj
    obtain rfl := Option.some.inj (hindex.symm.trans hj)
    exact ⟨fun j' hj' => le_trans (h.below j' hj') (by omega), hge⟩
  case covered =>
    intro hp j group hj hsat hlt
    have hle := hsettled.groupIndex_le
    simp only [hindex, List.mem_append, Option.toList_some, List.mem_singleton]
    -- below the old index, among the groups stepped over, or the chosen one
    obtain hlow | hmid | heq : j < st.sel.groupIndex ∨
        (st.sel.groupIndex ≤ j ∧ j < st.sel.groupIndex + k) ∨ j = st.sel.groupIndex + k := by
      change j < sel.increaseRetry.groupIndex at hlt
      omega
    · exact Or.inl (h.covered hp j group hj hsat hlow)
    · exact absurd hsat (hpassed group (mem_window hj hmid.1 hmid.2))
    · exact Or.inr heq
  case left =>
    intro hp
    obtain ⟨-, hzero, -⟩ | ⟨hlt, -, hsucc, -⟩ := hsettled.moves
    · have := hp.2
      simp only [hzero]
      omega
    · have := hlt hp
      simp only [hsucc]
      omega
  case more =>
    intro hp
    obtain ⟨hzero, -⟩ | ⟨hlt, heq, -⟩ := hsettled.moves
    · have := hp.2
      simp only [hzero]
      omega
    · simpa only [heq] using hlt hp

/-! ## From one iteration to the whole run -/

/-- The loop ended on errors it would retry, or for want of channels. -/
def Request.gaveUpRetrying (req : Request χ) : Stop → Bool
  | .succeeded => false
  | .aborted _ => false
  | .rejected _ => true
  | .noChannel _ => true
  | .gaveUp e => retryable req.retryContext e
  | .exhausted => true

structure Bounded (req : Request χ) (stop : Stop) (attempts : List (Attempt χ)) : Prop where
  count : attempts.length ≤ req.getUserAutoGroup.length * req.share
  sorted : (indices attempts).Pairwise (· ≤ ·)
  complete : req.Persists → req.gaveUpRetrying stop = true →
    req.Covers req.getUserAutoGroup.length (indices attempts)

theorem Walked.bounded {stop : Stop} (h : Walked req st) (hstop : req.Persists → req.gaveUpRetrying
      stop = true → req.Covers req.getUserAutoGroup.length (indices st.attempts)) :
    Bounded req stop st.attempts :=
  ⟨h.room, h.sorted, hstop⟩

theorem Walked.covers_of_none (h : Walked req st)
    (hnone : ∀ group ∈ req.getUserAutoGroup.drop st.sel.groupIndex, ¬ req.Satisfies group)
    (hp : req.Persists) :
    req.Covers req.getUserAutoGroup.length (indices st.attempts) := by
  intro j group hj hsat _
  by_cases hlow : j < st.sel.groupIndex
  · exact h.covered hp j group hj hsat hlow
  · refine absurd hsat (hnone group ?_)
    refine List.mem_iff_getElem?.2 ⟨j - st.sel.groupIndex, ?_⟩
    rw [List.getElem?_drop, Nat.add_sub_cancel' (by omega), hj]

theorem getChannel_spec {req : Request χ} {st : Loop χ} (hauto : req.tokenGroup = "auto")
    (h : Walked req st) (hloop : (st.sel.retry : Int) ≤ req.retryTimes) :
    match req.getChannel st with
    | .error stop => Bounded req stop st.attempts
    | .ok st' => Chosen req st' ∧ st'.attempts = st.attempts := by
  unfold Request.getChannel
  by_cases hmeta : st.channelMeta = true
  · rw [if_pos hmeta]
    cases hget : req.cacheGetRandomSatisfiedChannel st.sel with
    | mk answer sel =>
      match answer with
      | .error err =>
        refine h.bounded fun _ _ => ?_
        intro j group hj
        rw [cacheGet_error hauto hget] at hj
        simp at hj
      | .ok none =>
        exact h.bounded fun hp _ => h.covers_of_none (cacheGet_none hauto hget) hp
      | .ok (some pick) =>
        simp only
        cases req.setupContext st.attempts.length pick.channel with
        | some e => exact h.bounded fun _ hstop => by cases hstop
        | none => exact ⟨h.chosen_next hauto hloop hget, rfl⟩
  · rw [if_neg hmeta]
    exact ⟨h.chosen_first (by simpa using hmeta) hloop, rfl⟩

/-- One round: it ends within the bounds or hands the invariant on with
one attempt more. -/
theorem iteration_spec {req : Request χ} {st : Loop χ} (hauto : req.tokenGroup = "auto")
    (h : Walked req st) (hloop : (st.sel.retry : Int) ≤ req.retryTimes) :
    match req.iteration st with
    | .error (stop, attempts) => Bounded req stop attempts
    | .ok st' => Walked req st' ∧ st'.attempts.length = st.attempts.length + 1 := by
  have hget := getChannel_spec hauto h hloop
  unfold Request.iteration
  cases hst : req.getChannel st with
  | error stop => simpa only [hst] using hget
  | ok st' =>
    simp only [hst] at hget ⊢
    obtain ⟨hchosen, hatt⟩ := hget
    cases req.bodyStorage st'.attempts.length with
    | some e =>
      rw [hatt]
      exact h.bounded fun _ hstop => by cases hstop
    | none =>
      simp only
      cases req.helper st'.attempts.length st'.channel with
      | none => exact hchosen.attempt.bounded fun _ hstop => by cases hstop
      | some e =>
        simp only
        split
        · rename_i heq
          split at heq
          · cases heq
          · rename_i hno
            obtain ⟨rfl, rfl⟩ := Prod.mk.inj (Except.error.inj heq)
            refine hchosen.attempt.bounded fun hp hstop => absurd hstop ?_
            -- retries are left, so the error itself was refused
            have hmore := hchosen.more hp
            rw [shouldRetry_of_pos (by omega)] at hno
            exact hno
        · rename_i heq
          split at heq
          · cases heq
            exact ⟨hchosen.attempt, by simp [hatt]⟩
          · cases heq

theorem relayLoop_spec (hauto : req.tokenGroup = "auto") {fuel : Nat} (h : Walked req st)
    (hfuel : req.getUserAutoGroup.length * req.share < st.attempts.length + fuel) :
    ∃ stop attempts, req.relayLoop fuel st = some (stop, attempts) ∧ Bounded req stop attempts := by
  induction fuel generalizing st with
  | zero =>
    have := h.room
    omega
  | succ fuel ih =>
    unfold Request.relayLoop
    split
    · rename_i hend
      refine ⟨_, _, rfl, h.bounded fun hp _ => ?_⟩
      have := h.left hp
      omega
    · rename_i hloop
      have hiter := iteration_spec hauto h (by omega)
      cases hst : req.iteration st with
      | error done =>
        simp only [hst] at hiter
        exact ⟨_, _, rfl, hiter⟩
      | ok st' =>
        simp only [hst] at hiter
        obtain ⟨hwalked, hlen⟩ := hiter
        exact ih hwalked (by omega)

/-- The selection of the distributor: group `k` is the first with a
channel, and with retries left the context index stays on it. -/
theorem groupIndex_settle (req : Request χ) (k : Nat) (s : Selection) :
    k ≤ (req.settle k 0 s).groupIndex ∧
    (req.Persists → (req.settle k 0 s).groupIndex = k) := by
  constructor
  · unfold Request.settle
    split <;> simp [Selection.groupIndex]
  · intro hp
    have hpos : ¬ req.retryTimes ≤ 0 := by
      have := hp.2
      omega
    simp [Request.settle, hpos, Selection.groupIndex]

theorem walked_start {channel : χ} {index : Option Nat} (hlen : 0 < req.getUserAutoGroup.length)
    (hindex : ∀ i, index = some i → i ≤ sel.groupIndex)
    (hpassed : req.Persists → req.Covers sel.groupIndex []) :
    Walked req { sel := { sel with retry := 0, resetNextTry := false }, channel, index,
                 channelMeta := false, attempts := [] } where
  flag := rfl
  spent := Nat.zero_le _
  room := Nat.zero_le _
  sorted := List.Pairwise.nil
  below := by simp [indices]
  first := fun _ => ⟨rfl, rfl, hlen, hindex⟩
  covered := hpassed
  left := fun hp => by
    have := hp.2
    simp only [Nat.cast_zero]
    omega

theorem distribute_spec {req : Request χ} (hauto : req.tokenGroup = "auto") :
    match req.distribute with
    | .error stop => Bounded req stop []
    | .ok st => Walked req st ∧ st.attempts = [] := by
  have hbounded : ∀ {stop : Stop}, (req.Persists → req.gaveUpRetrying stop = true →
      req.Covers req.getUserAutoGroup.length []) → Bounded req stop [] :=
    fun hstop => ⟨Nat.zero_le _, List.Pairwise.nil, hstop⟩
  unfold Request.distribute
  cases hpref : req.preferredChannel with
  | some channel =>
    simp only
    cases req.setupContext 0 channel with
    | some e => exact hbounded fun _ hstop => by cases hstop
    | none =>
      refine ⟨walked_start ?_ (fun i hi => by cases hi) ?_, rfl⟩
      · simp only [Request.preferredChannel, hauto, beq_self_eq_true, if_true,
          Option.bind_eq_some_iff] at hpref
        obtain ⟨channel', -, hany⟩ := hpref
        split at hany
        · rename_i hsome
          obtain ⟨group, hgroup, -⟩ := List.any_eq_true.1 hsome
          exact List.length_pos_of_mem hgroup
        · cases hany
      · intro _ j _ _ _ hlt
        exact absurd hlt (Nat.not_lt_zero j)
  | none =>
    simp only
    cases hget : req.cacheGetRandomSatisfiedChannel newSelection with
    | mk answer sel =>
      match answer with
      | .error err =>
        refine hbounded fun _ _ j group hj => ?_
        rw [cacheGet_error hauto hget] at hj
        simp at hj
      | .ok none =>
        refine hbounded fun _ _ j group hj hsat _ => absurd hsat ?_
        exact cacheGet_none hauto hget group (List.mem_of_getElem? hj)
      | .ok (some pick) =>
        simp only
        cases req.setupContext 0 pick.channel with
        | some e => exact hbounded fun _ hstop => by cases hstop
        | none =>
          obtain ⟨k, calls, hlen, hindex, hpassed, hsel⟩ := cacheGet_some hauto hget
          have hzero : newSelection.groupIndex = 0 := rfl
          have hretry : (if k = 0 then newSelection.retry else 0) = 0 := by split <;> rfl
          rw [hzero, Nat.zero_add] at hlen hindex hsel
          rw [hretry] at hsel
          obtain ⟨hge, hstay⟩ := groupIndex_settle req k { newSelection with calls }
          rw [← hsel] at hge hstay
          refine ⟨walked_start (by omega) ?_ ?_, rfl⟩
          · intro i hi
            obtain rfl := Option.some.inj (hindex.symm.trans hi)
            exact hge
          · intro hp j group hj hsat hlt
            refine absurd hsat (hpassed group (mem_window hj (Nat.zero_le _) ?_))
            rw [hstay hp] at hlt
            rw [hzero]
            omega

/-- For every table behaviour and every pattern of failures a request in
the group "auto" ends after at most one share of attempts per group, the
group index never decreases, and with cross-group retry and at least one
retry every satisfying group is attempted before it is given up on
retryable errors. -/
theorem auto_retry_bounded_and_complete (req : Request χ) (hauto : req.tokenGroup = "auto")
    (fuel : Nat) (hfuel : req.getUserAutoGroup.length * (req.retryTimes + 1).toNat < fuel) :
    ∃ stop attempts, req.relay fuel = some (stop, attempts) ∧
      attempts.length ≤ req.getUserAutoGroup.length * (req.retryTimes + 1).toNat ∧
      (attempts.filterMap (·.index)).Pairwise (· ≤ ·) ∧
      (req.crossGroupRetry = true → 1 ≤ req.retryTimes → req.gaveUpRetrying stop = true →
        ∀ i group, req.getUserAutoGroup[i]? = some group → req.Satisfies group →
          i ∈ attempts.filterMap (·.index)) := by
  have hstart := distribute_spec hauto
  have hend : ∃ stop attempts, req.relay fuel = some (stop, attempts) ∧
      Bounded req stop attempts := by
    unfold Request.relay
    cases hst : req.distribute with
    | error stop =>
      simp only [hst] at hstart
      exact ⟨_, _, rfl, hstart⟩
    | ok st =>
      simp only [hst] at hstart
      obtain ⟨hwalked, hatt⟩ := hstart
      exact relayLoop_spec hauto hwalked (by rw [hatt]; simpa [Request.share] using hfuel)
  obtain ⟨stop, attempts, hrelay, hbounded⟩ := hend
  refine ⟨stop, attempts, hrelay, hbounded.count, hbounded.sorted, ?_⟩
  intro hcross hretry hstop i group hi hsat
  exact hbounded.complete ⟨hcross, hretry⟩ hstop i group hi hsat
    (List.getElem?_eq_some_iff.1 hi).1

/-! ## Two groups with a failing channel each -/

def serverError : APIError :=
  { message := "upstream error", errorCode := "bad_response_status_code", statusCode := 500,
    skipRetry := false }

def failingRequest (retryTimes : Int) : Request Nat where
  tokenGroup := "auto"
  modelName := "gpt-4o"
  autoGroups := ["default", "vip"]
  userUsableGroup := fun _ => true
  crossGroupRetry := true
  retryTimes := retryTimes
  retryContext :=
    { affinitySkipRetry := false, specificChannelId := false,
      automaticRetryStatusCodeRanges := [⟨500, 503⟩] }
  preferred := none
  isChannelEnabledForGroupModel := fun _ _ => true
  getRandomSatisfiedChannel := fun _ group _ => .ok (some (if group == "vip" then 2 else 1))
  setupContext := fun _ _ => none
  bodyStorage := fun _ => none
  helper := fun _ _ => some serverError

theorem failingRequest_satisfies (retryTimes : Int) (group : String) :
    (failingRequest retryTimes).Satisfies group :=
  fun _ _ => ⟨_, rfl⟩

theorem two_groups_both_attempted :
    ∃ stop attempts, (failingRequest 1).relay 5 = some (stop, attempts) ∧
      (failingRequest 1).gaveUpRetrying stop = true ∧ attempts.length ≤ 4 ∧
      0 ∈ attempts.filterMap (·.index) ∧ 1 ∈ attempts.filterMap (·.index) := by
  obtain ⟨stop, attempts, hrun, hcount, -, hall⟩ :=
    auto_retry_bounded_and_complete (failingRequest 1) rfl 5 (by decide)
  have hstop : (failingRequest 1).gaveUpRetrying stop = true := by
    have heval : ((failingRequest 1).relay 5).map
        (fun run => (failingRequest 1).gaveUpRetrying run.1) = some true := by decide
    rw [hrun] at heval
    exact Option.some.inj heval
  have hreached := hall rfl (by decide) hstop
  exact ⟨stop, attempts, hrun, hstop, hcount,
    hreached 0 "default" rfl (failingRequest_satisfies 1 _),
    hreached 1 "vip" rfl (failingRequest_satisfies 1 _)⟩

/-- With no retries set the first failure ends the request: the next
group was prepared, but `shouldRetry` has no retry left to give it. -/
theorem no_retries_skips_groups :
    ¬ ∀ (req : Request Nat) (fuel : Nat) (stop : Stop) (attempts : List (Attempt Nat)),
      req.tokenGroup = "auto" → req.crossGroupRetry = true →
      req.relay fuel = some (stop, attempts) → req.gaveUpRetrying stop = true →
      ∀ i group, req.getUserAutoGroup[i]? = some group → req.Satisfies group →
        i ∈ attempts.filterMap (·.index) := by
  intro hclaim
  have hreached := hclaim (failingRequest 0) 5 (.gaveUp serverError) [⟨1, some 0⟩] rfl rfl
    (by decide) (by decide) 1 "vip" rfl (failingRequest_satisfies 0 _)
  simp at hreached

end YouBox.AutoGroup
