import YouBox.KeyStatus

/-!
# A channel row under several hands

`UpdateChannelStatus` reads the row of a channel, works on what it has read, and
writes all columns but the key back. `GetNextEnabledKey` in polling mode writes
the whole `channel_info` of an object that was loaded some time before, to move
its index. `UpdateChannelUsedQuota` is one relative update, or an entry in the map
that `batchUpdate` empties. Any number of these run side by side on one row; every
statement is a step.

Two things can get lost: an increment of `used_quota`, and the status of a key.
`freshQuota` and `freshKeys` are the guards under which they do not: what a write
puts back is what it would overwrite.

- `usedQuota_conserved`: one sum over the row, the map and the executions is never
  changed;
- `key_stays_disabled`: the status changes are kept in the order in which they are
  saved, and a change to disabled is followed by one to enabled or still there.
-/

namespace YouBox.ChannelDB

/-! ## The store -/

/-- The status that a call has given the key at an index. -/
structure KeyChange where
  index : Nat
  status : Int
deriving DecidableEq

/-- The row and its abilities, `channelStatusLock` and the polling lock of the
channel, and its entry in the batch map. The status changes saved so far are
there to speak about their order. -/
structure ChannelStore where
  row : Channel
  abilities : List Ability
  statusLock : Bool
  pollingLock : Bool
  pending : Int
  changes : List KeyChange

namespace ChannelStore

def setRow (s : ChannelStore) (row : Channel) : ChannelStore := { s with row }

def setAbilities (s : ChannelStore) (abilities : List Ability) : ChannelStore := { s with abilities }

def setStatusLock (s : ChannelStore) (b : Bool) : ChannelStore := { s with statusLock := b }

def setPollingLock (s : ChannelStore) (b : Bool) : ChannelStore := { s with pollingLock := b }

def setPending (s : ChannelStore) (q : Int) : ChannelStore := { s with pending := q }

/-- `SaveWithoutKey`: every column but the key. -/
def saveWithoutKey (s : ChannelStore) (ch : Channel) (changes : List KeyChange) : ChannelStore :=
  { s with row := { ch with key := s.row.key }, changes := s.changes ++ changes }

def saveChannelInfo (s : ChannelStore) (ch : Channel) : ChannelStore :=
  s.setRow { s.row with channelInfo := ch.channelInfo }

def addUsedQuota (s : ChannelStore) (quota : Int) : ChannelStore :=
  s.setRow { s.row with usedQuota := s.row.usedQuota + quota }

end ChannelStore

/-- What a step is told from outside: whether its statement fails, whether the
cached copy of the channel lets the call return at once, the time, and a random
number. -/
structure Tick where
  fails : Bool
  cachedReturns : Bool
  now : Int
  draw : Nat

structure RaceConfig where
  raw : RawArray
  memoryCacheEnabled : Bool
  batchUpdateEnabled : Bool

/-! ## UpdateChannelStatus -/

/-- Where a call stands. `ticket` is the place of its change among the changes. -/
inductive StatusPc where
  | start
  | cache
  | read
  | handle (ch : Channel)
  | save (loaded ch : Channel) (follow : Bool)
  | abilities (result : Bool) (ticket : Nat)
  | unlock (result : Bool) (ticket : Nat)
  | returned (result : Bool) (ticket : Nat)

/-- The key whose status a call changes in the channel it has read. -/
def Channel.keyChange (raw : RawArray) (ch : Channel) (call : StatusCall) : List KeyChange :=
  if ch.channelInfo.isMultiKey then
    ((ch.getKeys raw).idxOf? call.usingKey).toList.map fun i => ⟨i, call.status⟩
  else []

namespace RaceConfig

variable (cfg : RaceConfig)

/-- One step of a call. The deferred update of the abilities is made whether the
row could be saved or not. -/
def statusNext (call : StatusCall) (tick : Tick) (s : ChannelStore) :
    StatusPc → Option (ChannelStore × StatusPc)
  | .start =>
    if !cfg.memoryCacheEnabled then some (s, .read)
    else if s.statusLock then none
    else some (s.setStatusLock true, .cache)
  | .cache => some (s, if tick.cachedReturns then .unlock false 0 else .read)
  | .read => some (s, if tick.fails then .unlock false 0 else .handle s.row)
  | .handle ch =>
    match ch.updateStatus cfg.raw tick.now call with
    | none => some (s, .unlock false 0)
    | some (ch', follow) =>
      if ch.channelInfo.isMultiKey && s.pollingLock then none
      else some (s, .save ch ch' follow)
  | .save loaded ch follow =>
    let after (result : Bool) : StatusPc :=
      if follow then .abilities result s.changes.length else .unlock result s.changes.length
    if tick.fails || ch.id == 0 then some (s, after false)
    else some (s.saveWithoutKey ch (loaded.keyChange cfg.raw call), after true)
  | .abilities result ticket =>
    some (if tick.fails then s
      else s.setAbilities
        (updateAbilityStatus s.row.id (call.status == channelStatusEnabled) s.abilities),
      .unlock result ticket)
  | .unlock result ticket =>
    some (if cfg.memoryCacheEnabled then s.setStatusLock false else s, .returned result ticket)
  | .returned .. => none

inductive StatusStep (call : StatusCall) (tick : Tick) (s : ChannelStore) :
    StatusPc → ChannelStore → StatusPc → Prop
  | lock {pc pc' b} : (pc = .start ∧ pc' = .cache) ∨
      (∃ result ticket, pc = .unlock result ticket ∧ pc' = .returned result ticket) →
      StatusStep call tick s pc (s.setStatusLock b) pc'
  | begin {pc} : pc = .start ∨ pc = .cache → StatusStep call tick s pc s .read
  | fail {pc} : pc = .cache ∨ pc = .read ∨ (∃ ch, pc = .handle ch) →
      StatusStep call tick s pc s (.unlock false 0)
  | read : StatusStep call tick s .read s (.handle s.row)
  | handle {ch ch' follow} : ch.updateStatus cfg.raw tick.now call = some (ch', follow) →
      StatusStep call tick s (.handle ch) s (.save ch ch' follow)
  | save {loaded ch follow pc'} : tick.fails = false →
      (pc' = if follow then .abilities true s.changes.length else .unlock true s.changes.length) →
      StatusStep call tick s (.save loaded ch follow)
        (s.saveWithoutKey ch (loaded.keyChange cfg.raw call)) pc'
  | unsaved {loaded ch follow pc'} :
      (pc' = if follow then .abilities false s.changes.length
        else .unlock false s.changes.length) →
      StatusStep call tick s (.save loaded ch follow) s pc'
  | abilities {result ticket} : tick.fails = false →
      StatusStep call tick s (.abilities result ticket)
        (s.setAbilities
          (updateAbilityStatus s.row.id (call.status == channelStatusEnabled) s.abilities))
        (.unlock result ticket)
  | unfollowed {result ticket} : tick.fails = true →
      StatusStep call tick s (.abilities result ticket) s (.unlock result ticket)
  | leave {result ticket} :
      StatusStep call tick s (.unlock result ticket) s (.returned result ticket)

theorem statusStep_of_next {cfg : RaceConfig} {call : StatusCall} {tick : Tick}
    {s s' : ChannelStore} {pc pc' : StatusPc} (h : cfg.statusNext call tick s pc = some (s', pc')) :
    cfg.StatusStep call tick s pc s' pc' := by
  cases pc with
  | start =>
    simp only [statusNext] at h
    split at h
    · cases h
      exact .begin (Or.inl rfl)
    · split at h
      · cases h
      · cases h
        exact .lock (Or.inl ⟨rfl, rfl⟩)
  | cache =>
    simp only [statusNext] at h
    cases h
    split
    · exact .fail (Or.inl rfl)
    · exact .begin (Or.inr rfl)
  | read =>
    simp only [statusNext] at h
    cases h
    split
    · exact .fail (Or.inr (Or.inl rfl))
    · exact .read
  | handle ch =>
    simp only [statusNext] at h
    split at h
    · cases h
      exact .fail (Or.inr (Or.inr ⟨ch, rfl⟩))
    · rename_i hupdate
      split at h
      · cases h
      · cases h
        exact .handle hupdate
  | save loaded ch follow =>
    simp only [statusNext] at h
    split at h
    · cases h
      exact .unsaved rfl
    · rename_i hfails
      cases h
      exact .save (by simp at hfails; exact hfails.1) rfl
  | abilities result ticket =>
    simp only [statusNext] at h
    cases h
    split
    · rename_i hfails
      exact .unfollowed hfails
    · rename_i hfails
      exact .abilities (by simpa using hfails)
  | unlock result ticket =>
    simp only [statusNext] at h
    cases h
    split
    · exact .lock (Or.inr ⟨result, ticket, rfl, rfl⟩)
    · exact .leave
  | returned result ticket => cases h

end RaceConfig

/-! ## GetNextEnabledKey -/

def ChannelInfo.keyEnabled (info : ChannelInfo) (i : Nat) : Bool :=
  (info.multiKeyStatusList i).getD channelStatusEnabled == channelStatusEnabled

namespace Channel

def keyAt (raw : RawArray) (ch : Channel) (i : Nat) : String := (ch.getKeys raw).getD i ""

def enabledIdx (raw : RawArray) (ch : Channel) : List Nat :=
  (List.range (ch.getKeys raw).length).filter ch.channelInfo.keyEnabled

/-- The first enabled key from the stored index on. -/
def pollIdx (raw : RawArray) (ch : Channel) (pollingIndex : Int) : Option Nat :=
  let n := (ch.getKeys raw).length
  let start := if pollingIndex < 0 || n ≤ pollingIndex then 0 else pollingIndex.toNat
  ((List.range n).map fun i => (start + i) % n).find? ch.channelInfo.keyEnabled

def setPollingIndex (ch : Channel) (index : Int) : Channel :=
  { ch with channelInfo := { ch.channelInfo with multiKeyPollingIndex := index } }

end Channel

/-- Where a selection stands; `ch` is the object it has loaded. -/
inductive SelectPc where
  | load
  | loaded (ch : Channel)
  | locked (ch : Channel)
  | save (ch : Channel) (index : Nat)
  | returned (result : Option (String × Nat))

/-- One step of a selection on an object from the database. With the memory cache
on the polling index is that of the cached copy, and nothing is written; requests
then select on the cached copy itself, and do not load. -/
def RaceConfig.selectNext (cfg : RaceConfig) (tick : Tick) (s : ChannelStore) :
    SelectPc → Option (ChannelStore × SelectPc)
  | .load => if cfg.memoryCacheEnabled then none else some (s, .loaded s.row)
  | .loaded ch =>
    if !ch.channelInfo.isMultiKey then some (s, .returned (some (ch.key, 0)))
    else if ch.getKeys cfg.raw = [] then some (s, .returned none)
    else if s.pollingLock then none
    else some (s.setPollingLock true, .locked ch)
  | .locked ch =>
    let enabled := ch.enabledIdx cfg.raw
    let leave (i : Nat) : ChannelStore × SelectPc :=
      (s.setPollingLock false, .returned (some (ch.keyAt cfg.raw i, i)))
    if enabled = [] then some (s.setPollingLock false, .returned none)
    else
      match ch.channelInfo.multiKeyMode with
      | .random => some (leave (enabled.getD (tick.draw % enabled.length) 0))
      | .other => some (leave (enabled.getD 0 0))
      | .polling =>
        if tick.fails then some (s.setPollingLock false, .returned none)
        else
          match ch.pollIdx cfg.raw (if cfg.memoryCacheEnabled then tick.draw
            else s.row.channelInfo.multiKeyPollingIndex) with
          | some i =>
            some (s, .save (ch.setPollingIndex ((i + 1) % (ch.getKeys cfg.raw).length)) i)
          | none => some (s, .save ch (enabled.getD 0 0))
  | .save ch i =>
    some ((if cfg.memoryCacheEnabled || tick.fails then s
        else s.saveChannelInfo ch).setPollingLock false,
      .returned (some (ch.keyAt cfg.raw i, i)))
  | .returned _ => none

inductive SelectStep (tick : Tick) (s : ChannelStore) :
    SelectPc → ChannelStore → SelectPc → Prop
  | load : SelectStep tick s .load s (.loaded s.row)
  | lock {ch} : ch.channelInfo.isMultiKey = true →
      SelectStep tick s (.loaded ch) (s.setPollingLock true) (.locked ch)
  | choose {ch ch' i} : ch'.channelInfo.multiKeyStatusList = ch.channelInfo.multiKeyStatusList →
      ch'.channelInfo.isMultiKey = ch.channelInfo.isMultiKey →
      SelectStep tick s (.locked ch) s (.save ch' i)
  | save {ch i result} : tick.fails = false →
      SelectStep tick s (.save ch i) ((s.saveChannelInfo ch).setPollingLock false)
        (.returned result)
  | leave {pc b result} : SelectStep tick s pc (s.setPollingLock b) (.returned result)

variable {tick : Tick} {s s' : ChannelStore} {i : Nat} {raw : RawArray} {row : Channel}

theorem selectStep_of_next {cfg : RaceConfig} {pc pc' : SelectPc}
    (h : cfg.selectNext tick s pc = some (s', pc')) :
    SelectStep tick s pc s' pc' := by
  cases pc with
  | load =>
    simp only [RaceConfig.selectNext] at h
    split at h
    · cases h
    · cases h
      exact .load
  | loaded ch =>
    simp only [RaceConfig.selectNext] at h
    split at h
    · cases h
      exact .leave (b := s.pollingLock)
    · rename_i hmulti
      split at h
      · cases h
        exact .leave (b := s.pollingLock)
      · split at h
        · cases h
        · cases h
          exact .lock (by simpa using hmulti)
  | locked ch =>
    simp only [RaceConfig.selectNext] at h
    split at h
    · cases h
      exact .leave
    · split at h
      · cases h
        exact .leave
      · cases h
        exact .leave
      · split at h
        · cases h
          exact .leave
        · split at h
          · cases h
            exact .choose rfl rfl
          · cases h
            exact .choose rfl rfl
  | save ch i =>
    simp only [RaceConfig.selectNext] at h
    cases h
    split
    · exact .leave
    · rename_i hfails
      exact .save (by simp at hfails; exact hfails.2)
  | returned result => cases h

/-! ## UpdateChannelUsedQuota -/

inductive QuotaPc where
  | start
  | done
  | failed

/-- A `batchUpdate` as far as this channel's entry goes. -/
inductive FlushPc where
  | start
  | write (quota : Int)
  | done
  | failed (quota : Int)

def RaceConfig.quotaNext (cfg : RaceConfig) (quota : Int) (tick : Tick) (s : ChannelStore) :
    QuotaPc → Option (ChannelStore × QuotaPc)
  | .start =>
    if cfg.batchUpdateEnabled then some (s.setPending (s.pending + quota), .done)
    else if tick.fails then some (s, .failed)
    else some (s.addUsedQuota quota, .done)
  | .done | .failed => none

def flushNext (tick : Tick) (s : ChannelStore) : FlushPc → Option (ChannelStore × FlushPc)
  | .start => some (s.setPending 0, .write s.pending)
  | .write quota =>
    some (if tick.fails then (s, .failed quota) else (s.addUsedQuota quota, .done))
  | .done | .failed _ => none

/-! ## All of them together -/

inductive ChannelThread where
  | updateChannelStatus (call : StatusCall) (pc : StatusPc)
  | getNextEnabledKey (pc : SelectPc)
  | updateChannelUsedQuota (quota : Int) (pc : QuotaPc)
  | batchUpdate (pc : FlushPc)

def raceMachine (cfg : RaceConfig) : Sched.Machine ChannelStore ChannelThread Tick where
  next tick s t :=
    match t with
    | .updateChannelStatus call pc =>
      (cfg.statusNext call tick s pc).map fun p => (p.1, .updateChannelStatus call p.2)
    | .getNextEnabledKey pc =>
      (cfg.selectNext tick s pc).map fun p => (p.1, .getNextEnabledKey p.2)
    | .updateChannelUsedQuota quota pc =>
      (cfg.quotaNext quota tick s pc).map fun p => (p.1, .updateChannelUsedQuota quota p.2)
    | .batchUpdate pc => (flushNext tick s pc).map fun p => (p.1, .batchUpdate p.2)

/-- Nothing has begun. -/
def ChannelThread.Starts : ChannelThread → Prop
  | .updateChannelStatus _ pc => pc = .start
  | .getNextEnabledKey pc => pc = .load
  | .updateChannelUsedQuota _ pc => pc = .start
  | .batchUpdate pc => pc = .start

def Channel.store (row : Channel) (abilities : List Ability) : ChannelStore :=
  ⟨row, abilities, false, false, 0, []⟩

inductive RaceStep (cfg : RaceConfig) (tick : Tick) (s : ChannelStore) :
    ChannelThread → ChannelStore → ChannelThread → Prop
  | status {call pc s' pc'} : cfg.StatusStep call tick s pc s' pc' →
      RaceStep cfg tick s (.updateChannelStatus call pc) s' (.updateChannelStatus call pc')
  | select {pc s' pc'} : SelectStep tick s pc s' pc' →
      RaceStep cfg tick s (.getNextEnabledKey pc) s' (.getNextEnabledKey pc')
  | record {quota} : RaceStep cfg tick s (.updateChannelUsedQuota quota .start)
      (s.setPending (s.pending + quota)) (.updateChannelUsedQuota quota .done)
  | add {quota} : RaceStep cfg tick s (.updateChannelUsedQuota quota .start)
      (s.addUsedQuota quota) (.updateChannelUsedQuota quota .done)
  | addFails {quota} : RaceStep cfg tick s (.updateChannelUsedQuota quota .start) s
      (.updateChannelUsedQuota quota .failed)
  | take : RaceStep cfg tick s (.batchUpdate .start) (s.setPending 0)
      (.batchUpdate (.write s.pending))
  | write {quota} : RaceStep cfg tick s (.batchUpdate (.write quota)) (s.addUsedQuota quota)
      (.batchUpdate .done)
  | writeFails {quota} : RaceStep cfg tick s (.batchUpdate (.write quota)) s
      (.batchUpdate (.failed quota))

variable {t t' : ChannelThread}

theorem raceStep_of_next {cfg : RaceConfig} (h : (raceMachine cfg).next tick s t = some (s', t')) :
    RaceStep cfg tick s t s' t' := by
  cases t with
  | updateChannelStatus call pc =>
    simp only [raceMachine, Option.map_eq_some_iff, Prod.mk.injEq] at h
    obtain ⟨⟨s₁, pc'⟩, hn, rfl, rfl⟩ := h
    exact .status (RaceConfig.statusStep_of_next hn)
  | getNextEnabledKey pc =>
    simp only [raceMachine, Option.map_eq_some_iff, Prod.mk.injEq] at h
    obtain ⟨⟨s₁, pc'⟩, hn, rfl, rfl⟩ := h
    exact .select (selectStep_of_next hn)
  | updateChannelUsedQuota quota pc =>
    simp only [raceMachine, Option.map_eq_some_iff, Prod.mk.injEq] at h
    obtain ⟨⟨s₁, pc'⟩, hn, rfl, rfl⟩ := h
    cases pc with
    | start =>
      simp only [RaceConfig.quotaNext] at hn
      split at hn
      · cases hn
        exact .record
      · split at hn <;> cases hn
        · exact .addFails
        · exact .add
    | done => cases hn
    | failed => cases hn
  | batchUpdate pc =>
    simp only [raceMachine, Option.map_eq_some_iff, Prod.mk.injEq] at h
    obtain ⟨⟨s₁, pc'⟩, hn, rfl, rfl⟩ := h
    cases pc with
    | start =>
      cases hn
      exact .take
    | write quota =>
      simp only [flushNext] at hn
      split at hn <;> cases hn
      · exact .writeFails
      · exact .write
    | done => cases hn
    | failed quota => cases hn

/-! ## The used quota -/

/-- What an execution has handed in. -/
def ChannelThread.applied : ChannelThread → Int
  | .updateChannelUsedQuota quota .done => quota
  | _ => 0

/-- What a flush has taken and not written. -/
def ChannelThread.holding : ChannelThread → Int
  | .batchUpdate (.write quota) | .batchUpdate (.failed quota) => quota
  | _ => 0

/-- The object that is about to be saved. -/
def ChannelThread.saving : ChannelThread → Option Channel
  | .updateChannelStatus _ (.save _ ch _) => some ch
  | _ => none

/-- A save writes the `used_quota` that is there. -/
def freshQuota : Sched.Guard ChannelStore ChannelThread Tick :=
  fun c i tick => tick.fails = false → ∀ t ∈ c.threads[i]?, ∀ ch ∈ t.saving,
    ch.usedQuota = c.store.row.usedQuota

instance (c : Sched.Conf ChannelStore ChannelThread) (i : Nat) (tick : Tick) :
    Decidable (freshQuota c i tick) :=
  inferInstanceAs (Decidable (tick.fails = false → ∀ t ∈ c.threads[i]?, ∀ ch ∈ t.saving,
    ch.usedQuota = c.store.row.usedQuota))

theorem RaceStep.quota {cfg : RaceConfig} (h : RaceStep cfg tick s t s' t')
    (hok : tick.fails = false → ∀ ch ∈ t.saving, ch.usedQuota = s.row.usedQuota) :
    s'.row.usedQuota + s'.pending + t'.holding - t'.applied
      = s.row.usedQuota + s.pending + t.holding - t.applied := by
  cases h with
  | status hstep =>
    cases hstep with
    | save hfails =>
      have hsame := hok hfails _ rfl
      simp only [ChannelStore.saveWithoutKey, hsame, ChannelThread.holding, ChannelThread.applied]
    | lock | begin | fail | read | handle | unsaved | abilities | unfollowed | leave => rfl
  | select hstep => cases hstep <;> rfl
  | record =>
    simp only [ChannelStore.setPending, ChannelThread.holding, ChannelThread.applied]
    omega
  | add =>
    simp only [ChannelStore.addUsedQuota, ChannelStore.setRow, ChannelThread.holding,
      ChannelThread.applied]
    omega
  | addFails => rfl
  | take =>
    simp only [ChannelStore.setPending, ChannelThread.holding, ChannelThread.applied]
    omega
  | write =>
    simp only [ChannelStore.addUsedQuota, ChannelStore.setRow, ChannelThread.holding,
      ChannelThread.applied]
    omega
  | writeFails => rfl

/-- The row, the map and the flushes have what was there and what came in. -/
def QuotaInv (initial : Int) (c : Sched.Conf ChannelStore ChannelThread) : Prop :=
  c.store.row.usedQuota + c.store.pending + (c.threads.map ChannelThread.holding).sum
    = initial + (c.threads.map ChannelThread.applied).sum

theorem QuotaInv.start (row : Channel) (abilities : List Ability) {threads : List ChannelThread}
    (hstart : ∀ t ∈ threads, t.Starts) :
    QuotaInv row.usedQuota ⟨row.store abilities, threads⟩ := by
  have hzero : ∀ t ∈ threads, t.holding = 0 ∧ t.applied = 0 := by
    intro t ht
    have hstarts := hstart t ht
    cases t with
    | updateChannelStatus call pc => exact ⟨rfl, rfl⟩
    | getNextEnabledKey pc => exact ⟨rfl, rfl⟩
    | updateChannelUsedQuota quota pc => cases hstarts; exact ⟨rfl, rfl⟩
    | batchUpdate pc => cases hstarts; exact ⟨rfl, rfl⟩
  have hsum : ∀ f : ChannelThread → Int, (∀ t ∈ threads, f t = 0) → (threads.map f).sum = 0 := by
    intro f hf
    refine List.sum_eq_zero ?_
    intro x hx
    obtain ⟨t, ht, rfl⟩ := List.mem_map.mp hx
    exact hf t ht
  unfold QuotaInv
  rw [hsum _ fun t ht => (hzero t ht).1, hsum _ fun t ht => (hzero t ht).2]
  simp [Channel.store]

variable {c : Sched.Conf ChannelStore ChannelThread}

theorem QuotaInv.step {cfg : RaceConfig} {initial : Int} (hI : QuotaInv initial c)
    (hok : freshQuota c i tick) (ht : c.threads[i]? = some t)
    (h : (raceMachine cfg).next tick c.store t = some (s', t')) :
    QuotaInv initial ⟨s', c.threads.set i t'⟩ := by
  have hkeeps := (raceStep_of_next h).quota fun hfails => hok hfails t ht
  have hholding := Sched.sum_threads_set ChannelThread.holding t' ht
  have happlied := Sched.sum_threads_set ChannelThread.applied t' ht
  unfold QuotaInv at hI ⊢
  simp only [hholding, happlied]
  omega

/-- **No usage is lost.** In every run in which a save finds the `used_quota` it
writes, the row ends with what it had and what was handed in, once nothing waits
to be written. -/
theorem usedQuota_conserved {cfg : RaceConfig} {row : Channel} {abilities : List Ability}
    {threads : List ChannelThread} {c : Sched.Conf ChannelStore ChannelThread}
    (hstart : ∀ t ∈ threads, t.Starts)
    (hrun : Sched.Steps (raceMachine cfg) freshQuota ⟨row.store abilities, threads⟩ c)
    (hpending : c.store.pending = 0) (hholding : ∀ t ∈ c.threads, t.holding = 0) :
    c.store.row.usedQuota = row.usedQuota + (c.threads.map ChannelThread.applied).sum := by
  have hinv : QuotaInv row.usedQuota c :=
    Sched.Steps.invariant (QuotaInv.start row abilities hstart)
      (fun hI hok ht h => hI.step hok ht h) hrun
  have hheld : (c.threads.map ChannelThread.holding).sum = 0 := by
    refine List.sum_eq_zero ?_
    intro x hx
    obtain ⟨t, ht, rfl⟩ := List.mem_map.mp hx
    exact hholding t ht
  unfold QuotaInv at hinv
  omega

/-- No cache, no batch. -/
def raceDemo : RaceConfig := ⟨fun _ => none, false, false⟩

def quietTick : Tick := ⟨false, false, 0, 0⟩

/-- A request ends between two disablings of its channel. -/
theorem raceDemo_conserved :
    ∃ c, Sched.Steps (raceMachine raceDemo) freshQuota
        ⟨(twoKeys none).store [], [.updateChannelStatus ⟨"sk-a", 3, "401"⟩ .start,
          .updateChannelUsedQuota 500 .start, .updateChannelStatus ⟨"sk-b", 3, "401"⟩ .start]⟩ c ∧
      c.store.row.usedQuota = 0 + (c.threads.map ChannelThread.applied).sum ∧
      c.store.row.usedQuota = 500 ∧ c.store.row.status = 3 := by
  have hrun : ∃ c, Sched.Steps (raceMachine raceDemo) freshQuota
        ⟨(twoKeys none).store [], [.updateChannelStatus ⟨"sk-a", 3, "401"⟩ .start,
          .updateChannelUsedQuota 500 .start, .updateChannelStatus ⟨"sk-b", 3, "401"⟩ .start]⟩ c ∧
      c.store.pending = 0 ∧ (∀ t ∈ c.threads, t.holding = 0) ∧
      c.store.row.usedQuota = 500 ∧ c.store.row.status = 3 :=
    Sched.exists_of_run ([0, 0, 0, 0, 1, 2, 2, 2, 2, 2, 2, 0].map (·, quietTick)) (by decide)
  obtain ⟨c, hrun, hpending, hholding, hend⟩ := hrun
  refine ⟨c, hrun, usedQuota_conserved ?_ hrun hpending hholding, hend⟩
  intro t ht
  fin_cases ht <;> rfl

/-- The increment falls between the read and the save of a status change. -/
theorem increment_lost :
    ∃ c, Sched.Steps (raceMachine raceDemo) Sched.free
        ⟨(twoKeys none).store [], [.updateChannelStatus ⟨"sk-a", 3, "401"⟩ .start,
          .updateChannelUsedQuota 500 .start]⟩ c ∧
      c.store.row.usedQuota = 0 ∧ c.store.pending = 0 ∧
      (c.threads.map ChannelThread.applied).sum = 500 :=
  Sched.exists_of_run ([0, 0, 1, 0, 0, 0].map (·, quietTick)) (by decide)

/-! ## The status of a key -/

/-- The object whose key status is about to be written, as it was loaded. -/
def ChannelThread.writesKeys : ChannelThread → Option Channel
  | .updateChannelStatus _ (.save loaded _ _) => some loaded
  | .getNextEnabledKey (.save ch _) => some ch
  | _ => none

/-- Every key that the row has disabled is disabled in the object as it was
loaded. -/
def freshKeys (raw : RawArray) : Sched.Guard ChannelStore ChannelThread Tick :=
  fun c i tick => tick.fails = false → ∀ t ∈ c.threads[i]?, ∀ ch ∈ t.writesKeys,
    ∀ k ∈ List.range (c.store.row.getKeys raw).length,
      c.store.row.channelInfo.keyEnabled k = false → ch.channelInfo.keyEnabled k = false

instance (raw : RawArray) (c : Sched.Conf ChannelStore ChannelThread) (i : Nat) (tick : Tick) :
    Decidable (freshKeys raw c i tick) :=
  inferInstanceAs (Decidable (tick.fails = false → ∀ t ∈ c.threads[i]?, ∀ ch ∈ t.writesKeys,
    ∀ k ∈ List.range (c.store.row.getKeys raw).length,
      c.store.row.channelInfo.keyEnabled k = false → ch.channelInfo.keyEnabled k = false))

theorem updateStatus_keyEnabled {now : Int} {ch ch' : Channel} {call : StatusCall} {follow : Bool}
    (hmulti : ch.channelInfo.isMultiKey = true)
    (h : ch.updateStatus raw now call = some (ch', follow)) :
    ch'.channelInfo.isMultiKey = true ∧ ∀ k, ch'.channelInfo.keyEnabled k =
      if (ch.getKeys raw).idxOf? call.usingKey = some k then call.status == channelStatusEnabled
      else ch.channelInfo.keyEnabled k := by
  have hch' : ch' = ch.handlerMultiKeyUpdate raw now call := by
    unfold Channel.updateStatus at h
    rw [if_pos hmulti] at h
    split at h
    · cases h
    · cases h
      rfl
  subst hch'
  refine ⟨(handlerMultiKeyUpdate_isMultiKey raw now ch call).trans hmulti, ?_⟩
  intro k
  cases hfind : (ch.getKeys raw).idxOf? call.usingKey with
  | none =>
    rw [(handlerMultiKeyUpdate_missing now hfind).1]
    rfl
  | some i =>
    unfold ChannelInfo.keyEnabled
    rw [(handlerMultiKeyUpdate_found now hfind).1, setKeyStatus_statusList]
    by_cases hk : i = k
    · subst hk
      rw [Function.update_self, if_pos rfl]
      split
      · rename_i henable
        rw [henable]
        rfl
      · rfl
    · rw [Function.update_of_ne (Ne.symm hk), if_neg (fun heq => hk (Option.some.inj heq))]

/-- What a call knows of its channel and, once it has saved, of its change. -/
def StatusPc.Knows (raw : RawArray) (row : Channel) (call : StatusCall)
    (changes : List KeyChange) : StatusPc → Prop
  | .handle ch => ch.key = row.key ∧ ch.channelInfo.isMultiKey = true
  | .save loaded ch _ => loaded.key = row.key ∧ loaded.channelInfo.isMultiKey = true ∧
      ∃ now follow, loaded.updateStatus raw now call = some (ch, follow)
  | .abilities result ticket | .unlock result ticket | .returned result ticket =>
    result = true → ∀ k, (row.getKeys raw).idxOf? call.usingKey = some k →
      changes[ticket]? = some ⟨k, call.status⟩
  | _ => True

def ChannelThread.Knows (raw : RawArray) (row : Channel) (changes : List KeyChange) :
    ChannelThread → Prop
  | .updateChannelStatus call pc => pc.Knows raw row call changes
  | .getNextEnabledKey (.locked ch) | .getNextEnabledKey (.save ch _) =>
    ch.channelInfo.isMultiKey = true
  | _ => True

theorem ChannelThread.Knows.append {changes : List KeyChange} (h : t.Knows raw row changes)
    (more : List KeyChange) :
    t.Knows raw row (changes ++ more) := by
  cases t with
  | updateChannelStatus call pc =>
    cases pc with
    | abilities result ticket | unlock result ticket | returned result ticket =>
      intro hresult k hk
      have hentry := h hresult k hk
      rwa [List.getElem?_append_left (List.getElem?_eq_some_iff.mp hentry).1]
    | start | cache | read | handle | save => exact h
  | getNextEnabledKey pc => cases pc <;> exact h
  | updateChannelUsedQuota | batchUpdate => exact h

/-- The change at `n` holds still, or one that enables the key has come after it. -/
def ChannelStore.Kept (s : ChannelStore) (n k : Nat) : Prop :=
  s.row.channelInfo.keyEnabled k = false ∨
    ∃ later > n, s.changes[later]? = some ⟨k, channelStatusEnabled⟩

structure KeyInv (raw : RawArray) (row : Channel) (c : Sched.Conf ChannelStore ChannelThread) :
    Prop where
  key : c.store.row.key = row.key
  multi : c.store.row.channelInfo.isMultiKey = true
  threads : ∀ t ∈ c.threads, t.Knows raw row c.store.changes
  range : ∀ change ∈ c.store.changes, change.index < (row.getKeys raw).length
  kept : ∀ n k status, c.store.changes[n]? = some ⟨k, status⟩ → status ≠ channelStatusEnabled →
    c.store.Kept n k

theorem KeyInv.quiet (h : KeyInv raw row c) (hkey : s'.row.key = c.store.row.key)
    (hinfo : s'.row.channelInfo = c.store.row.channelInfo) (hchanges : s'.changes = c.store.changes)
    (ht' : t'.Knows raw row c.store.changes) :
    KeyInv raw row ⟨s', c.threads.set i t'⟩ where
  key := hkey.trans h.key
  multi := by
    show s'.row.channelInfo.isMultiKey = true
    rw [hinfo]
    exact h.multi
  threads := by
    show ∀ t ∈ c.threads.set i t', t.Knows raw row s'.changes
    rw [hchanges]
    exact Sched.forall_threads_set h.threads ht'
  range := by
    show ∀ change ∈ s'.changes, change.index < (row.getKeys raw).length
    rw [hchanges]
    exact h.range
  kept := by
    intro n k status hn hstatus
    have hkept := h.kept n k status (hchanges ▸ hn) hstatus
    unfold ChannelStore.Kept at hkept ⊢
    rw [hinfo, hchanges]
    exact hkept

theorem change_cases {changes : List KeyChange} {found : Option Nat} {status : Int} {n : Nat}
    {change : KeyChange}
    (h : (changes ++ found.toList.map fun k => ⟨k, status⟩)[n]? = some change) :
    changes[n]? = some change ∨
      n = changes.length ∧ found = some change.index ∧ change.status = status := by
  by_cases hn : n < changes.length
  · rw [List.getElem?_append_left hn] at h
    exact Or.inl h
  · rw [List.getElem?_append_right (by omega)] at h
    cases found with
    | none => simp at h
    | some k =>
      simp only [Option.toList_some, List.map_cons, List.map_nil,
        List.getElem?_singleton, Option.ite_none_right_eq_some, Option.some.injEq] at h
      obtain ⟨hzero, rfl⟩ := h
      exact Or.inr ⟨by omega, rfl, rfl⟩

theorem KeyInv.save {raw : RawArray} {row : Channel} {c : Sched.Conf ChannelStore ChannelThread}
    {i : Nat} {t' : ChannelThread} {call : StatusCall} {loaded ch : Channel} (follow : Bool)
    (h : KeyInv raw row c)
    (hknows : (StatusPc.save loaded ch follow).Knows raw row call c.store.changes)
    (hfresh : ∀ k < (row.getKeys raw).length, c.store.row.channelInfo.keyEnabled k = false →
      loaded.channelInfo.keyEnabled k = false)
    (ht' : t'.Knows raw row (c.store.changes ++ loaded.keyChange raw call)) :
    KeyInv raw row
      ⟨c.store.saveWithoutKey ch (loaded.keyChange raw call), c.threads.set i t'⟩ := by
  obtain ⟨hkey, hmulti, now, follow', hupdate⟩ := hknows
  obtain ⟨hmulti', henabled⟩ := updateStatus_keyEnabled hmulti hupdate
  rw [getKeys_congr hkey] at henabled
  have hchange : loaded.keyChange raw call =
      ((row.getKeys raw).idxOf? call.usingKey).toList.map fun k => ⟨k, call.status⟩ := by
    rw [Channel.keyChange, if_pos hmulti, getKeys_congr hkey]
  refine ⟨h.key, hmulti', ?_, ?_, ?_⟩
  · exact Sched.forall_threads_set (fun t ht => (h.threads t ht).append _) ht'
  · intro change hmem
    obtain hold | hnew := List.mem_append.mp hmem
    · exact h.range change hold
    · rw [hchange] at hnew
      obtain ⟨k, hk, rfl⟩ := List.mem_map.mp hnew
      exact idxOf?_lt (Option.mem_toList.mp hk)
  · intro n k status hn hstatus
    show ch.channelInfo.keyEnabled k = false ∨
      ∃ later > n, (c.store.changes ++ loaded.keyChange raw call)[later]?
        = some ⟨k, channelStatusEnabled⟩
    have hn : (c.store.changes ++ loaded.keyChange raw call)[n]? = some ⟨k, status⟩ := hn
    rw [henabled k]
    rw [hchange] at hn ⊢
    obtain hold | ⟨-, hfind, rfl⟩ := change_cases hn
    · have hlt := (List.getElem?_eq_some_iff.mp hold).1
      obtain hdisabled | ⟨later, hlater, hentry⟩ := h.kept n k status hold hstatus
      · by_cases hfind : (row.getKeys raw).idxOf? call.usingKey = some k
        · rw [if_pos hfind, hfind]
          by_cases henables : call.status = channelStatusEnabled
          · -- the call enables the key, and its change is the last
            refine Or.inr ⟨c.store.changes.length, hlt, ?_⟩
            rw [List.getElem?_append_right (le_refl _), Nat.sub_self, henables]
            rfl
          · exact Or.inl (beq_eq_false_iff_ne.mpr henables)
        · rw [if_neg hfind]
          exact Or.inl (hfresh k (h.range _ (List.mem_of_getElem? hold)) hdisabled)
      · refine Or.inr ⟨later, hlater, ?_⟩
        rwa [List.getElem?_append_left (List.getElem?_eq_some_iff.mp hentry).1]
    · rw [if_pos hfind]
      exact Or.inl (beq_eq_false_iff_ne.mpr hstatus)

theorem KeyInv.saveChannelInfo {ch : Channel} {b : Bool} (h : KeyInv raw row c)
    (hmulti : ch.channelInfo.isMultiKey = true) (hfresh : ∀ k < (row.getKeys raw).length,
      c.store.row.channelInfo.keyEnabled k = false → ch.channelInfo.keyEnabled k = false)
    (ht' : t'.Knows raw row c.store.changes) :
    KeyInv raw row ⟨(c.store.saveChannelInfo ch).setPollingLock b, c.threads.set i t'⟩ where
  key := h.key
  multi := hmulti
  threads := Sched.forall_threads_set h.threads ht'
  range := h.range
  kept := by
    intro n k status hn hstatus
    obtain hdisabled | hlater := h.kept n k status hn hstatus
    · exact Or.inl (hfresh k (h.range _ (List.mem_of_getElem? hn)) hdisabled)
    · exact Or.inr hlater

theorem KeyInv.step {cfg : RaceConfig} (h : KeyInv cfg.raw row c) (hok : freshKeys cfg.raw c i tick)
    (ht : c.threads[i]? = some t) (hn : (raceMachine cfg).next tick c.store t = some (s', t')) :
    KeyInv cfg.raw row ⟨s', c.threads.set i t'⟩ := by
  have hknows := h.threads t (List.mem_of_getElem? ht)
  have hfresh : tick.fails = false → ∀ ch ∈ t.writesKeys, ∀ k < (row.getKeys cfg.raw).length,
      c.store.row.channelInfo.keyEnabled k = false → ch.channelInfo.keyEnabled k = false := by
    intro hfails ch hch k hk
    rw [← getKeys_congr h.key] at hk
    exact hok hfails t ht ch hch k (List.mem_range.mpr hk)
  have hstep := raceStep_of_next hn
  cases hstep with
  | status hstep =>
    cases hstep with
    | lock hpc =>
      refine h.quiet rfl rfl rfl ?_
      obtain ⟨rfl, rfl⟩ | ⟨result, ticket, rfl, rfl⟩ := hpc
      · trivial
      · exact hknows
    | begin => exact h.quiet rfl rfl rfl trivial
    | fail => exact h.quiet rfl rfl rfl nofun
    | read => exact h.quiet rfl rfl rfl ⟨h.key, h.multi⟩
    | handle hupdate => exact h.quiet rfl rfl rfl ⟨hknows.1, hknows.2, tick.now, _, hupdate⟩
    | save hfails hpc =>
      rename_i call pc' loaded ch follow
      refine KeyInv.save follow h hknows (hfresh hfails _ rfl) ?_
      obtain ⟨hkey, hmulti, -⟩ := hknows
      have hticket : ∀ k, (row.getKeys cfg.raw).idxOf? call.usingKey = some k →
          (c.store.changes ++ loaded.keyChange cfg.raw call)[c.store.changes.length]?
            = some ⟨k, call.status⟩ := by
        intro k hk
        rw [Channel.keyChange, if_pos hmulti, getKeys_congr hkey, hk,
          List.getElem?_append_right (le_refl _), Nat.sub_self]
        rfl
      subst hpc
      split <;> exact fun _ => hticket
    | unsaved hpc =>
      refine h.quiet rfl rfl rfl ?_
      subst hpc
      split <;> exact nofun
    | abilities => exact h.quiet rfl rfl rfl hknows
    | unfollowed => exact h.quiet rfl rfl rfl hknows
    | leave => exact h.quiet rfl rfl rfl hknows
  | select hstep =>
    cases hstep with
    | load => exact h.quiet rfl rfl rfl trivial
    | lock hmulti => exact h.quiet rfl rfl rfl hmulti
    | choose hlist hmulti => exact h.quiet rfl rfl rfl (hmulti.trans hknows)
    | save hfails => exact h.saveChannelInfo hknows (hfresh hfails _ rfl) trivial
    | leave => exact h.quiet rfl rfl rfl trivial
  | record => exact h.quiet rfl rfl rfl trivial
  | add => exact h.quiet rfl rfl rfl trivial
  | addFails => exact h.quiet rfl rfl rfl trivial
  | take => exact h.quiet rfl rfl rfl trivial
  | write => exact h.quiet rfl rfl rfl trivial
  | writeFails => exact h.quiet rfl rfl rfl trivial

theorem KeyInv.start (abilities : List Ability) {threads : List ChannelThread}
    (hmulti : row.channelInfo.isMultiKey = true) (hstart : ∀ t ∈ threads, t.Starts) :
    KeyInv raw row ⟨row.store abilities, threads⟩ where
  key := rfl
  multi := hmulti
  threads := by
    intro t ht
    have hstarts := hstart t ht
    cases t with
    | updateChannelStatus call pc => cases hstarts; trivial
    | getNextEnabledKey pc => cases hstarts; trivial
    | updateChannelUsedQuota | batchUpdate => trivial
  range := nofun
  kept := nofun

/-- **A disabled key stays disabled.** In every run in which what is written back
has every key disabled that the row has, a call that has returned true after
disabling a key has left its mark among the changes, and the key is disabled
unless a later change has enabled it. -/
theorem key_stays_disabled {cfg : RaceConfig} {row : Channel} {abilities : List Ability}
    {threads : List ChannelThread} {c : Sched.Conf ChannelStore ChannelThread}
    (hmulti : row.channelInfo.isMultiKey = true) (hstart : ∀ t ∈ threads, t.Starts)
    (hrun : Sched.Steps (raceMachine cfg) (freshKeys cfg.raw) ⟨row.store abilities, threads⟩ c)
    {call : StatusCall} {ticket k : Nat}
    (hcall : .updateChannelStatus call (.returned true ticket) ∈ c.threads)
    (hdisables : call.status ≠ channelStatusEnabled)
    (hk : (row.getKeys cfg.raw).idxOf? call.usingKey = some k) :
    c.store.changes[ticket]? = some ⟨k, call.status⟩ ∧
      (c.store.row.channelInfo.keyEnabled k = false ∨
        ∃ later > ticket, c.store.changes[later]? = some ⟨k, channelStatusEnabled⟩) := by
  have hinv : KeyInv cfg.raw row c :=
    Sched.Steps.invariant (KeyInv.start abilities hmulti hstart)
      (fun hI hok ht h => hI.step hok ht h) hrun
  have hmark := hinv.threads _ hcall rfl k hk
  exact ⟨hmark, hinv.kept ticket k call.status hmark hdisables⟩

/-- What a call has returned, and its ticket. -/
def ChannelThread.result : ChannelThread → Option (StatusCall × Bool × Nat)
  | .updateChannelStatus call (.returned result ticket) => some (call, result, ticket)
  | _ => none

theorem eq_of_result {call : StatusCall} {result : Bool} {ticket : Nat}
    (h : t.result = some (call, result, ticket)) :
    t = .updateChannelStatus call (.returned result ticket) := by
  unfold ChannelThread.result at h
  split at h
  · cases h
    rfl
  · cases h

def keyRaceThreads : List ChannelThread :=
  [.getNextEnabledKey .load, .updateChannelStatus ⟨"sk-a", 3, "401"⟩ .start,
    .getNextEnabledKey .load]

/-- A key is disabled between two selections. -/
theorem keyRace_disabled :
    ∃ c, Sched.Steps (raceMachine raceDemo) (freshKeys raceDemo.raw)
        ⟨(twoKeys none).store [], keyRaceThreads⟩ c ∧
      (c.store.changes[0]? = some ⟨0, 3⟩ ∧ (c.store.row.channelInfo.keyEnabled 0 = false ∨
        ∃ later > 0, c.store.changes[later]? = some ⟨0, channelStatusEnabled⟩)) ∧
      c.store.row.channelInfo.keyEnabled 0 = false := by
  have hrun : ∃ c, Sched.Steps (raceMachine raceDemo) (freshKeys raceDemo.raw)
        ⟨(twoKeys none).store [], keyRaceThreads⟩ c ∧
      (∃ t ∈ c.threads, t.result = some (⟨"sk-a", 3, "401"⟩, true, 0)) ∧
      c.store.row.channelInfo.keyEnabled 0 = false :=
    Sched.exists_of_run ([0, 0, 0, 0, 1, 1, 1, 1, 1, 2, 2, 2, 2].map (·, quietTick)) (by decide)
  obtain ⟨c, hrun, ⟨t, ht, hresult⟩, hkey⟩ := hrun
  refine ⟨c, hrun, key_stays_disabled rfl ?_ hrun (eq_of_result hresult ▸ ht) (by decide)
    (by decide), hkey⟩
  intro t ht
  fin_cases ht <;> rfl

/-- The same call between the loading of the object and the saving of its index:
it has returned true, and the key is enabled again. -/
theorem disabled_key_enabled :
    ∃ c, Sched.Steps (raceMachine raceDemo) Sched.free
        ⟨(twoKeys none).store [], keyRaceThreads⟩ c ∧
      (∃ t ∈ c.threads, t.result = some (⟨"sk-a", 3, "401"⟩, true, 0)) ∧
      (twoKeys none).getKeys raceDemo.raw = ["sk-a", "sk-b"] ∧
      c.store.changes = [⟨0, 3⟩] ∧ c.store.row.channelInfo.keyEnabled 0 = true :=
  Sched.exists_of_run ([0, 1, 1, 1, 1, 1, 0, 0, 0].map (·, quietTick)) (by decide)

end YouBox.ChannelDB
