import YouBox.RateLimit

/-!
# The memory limiter over a whole history

`InMemoryRateLimiter` keeps a queue of times for each key. Requests of all keys
and the sweeps of `clearExpiredItems` come in any order; the mutex makes one of
them at a time, and so a history is a list of them. The clock is
`time.Now().Unix()`, in whole seconds.

`Keeps` relates the queues to the times at which each key was let in: they are
the newest of these, and those that are gone count no more (`SlidingWindow.Holds`),
and each was let in when there was room (`Admitted`). A sweep and a request keep
it (`Keeps.sweep`, `Keeps.request`), and so does a history (`Keeps.run`), from
which `limiter_exact` is read off.
-/

namespace YouBox.RateLimit

open SlidingWindow

/-- What callers pass for a key: requests at most, within so many seconds. -/
structure Rule where
  maxRequestNum : Int
  duration : Int

/-- A call at a time, in nanoseconds. -/
inductive Call where
  | request (key : String) (time : Int)
  | sweep (time : Int)

def Call.time : Call → Int
  | .request _ time => time
  | .sweep time => time

/-- What was answered to a request, and the second in which it came. -/
structure Answer where
  key : String
  now : Int
  accepted : Bool

/-- One call; `none` is a panic. -/
def callStep (expiration : Int) (rules : String → Rule) (store : MemoryStore) :
    Call → Option (List Answer × MemoryStore)
  | .sweep time => some ([], store.clearExpiredItems expiration time)
  | .request key time =>
    match store.request key (rules key).maxRequestNum (rules key).duration (unix time) with
    | none => none
    | some (accepted, store) => some ([⟨key, unix time, accepted⟩], store)

/-- The answers to a history of calls, in order. -/
def callRun (expiration : Int) (rules : String → Rule) :
    MemoryStore → List Call → Option (List Answer)
  | _, [] => some []
  | store, call :: calls =>
    match callStep expiration rules store call with
    | none => none
    | some (answers, store) => (callRun expiration rules store calls).map (answers ++ ·)

/-- When the requests of a key were accepted, oldest first. -/
def acceptedTimes (key : String) (answers : List Answer) : List Int :=
  (answers.filter fun a => a.key = key ∧ a.accepted = true).map Answer.now

/-- `int64(expirationDuration.Seconds())`. -/
def expirationSeconds (expirationDuration : Int) : Int := expirationDuration.tdiv 1000000000

/-! ## What is kept -/

/-- The queues after the answers given so far. -/
structure Keeps (rules : String → Rule) (time : Int) (store : MemoryStore)
    (answers : List Answer) : Prop where
  nonempty : store.Nonempty
  holds : ∀ key, Holds (rules key).maxRequestNum.toNat (rules key).duration (unix time)
    (store.times key) (acceptedTimes key answers).reverse
  admitted : ∀ key, Admitted (rules key).maxRequestNum.toNat (rules key).duration
    (acceptedTimes key answers).reverse

variable {rules : String → Rule} {expiration time : Int} {store : MemoryStore}
  {answers : List Answer}

theorem acceptedTimes_append (key : String) (xs ys : List Answer) :
    acceptedTimes key (xs ++ ys) = acceptedTimes key xs ++ acceptedTimes key ys := by
  simp [acceptedTimes]

variable {a : Answer}

theorem acceptedTimes_refused (key : String) (h : a.accepted = false) :
    acceptedTimes key [a] = [] := by
  simp [acceptedTimes, h]

theorem acceptedTimes_self (h : a.accepted = true) : acceptedTimes a.key [a] = [a.now] := by
  simp [acceptedTimes, h]

theorem acceptedTimes_other {key : String} (h : a.key ≠ key) : acceptedTimes key [a] = [] := by
  simp [acceptedTimes, h]

theorem Keeps.sweep {now : Int} (h : Keeps rules time store answers) (hle : time ≤ now)
    (hmax : ∀ key, 1 ≤ (rules key).maxRequestNum)
    (hduration : ∀ key, (rules key).duration ≤ expiration) :
    Keeps rules now (store.clearExpiredItems expiration now) answers := by
  refine ⟨clearExpiredItems_nonempty h.nonempty, fun key => ?_, h.admitted⟩
  have hpositive := hmax key
  exact clearExpiredItems_holds key h.nonempty le_rfl (by omega) (hduration key)
    ((h.holds key).later (unix_mono hle))

theorem Keeps.request {now : Int} (h : Keeps rules time store answers) (hle : time ≤ now)
    (hmax : ∀ key, 1 ≤ (rules key).maxRequestNum) (key : String) :
    ∃ accepted store',
      store.request key (rules key).maxRequestNum (rules key).duration (unix now)
        = some (accepted, store') ∧
      (accepted = true ↔ within (rules key).duration (unix now) (acceptedTimes key answers)
        < (rules key).maxRequestNum) ∧
      Keeps rules now store' (answers ++ [⟨key, unix now, accepted⟩]) := by
  have hpositive := hmax key
  have hlimit : max 1 (rules key).maxRequestNum = (rules key).maxRequestNum := by omega
  have hlater : ∀ other, Holds (rules other).maxRequestNum.toNat (rules other).duration
      (unix now) (store.times other) (acceptedTimes other answers).reverse :=
    fun other => (h.holds other).later (unix_mono hle)
  have hcount : within (rules key).duration (unix now) (acceptedTimes key answers).reverse
      = within (rules key).duration (unix now) (acceptedTimes key answers) :=
    List.countP_reverse
  have hnonneg : 0 ≤ (rules key).maxRequestNum := by omega
  have hrequest := request_spec hnonneg h.nonempty (by rw [hlimit]; exact hlater key)
  rw [hlimit, hcount] at hrequest
  rcases hrequest with ⟨hrefused, hfull⟩ | ⟨store', haccepted, hroom, hrecorded⟩
  · refine ⟨false, store, hrefused, iff_of_false Bool.noConfusion (by omega), h.nonempty,
      fun other => ?_, fun other => ?_⟩
    · rw [acceptedTimes_append, acceptedTimes_refused other rfl, List.append_nil]
      exact hlater other
    · rw [acceptedTimes_append, acceptedTimes_refused other rfl, List.append_nil]
      exact h.admitted other
  · refine ⟨true, store', haccepted, iff_of_true rfl (by omega), hrecorded.nonempty,
      fun other => ?_, fun other => ?_⟩
    · by_cases hother : key = other
      · subst hother
        rw [acceptedTimes_append, acceptedTimes_self (a := ⟨key, unix now, true⟩) rfl,
          List.reverse_append, hrecorded.times]
        exact (hlater key).push le_rfl
      · rw [acceptedTimes_append, acceptedTimes_other hother, List.append_nil]
        unfold MemoryStore.times
        rw [hrecorded.others other (Ne.symm hother)]
        exact hlater other
    · by_cases hother : key = other
      · subst hother
        rw [acceptedTimes_append, acceptedTimes_self (a := ⟨key, unix now, true⟩) rfl,
          List.reverse_append]
        have hfewer : within (rules key).duration (unix now) (acceptedTimes key answers).reverse
            < (rules key).maxRequestNum.toNat := by omega
        exact ⟨hfewer, h.admitted key⟩
      · rw [acceptedTimes_append, acceptedTimes_other hother, List.append_nil]
        exact h.admitted other

/-! ## Histories -/

/-- Every answer is the one the answers before it call for. -/
def Exact (rules : String → Rule) (answers : List Answer) : Prop :=
  ∀ before a after, answers = before ++ a :: after →
    (a.accepted = true ↔ within (rules a.key).duration a.now (acceptedTimes a.key before)
      < (rules a.key).maxRequestNum)

theorem Exact.snoc (h : Exact rules answers)
    (ha : a.accepted = true ↔ within (rules a.key).duration a.now (acceptedTimes a.key answers)
      < (rules a.key).maxRequestNum) : Exact rules (answers ++ [a]) := by
  intro before b after hsplit
  rcases List.eq_nil_or_concat after with rfl | ⟨after', last, rfl⟩
  · obtain ⟨rfl, hb⟩ := List.append_inj' hsplit rfl
    obtain rfl := List.singleton_inj.mp hb
    exact ha
  · rw [List.concat_eq_append, ← List.cons_append, ← List.append_assoc] at hsplit
    exact h before b after' (List.append_inj' hsplit rfl).1

/-- What the calls ask for. -/
def Call.asks : Call → Option (String × Int)
  | .request key time => some (key, unix time)
  | .sweep _ => none

theorem Keeps.run {calls : List Call} (h : Keeps rules time store answers)
    (hexact : Exact rules answers)
    (hmax : ∀ key, 1 ≤ (rules key).maxRequestNum)
    (hduration : ∀ key, (rules key).duration ≤ expiration)
    (hclock : List.IsChain (· ≤ ·) (time :: calls.map Call.time)) :
    ∃ later, callRun expiration rules store calls = some later ∧
      later.map (fun a => (a.key, a.now)) = calls.filterMap Call.asks ∧
      Exact rules (answers ++ later) ∧
      ∀ key, Admitted (rules key).maxRequestNum.toNat (rules key).duration
        (acceptedTimes key (answers ++ later)).reverse := by
  induction calls generalizing time store answers with
  | nil =>
    refine ⟨[], rfl, rfl, ?_⟩
    rw [List.append_nil]
    exact ⟨hexact, h.admitted⟩
  | cons call calls ih =>
    rw [List.map_cons, List.isChain_cons_cons] at hclock
    obtain ⟨hle, hclock⟩ := hclock
    cases call with
    | sweep now =>
      have hnow : time ≤ now := hle
      obtain ⟨later, hrun, hasked, hrest⟩ := ih (h.sweep hnow hmax hduration) hexact hclock
      refine ⟨later, ?_, hasked, hrest⟩
      simp only [callRun, callStep]
      rw [hrun]
      rfl
    | request key now =>
      have hnow : time ≤ now := hle
      obtain ⟨accepted, store', hrequest, hroom, hkeeps⟩ := h.request hnow hmax key
      obtain ⟨later, hrun, hasked, hrest⟩ := ih hkeeps (hexact.snoc hroom) hclock
      refine ⟨⟨key, unix now, accepted⟩ :: later, ?_, ?_, ?_⟩
      · simp only [callRun, callStep, hrequest]
        rw [hrun]
        rfl
      · simp [Call.asks, hasked]
      · rw [List.append_cons]
        exact hrest

/-- **The limiter is exact.** From the empty store, whatever the order of requests
and sweeps, every request is answered; no window `[t, t + duration)` holds more
accepted requests of a key than its maximum; and a request is accepted if and only
if fewer than the maximum were accepted within the last `duration` seconds. -/
theorem limiter_exact (rules : String → Rule) (expirationDuration : Int) (calls : List Call)
    (hmax : ∀ key, 1 ≤ (rules key).maxRequestNum)
    (hduration : ∀ key, (rules key).duration * 1000000000 ≤ expirationDuration)
    (hclock : List.IsChain (· ≤ ·) (calls.map Call.time)) :
    ∃ answers,
      callRun (expirationSeconds expirationDuration) rules (fun _ => none) calls = some answers ∧
      answers.map (fun a => (a.key, a.now)) = calls.filterMap Call.asks ∧
      (∀ key start, inWindow (rules key).duration start (acceptedTimes key answers)
        ≤ (rules key).maxRequestNum) ∧
      Exact rules answers := by
  obtain ⟨time, hchain⟩ : ∃ time, List.IsChain (· ≤ ·) (time :: calls.map Call.time) := by
    cases calls with
    | nil => exact ⟨0, List.isChain_singleton 0⟩
    | cons call calls => exact ⟨call.time, List.isChain_cons_cons.mpr ⟨le_rfl, hclock⟩⟩
  have hseconds : ∀ key, (rules key).duration ≤ expirationSeconds expirationDuration := by
    intro key
    have hkey := hduration key
    unfold expirationSeconds
    have hsign : Int.sign 1000000000 = 1 := rfl
    rw [Int.tdiv_eq_ediv, hsign]
    split <;> omega
  have hstart : Keeps rules time (fun _ => none) [] :=
    ⟨fun _ _ hqueue => absurd hqueue.symm (Option.some_ne_none _), fun _ => holds_nil _ _ _,
      fun _ => trivial⟩
  have hnone : Exact rules [] := fun before a after hsplit => by simp at hsplit
  obtain ⟨answers, hrun, hasked, hexact, hadmitted⟩ :=
    hstart.run hnone hmax hseconds hchain
  refine ⟨answers, hrun, hasked, fun key start => ?_, hexact⟩
  have hwindow := (hadmitted key).inWindow_le start
  have hreverse : inWindow (rules key).duration start (acceptedTimes key ([] ++ answers)).reverse
      = inWindow (rules key).duration start (acceptedTimes key answers) :=
    List.countP_reverse
  have hpositive := hmax key
  omega

/-! Two requests within three seconds, the sweep between them keeps the queue. -/

def twoInThree : Rule := ⟨2, 3⟩

def threeCalls : List Call :=
  [.request "ip" 1000000000, .request "ip" 2500000000, .sweep 3000000000,
    .request "ip" 3999999999, .request "ip" 4000000000]

theorem threeCalls_exact :
    ∃ answers, callRun (expirationSeconds 3000000000) (fun _ => twoInThree) (fun _ => none)
        threeCalls = some answers ∧
      answers.map (fun a => (a.key, a.now)) = threeCalls.filterMap Call.asks ∧
      (∀ key start, inWindow twoInThree.duration start (acceptedTimes key answers)
        ≤ twoInThree.maxRequestNum) ∧
      Exact (fun _ => twoInThree) answers :=
  limiter_exact (fun _ => twoInThree) 3000000000 threeCalls (fun _ => by decide)
    (fun _ => by decide) (by decide)

end YouBox.RateLimit
