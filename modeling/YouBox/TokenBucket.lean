import YouBox.Bucket

/-!
# The token bucket of the total limit

`rate_limit.lua` keeps a bucket under a key of Redis: its tokens, and the second
in which it was last used. The script runs atomically, so that what happens to a
key is a list of executions, and of losses of the key, which the script itself
never causes (its `EXPIRE` is commented out) but is written for.

Lua computes in doubles. Of whole numbers these are rounded to 53 bits
(`toDouble`), and a rounded number stays on its side of `2 ^ 53`
(`toDouble_side`); a capacity below that is therefore refilled exactly
(`refill_eq`), and the script is a bucket of the library (`rateLimit_eq`,
`runScript_entries`). `bucket_bounds` is what follows for a whole history.
-/

namespace YouBox.TokenBucket

open Bucket (Op Level)

/-! ## Numbers -/

/-- The double nearest to a natural number, ties to even. -/
def nearestDouble (n : Nat) : Nat :=
  let unit := 2 ^ (n.log2 - 52)
  if 2 * (n % unit) < unit ∨ (2 * (n % unit) = unit ∧ n / unit % 2 = 0) then n / unit * unit
  else (n / unit + 1) * unit

def toDouble (n : Int) : Int := n.sign * nearestDouble n.natAbs

theorem nearestDouble_of_lt {n : Nat} (h : n < 2 ^ 53) : nearestDouble n = n := by
  have hlog : n.log2 - 52 = 0 := by
    rcases Nat.eq_zero_or_pos n with rfl | hpos
    · rfl
    · have hlt := (Nat.log2_lt hpos.ne').mpr h
      omega
  simp [nearestDouble, hlog, Nat.mod_one]

theorem le_nearestDouble {n : Nat} (h : 2 ^ 53 ≤ n) : 2 ^ 53 ≤ nearestDouble n := by
  have hne : n ≠ 0 := by omega
  have hlog : 53 ≤ n.log2 := (Nat.le_log2 hne).mpr h
  have hunit : 2 ^ 52 * 2 ^ (n.log2 - 52) = 2 ^ n.log2 := by
    rw [← pow_add]
    congr 1
    omega
  have hdiv : 2 ^ 52 ≤ n / 2 ^ (n.log2 - 52) := by
    refine (Nat.le_div_iff_mul_le (by positivity)).mpr ?_
    rw [hunit]
    exact Nat.log2_self_le hne
  have hlarge : 2 ^ 53 ≤ n / 2 ^ (n.log2 - 52) * 2 ^ (n.log2 - 52) := by
    calc 2 ^ 53 ≤ 2 ^ n.log2 := Nat.pow_le_pow_right (by norm_num) hlog
      _ = 2 ^ 52 * 2 ^ (n.log2 - 52) := hunit.symm
      _ ≤ n / 2 ^ (n.log2 - 52) * 2 ^ (n.log2 - 52) := Nat.mul_le_mul_right _ hdiv
  unfold nearestDouble
  simp only
  split
  · exact hlarge
  · exact hlarge.trans (Nat.mul_le_mul_right _ (Nat.le_succ _))

theorem toDouble_side {n : Int} (h : 0 ≤ n) :
    (n < 2 ^ 53 ∧ toDouble n = n) ∨ (2 ^ 53 ≤ n ∧ 2 ^ 53 ≤ toDouble n) := by
  obtain ⟨m, rfl⟩ := Int.eq_ofNat_of_zero_le h
  rcases Nat.eq_zero_or_pos m with rfl | hpos
  · exact Or.inl ⟨by norm_num, by decide⟩
  · have hdouble : toDouble m = nearestDouble m := by
      unfold toDouble
      rw [Int.sign_eq_one_of_pos (by omega), one_mul]
      rfl
    rw [hdouble]
    rcases lt_or_ge m (2 ^ 53) with hlt | hge
    · exact Or.inl ⟨by exact_mod_cast hlt, by rw [nearestDouble_of_lt hlt]⟩
    · exact Or.inr ⟨by exact_mod_cast hge, by exact_mod_cast le_nearestDouble hge⟩

theorem toDouble_of_lt {n : Int} (h : 0 ≤ n) (hlt : n < 2 ^ 53) : toDouble n = n := by
  rcases toDouble_side h with ⟨-, heq⟩ | ⟨hge, -⟩
  · exact heq
  · omega

/-! ## The script -/

/-- The hash under the key. -/
structure State where
  tokens : Int
  lastTime : Int

/-- The tokens of the script before it decides. -/
def refill (rate capacity nowInSeconds : Int) : Option State → Int
  | none => capacity
  | some b =>
    let elapsed := toDouble (nowInSeconds - b.lastTime)
    let addTokens := toDouble (elapsed * rate)
    min capacity (toDouble (b.tokens + addTokens))

/-- `rate_limit.lua`; the second of the server's clock is `now`. -/
def rateLimit (requested rate capacity now : Int) (bucket : Option State) : Bool × State :=
  let requested := toDouble requested
  let nowInSeconds := toDouble now
  let tokens := refill (toDouble rate) (toDouble capacity) nowInSeconds bucket
  if requested ≤ tokens then (true, ⟨toDouble (tokens - requested), nowInSeconds⟩)
  else (false, ⟨tokens, nowInSeconds⟩)

/-- What happens to the key, and when. -/
inductive Event where
  | allow (requested now : Int)
  | lost (now : Int)

def Event.now : Event → Int
  | .allow _ now => now
  | .lost now => now

/-- What an event did: the amount accepted, what the loss of the key gave back, and
what is stored after it. -/
structure Seen where
  now : Int
  accepted : Int
  restored : Int
  bucket : Option State

/-- What the bucket lacks at a time. -/
def missing (capacity rate now : Int) : Option State → Int
  | none => 0
  | some b => capacity - min capacity (b.tokens + (now - b.lastTime) * rate)

def scriptStep (capacity rate : Int) (bucket : Option State) : Event → Seen
  | .allow requested now =>
    match rateLimit requested rate capacity now bucket with
    | (allowed, b) => ⟨now, if allowed then requested else 0, 0, some b⟩
  | .lost now => ⟨now, 0, missing capacity rate now bucket, none⟩

def runScript (capacity rate : Int) : Option State → List Event → List Seen
  | _, [] => []
  | bucket, e :: events =>
    scriptStep capacity rate bucket e
      :: runScript capacity rate (scriptStep capacity rate bucket e).bucket events

/-- What was accepted from a second to another, both included. -/
def acceptedIn (start stop : Int) (seen : List Seen) : Int :=
  ((seen.filter fun s => start ≤ s.now ∧ s.now ≤ stop).map Seen.accepted).sum

/-- What losses of the key gave back meanwhile. -/
def restoredIn (start stop : Int) (seen : List Seen) : Int :=
  ((seen.filter fun s => start ≤ s.now ∧ s.now ≤ stop).map Seen.restored).sum

/-- The tokens stay within the capacity. -/
def TokensBounded (capacity : Int) (seen : List Seen) : Prop :=
  ∀ s ∈ seen, ∀ b, s.bucket = some b → 0 ≤ b.tokens ∧ b.tokens ≤ capacity

/-- What is accepted in any interval, of any length. -/
def RateBounded (capacity rate : Int) (seen : List Seen) : Prop :=
  ∀ start length, 0 ≤ length →
    acceptedIn start (start + length) seen ≤ capacity + rate * length

/-! ## The script is a bucket -/

def State.level (b : State) : Level Int := ⟨b.tokens, b.lastTime⟩

def Event.op : Event → Op Int
  | .allow requested now => .take requested now
  | .lost now => .lose now

def Seen.entry (s : Seen) : Bucket.Entry Int := ⟨s.now, s.accepted, s.restored⟩

/-- A clock that Lua reads exactly, and no negative request. -/
def Event.Sane (e : Event) : Prop :=
  0 ≤ e.now ∧ e.now < 2 ^ 53 ∧ e.op.Natural

/-- The stored tokens are within the capacity, and the stored time is past. -/
def Stored (capacity now : Int) (bucket : Option State) : Prop :=
  Bucket.Sound capacity now (bucket.map State.level) ∧ ∀ b, bucket = some b → 0 ≤ b.lastTime

variable {capacity rate now : Int} {bucket : Option State}

theorem addTokens_side {elapsed : Int} (helapsed : 0 ≤ elapsed) (hrate : 0 ≤ rate) :
    (elapsed * rate < 2 ^ 53 ∧ toDouble (elapsed * toDouble rate) = elapsed * rate) ∨
      (2 ^ 53 ≤ elapsed * rate ∧ 2 ^ 53 ≤ toDouble (elapsed * toDouble rate)) := by
  rcases toDouble_side hrate with ⟨-, heq⟩ | ⟨hlarge, hdouble⟩
  · rw [heq]
    exact toDouble_side (mul_nonneg helapsed hrate)
  · rcases helapsed.eq_or_lt with rfl | hpos
    · rw [zero_mul, zero_mul]
      exact Or.inl ⟨by norm_num, rfl⟩
    · have hrefill : rate ≤ elapsed * rate := le_mul_of_one_le_left hrate hpos
      have hscaled : toDouble rate ≤ elapsed * toDouble rate :=
        le_mul_of_one_le_left (by omega) hpos
      refine Or.inr ⟨hlarge.trans hrefill, ?_⟩
      rcases toDouble_side (n := elapsed * toDouble rate) (by omega) with ⟨hlt, -⟩ | ⟨-, hge⟩
      · omega
      · exact hge

theorem refill_eq {tokens elapsed : Int} (hcapacity : capacity < 2 ^ 53) (hrate : 0 ≤ rate)
    (htokens : 0 ≤ tokens) (helapsed : 0 ≤ elapsed) :
    min capacity (toDouble (tokens + toDouble (elapsed * toDouble rate)))
      = min capacity (tokens + elapsed * rate) := by
  have hadded : 0 ≤ elapsed * rate := mul_nonneg helapsed hrate
  rcases addTokens_side helapsed hrate with ⟨-, heq⟩ | ⟨hlarge, hdouble⟩
  · rw [heq]
    rcases toDouble_side (add_nonneg htokens hadded) with ⟨-, hsum⟩ | ⟨hexact, hrounded⟩
    · rw [hsum]
    · rw [min_eq_left (by omega), min_eq_left (by omega)]
  · rcases toDouble_side (n := tokens + toDouble (elapsed * toDouble rate)) (by omega) with
      ⟨hlt, -⟩ | ⟨-, hrounded⟩
    · omega
    · rw [min_eq_left (by omega), min_eq_left (by omega)]

theorem refill_avail (hcapacity : 0 ≤ capacity) (hfits : capacity < 2 ^ 53) (hrate : 0 ≤ rate)
    (hnow : 0 ≤ now) (hclock : now < 2 ^ 53) (h : Stored capacity now bucket) :
    refill (toDouble rate) (toDouble capacity) (toDouble now) bucket
      = Bucket.avail capacity rate (bucket.map State.level) now := by
  rw [toDouble_of_lt hcapacity hfits, toDouble_of_lt hnow hclock]
  cases bucket with
  | none => rfl
  | some b =>
    obtain ⟨htokens, -, hpast⟩ := h.1 b.level rfl
    have hlast := h.2 b rfl
    have hpast' : b.lastTime ≤ now := hpast
    unfold refill
    simp only
    rw [toDouble_of_lt (n := now - b.lastTime) (by omega) (by omega)]
    exact refill_eq hfits hrate htokens (by omega)

theorem rateLimit_eq {requested : Int} (hcapacity : 0 ≤ capacity) (hfits : capacity < 2 ^ 53)
    (hrate : 0 ≤ rate) (hnow : 0 ≤ now) (hclock : now < 2 ^ 53) (hrequested : 0 ≤ requested)
    (h : Stored capacity now bucket) :
    rateLimit requested rate capacity now bucket =
      if requested ≤ Bucket.avail capacity rate (bucket.map State.level) now then
        (true, ⟨Bucket.avail capacity rate (bucket.map State.level) now - requested, now⟩)
      else (false, ⟨Bucket.avail capacity rate (bucket.map State.level) now, now⟩) := by
  have hfull : Bucket.avail capacity rate (bucket.map State.level) now ≤ capacity :=
    Bucket.avail_le
  unfold rateLimit
  simp only
  rw [refill_avail hcapacity hfits hrate hnow hclock h, toDouble_of_lt hnow hclock]
  rcases toDouble_side hrequested with ⟨-, heq⟩ | ⟨hlarge, hdouble⟩
  · rw [heq]
    split
    · rw [toDouble_of_lt (by omega) (by omega)]
    · rfl
  · rw [if_neg (by omega), if_neg (by omega)]

theorem Stored.later {later : Int} (h : Stored capacity now bucket) (hle : now ≤ later) :
    Stored capacity later bucket :=
  ⟨h.1.later hle, h.2⟩

theorem scriptStep_allow {requested : Int} (hcapacity : 0 ≤ capacity) (hfits : capacity < 2 ^ 53)
    (hrate : 0 ≤ rate) (hsane : (Event.allow requested now).Sane) (h : Stored capacity now bucket) :
    scriptStep capacity rate bucket (.allow requested now) =
      if requested ≤ Bucket.avail capacity rate (bucket.map State.level) now then
        ⟨now, requested, 0,
          some ⟨Bucket.avail capacity rate (bucket.map State.level) now - requested, now⟩⟩
      else ⟨now, 0, 0, some ⟨Bucket.avail capacity rate (bucket.map State.level) now, now⟩⟩ := by
  have hnow : 0 ≤ now := hsane.1
  have hclock : now < 2 ^ 53 := hsane.2.1
  have hrequested : 0 ≤ requested := hsane.2.2
  unfold scriptStep
  simp only
  rw [rateLimit_eq hcapacity hfits hrate hnow hclock hrequested h]
  split <;> rfl

theorem scriptStep_spec {e : Event} (hcapacity : 0 ≤ capacity) (hfits : capacity < 2 ^ 53)
    (hrate : 0 ≤ rate) (he : e.Sane) (h : Stored capacity e.now bucket) :
    (scriptStep capacity rate bucket e).entry
        = (Bucket.step capacity rate (bucket.map State.level) e.op).1 ∧
      (scriptStep capacity rate bucket e).bucket.map State.level
        = (Bucket.step capacity rate (bucket.map State.level) e.op).2 := by
  cases e with
  | lost now =>
    refine ⟨?_, rfl⟩
    cases bucket with
    | none =>
      show (⟨now, 0, 0⟩ : Bucket.Entry Int) = ⟨now, 0, capacity - capacity⟩
      rw [sub_self]
    | some b => rfl
  | allow requested now =>
    rw [scriptStep_allow hcapacity hfits hrate he h]
    by_cases henough : requested ≤ Bucket.avail capacity rate (bucket.map State.level) now
    · rw [if_pos henough, Event.op, Bucket.step_taken henough]
      exact ⟨rfl, rfl⟩
    · rw [if_neg henough, Event.op, Bucket.step_refused henough]
      exact ⟨rfl, rfl⟩

theorem scriptStep_stored {e : Event} (hcapacity : 0 ≤ capacity) (hfits : capacity < 2 ^ 53)
    (hrate : 0 ≤ rate) (he : e.Sane) (h : Stored capacity e.now bucket) :
    Stored capacity e.now (scriptStep capacity rate bucket e).bucket := by
  have hsound : Bucket.Sound capacity e.op.time (bucket.map State.level) := by
    cases e <;> exact h.1
  constructor
  · rw [(scriptStep_spec hcapacity hfits hrate he h).2]
    have hnext := (Bucket.step_spec hcapacity hrate hsound he.2.2).1
    cases e <;> exact hnext
  · intro b hb
    cases e with
    | lost now => exact absurd hb.symm (Option.some_ne_none b)
    | allow requested now =>
      rw [scriptStep_allow hcapacity hfits hrate he h] at hb
      split at hb
      all_goals
        obtain rfl := Option.some.inj hb
        exact he.1

/-! ## Histories -/

theorem runScript_entries {events : List Event} (hcapacity : 0 ≤ capacity)
    (hfits : capacity < 2 ^ 53) (hrate : 0 ≤ rate) (hsane : ∀ e ∈ events, e.Sane)
    (hclock : List.IsChain (· ≤ ·) (now :: events.map Event.now)) (h : Stored capacity now bucket) :
    (runScript capacity rate bucket events).map Seen.entry
        = Bucket.run capacity rate (bucket.map State.level) (events.map Event.op) ∧
      TokensBounded capacity (runScript capacity rate bucket events) := by
  induction events generalizing now bucket with
  | nil => exact ⟨rfl, fun s hs => absurd hs List.not_mem_nil⟩
  | cons e events ih =>
    rw [List.map_cons, List.isChain_cons_cons] at hclock
    obtain ⟨hle, hclock⟩ := hclock
    have he := hsane e List.mem_cons_self
    have hsofar := h.later hle
    obtain ⟨hentry, hbucket⟩ := scriptStep_spec hcapacity hfits hrate he hsofar
    have hstored := scriptStep_stored hcapacity hfits hrate he hsofar
    obtain ⟨hentries, hbounded⟩ :=
      ih (fun e' he' => hsane e' (List.mem_cons_of_mem _ he')) hclock hstored
    refine ⟨?_, fun s hs b hb => ?_⟩
    · rw [runScript, List.map_cons, List.map_cons, Bucket.run, hentry, hentries, hbucket]
    · rcases List.mem_cons.mp hs with rfl | hs
      · obtain ⟨htokens, hfull, -⟩ := hstored.1 b.level (by rw [hb]; rfl)
        exact ⟨htokens, hfull⟩
      · exact hbounded s hs b hb

theorem acceptedIn_eq (start stop : Int) (seen : List Seen) :
    acceptedIn start stop seen = Bucket.takenIn start stop (seen.map Seen.entry) := by
  unfold acceptedIn Bucket.takenIn
  rw [List.filter_map, List.map_map]
  rfl

theorem restoredIn_eq (start stop : Int) (seen : List Seen) :
    restoredIn start stop seen = Bucket.gainedIn start stop (seen.map Seen.entry) := by
  unfold restoredIn Bucket.gainedIn
  rw [List.filter_map, List.map_map]
  rfl

/-- **The bucket bounds the rate**, for a capacity and a clock that Lua holds
exactly and amounts that are not negative: the tokens stay between zero and the
capacity, and what is accepted in an interval is at most the capacity, the refill
and what losses of the key within it gave back. -/
theorem bucket_bounds {events : List Event} (hcapacity : 0 ≤ capacity)
    (hfits : capacity < 2 ^ 53) (hrate : 0 ≤ rate) (hsane : ∀ e ∈ events, e.Sane)
    (hclock : List.IsChain (· ≤ ·) (events.map Event.now)) :
    TokensBounded capacity (runScript capacity rate none events) ∧
      ∀ start length, 0 ≤ length →
        acceptedIn start (start + length) (runScript capacity rate none events) ≤
          capacity + rate * length
            + restoredIn start (start + length) (runScript capacity rate none events) := by
  obtain ⟨now, hchain⟩ : ∃ now, List.IsChain (· ≤ ·) (now :: events.map Event.now) := by
    cases events with
    | nil => exact ⟨0, List.isChain_singleton 0⟩
    | cons e events => exact ⟨e.now, List.isChain_cons_cons.mpr ⟨le_rfl, hclock⟩⟩
  have hnone : Bucket.Sound capacity now none := fun b hb => absurd hb.symm (Option.some_ne_none b)
  have hstart : Stored capacity now none :=
    ⟨hnone, fun b hb => absurd hb.symm (Option.some_ne_none b)⟩
  obtain ⟨hentries, hbounded⟩ := runScript_entries hcapacity hfits hrate hsane hchain hstart
  refine ⟨hbounded, fun start length hlength => ?_⟩
  have htimes : (events.map Event.op).map Op.time = events.map Event.now := by
    rw [List.map_map]
    exact List.map_congr_left fun e _ => by cases e <;> rfl
  have hops : ∀ op ∈ events.map Event.op, op.Natural := by
    intro op hop
    obtain ⟨e, he, rfl⟩ := List.mem_map.mp hop
    exact (hsane e he).2.2
  have hinterval : start ≤ start + length := by omega
  have hbound := Bucket.takenIn_le hcapacity hrate hnone hops (by rw [htimes]; exact hchain)
    hinterval
  rw [acceptedIn_eq, restoredIn_eq, hentries]
  rw [add_sub_cancel_left, mul_comm length rate] at hbound
  exact hbound

/-! Ten tokens, one a second. The key is lost when four are missing. -/

def tenTokens : List Event :=
  [.allow 10 100, .allow 1 100, .allow 6 106, .lost 112, .allow 10 112]

theorem tenTokens_bounded :
    TokensBounded 10 (runScript 10 1 none tenTokens) ∧
      ∀ start length, 0 ≤ length →
        acceptedIn start (start + length) (runScript 10 1 none tenTokens) ≤
          10 + 1 * length + restoredIn start (start + length) (runScript 10 1 none tenTokens) := by
  refine bucket_bounds (by norm_num) (by norm_num) (by norm_num) (fun e he => ?_) (by decide)
  simp only [tenTokens, List.mem_cons, List.not_mem_nil, or_false] at he
  rcases he with rfl | rfl | rfl | rfl | rfl <;>
    simp [Event.Sane, Event.now, Event.op, Op.Natural]

/-- Without one of these conditions the bounds fail: a request, a capacity or a rate
below zero, a key lost before it has refilled, a capacity or a clock that Lua rounds. -/
theorem bucket_bounds_fail :
    ¬ TokensBounded 10 (runScript 10 1 none [.allow (-1) 100]) ∧
      ¬ TokensBounded (-1) (runScript (-1) 1 none [.allow 0 100]) ∧
      ¬ TokensBounded 0 (runScript 0 (-1) none [.allow 0 100, .allow 0 101]) ∧
      ¬ RateBounded 10 1 (runScript 10 1 none [.allow 10 100, .lost 100, .allow 10 100]) ∧
      ¬ TokensBounded (2 ^ 53 + 3) (runScript (2 ^ 53 + 3) 1 none [.allow 0 100]) ∧
      ¬ RateBounded 10 1
        (runScript 10 1 none [.allow 10 (2 ^ 53), .allow 4 (2 ^ 53 + 3)]) := by
  refine ⟨fun h => ?_, fun h => ?_, fun h => ?_, fun h => ?_, fun h => ?_, fun h => ?_⟩
  · exact absurd (h _ (List.mem_cons_self ..) _ rfl).2 (by decide)
  · exact absurd (h _ (List.mem_cons_self ..) _ rfl).1 (by decide)
  · exact absurd (h _ (List.mem_cons_of_mem _ (List.mem_cons_self ..)) _ rfl).1 (by decide)
  · exact absurd (h 100 0 le_rfl) (by decide)
  · exact absurd (h _ (List.mem_cons_self ..) _ rfl).2 (by decide)
  · exact absurd (h (2 ^ 53) 3 (by norm_num)) (by decide)

end YouBox.TokenBucket
