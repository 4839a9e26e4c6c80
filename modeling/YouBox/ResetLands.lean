import YouBox.ResetClock

/-!
# Where a reset lands

The boundaries of a plan, and for every row, plan and time when the reset ends, with
the last reset at the greatest boundary that is due, the next one none or still to
come, and the usage set to zero just where a boundary has passed
(`reset_lands_iff`).

Two things go wrong: a custom period that does not fit in an `int64` of nanoseconds,
which may hold the loop for ever, and a reset time that an older plan has left in the
row, which stays there until a boundary passes.
-/

namespace YouBox.ResetClock

/-! ## The boundaries of a plan -/

/-- The boundaries: local midnights, those of Mondays, those of firsts of a month, or
whole custom periods after `base`. -/
def Boundary (off : Int) (plan : SubscriptionPlan) (base t : Int) : Prop :=
  match plan.quotaResetPeriod with
  | .never => False
  | .daily => ∃ day, t = Civil.midnight off day
  | .weekly => ∃ day, Civil.weekday day = 1 ∧ t = Civil.midnight off day
  | .monthly => ∃ n, t = Civil.midnight off (Civil.monthStart n)
  | .custom => Multiples base plan.quotaResetCustomSeconds 1 t

/-- A boundary after the previous base, not after `now` and not beyond the end. -/
structure Due (off now : Int) (sub : UserSubscription) (plan : SubscriptionPlan) (t : Int) :
    Prop where
  after : resetBase sub < t
  boundary : Boundary off plan (resetBase sub) t
  within : t ≤ limit sub.endTime now

/-- What a reset is to leave. -/
structure Lands (off now : Int) (sub : UserSubscription) (plan : SubscriptionPlan)
    (out : Outcome) : Prop where
  next : out.row.nextResetTime = 0 ∨
    now < out.row.nextResetTime ∧ (0 < sub.endTime → out.row.nextResetTime ≤ sub.endTime)
  last : (∃ t, Due off now sub plan t) →
    Due off now sub plan out.row.lastResetTime ∧
      ∀ t, Due off now sub plan t → t ≤ out.row.lastResetTime
  kept : (¬ ∃ t, Due off now sub plan t) → resetBase out.row = resetBase sub
  zeroed : out.zeroed = true ↔ ∃ t, Due off now sub plan t
  usage : out.row.amountUsed = if out.zeroed then 0 else sub.amountUsed

/-- The call comes to an end and leaves what it is to leave. -/
def ResetLands (off now : Int) (sub : UserSubscription) (plan : SubscriptionPlan) : Prop :=
  ∃ fuel out, maybeResetUserSubscriptionWithPlan off now sub plan fuel = some out ∧
    Lands off now sub plan out

/-- The next reset of the row is none or still to come. -/
def NextOk (now : Int) (sub : UserSubscription) : Prop :=
  sub.nextResetTime = 0 ∨
    now < sub.nextResetTime ∧ (0 < sub.endTime → sub.nextResetTime ≤ sub.endTime)

/-- The condition under which it does. -/
def Regular (off now : Int) (sub : UserSubscription) (plan : SubscriptionPlan) : Prop :=
  let base := resetBase sub
  let next := nextTime off plan base
  let lim := limit sub.endTime now
  let seconds := plan.quotaResetCustomSeconds
  if 0 < sub.nextResetTime ∧ now < sub.nextResetTime then
    (¬ ∃ t, Due off now sub plan t) ∧ NextOk now sub
  else
    ((∃ t, Due off now sub plan t) → 0 < next ∧
      (plan.quotaResetPeriod = .custom → 0 < customStep seconds ∧
        (lim - base) / customStep seconds * customStep seconds = (lim - base) / seconds * seconds)) ∧
    ((¬ ∃ t, Due off now sub plan t) → ¬ (0 < next ∧ next ≤ lim) ∧ NextOk now sub)

/-! ## One step -/

section Call

variable {off now : Int} {sub : UserSubscription} {plan : SubscriptionPlan}

theorem customStep_le {seconds : Int} (h : 0 < seconds) : customStep seconds ≤ seconds := by
  have hle : wrap64 (seconds * 1000000000) ≤ seconds * 1000000000 := wrap64_le (by omega)
  unfold customStep
  omega

theorem nextTime_custom (hperiod : plan.quotaResetPeriod = .custom)
    (hsec : 0 < plan.quotaResetCustomSeconds) (t : Int) :
    nextTime off plan t = t + customStep plan.quotaResetCustomSeconds := by
  unfold nextTime
  rw [hperiod]
  exact if_neg (not_le.2 hsec)

theorem strides_calendar (hperiod : plan.quotaResetPeriod ≠ .never)
    (hcustom : plan.quotaResetPeriod ≠ .custom) (base : Int) :
    Strides (nextTime off plan) (fun _ => True) (Boundary off plan base) := by
  unfold nextTime Boundary
  cases hp : plan.quotaResetPeriod with
  | never => exact absurd hp hperiod
  | custom => exact absurd hp hcustom
  | daily =>
    refine ⟨fun _ => trivial, fun _ => Civil.lt_nextDay off _, fun _ => ⟨_, rfl⟩, ?_⟩
    rintro t b - ⟨day, rfl⟩ hlt
    exact Civil.nextDay_le hlt
  | weekly =>
    refine ⟨fun _ => trivial, fun _ => Civil.lt_nextMonday off _, ?_, ?_⟩
    · intro t _
      obtain ⟨day, hday, hmonday⟩ := Civil.weekday_nextMonday off t
      exact ⟨day, hmonday, hday⟩
    · rintro t b - ⟨day, hmonday, rfl⟩ hlt
      exact Civil.nextMonday_le hmonday hlt
  | monthly =>
    refine ⟨fun _ => trivial, fun _ => Civil.lt_nextMonth off _, fun _ => ⟨_, rfl⟩, ?_⟩
    rintro t b - ⟨n, rfl⟩ hlt
    exact Civil.nextMonth_le hlt

theorem nextTime_le_due (hperiod : plan.quotaResetPeriod ≠ .never)
    (hsec : plan.quotaResetPeriod = .custom → 0 < plan.quotaResetCustomSeconds) {t : Int}
    (h : Due off now sub plan t) : nextTime off plan (resetBase sub) ≤ t := by
  obtain ⟨hafter, hboundary, -⟩ := h
  by_cases hcustom : plan.quotaResetPeriod = .custom
  · have hpos := hsec hcustom
    have hle := customStep_le hpos
    unfold Boundary at hboundary
    rw [hcustom] at hboundary
    obtain ⟨i, hi, rfl⟩ := hboundary
    have hmul := mul_le_mul_of_nonneg_right hi hpos.le
    rw [nextTime_custom hcustom hpos]
    omega
  · exact (strides_calendar hperiod hcustom (resetBase sub)).least trivial hboundary hafter

theorem outcome_unique {n m : Nat} {a b : Outcome}
    (ha : maybeResetUserSubscriptionWithPlan off now sub plan n = some a)
    (hb : maybeResetUserSubscriptionWithPlan off now sub plan m = some b) : a = b := by
  unfold maybeResetUserSubscriptionWithPlan at ha hb
  split at ha
  · rw [if_pos ‹_›] at hb
    exact Option.some.inj (ha.symm.trans hb)
  · rw [if_neg ‹_›] at hb
    split at ha
    · rw [if_pos ‹_›] at hb
      exact Option.some.inj (ha.symm.trans hb)
    · rw [if_neg ‹_›] at hb
      obtain ⟨sa, hsa, rfl⟩ := Option.map_eq_some_iff.1 ha
      obtain ⟨sb, hsb, rfl⟩ := Option.map_eq_some_iff.1 hb
      rw [resetLoop_unique hsa hsb]

theorem resetLands_iff_of_ends {fuel : Nat} {out : Outcome}
    (h : maybeResetUserSubscriptionWithPlan off now sub plan fuel = some out) :
    ResetLands off now sub plan ↔ Lands off now sub plan out := by
  constructor
  · rintro ⟨n, out', hout', hlands⟩
    rwa [outcome_unique h hout']
  · intro hlands
    exact ⟨fuel, out, h, hlands⟩

/-! ## The three ways through the loop -/

theorem call_eq (hearly : ¬ (0 < sub.nextResetTime ∧ now < sub.nextResetTime))
    (hperiod : plan.quotaResetPeriod ≠ .never) (fuel : Nat) :
    maybeResetUserSubscriptionWithPlan off now sub plan fuel =
      (resetLoop (fun t => clip sub.endTime (nextTime off plan t)) now fuel
        ⟨false, resetBase sub, clip sub.endTime (nextTime off plan (resetBase sub))⟩).map
          (afterLoop sub) := by
  unfold maybeResetUserSubscriptionWithPlan
  rw [if_neg hearly, if_neg hperiod]
  rfl

/-- A row that is left, or given its first reset time, is right where nothing is due. -/
theorem lands_unzeroed_iff {row : UserSubscription} (hbase : resetBase row = resetBase sub)
    (husage : row.amountUsed = sub.amountUsed) :
    Lands off now sub plan ⟨row, false⟩ ↔
      (¬ ∃ t, Due off now sub plan t) ∧
        (row.nextResetTime = 0 ∨
          now < row.nextResetTime ∧ (0 < sub.endTime → row.nextResetTime ≤ sub.endTime)) := by
  constructor
  · rintro ⟨hnext, -, -, hzeroed, -⟩
    exact ⟨fun hdue => absurd (hzeroed.2 hdue) Bool.false_ne_true, hnext⟩
  · rintro ⟨hnone, hnext⟩
    exact ⟨hnext, fun hdue => absurd hdue hnone, fun _ => hbase,
      iff_of_false Bool.false_ne_true hnone, husage⟩

theorem lands_zeroed_iff {last next : Int}
    (hnext : next = 0 ∨ now < next ∧ (0 < sub.endTime → next ≤ sub.endTime)) :
    Lands off now sub plan
        ⟨{ sub with amountUsed := 0, lastResetTime := last, nextResetTime := next }, true⟩ ↔
      Due off now sub plan last ∧ ∀ t, Due off now sub plan t → t ≤ last := by
  constructor
  · rintro ⟨-, hlast, -, hzeroed, -⟩
    exact hlast (hzeroed.1 rfl)
  · rintro ⟨hdue, hgreatest⟩
    exact ⟨hnext, fun _ => ⟨hdue, hgreatest⟩, fun hnone => absurd ⟨last, hdue⟩ hnone,
      iff_of_true rfl ⟨last, hdue⟩, rfl⟩

theorem resetLands_early (hearly : 0 < sub.nextResetTime ∧ now < sub.nextResetTime) :
    ResetLands off now sub plan ↔ (¬ ∃ t, Due off now sub plan t) ∧ NextOk now sub := by
  have hcall : maybeResetUserSubscriptionWithPlan off now sub plan 0 = some ⟨sub, false⟩ := by
    unfold maybeResetUserSubscriptionWithPlan
    rw [if_pos hearly]
  rw [resetLands_iff_of_ends hcall, lands_unzeroed_iff rfl rfl]
  rfl

theorem resetLands_still (hearly : ¬ (0 < sub.nextResetTime ∧ now < sub.nextResetTime))
    (hperiod : plan.quotaResetPeriod ≠ .never)
    (hstill : ¬ (0 < nextTime off plan (resetBase sub) ∧
      nextTime off plan (resetBase sub) ≤ limit sub.endTime now)) :
    ResetLands off now sub plan ↔ (¬ ∃ t, Due off now sub plan t) ∧ NextOk now sub := by
  have hcall : maybeResetUserSubscriptionWithPlan off now sub plan 1 =
      some (afterLoop sub ⟨false, resetBase sub,
        clip sub.endTime (nextTime off plan (resetBase sub))⟩) := by
    rw [call_eq hearly hperiod, resetLoop_stops (fun hc => hstill (clip_due_iff.1 hc))]
    rfl
  rw [resetLands_iff_of_ends hcall]
  unfold afterLoop
  rw [if_neg Bool.false_ne_true]
  generalize hnext : clip sub.endTime (nextTime off plan (resetBase sub)) = next
  dsimp only
  split
  · rename_i hfirst
    -- the row gets its first reset time
    have hbase : resetBase { sub with nextResetTime := next, lastResetTime := resetBase sub }
        = resetBase sub := by
      unfold resetBase
      dsimp only
      split_ifs <;> omega
    have hlater : next = 0 ∨ now < next ∧ (0 < sub.endTime → next ≤ sub.endTime) := by
      have hpos : 0 < nextTime off plan (resetBase sub) := by
        have := hfirst.2
        rw [← hnext] at this
        unfold clip at this
        split at this
        · omega
        · exact this
      rw [← hnext]
      exact clip_beyond hpos (not_le.1 fun hle => hstill ⟨hpos, hle⟩)
    rw [lands_unzeroed_iff hbase rfl]
    exact ⟨fun h => ⟨h.1, Or.inl hfirst.1⟩, fun h => ⟨h.1, hlater⟩⟩
  · rw [lands_unzeroed_iff rfl rfl]
    rfl

theorem resetLands_walk {R B : Int → Prop}
    (hearly : ¬ (0 < sub.nextResetTime ∧ now < sub.nextResetTime))
    (hperiod : plan.quotaResetPeriod ≠ .never)
    (h : Strides (nextTime off plan) R B) (hR : R (resetBase sub))
    (hpos : 0 < nextTime off plan (resetBase sub))
    (hentered : nextTime off plan (resetBase sub) ≤ limit sub.endTime now) :
    ∃ last, B last ∧ resetBase sub < last ∧ last ≤ limit sub.endTime now ∧
      (∀ t, B t → t ≤ limit sub.endTime now → t ≤ last) ∧
      limit sub.endTime now < nextTime off plan last ∧
      (ResetLands off now sub plan ↔
        Due off now sub plan last ∧ ∀ t, Due off now sub plan t → t ≤ last) := by
  obtain ⟨fuel, last, hB, hlt, hlimit, hRlast, hbeyond, hloop⟩ := h.run hR hpos hentered false
  have hcall : maybeResetUserSubscriptionWithPlan off now sub plan fuel =
      some ⟨{ sub with
        amountUsed := 0
        lastResetTime := last
        nextResetTime := clip sub.endTime (nextTime off plan last) }, true⟩ := by
    rw [call_eq hearly hperiod, hloop]
    rfl
  have hle : nextTime off plan (resetBase sub) ≤ last := h.least hR hB hlt
  have hgt := h.gt hRlast
  refine ⟨last, hB, hlt, hlimit, fun t ht htl => h.last_greatest hRlast hbeyond ht htl, hbeyond,
    ?_⟩
  rw [resetLands_iff_of_ends hcall]
  exact lands_zeroed_iff (clip_beyond (by omega) hbeyond)

theorem call_stuck (hearly : ¬ (0 < sub.nextResetTime ∧ now < sub.nextResetTime))
    (hperiod : plan.quotaResetPeriod = .custom) (hsec : 0 < plan.quotaResetCustomSeconds)
    (hstep : customStep plan.quotaResetCustomSeconds = 0)
    (hpos : 0 < nextTime off plan (resetBase sub))
    (hentered : nextTime off plan (resetBase sub) ≤ limit sub.endTime now) (fuel : Nat) :
    maybeResetUserSubscriptionWithPlan off now sub plan fuel = none := by
  have hnever : plan.quotaResetPeriod ≠ .never := by simp [hperiod]
  have hcalc : clip sub.endTime (nextTime off plan (nextTime off plan (resetBase sub)))
      = nextTime off plan (resetBase sub) := by
    rw [nextTime_custom hperiod hsec (nextTime off plan (resetBase sub)), hstep, Int.add_zero]
    exact clip_of_due hentered
  have hdue := clip_due_iff.2 ⟨hpos, hentered⟩
  rw [clip_of_due hentered] at hdue
  rw [call_eq hearly hnever, clip_of_due hentered, resetLoop_stuck hdue hcalc]
  rfl

theorem not_lands_of_stuck
    (h : ∀ fuel, maybeResetUserSubscriptionWithPlan off now sub plan fuel = none) :
    ¬ ResetLands off now sub plan := by
  rintro ⟨fuel, out, hcall, -⟩
  rw [h fuel] at hcall
  cases hcall

theorem not_lands_of_back (hearly : ¬ (0 < sub.nextResetTime ∧ now < sub.nextResetTime))
    (hperiod : plan.quotaResetPeriod = .custom) (hsec : 0 < plan.quotaResetCustomSeconds)
    (hstep : customStep plan.quotaResetCustomSeconds < 0)
    (hpos : 0 < nextTime off plan (resetBase sub))
    (hentered : nextTime off plan (resetBase sub) ≤ limit sub.endTime now) :
    ¬ ResetLands off now sub plan := by
  rintro ⟨fuel, out, hcall, hlands⟩
  have hnever : plan.quotaResetPeriod ≠ .never := by simp [hperiod]
  have hdue := clip_due_iff.2 ⟨hpos, hentered⟩
  have hback : ∀ t, 0 < clip sub.endTime (nextTime off plan t) →
      clip sub.endTime (nextTime off plan t) < t := by
    intro t ht
    rw [nextTime_custom hperiod hsec] at ht ⊢
    unfold clip at ht ⊢
    split at ht
    · omega
    · rw [if_neg ‹_›]
      omega
  rw [call_eq hearly hnever] at hcall
  obtain ⟨st, hloop, rfl⟩ := Option.map_eq_some_iff.1 hcall
  cases fuel with
  | zero => cases hloop
  | succ fuel =>
    rw [resetLoop_goes hdue] at hloop
    have hfirst := hback _ hdue.1
    have hlast : st.base < resetBase sub :=
      resetLoop_back hback hfirst (fun hnext => (hback _ hnext).trans hfirst) hloop
    have hadvanced : st.advanced = true := resetLoop_advanced rfl hloop
    unfold afterLoop at hlands
    rw [if_pos hadvanced] at hlands
    have hafter := (hlands.last (hlands.zeroed.1 rfl)).1.after
    dsimp only at hafter
    omega

theorem due_greatest_custom (hperiod : plan.quotaResetPeriod = .custom)
    (hsec : 0 < plan.quotaResetCustomSeconds) (hany : ∃ t, Due off now sub plan t) :
    let greatest := resetBase sub + (limit sub.endTime now - resetBase sub)
      / plan.quotaResetCustomSeconds * plan.quotaResetCustomSeconds
    Due off now sub plan greatest ∧ ∀ t, Due off now sub plan t → t ≤ greatest := by
  dsimp only
  have hbound : ∀ t, Due off now sub plan t → ∃ i, 1 ≤ i
      ∧ t = resetBase sub + i * plan.quotaResetCustomSeconds
      ∧ i ≤ (limit sub.endTime now - resetBase sub) / plan.quotaResetCustomSeconds := by
    rintro t ⟨-, hboundary, hwithin⟩
    unfold Boundary at hboundary
    rw [hperiod] at hboundary
    obtain ⟨i, hi, rfl⟩ := hboundary
    exact ⟨i, hi, rfl, (Int.le_ediv_iff_mul_le hsec).2 (by omega)⟩
  have hone : 1 ≤ (limit sub.endTime now - resetBase sub) / plan.quotaResetCustomSeconds := by
    obtain ⟨t, ht⟩ := hany
    obtain ⟨i, hi, -, hle⟩ := hbound t ht
    omega
  have hmul := Int.ediv_mul_le (limit sub.endTime now - resetBase sub) hsec.ne'
  have hpos := mul_le_mul_of_nonneg_right hone hsec.le
  refine ⟨⟨by omega, ?_, by omega⟩, ?_⟩
  · unfold Boundary
    rw [hperiod]
    exact ⟨_, hone, rfl⟩
  · intro t ht
    obtain ⟨i, -, rfl, hle⟩ := hbound t ht
    have := mul_le_mul_of_nonneg_right hle hsec.le
    omega

theorem reset_lands_iff_custom (hearly : ¬ (0 < sub.nextResetTime ∧ now < sub.nextResetTime))
    (hperiod : plan.quotaResetPeriod = .custom) (hsec : 0 < plan.quotaResetCustomSeconds)
    (hstep : 0 < customStep plan.quotaResetCustomSeconds)
    (hentered : 0 < nextTime off plan (resetBase sub) ∧
      nextTime off plan (resetBase sub) ≤ limit sub.endTime now) :
    ResetLands off now sub plan ↔
      ((∃ t, Due off now sub plan t) → 0 < nextTime off plan (resetBase sub) ∧
        (plan.quotaResetPeriod = .custom → 0 < customStep plan.quotaResetCustomSeconds ∧
          (limit sub.endTime now - resetBase sub) / customStep plan.quotaResetCustomSeconds
              * customStep plan.quotaResetCustomSeconds
            = (limit sub.endTime now - resetBase sub) / plan.quotaResetCustomSeconds
              * plan.quotaResetCustomSeconds)) ∧
      ((¬ ∃ t, Due off now sub plan t) →
        ¬ (0 < nextTime off plan (resetBase sub) ∧
          nextTime off plan (resetBase sub) ≤ limit sub.endTime now) ∧ NextOk now sub) := by
  have hnever : plan.quotaResetPeriod ≠ .never := by simp [hperiod]
  have hnext : nextTime off plan = fun t => t + customStep plan.quotaResetCustomSeconds :=
    funext (nextTime_custom hperiod hsec)
  have hstrides : Strides (nextTime off plan)
      (Multiples (resetBase sub) (customStep plan.quotaResetCustomSeconds) 0)
      (Multiples (resetBase sub) (customStep plan.quotaResetCustomSeconds) 1) :=
    hnext ▸ strides_multiples hstep (resetBase sub)
  obtain ⟨last, hB, -, hlimit, -, hbeyond, hiff⟩ := resetLands_walk hearly hnever hstrides
    ⟨0, le_refl 0, by omega⟩ hentered.1 hentered.2
  rw [nextTime_custom hperiod hsec] at hbeyond
  have hlast := multiples_last hstep hB hlimit hbeyond
  rw [hiff]
  by_cases hany : ∃ t, Due off now sub plan t
  · obtain ⟨hdue, hgreatest⟩ := due_greatest_custom hperiod hsec hany
    have hsame : (Due off now sub plan last ∧ ∀ t, Due off now sub plan t → t ≤ last) ↔
        last = resetBase sub + (limit sub.endTime now - resetBase sub)
          / plan.quotaResetCustomSeconds * plan.quotaResetCustomSeconds := by
      constructor
      · rintro ⟨hdueLast, hle⟩
        exact le_antisymm (hgreatest last hdueLast) (hle _ hdue)
      · intro heq
        rw [heq]
        exact ⟨hdue, hgreatest⟩
    rw [hsame]
    constructor
    · intro heq
      exact ⟨fun _ => ⟨hentered.1, fun _ => ⟨hstep, by omega⟩⟩, fun hnone => absurd hany hnone⟩
    · rintro ⟨hlands, -⟩
      have := ((hlands hany).2 hperiod).2
      omega
  · exact iff_of_false (fun h => hany ⟨last, h.1⟩) (fun h => (h.2 hany).1 hentered)

/-- The reset ends and lands on the right boundary exactly in these cases. -/
theorem reset_lands_iff (off now : Int) (sub : UserSubscription) (plan : SubscriptionPlan)
    (hperiod : plan.quotaResetPeriod ≠ .never)
    (hsec : plan.quotaResetPeriod = .custom → 0 < plan.quotaResetCustomSeconds) :
    ResetLands off now sub plan ↔ Regular off now sub plan := by
  unfold Regular
  dsimp only
  by_cases hearly : 0 < sub.nextResetTime ∧ now < sub.nextResetTime
  · rw [if_pos hearly]
    exact resetLands_early hearly
  rw [if_neg hearly]
  by_cases hentered : 0 < nextTime off plan (resetBase sub)
      ∧ nextTime off plan (resetBase sub) ≤ limit sub.endTime now
  · by_cases hcustom : plan.quotaResetPeriod = .custom
    · rcases lt_trichotomy (customStep plan.quotaResetCustomSeconds) 0 with hneg | hzero | hstep
      · refine iff_of_false
          (not_lands_of_back hearly hcustom (hsec hcustom) hneg hentered.1 hentered.2) ?_
        rintro ⟨hdue, hnone⟩
        by_cases hany : ∃ t, Due off now sub plan t
        · have := ((hdue hany).2 hcustom).1
          omega
        · exact (hnone hany).1 hentered
      · refine iff_of_false
          (not_lands_of_stuck
            (call_stuck hearly hcustom (hsec hcustom) hzero hentered.1 hentered.2)) ?_
        rintro ⟨hdue, hnone⟩
        by_cases hany : ∃ t, Due off now sub plan t
        · have := ((hdue hany).2 hcustom).1
          omega
        · exact (hnone hany).1 hentered
      · exact reset_lands_iff_custom hearly hcustom (hsec hcustom) hstep hentered
    · -- the walk ends at a boundary that is due, and no later one is
      obtain ⟨last, hB, hafter, hlimit, hgreatest, -, hiff⟩ := resetLands_walk hearly hperiod
        (strides_calendar hperiod hcustom (resetBase sub)) trivial hentered.1 hentered.2
      have hdue : Due off now sub plan last := ⟨hafter, hB, hlimit⟩
      rw [hiff]
      exact iff_of_true ⟨hdue, fun t ht => hgreatest t ht.boundary ht.within⟩
        ⟨fun _ => ⟨hentered.1, fun hc => absurd hc hcustom⟩, fun hnone => absurd ⟨last, hdue⟩ hnone⟩
  · rw [resetLands_still hearly hperiod hentered]
    constructor
    · rintro ⟨hnone, hnext⟩
      exact ⟨fun hdue => absurd hdue hnone, fun _ => ⟨hentered, hnext⟩⟩
    · rintro ⟨hdue, hnone⟩
      have hquiet : ¬ ∃ t, Due off now sub plan t := by
        rintro ⟨t, ht⟩
        have hle := nextTime_le_due hperiod hsec ht
        exact hentered ⟨(hdue ⟨t, ht⟩).1, hle.trans ht.within⟩
      exact ⟨hquiet, (hnone hquiet).2⟩

end Call

/-! ## Two rows -/

def demoSub (plan : SubscriptionPlan) (endTime lastResetTime nextResetTime : Int) :
    UserSubscription :=
  ⟨1, 7, plan.id, 1000, 500, 1000, endTime, .active, lastResetTime, nextResetTime, "", "", "", true⟩

/-- A plan of ten seconds, at 1025: the boundaries 1010 and 1020 have passed. -/
theorem ten_seconds_land :
    ResetLands 0 1025 (demoSub tenSecondPlan 1100 1000 1010) tenSecondPlan := by
  refine (reset_lands_iff 0 1025 _ tenSecondPlan (by decide) (by decide)).2 ?_
  have hdue : ∃ t, Due 0 1025 (demoSub tenSecondPlan 1100 1000 1010) tenSecondPlan t :=
    ⟨1010, by decide, ⟨1, by decide, by decide⟩, by decide⟩
  refine ⟨fun _ => ⟨by decide, fun _ => ⟨by decide, by decide⟩⟩, fun hnone => absurd hdue hnone⟩

/-- A plan whose period is 18446744074 seconds: the product is 2^64 nanoseconds and a
third of a second. -/
def wrappingPlan : SubscriptionPlan :=
  { tenSecondPlan with quotaResetCustomSeconds := 18446744074 }

/-- A plan that was daily when the row was scheduled. -/
def monthlyPlan : SubscriptionPlan := { tenSecondPlan with quotaResetPeriod := .monthly }

/-- The first loop never ends; the second row keeps a reset time that has passed. -/
theorem reset_never_ends :
    ((∀ fuel, maybeResetUserSubscriptionWithPlan 0 2000 (demoSub wrappingPlan 5000 1000 1000)
        wrappingPlan fuel = none) ∧
      ¬ ResetLands 0 2000 (demoSub wrappingPlan 5000 1000 1000) wrappingPlan) ∧
    ¬ ResetLands 0 100000 (demoSub monthlyPlan 9000000 1000 86400) monthlyPlan := by
  have hnone : ∀ fuel, maybeResetUserSubscriptionWithPlan 0 2000
      (demoSub wrappingPlan 5000 1000 1000) wrappingPlan fuel = none :=
    call_stuck (by decide) (by decide) (by decide) (by decide) (by decide) (by decide)
  refine ⟨⟨hnone, not_lands_of_stuck hnone⟩, ?_⟩
  · rw [resetLands_still (by decide) (by decide) (by decide)]
    rintro ⟨-, hnext⟩
    revert hnext
    unfold NextOk
    decide

end YouBox.ResetClock
