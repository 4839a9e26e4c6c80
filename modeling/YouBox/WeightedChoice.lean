import YouBox.SelectAgree

/-!
# The weighted choice of a channel

`GetRandomSatisfiedChannel` sorts the distinct priorities of the candidates,
takes the one the retry count points at, or the lowest beyond the last, and
draws among the channels that have it. A draw counts every weight as it is, a
hundred times where the weights average less than ten, and as a hundred where
all are zero.

`weighted_choice_iff`: over every run of the cache and every request with
candidates, each outcome of the draw is a channel of that priority, and as many
outcomes choose a channel as its smoothed weight says (as often as it is listed
for the request), exactly when there is one candidate alone or the smoothed
weights of the priority add up to less than `2^63`. Beyond that the `int` that
holds their sum has wrapped: then `rand.Intn` panics, or it draws below a total
that is not the sum of the weights.
-/

namespace YouBox

variable {κ : Type*}

/-! ## What the choice is for -/

/-- How many distinct priorities there are above the one a retry asks for: one
more with each retry, up to all but the lowest. -/
def ranksAbove (priorities : List Int64) (retry : Nat) : Nat :=
  min retry (priorities.eraseDups.length - 1)

/-- The candidates with the `(retry + 1)`-th highest distinct priority. -/
def tier (candidates : List (Channel κ)) (retry : Nat) : List (Channel κ) :=
  candidates.filter fun ch =>
    Draw.rank (candidates.map Channel.getPriority) ch.getPriority
      == ranksAbove (candidates.map Channel.getPriority) retry

/-- The factor and the adjustment of a tier: a hundred for each channel where
there is no weight, a hundred times the weight where the average is below ten. -/
def smoothing (targets : List (Channel κ)) : Nat × Nat :=
  let sum := (targets.map Channel.weightNat).sum
  if sum = 0 then (1, 100) else if sum / targets.length < 10 then (100, 0) else (1, 0)

def smoothedWeight (targets : List (Channel κ)) (ch : Channel κ) : Nat :=
  ch.weightNat * (smoothing targets).1 + (smoothing targets).2

def smoothedTotal (targets : List (Channel κ)) : Nat :=
  (targets.map (smoothedWeight targets)).sum

/-! ## The choice of the source -/

/-- The rows of the ids that are listed for a request. -/
def candidateRows (supports : PathSupport κ) (c : ChannelCache κ)
    (group model requestPath : String) : List (Channel κ) :=
  (satisfiedChannels supports c group model requestPath).filterMap c.channelsIDM

def smoothingFactor (targets : List (Channel κ)) : Int64 :=
  let sum := (targets.map Channel.getWeight).foldl (· + ·) 0
  if sum ≠ 0 ∧ sum / Int64.ofNat targets.length < 10 then 100 else 1

def smoothingAdjustment (targets : List (Channel κ)) : Int64 :=
  if (targets.map Channel.getWeight).foldl (· + ·) 0 = 0 then 100 else 0

/-- The argument of `rand.Intn`. -/
def totalWeight (targets : List (Channel κ)) : Int64 :=
  let sum := (targets.map Channel.getWeight).foldl (· + ·) 0
  (if sum = 0 then Int64.ofNat targets.length * 100 else sum) * smoothingFactor targets

theorem drawChannel_eq (intn : Int64 → Int64) (targets : List (Channel κ)) :
    drawChannel intn targets
      = if totalWeight targets ≤ 0 then none
        else match pickByWeight (smoothingFactor targets) (smoothingAdjustment targets)
            (intn (totalWeight targets)) targets with
          | some ch => some (.ok (some ch))
          | none => some (.error "channel not found") :=
  rfl

def chosen (r : Option (Except String (Option (Channel κ)))) : Option (Channel κ) :=
  match r with
  | some (.ok ch) => ch
  | _ => none

/-- The outcomes of `rand.Intn` for the tier with which the request gets `ch`. -/
def outcomesFor [DecidableEq κ] (supports : PathSupport κ) (c : ChannelCache κ)
    (group model : String) (retry : Nat) (requestPath : String) (ch : Channel κ) : Finset Nat :=
  let targets := tier (candidateRows supports c group model requestPath) retry
  (Finset.range (totalWeight targets).toInt.toNat).filter fun r =>
    chosen (getRandomSatisfiedChannel supports (fun _ => Int64.ofNat r) c group model retry
      requestPath) = some ch

/-- Every outcome is a channel of the tier, and a channel of the tier has as
many outcomes as its smoothed weight, as often as it is a candidate. A candidate
alone is not drawn. -/
structure Proportional [DecidableEq κ] (supports : PathSupport κ) (c : ChannelCache κ)
    (group model : String) (retry : Nat) (requestPath : String) : Prop where
  chooses : ∀ intn, Random intn →
    ∃ ch ∈ tier (candidateRows supports c group model requestPath) retry,
      getRandomSatisfiedChannel supports intn c group model retry requestPath
        = some (.ok (some ch))
  outcomes : (candidateRows supports c group model requestPath).length ≠ 1 →
    ∀ ch ∈ tier (candidateRows supports c group model requestPath) retry,
      (outcomesFor supports c group model retry requestPath ch).card
        = (tier (candidateRows supports c group model requestPath) retry).count ch
          * smoothedWeight (tier (candidateRows supports c group model requestPath) retry) ch

/-! ## The tier -/

theorem tier_eq {found : List (Channel κ)} {retry : Nat} {p : Int64}
    (hlevel : level found retry = some p) :
    tier found retry = found.filter fun ch => ch.getPriority == p := by
  rw [level, targetPriority_eq, Draw.length_descending] at hlevel
  refine List.filter_congr fun ch hch => ?_
  have hmem : ch.getPriority ∈ found.map Channel.getPriority := List.mem_map_of_mem hch
  have hrank : Draw.rank (found.map Channel.getPriority) ch.getPriority
      = ranksAbove (found.map Channel.getPriority) retry ↔ ch.getPriority = p := by
    have hat := Draw.getElem?_descending (l := found.map Channel.getPriority)
      (k := ranksAbove (found.map Channel.getPriority) retry) (x := ch.getPriority)
    rw [ranksAbove, hlevel, Option.some.injEq, eq_comm] at hat
    rw [ranksAbove, hat]
    exact ⟨fun h => ⟨hmem, h⟩, And.right⟩
  rw [Bool.eq_iff_iff, beq_iff_eq, beq_iff_eq, hrank]

theorem tier_ne_nil {found : List (Channel κ)} (hne : found ≠ []) (retry : Nat) :
    tier found retry ≠ [] := by
  obtain ⟨p, hlevel⟩ := level_isSome hne retry
  rw [tier_eq hlevel]
  exact filter_level_ne_nil hlevel

theorem tier_singleton (ch : Channel κ) (retry : Nat) : tier [ch] retry = [ch] := by
  have hlevel : level [ch] retry = some ch.getPriority := targetPriority_singleton _ _
  simp [tier_eq hlevel]

theorem length_tier_le (found : List (Channel κ)) (retry : Nat) :
    (tier found retry).length ≤ found.length :=
  List.length_filter_le _ _

/-! ## The smoothing -/

theorem smoothedTotal_eq (targets : List (Channel κ)) :
    smoothedTotal targets = (targets.map Channel.weightNat).sum * (smoothing targets).1
      + targets.length * (smoothing targets).2 := by
  have hsum := sum_scaled targets (smoothing targets).1 (smoothing targets).2
  rw [← Nat.cast_inj (R := Int), ← hsum, smoothedTotal, Nat.cast_list_sum, List.map_map]
  rfl

theorem sum_le_smoothedTotal (targets : List (Channel κ)) :
    (targets.map Channel.weightNat).sum ≤ smoothedTotal targets := by
  rw [smoothedTotal_eq]
  have hfactor : 1 ≤ (smoothing targets).1 := by
    unfold smoothing
    extract_lets sum
    split
    · exact le_rfl
    · split <;> omega
  have hscaled := Nat.mul_le_mul_left (targets.map Channel.weightNat).sum hfactor
  omega

theorem smoothedTotal_pos {targets : List (Channel κ)} (hne : targets ≠ []) :
    0 < smoothedTotal targets := by
  have hsum := sum_le_smoothedTotal targets
  rcases Nat.eq_zero_or_pos (targets.map Channel.weightNat).sum with hzero | hpos
  · have hlen := List.length_pos_iff.2 hne
    rw [smoothedTotal_eq, smoothing, if_pos hzero]
    omega
  · omega

theorem smoothedWeight_le_total {targets : List (Channel κ)} {ch : Channel κ}
    (hch : ch ∈ targets) : smoothedWeight targets ch ≤ smoothedTotal targets :=
  le_sum_of_mem hch _

section

variable {targets : List (Channel κ)} (hlen : targets.length < 2 ^ 63)
  (hfit : smoothedTotal targets < 2 ^ 63)
include hfit

theorem sum_weightNat_of_total : (targets.map Channel.weightNat).sum < 2 ^ 63 :=
  lt_of_le_of_lt (sum_le_smoothedTotal targets) hfit

include hlen

theorem toInt_smoothing :
    (smoothingFactor targets).toInt = (smoothing targets).1 ∧
      (smoothingAdjustment targets).toInt = (smoothing targets).2 := by
  have hsum := toInt_sumWeight (sum_weightNat_of_total hfit)
  unfold smoothingFactor smoothingAdjustment smoothing
  generalize (targets.map Channel.getWeight).foldl (· + ·) 0 = sum at hsum ⊢
  generalize (targets.map Channel.weightNat).sum = total at hsum ⊢
  have hzero : sum = 0 ↔ total = 0 := by
    rw [← Int64.toInt_inj, hsum, Int64.toInt_zero, Int.natCast_eq_zero]
  have havg : sum / Int64.ofNat targets.length < 10 ↔ total / targets.length < 10 := by
    have hten : (10 : Int64).toInt = 10 := rfl
    have hmin : sum ≠ Int64.minValue := by
      rintro rfl
      have hneg : (Int64.minValue).toInt = -2 ^ 63 := rfl
      omega
    rw [Int64.lt_iff_toInt_lt, Int64.toInt_div_of_ne_left _ _ hmin, hsum, hten,
      Int64.toInt_ofNat_of_lt hlen, Int.tdiv_eq_ediv_of_nonneg (by omega)]
    omega
  by_cases hnone : total = 0
  · simp [hzero, hnone]
  · by_cases hsmall : total / targets.length < 10
    · simp [hzero, havg, hnone, hsmall]
    · simp [hzero, havg, hnone, hsmall]

theorem toInt_smoothedWeight {ch : Channel κ} (hch : ch ∈ targets) :
    (ch.getWeight * smoothingFactor targets + smoothingAdjustment targets).toInt
      = smoothedWeight targets ch := by
  obtain ⟨hfactor, hadjustment⟩ := toInt_smoothing hlen hfit
  have hweight := le_sum_of_mem hch Channel.weightNat
  have hsum := sum_weightNat_of_total hfit
  have hscaled := smoothedWeight_le_total hch
  exact toInt_scaled hfactor hadjustment (by omega) (lt_of_le_of_lt hscaled hfit)

theorem toInt_totalWeight : (totalWeight targets).toInt = smoothedTotal targets := by
  have hsum := toInt_sumWeight (sum_weightNat_of_total hfit)
  have hfactor := (toInt_smoothing hlen hfit).1
  have htotal := smoothedTotal_eq targets
  by_cases hzero : (targets.map Channel.weightNat).sum = 0
  · -- the sum counts a hundred for each channel and the factor is one
    have hnone : (targets.map Channel.getWeight).foldl (· + ·) 0 = 0 := by
      rw [← Int64.toInt_inj, hsum, hzero]
      rfl
    have hhundred : (100 : Int64).toInt = 100 := rfl
    have hsmoothing : smoothing targets = (1, 100) := if_pos hzero
    rw [hsmoothing] at htotal
    rw [totalWeight, if_pos hnone, smoothingFactor, if_neg (by simp [hnone]), Int64.mul_one,
      Draw.toInt_mul, hhundred, Int64.toInt_ofNat_of_lt hlen]
    · omega
    · rw [hhundred, Int64.toInt_ofNat_of_lt hlen]
      omega
    · rw [hhundred, Int64.toInt_ofNat_of_lt hlen]
      omega
  · have hsome : (targets.map Channel.getWeight).foldl (· + ·) 0 ≠ 0 := by
      intro hnone
      rw [hnone, Int64.toInt_zero] at hsum
      omega
    have hadjustment : (smoothing targets).2 = 0 := by
      unfold smoothing
      extract_lets sum
      rw [if_neg hzero]
      split <;> rfl
    rw [hadjustment, Nat.mul_zero, Nat.add_zero] at htotal
    have hvalue : ((targets.map Channel.getWeight).foldl (· + ·) 0).toInt
        * (smoothingFactor targets).toInt = smoothedTotal targets := by
      rw [hsum, hfactor, htotal]
      push_cast
      rfl
    rw [totalWeight, if_neg hsome, Draw.toInt_mul (by omega) (by omega), hvalue]

theorem drawChannel_eq_draw (hne : targets ≠ []) {intn : Int64 → Int64}
    (hrandom : 0 ≤ (intn (totalWeight targets)).toInt ∧
      (intn (totalWeight targets)).toInt < smoothedTotal targets) :
    ∃ ch, Draw.draw 0 (fun ch => (smoothedWeight targets ch : Int))
        (intn (totalWeight targets)).toInt targets = some ch ∧
      drawChannel intn targets = some (.ok (some ch)) := by
  have htotal := toInt_totalWeight hlen hfit
  have hpos := smoothedTotal_pos hne
  have hpick := pickByWeight_eq hrandom.1 fun ch hch =>
    ⟨toInt_smoothedWeight hlen hfit hch, Int.natCast_nonneg (smoothedWeight targets ch)⟩
  have hsum : (targets.map fun ch => (smoothedWeight targets ch : Int)).sum
      = smoothedTotal targets := by
    rw [smoothedTotal, Nat.cast_list_sum, List.map_map]
    rfl
  obtain ⟨ch, hch⟩ := Option.isSome_iff_exists.1
    (Draw.isSome_draw 0 le_rfl hrandom.1 (hsum ▸ hrandom.2))
  refine ⟨ch, hch, ?_⟩
  have hgo : ¬ totalWeight targets ≤ 0 := by
    rw [Int64.le_iff_toInt_le, htotal, Int64.toInt_zero]
    omega
  rw [drawChannel_eq, if_neg hgo, hpick, hch]

end

/-! ## Runs of the cache -/

/-- Every listed id has a row. -/
def Known (c : ChannelCache κ) : Prop :=
  ∀ group model, ∀ id ∈ c.group2model2channels group model, (c.channelsIDM id).isSome = true

theorem known_init {order : SliceSort} {old c : ChannelCache κ} {t : ChannelTable κ}
    (h : initChannelCache order old t = some c) : Known c := by
  intro group model id hid
  have henables : t.Enables id := by
    by_contra hno
    exact absurd (count_index_of_not_enables h hno group model)
      (List.count_pos_iff.2 hid).ne'
  obtain ⟨ch, hch, rfl, -⟩ := henables
  obtain ⟨ix, -, rfl⟩ := Option.map_eq_some_iff.1 h
  simp only [Option.isSome_map, channelById, List.find?_isSome, List.mem_reverse]
  exact ⟨ch, hch, by simp⟩

theorem known_update {c : ChannelCache κ} (hc : Known c) (i status : Int) :
    Known (cacheUpdateChannelStatus i status c) := by
  intro group model id hid
  have hlisted : id ∈ c.group2model2channels group model := by
    simp only [cacheUpdateChannelStatus] at hid
    split at hid
    · exact List.mem_of_mem_erase hid
    · exact hid
  have hrow := hc group model id hlisted
  simp only [cacheUpdateChannelStatus]
  split
  · rename_i hsame
    rw [Option.isSome_map, ← hsame]
    exact hrow
  · exact hrow

theorem known_exec {order : SliceSort} {c c' : ChannelCache κ} {op : CacheOp κ} (hc : Known c)
    (h : op.exec order c = some c') : Known c' := by
  cases op with
  | update i status =>
    obtain rfl : cacheUpdateChannelStatus i status c = c' := Option.some.inj h
    exact known_update hc i status
  | rebuild t => exact known_init h

theorem known_run {order : SliceSort} {c : ChannelCache κ} {ops : List (CacheOp κ)}
    (h : execOps order .empty ops = some c) : Known c := by
  have hempty : Known (ChannelCache.empty : ChannelCache κ) := by
    intro group model id hid
    cases hid
  exact execOps_invariant (fun hI _ hop => known_exec hI hop) hempty (fun _ _ => trivial) h

/-! ## The choice among the candidates -/

section

variable {supports : PathSupport κ} {c : ChannelCache κ} (hknown : Known c)
  {group model requestPath : String} {retry : Nat} {intn : Int64 → Int64}
include hknown

theorem known_satisfied : ∀ id ∈ satisfiedChannels supports c group model requestPath,
    (c.channelsIDM id).isSome = true := by
  intro id hid
  obtain ⟨m, hm⟩ := mem_of_satisfiedChannels hid
  exact hknown group m id hm

theorem length_candidates : (candidateRows supports c group model requestPath).length
    = (satisfiedChannels supports c group model requestPath).length := by
  have hrows : ∀ id ∈ satisfiedChannels supports c group model requestPath,
      (c.channelsIDM id).isSome = true := known_satisfied hknown
  unfold candidateRows
  generalize satisfiedChannels supports c group model requestPath = ids at hrows ⊢
  induction ids with
  | nil => rfl
  | cons id rest ih =>
    obtain ⟨hid, hrest⟩ := List.forall_mem_cons.1 hrows
    obtain ⟨ch, hch⟩ := Option.isSome_iff_exists.1 hid
    rw [List.filterMap_cons_some hch, List.length_cons, List.length_cons, ih hrest]

theorem choice_of_one {ch : Channel κ}
    (hone : candidateRows supports c group model requestPath = [ch]) :
    getRandomSatisfiedChannel supports intn c group model retry requestPath
      = some (.ok (some ch)) := by
  have hlen : (candidateRows supports c group model requestPath).length
      = (satisfiedChannels supports c group model requestPath).length := length_candidates hknown
  rw [hone, List.length_singleton, eq_comm, List.length_eq_one_iff] at hlen
  obtain ⟨id, hid⟩ := hlen
  rw [candidateRows, hid] at hone
  cases hrow : c.channelsIDM id with
  | none => simp [hrow] at hone
  | some x =>
    obtain rfl : x = ch := by simpa [hrow] using hone
    simp only [getRandomSatisfiedChannel, hid, hrow]

theorem choice_of_many
    (hmany : 2 ≤ (candidateRows supports c group model requestPath).length) :
    getRandomSatisfiedChannel supports intn c group model retry requestPath
      = drawChannel intn (tier (candidateRows supports c group model requestPath) retry) := by
  have hrows : ∀ id ∈ satisfiedChannels supports c group model requestPath,
      (c.channelsIDM id).isSome = true := known_satisfied hknown
  have hlookup := lookupChannels_eq hrows
  have hne : candidateRows supports c group model requestPath ≠ [] := by
    intro hnil
    rw [hnil, List.length_nil] at hmany
    omega
  obtain ⟨p, hlevel⟩ := level_isSome hne retry
  have hsome := filter_level_ne_nil hlevel
  rw [tier_eq hlevel]
  rw [length_candidates hknown] at hmany
  unfold candidateRows at hlevel hsome ⊢
  unfold level at hlevel
  match hids : satisfiedChannels supports c group model requestPath, hmany with
  | id :: id' :: rest, _ =>
    -- the branch without a channel of the priority is ruled out by `hsome`
    rw [hids] at hlookup hlevel hsome
    simp only [getRandomSatisfiedChannel, hids, hlookup, hlevel]

end

/-! ## When the choice is proportional -/

section

variable [DecidableEq κ] {targets : List (Channel κ)}

/-- The outcomes with which the draw from a tier gives a channel. -/
def drawsFor (targets : List (Channel κ)) (ch : Channel κ) : Finset Nat :=
  (Finset.range (totalWeight targets).toInt.toNat).filter fun r =>
    chosen (drawChannel (fun _ => Int64.ofNat r) targets) = some ch

theorem card_drawsFor (hlen : targets.length < 2 ^ 63) (hfit : smoothedTotal targets < 2 ^ 63)
    (hne : targets ≠ []) (ch : Channel κ) :
    (drawsFor targets ch).card = targets.count ch * smoothedWeight targets ch := by
  have hsum : (targets.map fun ch => (smoothedWeight targets ch : Int)).sum
      = smoothedTotal targets := by
    rw [smoothedTotal, Nat.cast_list_sum, List.map_map]
    rfl
  have hcard := Draw.card_draw (fun ch => (smoothedWeight targets ch : Int))
    (fun y _ => Int.natCast_nonneg _) ch (l := targets)
  rw [hsum] at hcard
  have himage : (drawsFor targets ch).image (fun r : Nat => (r : Int))
      = (Finset.Ico 0 (smoothedTotal targets : Int)).filter fun r =>
        Draw.draw 0 (fun ch => (smoothedWeight targets ch : Int)) r targets = some ch := by
    rw [drawsFor, toInt_totalWeight hlen hfit, Int.toNat_natCast]
    have hiff : ∀ r : Nat, r < smoothedTotal targets →
        (chosen (drawChannel (fun _ => Int64.ofNat r) targets) = some ch ↔
          Draw.draw 0 (fun ch => (smoothedWeight targets ch : Int)) (r : Int) targets
            = some ch) := by
      intro r hr
      have hvalue : (Int64.ofNat r).toInt = r := Int64.toInt_ofNat_of_lt (by omega)
      obtain ⟨x, hdraw, hcall⟩ := @drawChannel_eq_draw _ targets hlen hfit hne
        (fun _ => Int64.ofNat r) (by rw [hvalue]; omega)
      rw [hvalue] at hdraw
      rw [hcall, hdraw]
      rfl
    ext r
    simp only [Finset.mem_image, Finset.mem_filter, Finset.mem_range, Finset.mem_Ico]
    constructor
    · rintro ⟨n, ⟨hn, hchosen⟩, rfl⟩
      exact ⟨⟨by omega, by omega⟩, (hiff n hn).1 hchosen⟩
    · rintro ⟨⟨hlow, hhigh⟩, hdraw⟩
      lift r to Nat using hlow
      exact ⟨r, ⟨by omega, (hiff r (by omega)).2 hdraw⟩, rfl⟩
  rw [← himage, Finset.card_image_of_injective _ Nat.cast_injective] at hcard
  exact_mod_cast hcard

theorem sum_drawsFor (h : ∀ intn, Random intn →
      ∃ ch ∈ targets, drawChannel intn targets = some (.ok (some ch))) :
    (totalWeight targets).toInt.toNat = ∑ ch ∈ targets.toFinset, (drawsFor targets ch).card := by
  have hmaps : Set.MapsTo (fun r => chosen (drawChannel (fun _ => Int64.ofNat r) targets))
      (Finset.range (totalWeight targets).toInt.toNat)
      ((targets.toFinset.image some : Finset (Option (Channel κ))) : Set _) := by
    intro r hr
    have hr : r < (totalWeight targets).toInt.toNat := by simpa using hr
    obtain ⟨intn, hrandom, hvalue⟩ : ∃ intn, Random intn ∧
        (intn (totalWeight targets)).toInt = r :=
      exists_random (Int.natCast_nonneg r) (by omega)
    obtain ⟨ch, hch, hcall⟩ := h intn hrandom
    have hmax := (totalWeight targets).toInt_lt
    have hsame : intn (totalWeight targets) = Int64.ofNat r := by
      rw [← Int64.toInt_inj, hvalue, Int64.toInt_ofNat_of_lt (by omega)]
    have hcall' : drawChannel (fun _ => Int64.ofNat r) targets = some (.ok (some ch)) := by
      rw [← hcall, drawChannel_eq, drawChannel_eq, hsame]
    simp only [hcall', chosen, Finset.coe_image, Set.mem_image, Finset.mem_coe, List.mem_toFinset]
    exact ⟨ch, hch, rfl⟩
  have hcard := Finset.card_eq_sum_card_fiberwise hmaps
  rw [Finset.card_range, Finset.sum_image (fun _ _ _ _ h => Option.some.inj h)] at hcard
  exact hcard

/-- A draw that shares its outcomes out by the smoothed weights has them all
below its total. -/
theorem fits_of_shares (h : ∀ intn, Random intn →
      ∃ ch ∈ targets, drawChannel intn targets = some (.ok (some ch)))
    (hshares : ∀ ch ∈ targets, (drawsFor targets ch).card
      = targets.count ch * smoothedWeight targets ch) :
    smoothedTotal targets < 2 ^ 63 := by
  have htotal : (totalWeight targets).toInt.toNat = smoothedTotal targets := by
    rw [sum_drawsFor h, smoothedTotal, Finset.sum_list_map_count]
    exact Finset.sum_congr rfl fun ch hch => hshares ch (List.mem_toFinset.1 hch)
  have hmax := (totalWeight targets).toInt_lt
  omega

/-- Over every run of the cache: the choice of a channel is total and
proportional exactly when there is a single candidate or the smoothed weights of
the tier add up within an `int`. -/
theorem weighted_choice_iff (order : SliceSort) (supports : PathSupport κ)
    (ops : List (CacheOp κ)) (c : ChannelCache κ) (h : execOps order .empty ops = some c)
    (group model : String) (retry : Nat) (requestPath : String)
    (hne : candidateRows supports c group model requestPath ≠ [])
    (hlen : (candidateRows supports c group model requestPath).length < 2 ^ 63) :
    Proportional supports c group model retry requestPath ↔
      (candidateRows supports c group model requestPath).length = 1 ∨
        smoothedTotal (tier (candidateRows supports c group model requestPath) retry) < 2 ^ 63 := by
  have hknown := known_run h
  have hpos := List.length_pos_iff.2 hne
  by_cases hone : (candidateRows supports c group model requestPath).length = 1
  · refine iff_of_true ⟨fun intn _ => ?_, fun hmany => absurd hone hmany⟩ (Or.inl hone)
    obtain ⟨ch, hch⟩ := List.length_eq_one_iff.1 hone
    rw [hch, tier_singleton]
    exact ⟨ch, List.mem_singleton_self ch, choice_of_one hknown hch⟩
  · have hchoice : ∀ intn, getRandomSatisfiedChannel supports intn c group model retry requestPath
        = drawChannel intn (tier (candidateRows supports c group model requestPath) retry) :=
      fun intn => choice_of_many hknown (by omega)
    have houtcomes : ∀ ch, outcomesFor supports c group model retry requestPath ch
        = drawsFor (tier (candidateRows supports c group model requestPath) retry) ch := by
      intro ch
      simp only [outcomesFor, drawsFor, hchoice]
    have htier := tier_ne_nil hne retry
    have hshort := lt_of_le_of_lt
      (length_tier_le (candidateRows supports c group model requestPath) retry) hlen
    constructor
    · rintro ⟨hchooses, hcounts⟩
      simp only [hchoice] at hchooses
      simp only [houtcomes] at hcounts
      exact Or.inr (fits_of_shares hchooses (hcounts hone))
    · intro hcond
      have hfit := hcond.resolve_left hone
      refine ⟨fun intn hrandom => ?_, fun _ ch _ => ?_⟩
      · have htotal := toInt_totalWeight hshort hfit
        have hsome := smoothedTotal_pos htier
        have hgo : ¬ totalWeight (tier (candidateRows supports c group model requestPath) retry)
            ≤ 0 := not_nonpos_of_lt (r := 0) le_rfl (by omega)
        obtain ⟨hlow, hhigh⟩ := hrandom.toInt hgo
        obtain ⟨ch, hdraw, hcall⟩ :=
          drawChannel_eq_draw hshort hfit htier ⟨hlow, htotal ▸ hhigh⟩
        exact ⟨ch, Draw.mem_of_draw hdraw, (hchoice intn).trans hcall⟩
      · rw [houtcomes]
        exact card_drawsFor hshort hfit htier ch

end

/-! ## Two channels -/

/-- Two channels of one model and one priority. -/
def twoChannels (weight : UInt64) : ChannelTable Unit :=
  ⟨[plainChannel 1 "gpt-4o" weight, plainChannel 2 "gpt-4o" weight], ["default"], by
    simp [plainChannel]⟩

theorem twoChannels_index (weight : UInt64) :
    indexChannels ["default"] (twoChannels weight).channels (fun _ _ => [])
      = some ((ChannelIndex.add (fun _ _ => []) "default" "gpt-4o" 1).add
          "default" "gpt-4o" 2) := by
  have hgroups : splitComma "default" = ["default"] := by decide
  have hmodels : splitComma "gpt-4o" = ["gpt-4o"] := by decide
  have hrow : ∀ id ix, indexGroups ["default"] (plainChannel id "gpt-4o" weight).id
      (plainChannel id "gpt-4o" weight).modelNames (plainChannel id "gpt-4o" weight).groups ix
        = some (ix.add "default" "gpt-4o" id) := by
    intro id ix
    rw [Channel.modelNames, Channel.groups, plainChannel, hgroups, hmodels]
    rfl
  have henabled : ∀ id, (plainChannel id "gpt-4o" weight).enabled = true := fun _ => rfl
  simp only [twoChannels, indexChannels_cons, henabled, if_true, hrow, Option.bind_some]
  rfl

theorem twoChannels_candidates (weight : UInt64) :
    ∃ c, execOps stableSort .empty [.rebuild (twoChannels weight)] = some c ∧
      candidateRows (fun _ _ _ => true) c "default" "gpt-4o" ""
        = [plainChannel 1 "gpt-4o" weight, plainChannel 2 "gpt-4o" weight] := by
  have hindex : (initChannelCache stableSort .empty (twoChannels weight)).isSome = true := by
    rw [initChannelCache, Option.isSome_map]
    exact Option.isSome_iff_exists.2 ⟨_, twoChannels_index weight⟩
  obtain ⟨c, hc⟩ := Option.isSome_iff_exists.1 hindex
  refine ⟨c, by rw [execOps_cons]; exact Option.bind_eq_some_iff.2 ⟨c, hc, rfl⟩, ?_⟩
  obtain ⟨ix, hix, rfl⟩ := Option.map_eq_some_iff.1 hc
  obtain rfl := Option.some.inj (hix.symm.trans (twoChannels_index weight))
  have hlisted : stableSort.sort
      (fun id => ((channelById (twoChannels weight).channels id).map Channel.getPriority).getD 0)
      (ChannelIndex.add (ChannelIndex.add (fun _ _ => []) "default" "gpt-4o" 1)
        "default" "gpt-4o" 2 "default" "gpt-4o") = [1, 2] :=
    List.mergeSort_of_pairwise (by simp [ChannelIndex.add, twoChannels, channelById, plainChannel,
      Channel.getPriority])
  simp only [candidateRows, satisfiedChannels, filterChannelsByRequestPathAndModel, hlisted,
    true_or, if_true, reduceCtorEq, if_false]
  rfl

/-- With a weight of 5 each, either is chosen by 500 of the 1000 outcomes. -/
theorem even_choice_proportional :
    ∃ c, execOps stableSort .empty [.rebuild (twoChannels 5)] = some c ∧
      Proportional (fun _ _ _ => true) c "default" "gpt-4o" 0 "" := by
  obtain ⟨c, hrun, hcandidates⟩ := twoChannels_candidates 5
  refine ⟨c, hrun, (weighted_choice_iff stableSort _ _ c hrun "default" "gpt-4o" 0 ""
    ?_ ?_).2 (Or.inr ?_)⟩
  · simp [hcandidates]
  · simp [hcandidates]
  · rw [hcandidates]
    decide

/-- With a weight of `2^62` each the sum wraps to below zero. -/
theorem heavy_choice_panics :
    ∃ c, execOps stableSort .empty [.rebuild (twoChannels (2 ^ 62))] = some c ∧
      ¬ Proportional (fun _ _ _ => true) c "default" "gpt-4o" 0 "" := by
  obtain ⟨c, hrun, hcandidates⟩ := twoChannels_candidates (2 ^ 62)
  refine ⟨c, hrun, fun hprop => ?_⟩
  obtain ⟨ch, -, hcall⟩ := hprop.chooses (fun _ => 0) random_zero
  rw [choice_of_many (known_run hrun) (by simp [hcandidates]), hcandidates] at hcall
  have hpanics : drawChannel (fun _ => 0) (tier [plainChannel 1 "gpt-4o" (2 ^ 62),
      plainChannel 2 "gpt-4o" (2 ^ 62)] 0) = none := by
    decide +kernel
  rw [hpanics] at hcall
  cases hcall

end YouBox
