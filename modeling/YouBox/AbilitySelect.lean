import YouBox.ChannelCache
import YouBox.Draw

/-!
# Selecting a channel from the abilities table

`GetChannel` is what `GetRandomSatisfiedChannel` does when the memory
cache is off. It reads the rows `AddAbilities` has written for each
channel and takes three decisions in its own order: the priority level
comes from all rows of the group and model, the request path is checked
after that, and every row that is left has ten added to its weight. The
cache checks the path first, counts levels among what is left, falls
back to the matching name of a model, and hands out nothing of weight
zero beside something heavier.

The two are compared through the sets of channels each can return over
all random outcomes. Both sets are computed in terms of the channel
table, and `Agreeing` is the condition on the table and the request
under which they are the same.
-/

namespace YouBox

variable {κ : Type*}

/-! ## The abilities table -/

/-- A row of `abilities`; a channel without priority has the column's default. -/
structure Ability where
  group : String
  model : String
  channelId : Int
  enabled : Bool
  priority : Int64
  weight : UInt64

def abilityKey (pair : String × String) : String :=
  pair.1 ++ "|" ++ pair.2

/-- The pairs whose key has not been seen before. -/
def freshPairs (seen : List String) : List (String × String) → List (String × String)
  | [] => []
  | pair :: rest =>
    if abilityKey pair ∈ seen then freshPairs seen rest
    else pair :: freshPairs (abilityKey pair :: seen) rest

def Channel.abilityPairs (ch : Channel κ) : List (String × String) :=
  freshPairs [] (ch.modelNames.flatMap fun model => ch.groups.map fun group => (group, model))

def Channel.ability (ch : Channel κ) (group model : String) : Ability where
  group := group
  model := model
  channelId := ch.id
  enabled := ch.enabled
  priority := ch.getPriority
  weight := ch.getWeight.toUInt64

def Channel.addAbilities (ch : Channel κ) : List Ability :=
  ch.abilityPairs.map fun pair => ch.ability pair.1 pair.2

def abilityTable (channels : List (Channel κ)) : List Ability :=
  channels.flatMap Channel.addAbilities

/-- What a rebuild of the cache reads when the abilities are those of the
channels. -/
def channelTableOf (channels : List (Channel κ)) (nodup : (channels.map Channel.id).Nodup) :
    ChannelTable κ :=
  ⟨channels, (abilityTable channels).map Ability.group, nodup⟩

/-! ## The database path -/

/-- `group = ? and model = ? and enabled = true` -/
def matchingRows (rows : List Ability) (group model : String) : List Ability :=
  rows.filter fun row => row.group == group && row.model == model && row.enabled

/-- `MAX(priority)` -/
def maxPriority : List Int64 → Option Int64
  | [] => none
  | p :: rest => some (rest.foldl (fun m q => if m < q then q else m) p)

/-- The priority level of a retry; `none` when the index panics. -/
def getPriority (rows : List Ability) (group model : String) (retry : Int) :
    Option (Except String Int64) :=
  let priorities := Draw.descending ((matchingRows rows group model).map Ability.priority)
  if priorities = [] then some (.error "数据库一致性被破坏")
  else if retry ≥ priorities.length then priorities.getLast?.map .ok
  else if retry < 0 then none
  else priorities[retry.toNat]?.map .ok

def getChannelQuery (rows : List Ability) (group model : String) (retry : Int) :
    Option (Except String (List Ability)) :=
  let atPriority (p : Int64) : List Ability :=
    (matchingRows rows group model).filter fun row => row.priority == p
  if retry ≠ 0 then (getPriority rows group model retry).map (Except.map atPriority)
  else
    match maxPriority ((matchingRows rows group model).map Ability.priority) with
    | none => some (.ok [])
    | some p => some (.ok (atPriority p))

/-- `ORDER BY weight DESC`, with any order among equal weights. -/
structure RowOrder where
  sort : List Ability → List Ability
  perm : ∀ rows, (sort rows).Perm rows
  sorted : ∀ rows, (sort rows).Pairwise fun a b => b.weight ≤ a.weight

def filterAbilitiesByRequestPathAndModel (supports : PathSupport κ) (channels : List (Channel κ))
    (abilities : List Ability) (requestPath model : String) : List Ability :=
  if requestPath = "" ∨ abilities = [] then abilities
  else abilities.filter fun row =>
    match channelById channels row.channelId with
    | none => true
    | some ch =>
      if ch.type ≠ channelTypeAdvancedCustom then true
      else match ch.advancedCustom with
        | none => false
        | some config => supports config requestPath model

/-- The loop that finds a row by its weight. -/
def pickAbility : Int64 → List Ability → Option Ability
  | _, [] => none
  | weight, row :: rest =>
    let left := weight - (row.weight.toInt64 + 10)
    if left ≤ 0 then some row else pickAbility left rest

/-- `GetChannel`; `none` when it panics. A loop that finds no row looks for
channel 0. -/
def getChannel (supports : PathSupport κ) (order : RowOrder) (intn : Int64 → Int64)
    (channels : List (Channel κ)) (group model : String) (retry : Int) (requestPath : String) :
    Option (Except String (Option (Channel κ))) :=
  match getChannelQuery (abilityTable channels) group model retry with
  | none => none
  | some (.error e) => some (.error e)
  | some (.ok rows) =>
    let abilities :=
      filterAbilitiesByRequestPathAndModel supports channels (order.sort rows) requestPath model
    if abilities = [] then some (.ok none)
    else
      let weightSum := abilities.foldl (fun sum row => sum + (row.weight + 10)) 0
      let total := weightSum.toInt64
      if total ≤ 0 then none
      else
        let id := ((pickAbility (intn total) abilities).map Ability.channelId).getD 0
        match channelById channels id with
        | some ch => some (.ok (some ch))
        | none => some (.error "record not found")

/-! ## The channels a path can return -/

/-- What `rand.Intn` promises. -/
def Random (intn : Int64 → Int64) : Prop :=
  ∀ n, 0 < n → 0 ≤ intn n ∧ intn n < n

def cacheReturns (supports : PathSupport κ) (c : ChannelCache κ) (group model : String)
    (retry : Nat) (requestPath : String) : Set Int :=
  {id | ∃ intn ch, Random intn ∧
    getRandomSatisfiedChannel supports intn c group model retry requestPath
      = some (.ok (some ch)) ∧ ch.id = id}

def databaseReturns (supports : PathSupport κ) (order : RowOrder) (channels : List (Channel κ))
    (group model : String) (retry : Nat) (requestPath : String) : Set Int :=
  {id | ∃ intn ch, Random intn ∧
    getChannel supports order intn channels group model retry requestPath
      = some (.ok (some ch)) ∧ ch.id = id}

/-! ## The condition -/

/-- The channel takes requests for the path. -/
def Channel.accepts (supports : PathSupport κ) (requestPath model : String) (ch : Channel κ) :
    Bool :=
  requestPath == "" || ch.type != channelTypeAdvancedCustom ||
    match ch.advancedCustom with
    | none => false
    | some config => supports config requestPath model

/-- The enabled channels whose columns list the group and the model. -/
def serving (channels : List (Channel κ)) (group model : String) : List (Channel κ) :=
  channels.filter fun ch => ch.enabled && ch.groups.contains group && ch.modelNames.contains model

/-- The enabled channels with a row for the group and the model. -/
def recorded (channels : List (Channel κ)) (group model : String) : List (Channel κ) :=
  channels.filter fun ch => ch.enabled && ch.abilityPairs.contains (group, model)

def Channel.weightNat (ch : Channel κ) : Nat :=
  (ch.weight.getD 0).toNat

/-- The priority a retry asks for among some channels. -/
def level (channels : List (Channel κ)) (retry : Nat) : Option Int64 :=
  targetPriority (channels.map Channel.getPriority) retry

/-- A channel of a level that has some weight, or no less than the others. -/
def Weighty (channels : List (Channel κ)) (ch : Channel κ) : Prop :=
  0 < ch.weightNat ∨ ∀ other ∈ channels, other.getPriority = ch.getPriority → other.weightNat = 0

/-- The channels that serve a name and take the request, a path and a model. -/
def accepting (supports : PathSupport κ) (channels : List (Channel κ))
    (group name requestPath model : String) : List (Channel κ) :=
  (serving channels group name).filter (Channel.accepts supports requestPath model)

/-- The retry asks for the same level among the channels serving a request as
among the recorded ones, and of the channels serving it at that level exactly
those with weight are recorded. -/
def SameDraw (own rows : List (Channel κ)) (retry : Nat) : Prop :=
  level own retry = level rows retry ∧
    ∀ ch ∈ own, some ch.getPriority = level own retry → (ch ∈ rows ↔ Weighty own ch)

/-- The condition on the table and the request: if no channel takes it under
the model's own name, none does under its matching name; if some do, cache and
database draw alike. -/
def Agreeing (supports : PathSupport κ) (channels : List (Channel κ)) (group model : String)
    (retry : Nat) (requestPath : String) : Prop :=
  if accepting supports channels group model requestPath model = [] then
    accepting supports channels group (formatMatchingModelName model) requestPath model = []
  else
    SameDraw (accepting supports channels group model requestPath model)
      (recorded channels group model) retry

/-- The most a channel adds to a total: its weight or one, times the factor
the cache puts on small weights. -/
def Channel.load (ch : Channel κ) : Nat :=
  100 * ch.weightNat + 100

/-- The weights listed under a group and a model, as often as they are listed,
stay within the range of the sums. -/
def WeightsFit (channels : List (Channel κ)) (group model : String) : Prop :=
  ((channels.filter Channel.enabled).map fun ch => ch.occurrences group model * ch.load).sum
    < 2 ^ 63

deriving instance DecidableEq for Channel

instance (channels : List (Channel κ)) (ch : Channel κ) : Decidable (Weighty channels ch) :=
  inferInstanceAs (Decidable (0 < ch.weightNat ∨
    ∀ other ∈ channels, other.getPriority = ch.getPriority → other.weightNat = 0))

instance (channels : List (Channel κ)) (group model : String) :
    Decidable (WeightsFit channels group model) :=
  Nat.decLt _ _

instance [DecidableEq κ] (own rows : List (Channel κ)) (retry : Nat) :
    Decidable (SameDraw own rows retry) :=
  inferInstanceAs (Decidable (level own retry = level rows retry ∧
    ∀ ch ∈ own, some ch.getPriority = level own retry → (ch ∈ rows ↔ Weighty own ch)))

instance [DecidableEq κ] (supports : PathSupport κ) (channels : List (Channel κ))
    (group model : String) (retry : Nat) (requestPath : String) :
    Decidable (Agreeing supports channels group model retry requestPath) :=
  inferInstanceAs (Decidable (if accepting supports channels group model requestPath model = []
    then accepting supports channels group (formatMatchingModelName model) requestPath model = []
    else SameDraw (accepting supports channels group model requestPath model)
      (recorded channels group model) retry))

/-! ## Random outcomes -/

variable {total : Int64} {intn : Int64 → Int64} {ch : Channel κ} {factor adjustment : Int64}
  {rows : List Ability} {ps : List Int64} {p : Int64}

theorem exists_random {r : Int} (hlow : 0 ≤ r) (hhigh : r < total.toInt) :
    ∃ intn, Random intn ∧ (intn total).toInt = r := by
  have hvalue : (Int64.ofInt r).toInt = r := by
    have hmax := total.toInt_lt
    exact Int64.toInt_ofInt_of_le (by omega) (by omega)
  refine ⟨fun n => if n = total then Int64.ofInt r else 0, ?_, by simpa using hvalue⟩
  intro n hn
  by_cases htotal : n = total
  · subst htotal
    simp only [if_true, Int64.le_iff_toInt_le, Int64.lt_iff_toInt_lt, hvalue, Int64.toInt_zero]
    exact ⟨hlow, hhigh⟩
  · simp only [htotal, if_false]
    exact ⟨Int64.le_refl 0, hn⟩

theorem Random.toInt (h : Random intn) (hpos : ¬ total ≤ 0) :
    0 ≤ (intn total).toInt ∧ (intn total).toInt < total.toInt := by
  have hlt : 0 < total := Int64.not_le.1 hpos
  obtain ⟨hlow, hhigh⟩ := h total hlt
  rw [Int64.le_iff_toInt_le, Int64.toInt_zero] at hlow
  exact ⟨hlow, Int64.lt_iff_toInt_lt.1 hhigh⟩

theorem not_nonpos_of_lt {r : Int} (hlow : 0 ≤ r) (hhigh : r < total.toInt) :
    ¬ total ≤ 0 := by
  rw [Int64.le_iff_toInt_le, Int64.toInt_zero]
  omega

/-! ## The draw of the cache -/

theorem getWeight_toInt (h : ch.weightNat < 2 ^ 63) :
    ch.getWeight.toInt = ch.weightNat :=
  Draw.toInt_toInt64 h

variable {id : Int} {random : Int64} {a f : Nat}

theorem pickByWeight_eq {weight : Channel κ → Int} {targets : List (Channel κ)}
    (hr : 0 ≤ random.toInt)
    (hw : ∀ ch ∈ targets, (ch.getWeight * factor + adjustment).toInt = weight ch ∧ 0 ≤ weight ch) :
    pickByWeight factor adjustment random targets
      = Draw.draw 0 weight random.toInt targets := by
  induction targets generalizing random with
  | nil => rfl
  | cons ch rest ih =>
    obtain ⟨⟨hch, hpos⟩, hrest⟩ := List.forall_mem_cons.1 hw
    have hleft : (random - (ch.getWeight * factor + adjustment)).toInt
        = random.toInt - weight ch := by
      have hmax := random.toInt_lt
      have hmax' := (ch.getWeight * factor + adjustment).toInt_lt
      rw [Draw.toInt_sub (by omega) (by omega), hch]
    simp only [pickByWeight, Draw.draw, Int64.lt_iff_toInt_lt, hleft, Int64.toInt_zero]
    split
    · rfl
    · rw [ih (by omega) hrest, hleft]

theorem draw_body_iff {weight : Channel κ → Int} {targets : List (Channel κ)}
    (hw : ∀ ch ∈ targets, (ch.getWeight * factor + adjustment).toInt = weight ch ∧ 0 ≤ weight ch)
    (htotal : total.toInt = (targets.map weight).sum) :
    (∃ intn, Random intn ∧ ¬ total ≤ 0 ∧
        pickByWeight factor adjustment (intn total) targets = some ch)
      ↔ ch ∈ targets ∧ 0 < weight ch := by
  constructor
  · rintro ⟨intn, hrandom, hpos, hpick⟩
    obtain ⟨hlow, -⟩ := hrandom.toInt hpos
    rw [pickByWeight_eq hlow hw] at hpick
    exact ⟨Draw.mem_of_draw hpick, Draw.weight_pos_of_draw hlow hpick⟩
  · rintro ⟨hmem, hheavy⟩
    obtain ⟨r, hlow, hhigh, hdraw⟩ :=
      Draw.exists_draw 0 weight le_rfl (fun ch hch => (hw ch hch).2) hmem hheavy
    rw [← htotal] at hhigh
    obtain ⟨intn, hrandom, hvalue⟩ := exists_random hlow hhigh
    refine ⟨intn, hrandom, not_nonpos_of_lt hlow hhigh, ?_⟩
    rw [pickByWeight_eq (hvalue ▸ hlow) hw, hvalue]
    exact hdraw

theorem drawChannel_eq_some {targets : List (Channel κ)} {sum : Int64}
    (hsum : (targets.map Channel.getWeight).foldl (· + ·) 0 = sum)
    (hfactor : (if sum ≠ 0 ∧ sum / Int64.ofNat targets.length < 10 then 100 else 1) = factor)
    (hadjustment : (if sum = 0 then 100 else 0) = adjustment)
    (htotal : (if sum = 0 then Int64.ofNat targets.length * 100 else sum) * factor = total) :
    drawChannel intn targets = some (.ok (some ch))
      ↔ ¬ total ≤ 0 ∧ pickByWeight factor adjustment (intn total) targets = some ch := by
  subst hsum hfactor hadjustment htotal
  unfold drawChannel
  extract_lets len sum sumWeight adjustment factor total
  change _ ↔ ¬ total ≤ 0 ∧ pickByWeight factor adjustment (intn total) targets = some ch
  by_cases hpos : total ≤ 0
  · simp [hpos]
  · rw [if_neg hpos]
    cases pickByWeight factor adjustment (intn total) targets <;> simp [hpos]

theorem sum_scaled (targets : List (Channel κ)) (f a : Nat) :
    (targets.map fun ch => ((ch.weightNat * f + a : Nat) : Int)).sum
      = (((targets.map Channel.weightNat).sum * f + targets.length * a : Nat) : Int) := by
  induction targets with
  | nil => simp
  | cons ch rest ih =>
    simp only [List.map_cons, List.sum_cons, List.length_cons, ih]
    push_cast
    ring

theorem sum_load (targets : List (Channel κ)) :
    (targets.map Channel.load).sum
      = 100 * (targets.map Channel.weightNat).sum + 100 * targets.length := by
  induction targets with
  | nil => rfl
  | cons ch rest ih =>
    simp only [List.map_cons, List.sum_cons, List.length_cons, ih, Channel.load]
    ring

theorem le_sum_of_mem {targets : List (Channel κ)} (h : ch ∈ targets) (f : Channel κ → Nat) :
    f ch ≤ (targets.map f).sum :=
  List.single_le_sum (fun _ _ => Nat.zero_le _) _ (List.mem_map_of_mem h)

theorem sum_eq_zero_iff {targets : List (Channel κ)} :
    (targets.map Channel.weightNat).sum = 0 ↔ ∀ ch ∈ targets, ch.weightNat = 0 := by
  induction targets with
  | nil => simp
  | cons ch rest ih => simp [ih]

theorem toInt_getWeight {targets : List (Channel κ)}
    (h : (targets.map Channel.weightNat).sum < 2 ^ 63) (hch : ch ∈ targets) :
    ch.getWeight.toInt = ch.weightNat :=
  getWeight_toInt (lt_of_le_of_lt (le_sum_of_mem hch Channel.weightNat) h)

theorem toInt_sumWeight {targets : List (Channel κ)}
    (h : (targets.map Channel.weightNat).sum < 2 ^ 63) :
    ((targets.map Channel.getWeight).foldl (· + ·) 0).toInt
      = (((targets.map Channel.weightNat).sum : Nat) : Int) := by
  have hmap : (targets.map Channel.getWeight).map Int64.toInt
      = targets.map fun ch => ((ch.weightNat : Nat) : Int) := by
    rw [List.map_map]
    exact List.map_congr_left fun ch hch => toInt_getWeight h hch
  have hsum := sum_scaled targets 1 0
  simp only [Nat.mul_one, Nat.mul_zero, Nat.add_zero] at hsum
  rw [Draw.toInt_foldl_add (by simp) ?_ ?_, hmap, hsum]
  · simp
  · intro x hx
    obtain ⟨ch, hch, rfl⟩ := List.mem_map.1 hx
    rw [toInt_getWeight h hch]
    omega
  · rw [hmap, hsum]
    simp only [Int64.toInt_zero]
    omega

theorem toInt_scaled (hf : factor.toInt = f) (ha : adjustment.toInt = a)
    (hweight : ch.weightNat < 2 ^ 63) (hscaled : ch.weightNat * f + a < 2 ^ 63) :
    (ch.getWeight * factor + adjustment).toInt = ((ch.weightNat * f + a : Nat) : Int) := by
  have hvalue : ch.getWeight.toInt * factor.toInt = ((ch.weightNat * f : Nat) : Int) := by
    rw [getWeight_toInt hweight, hf]
    push_cast
    ring
  have hmul : (ch.getWeight * factor).toInt = ((ch.weightNat * f : Nat) : Int) := by
    rw [Draw.toInt_mul (by omega) (by omega), hvalue]
  rw [Draw.toInt_add (by omega) (by omega), hmul, ha]
  push_cast
  ring

section

variable {targets : List (Channel κ)} (hfit : (targets.map Channel.load).sum < 2 ^ 63)
include hfit

theorem sum_weightNat_of_fit : (targets.map Channel.weightNat).sum < 2 ^ 63 := by
  have hload := sum_load targets
  omega

variable {ch : Channel κ}

theorem toInt_scaled_of_fit {factor adjustment : Int64} (hf : factor.toInt = f)
    (ha : adjustment.toInt = a) (hfle : f ≤ 100) (hale : a ≤ 100) (hch : ch ∈ targets) :
    (ch.getWeight * factor + adjustment).toInt = ((ch.weightNat * f + a : Nat) : Int)
      ∧ (0 : Int) ≤ ((ch.weightNat * f + a : Nat) : Int) := by
  have hload := le_sum_of_mem hch Channel.load
  have hscaled : ch.weightNat * f ≤ ch.weightNat * 100 := Nat.mul_le_mul_left _ hfle
  unfold Channel.load at hload hfit
  exact ⟨toInt_scaled hf ha (by omega) (by omega), by omega⟩

theorem draw_scaled_iff (factor adjustment total : Int64) (hf : factor.toInt = f)
    (ha : adjustment.toInt = a) (hfle : f ≤ 100) (hale : a ≤ 100) (htotal : total.toInt =
      (((targets.map Channel.weightNat).sum * f + targets.length * a : Nat) : Int)) :
    (∃ intn, Random intn ∧ ¬ total ≤ 0 ∧
        pickByWeight factor adjustment (intn total) targets = some ch)
      ↔ ch ∈ targets ∧ 0 < ch.weightNat * f + a := by
  rw [draw_body_iff (fun ch hch => toInt_scaled_of_fit hfit hf ha hfle hale hch)
    (htotal.trans (sum_scaled targets f a).symm)]
  simp only [Int.natCast_pos]

theorem drawChannel_iff_of_zero (hzero : ∀ other ∈ targets, other.weightNat = 0) :
    (∃ intn, Random intn ∧ drawChannel intn targets = some (.ok (some ch))) ↔ ch ∈ targets := by
  have hload := sum_load targets
  have hnone := sum_eq_zero_iff.2 hzero
  have hsum : (targets.map Channel.getWeight).foldl (· + ·) 0 = 0 := by
    rw [← Int64.toInt_inj, toInt_sumWeight (sum_weightNat_of_fit hfit), hnone]
    rfl
  have hvalue : (Int64.ofNat targets.length).toInt * (100 : Int64).toInt
      = ((targets.length * 100 : Nat) : Int) := by
    have hhundred : (100 : Int64).toInt = 100 := rfl
    rw [Int64.toInt_ofNat_of_lt (by omega), hhundred]
    push_cast
    ring
  have htotal : (Int64.ofNat targets.length * 100).toInt
      = (((targets.map Channel.weightNat).sum * 1 + targets.length * 100 : Nat) : Int) := by
    rw [Draw.toInt_mul (by omega) (by omega), hvalue, hnone]
    simp
  have hdraw : _ ↔ ch ∈ targets ∧ _ := draw_scaled_iff hfit 1 100
    (Int64.ofNat targets.length * 100) (f := 1) (a := 100) rfl rfl (by omega) le_rfl htotal
  simp only [drawChannel_eq_some hsum (if_neg (by simp)) (if_pos rfl)
    (show _ = Int64.ofNat targets.length * 100 by simp), hdraw]
  exact ⟨fun h => h.1, fun h => ⟨h, by omega⟩⟩

theorem drawChannel_iff_of_pos (hpos : 0 < (targets.map Channel.weightNat).sum) :
    (∃ intn, Random intn ∧ drawChannel intn targets = some (.ok (some ch)))
      ↔ ch ∈ targets ∧ 0 < ch.weightNat := by
  have hload := sum_load targets
  have hsum := toInt_sumWeight (sum_weightNat_of_fit hfit)
  obtain ⟨sum, hsumdef⟩ : ∃ sum, (targets.map Channel.getWeight).foldl (· + ·) 0 = sum := ⟨_, rfl⟩
  rw [hsumdef] at hsum
  have hs : sum ≠ 0 := by
    rintro rfl
    rw [Int64.toInt_zero] at hsum
    omega
  obtain ⟨factor, f, hfactor, hf, hfle, hfpos⟩ : ∃ (factor : Int64) (f : Nat),
      (if sum ≠ 0 ∧ sum / Int64.ofNat targets.length < 10 then 100 else 1) = factor ∧
        factor.toInt = f ∧ f ≤ 100 ∧ 0 < f := by
    split
    · exact ⟨100, 100, rfl, rfl, le_rfl, by omega⟩
    · exact ⟨1, 1, rfl, rfl, by omega, by omega⟩
  have hscaled : (targets.map Channel.weightNat).sum * f
      ≤ (targets.map Channel.weightNat).sum * 100 := Nat.mul_le_mul_left _ hfle
  have hvalue : sum.toInt * factor.toInt
      = (((targets.map Channel.weightNat).sum * f : Nat) : Int) := by
    rw [hsum, hf]
    push_cast
    ring
  have htotal : (sum * factor).toInt
      = (((targets.map Channel.weightNat).sum * f + targets.length * 0 : Nat) : Int) := by
    rw [Draw.toInt_mul (by omega) (by omega), hvalue]
    simp
  have hdraw : _ ↔ ch ∈ targets ∧ _ := draw_scaled_iff hfit factor 0 (sum * factor) hf rfl hfle
    (Nat.zero_le 100) htotal
  simp only [drawChannel_eq_some hsumdef hfactor (if_neg hs)
    (show _ = sum * factor by rw [if_neg hs]), hdraw]
  simp [hfpos]

/-- The channels of a level that can be drawn: those with weight, or all if
none has any. -/
theorem drawChannel_iff :
    (∃ intn, Random intn ∧ drawChannel intn targets = some (.ok (some ch)))
      ↔ ch ∈ targets ∧ (0 < ch.weightNat ∨ ∀ other ∈ targets, other.weightNat = 0) := by
  by_cases hzero : ∀ other ∈ targets, other.weightNat = 0
  · rw [drawChannel_iff_of_zero hfit hzero]
    exact ⟨fun hch => ⟨hch, Or.inr hzero⟩, And.left⟩
  · rw [drawChannel_iff_of_pos hfit (Nat.pos_of_ne_zero (mt sum_eq_zero_iff.1 hzero))]
    simp [hzero]

end

/-! ## The draw of the database path -/

theorem toInt_rowWeight {row : Ability} (h : row.weight.toNat + 10 < 2 ^ 63) :
    (row.weight.toInt64 + 10).toInt = (row.weight.toNat : Int) + 10 := by
  have hweight : row.weight.toInt64.toInt = row.weight.toNat := Draw.toInt_toInt64 (by omega)
  have hten : (10 : Int64).toInt = 10 := rfl
  rw [Draw.toInt_add (by omega) (by omega), hweight, hten]

theorem pickAbility_eq (hr : 0 ≤ random.toInt) (hw : ∀ row ∈ rows, row.weight.toNat + 10 < 2 ^ 63) :
    pickAbility random rows
      = Draw.draw 1 (fun row => (row.weight.toNat : Int) + 10) random.toInt rows := by
  induction rows generalizing random with
  | nil => rfl
  | cons row rest ih =>
    obtain ⟨hrow, hrest⟩ := List.forall_mem_cons.1 hw
    have hweight := toInt_rowWeight hrow
    have hleft : (random - (row.weight.toInt64 + 10)).toInt
        = random.toInt - ((row.weight.toNat : Int) + 10) := by
      have hmax := random.toInt_lt
      rw [Draw.toInt_sub (by omega) (by omega), hweight]
    have hstop : random - (row.weight.toInt64 + 10) ≤ 0
        ↔ random.toInt - ((row.weight.toNat : Int) + 10) < 1 := by
      rw [Int64.le_iff_toInt_le, hleft, Int64.toInt_zero]
      omega
    simp only [pickAbility, Draw.draw, hstop]
    split
    · rfl
    · rw [ih (by omega) hrest, hleft]

theorem row_fits (hfit : (rows.map fun row => row.weight.toNat + 10).sum < 2 ^ 63) :
    ∀ row ∈ rows, row.weight.toNat + 10 < 2 ^ 63 := by
  intro row hrow
  have hle := List.single_le_sum (fun _ _ => Nat.zero_le _) _
    (List.mem_map_of_mem (f := fun row : Ability => row.weight.toNat + 10) hrow)
  omega

theorem toInt_weightSum (hfit : (rows.map fun row => row.weight.toNat + 10).sum < 2 ^ 63) :
    (rows.foldl (fun sum (row : Ability) => sum + (row.weight + 10)) 0).toInt64.toInt
      = (rows.map fun row => (row.weight.toNat : Int) + 10).sum := by
  have hterm : (rows.map fun row => (row.weight + 10).toNat)
      = rows.map fun row => row.weight.toNat + 10 := by
    refine List.map_congr_left fun row hrow => ?_
    have hlt := row_fits hfit row hrow
    have hten : (10 : UInt64).toNat = 10 := rfl
    rw [UInt64.toNat_add, hten, Nat.mod_eq_of_lt (by omega)]
  have hsum : (rows.foldl (fun sum (row : Ability) => sum + (row.weight + 10)) 0).toNat
      = (rows.map fun row => row.weight.toNat + 10).sum := by
    have hzero : (0 : UInt64).toNat = 0 := rfl
    rw [Draw.toNat_foldl_add (f := fun row : Ability => row.weight + 10) (by rw [hterm]; omega),
      hterm]
    omega
  rw [Draw.toInt_toInt64 (by omega), hsum, Nat.cast_list_sum, List.map_map]
  rfl

theorem pickAbility_iff (hfit : (rows.map fun row => row.weight.toNat + 10).sum < 2 ^ 63)
    (htotal : (rows.foldl (fun sum (row : Ability) => sum + (row.weight + 10)) 0).toInt64 = total) :
    (∃ intn, Random intn ∧ ¬ total ≤ 0 ∧
        ((pickAbility (intn total) rows).map Ability.channelId).getD 0 = id)
      ↔ ∃ row ∈ rows, row.channelId = id := by
  have hsum := toInt_weightSum hfit
  rw [htotal] at hsum
  have heach := row_fits hfit
  constructor
  · rintro ⟨intn, hrandom, hpos, rfl⟩
    obtain ⟨hlow, hhigh⟩ := hrandom.toInt hpos
    rw [hsum] at hhigh
    obtain ⟨row, hrow⟩ := Option.isSome_iff_exists.1
      (Draw.isSome_draw 1 (by omega) hlow hhigh)
    rw [pickAbility_eq hlow heach, hrow]
    exact ⟨row, Draw.mem_of_draw hrow, rfl⟩
  · rintro ⟨row, hmem, rfl⟩
    obtain ⟨r, hlow, hhigh, hdraw⟩ := Draw.exists_draw 1
      (fun row : Ability => (row.weight.toNat : Int) + 10) (by omega) (fun _ _ => by omega) hmem
      (by omega)
    rw [← hsum] at hhigh
    obtain ⟨intn, hrandom, hvalue⟩ := exists_random (by omega) hhigh
    refine ⟨intn, hrandom, not_nonpos_of_lt (by omega) hhigh, ?_⟩
    rw [pickAbility_eq (by omega) heach, hvalue, hdraw]
    rfl

/-! ## The levels -/

theorem targetPriority_eq (priorities : List Int64) (retry : Nat) :
    targetPriority priorities retry
      = (Draw.descending priorities)[min retry ((Draw.descending priorities).length - 1)]? := by
  obtain ⟨D, hD⟩ : ∃ D, Draw.descending priorities = D := ⟨_, rfl⟩
  have hunfold : targetPriority priorities retry
      = if (if (retry : Int) ≥ D.length then (D.length : Int) - 1 else retry) < 0 then none
        else D[(if (retry : Int) ≥ D.length then (D.length : Int) - 1 else retry).toNat]? := by
    rw [← hD]
    rfl
  rw [hunfold, hD]
  by_cases hlt : retry < D.length
  · have hin : ¬ (retry : Int) ≥ D.length := by omega
    have hmin : min retry (D.length - 1) = retry := by omega
    simp only [hin, if_false, hmin, Int.toNat_natCast, if_neg (show ¬ (retry : Int) < 0 by omega)]
  · have hout : (retry : Int) ≥ D.length := by omega
    have hmin : min retry (D.length - 1) = D.length - 1 := by omega
    simp only [hout, if_true, hmin]
    cases D with
    | nil => simp
    | cons p rest => simp

theorem targetPriority_congr {qs : List Int64} (h : ∀ p, p ∈ ps ↔ p ∈ qs) (retry : Nat) :
    targetPriority ps retry = targetPriority qs retry := by
  rw [targetPriority_eq, targetPriority_eq, Draw.descending_congr h]

variable {retry : Nat} {group model : String}

theorem mem_of_targetPriority (h : targetPriority ps retry = some p) : p ∈ ps := by
  rw [targetPriority_eq] at h
  exact Draw.mem_descending.1 (List.mem_of_getElem? h)

theorem targetPriority_isSome (hne : ps ≠ []) (retry : Nat) :
    ∃ p, targetPriority ps retry = some p := by
  rw [targetPriority_eq]
  have hpos : 0 < (Draw.descending ps).length := by
    obtain ⟨p, hp⟩ := List.exists_mem_of_ne_nil ps hne
    exact List.length_pos_of_mem (Draw.mem_descending.2 hp)
  exact ⟨_, List.getElem?_eq_getElem (by omega)⟩

theorem foldl_max_spec (ps : List Int64) (p : Int64) :
    ps.foldl (fun m q => if m < q then q else m) p ∈ p :: ps ∧
      ∀ q ∈ p :: ps, q ≤ ps.foldl (fun m q => if m < q then q else m) p := by
  induction ps generalizing p with
  | nil => simp
  | cons x rest ih =>
    rw [List.foldl_cons]
    obtain ⟨hmem, hmax⟩ := ih (if p < x then x else p)
    obtain ⟨hfirst, hrest⟩ := List.forall_mem_cons.1 hmax
    have hp : p ≤ (if p < x then x else p) ∧ x ≤ (if p < x then x else p) := by
      split
      · rename_i hlt
        exact ⟨Int64.le_of_lt hlt, Int64.le_refl x⟩
      · rename_i hle
        exact ⟨Int64.le_refl p, Int64.not_lt.1 hle⟩
    constructor
    · obtain heq | hin := List.mem_cons.1 hmem
      · rw [heq]
        split <;> simp
      · exact List.mem_cons_of_mem p (List.mem_cons_of_mem x hin)
    · intro q hq
      obtain rfl | hq := List.mem_cons.1 hq
      · exact Int64.le_trans hp.1 hfirst
      · obtain rfl | hq := List.mem_cons.1 hq
        · exact Int64.le_trans hp.2 hfirst
        · exact hrest q hq

theorem maxPriority_eq (ps : List Int64) : maxPriority ps = targetPriority ps (0 : Nat) := by
  rw [targetPriority_eq, Nat.zero_min]
  cases ps with
  | nil => simp [maxPriority, Draw.descending]
  | cons p rest =>
    obtain ⟨hmem, hmax⟩ := foldl_max_spec rest p
    exact (Draw.head_descending hmem hmax).symm

theorem getPriority_eq_ok
    (h : targetPriority ((matchingRows rows group model).map Ability.priority) retry = some p) :
    getPriority rows group model retry = some (.ok p) := by
  rw [targetPriority_eq] at h
  unfold getPriority
  extract_lets priorities
  change priorities[min retry (priorities.length - 1)]? = some p at h
  have hpos : 0 < priorities.length := by
    have hlt := (List.getElem?_eq_some_iff.1 h).1
    omega
  rw [if_neg (List.ne_nil_of_length_pos hpos)]
  by_cases hge : (retry : Int) ≥ priorities.length
  · have hmin : min retry (priorities.length - 1) = priorities.length - 1 := by omega
    rw [hmin] at h
    rw [if_pos hge, List.getLast?_eq_getElem?, h]
    rfl
  · have hmin : min retry (priorities.length - 1) = retry := by omega
    rw [hmin] at h
    rw [if_neg hge, if_neg (by omega), Int.toNat_natCast, h]
    rfl

theorem getChannelQuery_eq_ok
    (h : targetPriority ((matchingRows rows group model).map Ability.priority) retry = some p) :
    getChannelQuery rows group model retry
      = some (.ok ((matchingRows rows group model).filter fun row => row.priority == p)) := by
  unfold getChannelQuery
  by_cases hzero : retry = 0
  · subst hzero
    rw [if_neg (by simp), maxPriority_eq, h]
  · rw [if_pos (by simpa using hzero), getPriority_eq_ok h]
    rfl

/-- Without rows nothing is selected, whether the query finds nothing or the
level is an error. -/
theorem getChannelQuery_of_empty (retry : Nat) (h : matchingRows rows group model = []) :
    getChannelQuery rows group model retry = some (.ok []) ∨
      ∃ e, getChannelQuery rows group model retry = some (.error e) := by
  unfold getChannelQuery
  by_cases hzero : retry = 0
  · left
    rw [if_neg (by simpa using hzero), h]
    rfl
  · right
    have herror : getPriority rows group model retry = some (.error "数据库一致性被破坏") := by
      simp [getPriority, h, Draw.descending]
    rw [if_pos (by simpa using hzero), herror]
    exact ⟨_, rfl⟩

/-! ## The rows of a channel table -/

theorem freshPairs_spec (seen : List String) (pairs : List (String × String)) :
    (∀ pair ∈ freshPairs seen pairs, abilityKey pair ∉ seen ∧ pair ∈ pairs) ∧
      (freshPairs seen pairs).Nodup := by
  induction pairs generalizing seen with
  | nil => simp [freshPairs]
  | cons pair rest ih =>
    unfold freshPairs
    split
    · refine ⟨fun q hq => ?_, (ih seen).2⟩
      obtain ⟨hfresh, hmem⟩ := (ih seen).1 q hq
      exact ⟨hfresh, List.mem_cons_of_mem pair hmem⟩
    · rename_i hseen
      obtain ⟨hrest, hnodup⟩ := ih (abilityKey pair :: seen)
      constructor
      · intro q hq
        obtain rfl | hq := List.mem_cons.1 hq
        · exact ⟨hseen, List.mem_cons_self⟩
        · obtain ⟨hfresh, hmem⟩ := hrest q hq
          exact ⟨fun hin => hfresh (List.mem_cons_of_mem _ hin), List.mem_cons_of_mem pair hmem⟩
      · refine List.nodup_cons.2 ⟨fun hin => ?_, hnodup⟩
        exact (hrest pair hin).1 List.mem_cons_self

theorem nodup_abilityPairs (ch : Channel κ) : ch.abilityPairs.Nodup :=
  (freshPairs_spec [] _).2

theorem listed_of_mem_abilityPairs (h : (group, model) ∈ ch.abilityPairs) :
    group ∈ ch.groups ∧ model ∈ ch.modelNames := by
  have hmem := ((freshPairs_spec [] _).1 _ h).2
  simpa [and_comm] using hmem

theorem matchingRows_addAbilities (ch : Channel κ) (group model : String) :
    matchingRows ch.addAbilities group model
      = if ch.enabled && ch.abilityPairs.contains (group, model) then [ch.ability group model]
        else [] := by
  unfold matchingRows Channel.addAbilities
  rw [List.filter_map]
  by_cases hen : ch.enabled = true
  · have hfilter : ch.abilityPairs.filter ((fun row : Ability => row.group == group
        && row.model == model && row.enabled) ∘ fun pair => ch.ability pair.1 pair.2)
        = List.replicate (ch.abilityPairs.count (group, model)) (group, model) := by
      rw [← List.filter_beq]
      refine List.filter_congr fun pair _ => ?_
      obtain ⟨g, m⟩ := pair
      rw [Bool.eq_iff_iff]
      simp [Channel.ability, hen]
    rw [hfilter, hen, Bool.true_and]
    by_cases hmem : (group, model) ∈ ch.abilityPairs
    · rw [List.count_eq_one_of_mem (nodup_abilityPairs ch) hmem]
      simp [hmem]
    · rw [List.count_eq_zero_of_not_mem hmem]
      simp [hmem]
  · have hfalse : ch.enabled = false := by simpa using hen
    simp [Channel.ability, hfalse]

theorem matchingRows_abilityTable (channels : List (Channel κ)) (group model : String) :
    matchingRows (abilityTable channels) group model
      = (recorded channels group model).map fun ch => ch.ability group model := by
  induction channels with
  | nil => rfl
  | cons ch rest ih =>
    have hsplit : matchingRows (abilityTable (ch :: rest)) group model
        = matchingRows ch.addAbilities group model
          ++ matchingRows (abilityTable rest) group model := by
      simp [matchingRows, abilityTable]
    rw [hsplit, ih, matchingRows_addAbilities]
    unfold recorded
    rw [List.filter_cons]
    split <;> simp

theorem priorities_matchingRows (channels : List (Channel κ)) (group model : String) :
    (matchingRows (abilityTable channels) group model).map Ability.priority
      = (recorded channels group model).map Channel.getPriority := by
  rw [matchingRows_abilityTable, List.map_map]
  rfl

theorem serving_of_recorded {channels : List (Channel κ)} (h : ch ∈ recorded channels group model) :
    ch ∈ serving channels group model := by
  simp only [recorded, serving, List.mem_filter, Bool.and_eq_true, List.contains_iff_mem] at h ⊢
  obtain ⟨hmem, hen, hpair⟩ := h
  obtain ⟨hgroup, hmodel⟩ := listed_of_mem_abilityPairs hpair
  exact ⟨hmem, ⟨hen, hgroup⟩, hmodel⟩

theorem ability_weight (ch : Channel κ) (group model : String) :
    (ch.ability group model).weight.toNat = ch.weightNat := by
  simp [Channel.ability, Channel.getWeight, Channel.weightNat]

/-! ## What the database path returns -/

theorem channelById_of_mem {channels : List (Channel κ)} (hnd : (channels.map Channel.id).Nodup)
    (hmem : ch ∈ channels) : channelById channels ch.id = some ch := by
  cases hfind : channelById channels ch.id with
  | none =>
    simp only [channelById, List.find?_eq_none, List.mem_reverse, beq_iff_eq] at hfind
    exact absurd rfl (hfind ch hmem)
  | some x =>
    have hx : x ∈ channels := List.mem_reverse.1 (List.mem_of_find?_eq_some hfind)
    have hid : x.id = ch.id := channelById_id hfind
    rw [List.inj_on_of_nodup_map hnd hx hmem hid]

theorem sum_recorded_le (channels : List (Channel κ)) (group model : String) :
    ((recorded channels group model).map fun ch => ch.weightNat + 10).sum
      ≤ ((channels.filter Channel.enabled).map fun ch =>
          ch.occurrences group model * ch.load).sum := by
  induction channels with
  | nil => simp [recorded]
  | cons ch rest ih =>
    unfold recorded at ih ⊢
    by_cases hen : ch.enabled = true
    · by_cases hpair : (group, model) ∈ ch.abilityPairs
      · obtain ⟨hgroup, hmodel⟩ := listed_of_mem_abilityPairs hpair
        have hone : 1 ≤ ch.occurrences group model :=
          Nat.mul_le_mul (List.count_pos_iff.2 hgroup) (List.count_pos_iff.2 hmodel)
        have hload : ch.weightNat + 10 ≤ ch.occurrences group model * ch.load :=
          calc ch.weightNat + 10 ≤ 1 * ch.load := by unfold Channel.load; omega
            _ ≤ ch.occurrences group model * ch.load := Nat.mul_le_mul_right _ hone
        simp only [List.filter_cons, hen, Bool.true_and, if_true, List.contains_iff_mem, hpair,
          List.map_cons, List.sum_cons]
        omega
      · simp only [List.filter_cons, hen, Bool.true_and, if_true, List.contains_iff_mem, hpair,
          if_false, List.map_cons, List.sum_cons]
        omega
    · simpa [hen] using ih

theorem mem_filterAbilities {supports : PathSupport κ} {channels : List (Channel κ)}
    (hnd : (channels.map Channel.id).Nodup) (hmem : ch ∈ channels)
    (group model requestPath name : String) :
    ch.ability group model
        ∈ filterAbilitiesByRequestPathAndModel supports channels rows requestPath name
      ↔ ch.ability group model ∈ rows ∧ ch.accepts supports requestPath name = true := by
  have hfind : channelById channels (ch.ability group model).channelId = some ch :=
    channelById_of_mem hnd hmem
  unfold filterAbilitiesByRequestPathAndModel
  by_cases hpath : requestPath = ""
  · simp [hpath, Channel.accepts]
  · by_cases hrows : rows = []
    · simp [hrows]
    · rw [if_neg (by simp [hpath, hrows]), List.mem_filter, hfind]
      refine and_congr_right fun _ => ?_
      by_cases htype : ch.type = channelTypeAdvancedCustom
      · simp only [htype, ne_eq, not_true_eq_false, if_false, Channel.accepts, bne_self_eq_false,
          Bool.or_false, beq_iff_eq, hpath, Bool.or_eq_true, false_or]
      · simp [htype, Channel.accepts]

theorem filterAbilities_sublist (supports : PathSupport κ) (channels : List (Channel κ))
    (rows : List Ability) (requestPath model : String) :
    (filterAbilitiesByRequestPathAndModel supports channels rows requestPath model).Sublist
      rows := by
  unfold filterAbilitiesByRequestPathAndModel
  split
  · exact List.Sublist.refl rows
  · exact List.filter_sublist

theorem getChannel_eq_some {supports : PathSupport κ} {order : RowOrder}
    {channels : List (Channel κ)} {requestPath : String} {retry : Int} {abilities : List Ability}
    (hquery : getChannelQuery (abilityTable channels) group model retry = some (.ok rows))
    (habilities : filterAbilitiesByRequestPathAndModel supports channels (order.sort rows)
      requestPath model = abilities) (htotal : (abilities.foldl (fun sum (row : Ability) => sum +
      (row.weight + 10)) 0).toInt64 = total) :
    getChannel supports order intn channels group model retry requestPath = some (.ok (some ch))
      ↔ abilities ≠ [] ∧ ¬ total ≤ 0 ∧
        channelById channels (((pickAbility (intn total) abilities).map Ability.channelId).getD 0)
          = some ch := by
  simp only [getChannel, hquery, habilities, htotal]
  by_cases hne : abilities = []
  · simp [hne]
  · by_cases hpos : total ≤ 0
    · simp [hne, hpos]
    · simp only [hne, hpos, if_false, ne_eq, not_false_eq_true, true_and]
      cases channelById channels
        (((pickAbility (intn total) abilities).map Ability.channelId).getD 0) <;> simp

/-- The rows that are left after the level and the request path. -/
def leftRows (supports : PathSupport κ) (order : RowOrder) (channels : List (Channel κ))
    (group model requestPath : String) (p : Int64) : List Ability :=
  filterAbilitiesByRequestPathAndModel supports channels
    (order.sort ((matchingRows (abilityTable channels) group model).filter
      fun row => row.priority == p)) requestPath model

section

variable {supports : PathSupport κ} {order : RowOrder} {channels : List (Channel κ)}
  {group model requestPath : String} {retry : Nat}

theorem mem_leftRows (hnd : (channels.map Channel.id).Nodup) {p : Int64} {row : Ability} :
    row ∈ leftRows supports order channels group model requestPath p
      ↔ ∃ ch ∈ recorded channels group model, ch.ability group model = row ∧
          ch.getPriority = p ∧ ch.accepts supports requestPath model = true := by
  have hsorted : ∀ {row : Ability}, row ∈ order.sort ((matchingRows (abilityTable channels) group
      model).filter fun row => row.priority == p) ↔ ∃ ch ∈ recorded channels group model,
      ch.ability group model = row ∧ ch.getPriority = p := by
    intro row
    rw [(order.perm _).mem_iff, matchingRows_abilityTable, List.mem_filter, List.mem_map]
    constructor
    · rintro ⟨⟨ch, hch, rfl⟩, hp⟩
      exact ⟨ch, hch, rfl, by simpa [Channel.ability] using hp⟩
    · rintro ⟨ch, hch, rfl, hp⟩
      exact ⟨⟨ch, hch, rfl⟩, by simpa [Channel.ability] using hp⟩
  unfold leftRows
  constructor
  · intro hrow
    obtain ⟨ch, hch, rfl, hp⟩ := hsorted.1 ((filterAbilities_sublist _ _ _ _ _).subset hrow)
    rw [mem_filterAbilities hnd (List.mem_of_mem_filter hch)] at hrow
    exact ⟨ch, hch, rfl, hp, hrow.2⟩
  · rintro ⟨ch, hch, rfl, hp, haccepts⟩
    rw [mem_filterAbilities hnd (List.mem_of_mem_filter hch)]
    exact ⟨hsorted.2 ⟨ch, hch, rfl, hp⟩, haccepts⟩

theorem leftRows_fit (hfit : WeightsFit channels group model) (p : Int64) :
    ((leftRows supports order channels group model requestPath p).map
      fun row => row.weight.toNat + 10).sum < 2 ^ 63 := by
  have hmatching : ((matchingRows (abilityTable channels) group model).map
      fun row => row.weight.toNat + 10)
      = (recorded channels group model).map fun ch => ch.weightNat + 10 := by
    rw [matchingRows_abilityTable, List.map_map]
    exact List.map_congr_left fun ch _ => by simp [ability_weight]
  calc _ ≤ ((order.sort ((matchingRows (abilityTable channels) group model).filter
          fun row => row.priority == p)).map fun row => row.weight.toNat + 10).sum :=
        ((filterAbilities_sublist _ _ _ _ _).map _).sum_le_sum (fun _ _ => Nat.zero_le _)
    _ = (((matchingRows (abilityTable channels) group model).filter
          fun row => row.priority == p).map fun row => row.weight.toNat + 10).sum :=
        ((order.perm _).map _).sum_eq
    _ ≤ ((matchingRows (abilityTable channels) group model).map
          fun row => row.weight.toNat + 10).sum :=
        (List.filter_sublist.map _).sum_le_sum (fun _ _ => Nat.zero_le _)
    _ = ((recorded channels group model).map fun ch => ch.weightNat + 10).sum := by rw [hmatching]
    _ ≤ _ := sum_recorded_le channels group model
    _ < 2 ^ 63 := hfit

theorem databaseReturns_of_none (hempty : recorded channels group model = []) :
    databaseReturns supports order channels group model retry requestPath = ∅ := by
  rw [Set.eq_empty_iff_forall_notMem]
  rintro id ⟨intn, ch, -, hget, -⟩
  have hrows : matchingRows (abilityTable channels) group model = [] := by
    rw [matchingRows_abilityTable, hempty, List.map_nil]
  obtain hquery | ⟨e, hquery⟩ := getChannelQuery_of_empty retry hrows
  · have hsort : order.sort [] = [] := List.perm_nil.1 (order.perm [])
    simp [getChannel, hquery, hsort, filterAbilitiesByRequestPathAndModel] at hget
  · simp [getChannel, hquery] at hget

/-- The database path returns the recorded channels of the level that take the
request path. -/
theorem mem_databaseReturns (hnd : (channels.map Channel.id).Nodup)
    (hfit : WeightsFit channels group model) :
    id ∈ databaseReturns supports order channels group model retry requestPath
      ↔ ∃ ch ∈ recorded channels group model, ch.id = id ∧
          some ch.getPriority = level (recorded channels group model) retry ∧
          ch.accepts supports requestPath model = true := by
  by_cases hempty : recorded channels group model = []
  · simp [databaseReturns_of_none hempty, hempty]
  · obtain ⟨p, hp⟩ := targetPriority_isSome (mt List.map_eq_nil_iff.1 hempty) retry
    have hquery := getChannelQuery_eq_ok (by rw [priorities_matchingRows]; exact hp)
    have hlevel : level (recorded channels group model) retry = some p := hp
    have hleft := @mem_leftRows κ supports order channels group model requestPath hnd p
    have hsum := @leftRows_fit κ supports order channels group model requestPath hfit p
    obtain ⟨rows, hrows⟩ :
      ∃ rows, leftRows supports order channels group model requestPath p = rows := ⟨_, rfl⟩
    obtain ⟨total, htotal⟩ : ∃ total, (rows.foldl
      (fun sum (row : Ability) => sum + (row.weight + 10)) 0).toInt64 = total := ⟨_, rfl⟩
    rw [hrows] at hleft hsum
    rw [hlevel]
    constructor
    · rintro ⟨intn, ch, hrandom, hget, rfl⟩
      obtain ⟨-, hpos, hfound⟩ := (getChannel_eq_some hquery hrows htotal).1 hget
      obtain ⟨row, hrow, hid⟩ := (pickAbility_iff hsum htotal).1 ⟨intn, hrandom, hpos, rfl⟩
      obtain ⟨x, hx, rfl, hxp, haccepts⟩ := hleft.1 hrow
      rw [← hid] at hfound
      have hsame : channelById channels x.id = some x :=
        channelById_of_mem hnd (List.mem_of_mem_filter hx)
      obtain rfl : x = ch := Option.some.inj (hsame.symm.trans hfound)
      exact ⟨x, hx, rfl, congrArg some hxp, haccepts⟩
    · rintro ⟨ch, hch, rfl, hchp, haccepts⟩
      have hrow := hleft.2 ⟨ch, hch, rfl, Option.some.inj hchp, haccepts⟩
      obtain ⟨intn, hrandom, hpos, hid⟩ := (pickAbility_iff hsum htotal).2 ⟨_, hrow, rfl⟩
      refine ⟨intn, ch, hrandom, ?_, rfl⟩
      refine (getChannel_eq_some hquery hrows htotal).2 ⟨List.ne_nil_of_mem hrow, hpos, ?_⟩
      rw [hid]
      exact channelById_of_mem hnd (List.mem_of_mem_filter hch)

end

end YouBox
