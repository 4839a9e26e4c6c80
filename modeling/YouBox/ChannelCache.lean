import Mathlib

/-!
# The channel cache

`InitChannelCache` reads the channel table into two indexes: every channel by
its id, and for each group and model the ids of the enabled channels that serve
it, a channel once for each pair of an entry of its `group` and an entry of its
`models` column. `CacheUpdateChannelStatus` takes a channel that is no longer
enabled out of the second index, one occurrence in each list, and
`GetRandomSatisfiedChannel` draws from that index without looking at the status
again.

So everything turns on how often an id stands in one list. `count_index` counts
it: the product of how often the group and the model are written in the
channel's own row. Where no entry is repeated one removal is enough, and the
channel stays away until a rebuild puts it back; where one is repeated, some
run keeps selecting the channel it has just disabled.
-/

namespace YouBox

def channelStatusEnabled : Int := 1

def channelTypeAdvancedCustom : Int := 58

inductive MultiKeyMode where
  | random
  | polling
deriving DecidableEq

structure ChannelInfo where
  isMultiKey : Bool
  multiKeyMode : MultiKeyMode
  multiKeyPollingIndex : Int
deriving DecidableEq

/-- A row of `channels`. `advancedCustom` is the configuration that
`GetOtherSettings` parses out of the settings column. -/
structure Channel (κ : Type*) where
  id : Int
  type : Int
  status : Int
  weight : Option UInt64
  models : String
  group : String
  priority : Option Int64
  channelInfo : ChannelInfo
  advancedCustom : Option κ

/-- `strings.Split(s, ",")`. -/
def splitComma (s : String) : List String :=
  (s.toList.splitOn ',').map String.ofList

namespace Channel

variable {κ : Type*}

def getPriority (ch : Channel κ) : Int64 := ch.priority.getD 0

def getWeight (ch : Channel κ) : Int64 := (ch.weight.getD 0).toInt64

def enabled (ch : Channel κ) : Bool := ch.status == channelStatusEnabled

def groups (ch : Channel κ) : List String := splitComma ch.group

def modelNames (ch : Channel κ) : List String := splitComma ch.models

end Channel

/-- What one rebuild reads: the channels, whose ids are the primary key of
their table, and the groups that stand in the abilities table. -/
structure ChannelTable (κ : Type*) where
  channels : List (Channel κ)
  abilityGroups : List String
  nodup : (channels.map Channel.id).Nodup

/-- The ids by group and model; a key that is absent reads as the empty list. -/
abbrev ChannelIndex := String → String → List Int

structure ChannelCache (κ : Type*) where
  group2model2channels : ChannelIndex
  channelsIDM : Int → Option (Channel κ)
  channel2advancedCustomConfig : Int → Option κ

/-- What `sort.Slice` may do with a list of ids sorted by descending key: the
order among equal keys is not specified. -/
structure SliceSort where
  sort : (Int → Int64) → List Int → List Int
  perm : ∀ key l, (sort key l).Perm l
  sorted : ∀ key l, (sort key l).Pairwise fun a b => key b ≤ key a

/-! ## The functions of the source -/

section

variable {κ : Type*}

def ChannelIndex.add (ix : ChannelIndex) (group model : String) (id : Int) : ChannelIndex :=
  fun g m => if g = group ∧ m = model then ix g m ++ [id] else ix g m

/-- The inner loop. A group that no ability names has no map of its own, and
the assignment into it panics. -/
def indexModels (known : List String) (id : Int) (group : String) (models : List String)
    (ix : ChannelIndex) : Option ChannelIndex :=
  models.foldlM (fun ix model => if group ∈ known then some (ix.add group model id) else none) ix

def indexGroups (known : List String) (id : Int) (models groups : List String)
    (ix : ChannelIndex) : Option ChannelIndex :=
  groups.foldlM (fun ix group => indexModels known id group models ix) ix

def indexChannels (known : List String) (channels : List (Channel κ)) (ix : ChannelIndex) :
    Option ChannelIndex :=
  channels.foldlM (fun ix ch =>
    if ch.enabled then indexGroups known ch.id ch.modelNames ch.groups ix else some ix) ix

/-- `newChannelId2channel`: the last row with the id. -/
def channelById (channels : List (Channel κ)) (id : Int) : Option (Channel κ) :=
  channels.reverse.find? fun ch => ch.id == id

/-- A polling multi-key channel that is already cached keeps its polling index. -/
def keepPollingIndex (old : ChannelCache κ) (ch : Channel κ) : Channel κ :=
  if ch.channelInfo.isMultiKey ∧ ch.channelInfo.multiKeyMode = .polling then
    match old.channelsIDM ch.id with
    | some o =>
      if o.channelInfo.isMultiKey ∧ o.channelInfo.multiKeyMode = .polling then
        { ch with channelInfo := { ch.channelInfo with
            multiKeyPollingIndex := o.channelInfo.multiKeyPollingIndex } }
      else ch
    | none => ch
  else ch

/-- `InitChannelCache` with the memory cache enabled; `none` when it panics. -/
def initChannelCache (order : SliceSort) (old : ChannelCache κ) (t : ChannelTable κ) :
    Option (ChannelCache κ) :=
  (indexChannels t.abilityGroups t.channels fun _ _ => []).map fun ix =>
    { group2model2channels := fun g m =>
        order.sort (fun id => ((channelById t.channels id).map Channel.getPriority).getD 0) (ix g m)
      channelsIDM := fun id => (channelById t.channels id).map (keepPollingIndex old)
      channel2advancedCustomConfig := fun id =>
        (channelById t.channels id).bind fun ch =>
          if ch.type = channelTypeAdvancedCustom then ch.advancedCustom else none }

/-- `CacheUpdateChannelStatus`. The loop over a list stops at the first
occurrence it removes. -/
def cacheUpdateChannelStatus (id status : Int) (c : ChannelCache κ) : ChannelCache κ :=
  { c with
    channelsIDM := fun i =>
      if i = id then (c.channelsIDM id).map fun ch => { ch with status := status }
      else c.channelsIDM i
    group2model2channels :=
      if status ≠ channelStatusEnabled then fun g m => (c.group2model2channels g m).erase id
      else c.group2model2channels }

/-- `SupportsPathForModel`, whose route patterns are regular expressions. -/
abbrev PathSupport (κ : Type*) := κ → String → String → Bool

def filterChannelsByRequestPathAndModel (supports : PathSupport κ) (c : ChannelCache κ)
    (channels : List Int) (requestPath model : String) : List Int :=
  if requestPath = "" ∨ channels = [] then channels
  else channels.filter fun id =>
    match c.channelsIDM id with
    | none => true
    | some ch =>
      if ch.type ≠ channelTypeAdvancedCustom then true
      else match c.channel2advancedCustomConfig id with
        | none => false
        | some config => supports config requestPath model

def handleThinkingBudgetModel (name pre wildcard : String) : String :=
  if pre.toList <+: name.toList ∧ "-thinking-".toList <:+: name.toList then wildcard else name

def formatMatchingModelName (name : String) : String :=
  let name :=
    if "gemini-2.5-flash-lite".toList <+: name.toList then
      handleThinkingBudgetModel name "gemini-2.5-flash-lite" "gemini-2.5-flash-lite-thinking-*"
    else if "gemini-2.5-flash".toList <+: name.toList then
      handleThinkingBudgetModel name "gemini-2.5-flash" "gemini-2.5-flash-thinking-*"
    else if "gemini-2.5-pro".toList <+: name.toList then
      handleThinkingBudgetModel name "gemini-2.5-pro" "gemini-2.5-pro-thinking-*"
    else name
  let name := if "gpt-4-gizmo".toList <+: name.toList then "gpt-4-gizmo-*" else name
  if "gpt-4o-gizmo".toList <+: name.toList then "gpt-4o-gizmo-*" else name

def channelMissing (id : Int) : String :=
  "数据库一致性错误，渠道# " ++ toString id ++ " 不存在，请联系管理员修复"

def lookupChannels (c : ChannelCache κ) : List Int → Except String (List (Channel κ))
  | [] => .ok []
  | id :: rest =>
    match c.channelsIDM id with
    | none => .error (channelMissing id)
    | some ch => (lookupChannels c rest).map (ch :: ·)

/-- The loop that finds a channel by its weight. -/
def pickByWeight (factor adjustment : Int64) : Int64 → List (Channel κ) → Option (Channel κ)
  | _, [] => none
  | random, ch :: rest =>
    let left := random - (ch.getWeight * factor + adjustment)
    if left < 0 then some ch else pickByWeight factor adjustment left rest

/-- From the target priority's channels to the channel drawn; `none` when
`rand.Intn` panics because the total is not positive. -/
def drawChannel (intn : Int64 → Int64) (targets : List (Channel κ)) :
    Option (Except String (Option (Channel κ))) :=
  let len := Int64.ofNat targets.length
  let sum := (targets.map Channel.getWeight).foldl (· + ·) 0
  let sumWeight := if sum = 0 then len * 100 else sum
  let adjustment := if sum = 0 then 100 else 0
  let factor := if sum ≠ 0 ∧ sum / len < 10 then 100 else 1
  let total := sumWeight * factor
  if total ≤ 0 then none
  else match pickByWeight factor adjustment (intn total) targets with
    | some ch => some (.ok (some ch))
    | none => some (.error "channel not found")

/-- The priority the retry count asks for, among the distinct ones in descending
order; `none` when the index panics, on a negative count. -/
def targetPriority (priorities : List Int64) (retry : Int) : Option Int64 :=
  let sorted := priorities.eraseDups.mergeSort fun a b => decide (b ≤ a)
  let retry : Int := if retry ≥ sorted.length then sorted.length - 1 else retry
  if retry < 0 then none else sorted[retry.toNat]?

/-- The ids under the model's exact name, and without any the ids under its
matching name; the request path is always checked against the exact name. -/
def satisfiedChannels (supports : PathSupport κ) (c : ChannelCache κ)
    (group model requestPath : String) : List Int :=
  let exactly := filterChannelsByRequestPathAndModel supports c
    (c.group2model2channels group model) requestPath model
  if exactly = [] then filterChannelsByRequestPathAndModel supports c
    (c.group2model2channels group (formatMatchingModelName model)) requestPath model
  else exactly

/-- What `GetRandomSatisfiedChannel` returns from the memory cache, `none` when
it panics: on a negative retry count, or in `rand.Intn`. `intn` gives the
random outcome. -/
def getRandomSatisfiedChannel (supports : PathSupport κ) (intn : Int64 → Int64)
    (c : ChannelCache κ) (group model : String) (retry : Int) (requestPath : String) :
    Option (Except String (Option (Channel κ))) :=
  match satisfiedChannels supports c group model requestPath with
  | [] => some (.ok none)
  | [id] =>
    match c.channelsIDM id with
    | some ch => some (.ok (some ch))
    | none => some (.error (channelMissing id))
  | channels =>
    match lookupChannels c channels with
    | .error e => some (.error e)
    | .ok found =>
      match targetPriority (found.map Channel.getPriority) retry with
      | none => none
      | some target =>
        match found.filter fun ch => ch.getPriority == target with
        | [] => some (.error
            s!"no channel found, group: {group}, model: {model}, priority: {target}")
        | targets => drawChannel intn targets

end

/-! ## How often an id stands in a list -/

section

variable {κ : Type*}

theorem ChannelIndex.count_add (ix : ChannelIndex) (group model : String) (id : Int)
    (g m : String) (j : Int) :
    (ix.add group model id g m).count j
      = (ix g m).count j + if g = group ∧ m = model ∧ j = id then 1 else 0 := by
  unfold ChannelIndex.add
  by_cases hgm : g = group ∧ m = model
  · by_cases hj : j = id
    · simp [hgm, hj]
    · simp [hgm, hj, Ne.symm hj]
  · have hno : ¬ (g = group ∧ m = model ∧ j = id) := fun h => hgm ⟨h.1, h.2.1⟩
    simp [hgm, hno]

theorem indexModels_cons (known : List String) (id : Int) (group model : String)
    (models : List String) (ix : ChannelIndex) :
    indexModels known id group (model :: models) ix
      = if group ∈ known then indexModels known id group models (ix.add group model id)
        else none := by
  unfold indexModels
  split <;> simp [*]

variable {known : List String}

theorem count_indexModels {id : Int} {group : String} :
    ∀ {models : List String} {ix ix' : ChannelIndex},
      indexModels known id group models ix = some ix' → ∀ g m j,
      (ix' g m).count j = (ix g m).count j + if g = group ∧ j = id then models.count m else 0
  | [], ix, ix', h => by
    intro g m j
    obtain rfl : ix = ix' := Option.some.inj h
    simp
  | model :: models, ix, ix', h => by
    intro g m j
    rw [indexModels_cons] at h
    split at h
    · rw [count_indexModels h g m j, ix.count_add]
      by_cases hgj : g = group ∧ j = id
      · by_cases hm : m = model
        · simp [hgj, hm]; omega
        · simp [hgj, hm, Ne.symm hm]
      · have hno : ¬ (g = group ∧ m = model ∧ j = id) := fun h => hgj ⟨h.1, h.2.2⟩
        simp [hgj, hno]
    · cases h

theorem indexGroups_cons (known : List String) (id : Int) (models : List String)
    (group : String) (groups : List String) (ix : ChannelIndex) :
    indexGroups known id models (group :: groups) ix
      = (indexModels known id group models ix).bind (indexGroups known id models groups) := rfl

theorem count_indexGroups {id : Int} {models : List String} :
    ∀ {groups : List String} {ix ix' : ChannelIndex},
      indexGroups known id models groups ix = some ix' → ∀ g m j,
      (ix' g m).count j
        = (ix g m).count j + if j = id then groups.count g * models.count m else 0
  | [], ix, ix', h => by
    intro g m j
    obtain rfl : ix = ix' := Option.some.inj h
    simp
  | group :: groups, ix, ix', h => by
    intro g m j
    rw [indexGroups_cons] at h
    obtain ⟨ix₁, h₁, h₂⟩ := Option.bind_eq_some_iff.mp h
    rw [count_indexGroups h₂ g m j, count_indexModels h₁ g m j]
    by_cases hj : j = id
    · by_cases hg : g = group
      · simp [hj, hg, Nat.add_mul]; omega
      · simp [hj, hg, Ne.symm hg]
    · simp [hj]

/-- How often an enabled channel's id stands in the list of `g` and `m`. -/
def Channel.occurrences (ch : Channel κ) (g m : String) : Nat :=
  ch.groups.count g * ch.modelNames.count m

theorem indexChannels_cons (known : List String) (ch : Channel κ) (channels : List (Channel κ))
    (ix : ChannelIndex) :
    indexChannels known (ch :: channels) ix
      = (if ch.enabled then indexGroups known ch.id ch.modelNames ch.groups ix
          else some ix).bind (indexChannels known channels) := rfl

theorem count_indexChannels :
    ∀ {channels : List (Channel κ)} {ix ix' : ChannelIndex},
      indexChannels known channels ix = some ix' → ∀ g m j,
      (ix' g m).count j = (ix g m).count j
        + ((channels.filter fun ch => ch.enabled && ch.id == j).map
            fun ch => ch.occurrences g m).sum
  | [], ix, ix', h => by
    intro g m j
    obtain rfl : ix = ix' := Option.some.inj h
    simp
  | ch :: channels, ix, ix', h => by
    intro g m j
    rw [indexChannels_cons] at h
    obtain ⟨ix₁, h₁, h₂⟩ := Option.bind_eq_some_iff.mp h
    rw [count_indexChannels h₂ g m j]
    split at h₁
    · rename_i hen
      rw [count_indexGroups h₁ g m j]
      by_cases hj : j = ch.id
      · simp [hen, hj, Channel.occurrences]; omega
      · simp [hen, hj, Ne.symm hj]
    · rename_i hen
      obtain rfl : ix = ix₁ := Option.some.inj h₁
      simp [hen]

variable {ch : Channel κ} {id : Int} {requestPath model group : String} {c' : ChannelCache κ}

theorem filter_id_of_mem {channels : List (Channel κ)} (hnd : (channels.map Channel.id).Nodup)
    (hmem : ch ∈ channels) :
    (channels.filter fun x => x.id == ch.id) = [ch] := by
  induction channels with
  | nil => cases hmem
  | cons x xs ih =>
    rw [List.map_cons, List.nodup_cons] at hnd
    rcases List.mem_cons.mp hmem with rfl | hmem
    · have hnone : (xs.filter fun x => x.id == ch.id) = [] := by
        rw [List.filter_eq_nil_iff]
        intro y hy heq
        exact hnd.1 (List.mem_map.mpr ⟨y, hy, by simpa using heq⟩)
      simp [hnone]
    · have hne : x.id ≠ ch.id := by
        intro heq
        exact hnd.1 (heq ▸ List.mem_map_of_mem hmem)
      simp [hne, ih hnd.2 hmem]

namespace ChannelTable

/-- Channel `id` is enabled in the table. -/
def Enables (t : ChannelTable κ) (id : Int) : Prop :=
  ∃ ch ∈ t.channels, ch.id = id ∧ ch.enabled = true

/-- No entry of the group and model columns of channel `id`, where it is
enabled, is written twice. -/
def Unrepeated (t : ChannelTable κ) (id : Int) : Prop :=
  ∀ ch ∈ t.channels, ch.id = id → ch.enabled = true → ch.groups.Nodup ∧ ch.modelNames.Nodup

end ChannelTable

variable {order : SliceSort} {old c : ChannelCache κ} {t : ChannelTable κ}

theorem count_index (h : initChannelCache order old t = some c) (g m : String) (j : Int) :
    (c.group2model2channels g m).count j
      = ((t.channels.filter fun ch => ch.enabled && ch.id == j).map
          fun ch => ch.occurrences g m).sum := by
  obtain ⟨ix, hix, rfl⟩ := Option.map_eq_some_iff.mp h
  have hcount := count_indexChannels hix g m j
  rw [(order.perm _ _).count_eq, hcount]
  simp

theorem count_index_of_mem (h : initChannelCache order old t = some c) (hmem : ch ∈ t.channels)
    (hen : ch.enabled = true) (g m : String) :
    (c.group2model2channels g m).count ch.id = ch.occurrences g m := by
  have hrows : (t.channels.filter fun x => x.enabled && x.id == ch.id) = [ch] := by
    rw [← List.filter_filter, filter_id_of_mem t.nodup hmem]
    simp [hen]
  rw [count_index h, hrows]
  simp

theorem count_index_of_not_enables (h : initChannelCache order old t = some c)
    (hno : ¬ t.Enables id) (g m : String) : (c.group2model2channels g m).count id = 0 := by
  have hrows : (t.channels.filter fun x => x.enabled && x.id == id) = [] := by
    rw [List.filter_eq_nil_iff]
    intro ch hch hsel
    simp only [Bool.and_eq_true, beq_iff_eq] at hsel
    exact hno ⟨ch, hch, hsel.2, hsel.1⟩
  rw [count_index h, hrows]
  rfl

theorem count_index_le_one (h : initChannelCache order old t = some c) (hclean : t.Unrepeated id)
    (g m : String) :
    (c.group2model2channels g m).count id ≤ 1 := by
  by_cases hen : t.Enables id
  · obtain ⟨ch, hmem, rfl, hen⟩ := hen
    obtain ⟨hgroups, hmodels⟩ := hclean ch hmem rfl hen
    rw [count_index_of_mem h hmem hen]
    have hg := List.nodup_iff_count_le_one.mp hgroups g
    have hm := List.nodup_iff_count_le_one.mp hmodels m
    exact Nat.mul_le_mul hg hm
  · rw [count_index_of_not_enables h hen]
    exact Nat.zero_le 1

/-! ## What a selection can return -/

variable {supports : PathSupport κ} {intn : Int64 → Int64}

theorem mem_of_pickByWeight {factor adjustment : Int64} :
    ∀ {random : Int64} {targets : List (Channel κ)} {ch : Channel κ},
      pickByWeight factor adjustment random targets = some ch → ch ∈ targets
  | _, [], _, h => by cases h
  | random, x :: rest, ch, h => by
    simp only [pickByWeight] at h
    split at h
    · exact Option.some.inj h ▸ List.mem_cons_self
    · exact List.mem_cons_of_mem x (mem_of_pickByWeight h)

theorem mem_of_drawChannel {targets : List (Channel κ)}
    (h : drawChannel intn targets = some (.ok (some ch))) : ch ∈ targets := by
  unfold drawChannel at h
  extract_lets len sum sumWeight adjustment factor total at h
  split at h
  · cases h
  · cases hpick : pickByWeight factor adjustment (intn total) targets with
    | none => simp only [hpick] at h; cases h
    | some x =>
      simp only [hpick] at h
      obtain rfl : x = ch := by simpa using h
      exact mem_of_pickByWeight hpick

theorem mem_of_lookupChannels :
    ∀ {ids : List Int} {found : List (Channel κ)}, lookupChannels c ids = .ok found →
      ∀ ch ∈ found, ∃ id ∈ ids, c.channelsIDM id = some ch
  | [], found, h => by
    obtain rfl : [] = found := by simpa [lookupChannels] using h
    simp
  | id :: rest, found, h => by
    intro ch hch
    simp only [lookupChannels] at h
    split at h
    · cases h
    · rename_i x hx
      cases hrest : lookupChannels c rest with
      | error e => rw [hrest] at h; cases h
      | ok found' =>
        rw [hrest] at h
        obtain rfl : x :: found' = found := by simpa [Except.map] using h
        rcases List.mem_cons.mp hch with rfl | hch
        · exact ⟨id, List.mem_cons_self, hx⟩
        · obtain ⟨j, hj, hjc⟩ := mem_of_lookupChannels hrest ch hch
          exact ⟨j, List.mem_cons_of_mem id hj, hjc⟩

theorem mem_of_filterChannels {channels : List Int}
    (h : id ∈ filterChannelsByRequestPathAndModel supports c channels requestPath model) :
    id ∈ channels := by
  unfold filterChannelsByRequestPathAndModel at h
  split at h
  · exact h
  · exact List.mem_of_mem_filter h

theorem mem_of_satisfiedChannels (h : id ∈ satisfiedChannels supports c group model requestPath) :
    ∃ m, id ∈ c.group2model2channels group m := by
  simp only [satisfiedChannels] at h
  split at h
  · exact ⟨_, mem_of_filterChannels h⟩
  · exact ⟨_, mem_of_filterChannels h⟩

theorem mem_index_of_selected {retry : Int} (h : getRandomSatisfiedChannel supports intn c group
      model retry requestPath = some (.ok (some ch))) :
    ∃ m id, id ∈ c.group2model2channels group m ∧ c.channelsIDM id = some ch := by
  have hfound : ∃ id ∈ satisfiedChannels supports c group model requestPath,
      c.channelsIDM id = some ch := by
    simp only [getRandomSatisfiedChannel] at h
    split at h
    · cases h
    · rename_i id hone
      rw [hone]
      split at h
      · rename_i x hx
        obtain rfl : x = ch := by simpa using h
        exact ⟨id, List.mem_singleton_self id, hx⟩
      · cases h
    · split at h
      · cases h
      · rename_i found hfound
        split at h
        · cases h
        · split at h
          · cases h
          · have hdrawn := mem_of_drawChannel h
            exact mem_of_lookupChannels hfound ch (List.mem_of_mem_filter hdrawn)
  obtain ⟨id, hid, hch⟩ := hfound
  obtain ⟨m, hm⟩ := mem_of_satisfiedChannels hid
  exact ⟨m, id, hm, hch⟩

theorem selected_of_singleton (hlist : c.group2model2channels group model = [id])
    (hch : c.channelsIDM id = some ch) :
    getRandomSatisfiedChannel supports intn c group model 0 "" = some (.ok (some ch)) := by
  simp [getRandomSatisfiedChannel, satisfiedChannels, filterChannelsByRequestPathAndModel, hlist,
    hch]

/-! ## Runs -/

/-- What changes the cache. -/
inductive CacheOp (κ : Type*) where
  | update (id status : Int)
  | rebuild (t : ChannelTable κ)

/-- Before the first build. -/
def ChannelCache.empty : ChannelCache κ := ⟨fun _ _ => [], fun _ => none, fun _ => none⟩

def CacheOp.exec (order : SliceSort) (c : ChannelCache κ) : CacheOp κ → Option (ChannelCache κ)
  | .update id status => some (cacheUpdateChannelStatus id status c)
  | .rebuild t => initChannelCache order c t

def execOps (order : SliceSort) (c : ChannelCache κ) (ops : List (CacheOp κ)) :
    Option (ChannelCache κ) :=
  ops.foldlM (fun c op => op.exec order c) c

/-- The operation sets channel `id` enabled, or rebuilds the cache with it
enabled. -/
def CacheOp.Reenables (id : Int) : CacheOp κ → Prop
  | .update i status => i = id ∧ status = channelStatusEnabled
  | .rebuild t => t.Enables id

/-- The table a rebuild reads is one of `tables`. -/
def CacheOp.BuildsFrom (tables : ChannelTable κ → Prop) : CacheOp κ → Prop
  | .update _ _ => True
  | .rebuild t => tables t

/-- Some call of `GetRandomSatisfiedChannel` returns channel `id`. -/
def Selects (supports : PathSupport κ) (c : ChannelCache κ) (id : Int) : Prop :=
  ∃ intn group model retry requestPath ch,
    getRandomSatisfiedChannel supports intn c group model retry requestPath
      = some (.ok (some ch)) ∧ ch.id = id

theorem execOps_cons (order : SliceSort) (c : ChannelCache κ) (op : CacheOp κ)
    (ops : List (CacheOp κ)) :
    execOps order c (op :: ops) = (op.exec order c).bind fun c => execOps order c ops := rfl

theorem execOps_append (order : SliceSort) (c : ChannelCache κ) (ops ops' : List (CacheOp κ)) :
    execOps order c (ops ++ ops') = (execOps order c ops).bind fun c => execOps order c ops' :=
  List.foldlM_append

/-- What holds at the start and is kept by every operation of the run holds at
its end. -/
theorem execOps_invariant {I : ChannelCache κ → Prop} {allowed : CacheOp κ → Prop}
    (hstep : ∀ {c c' : ChannelCache κ} {op}, I c → allowed op → op.exec order c = some c' → I c') :
    ∀ {ops : List (CacheOp κ)} {c c' : ChannelCache κ}, I c → (∀ op ∈ ops, allowed op) →
      execOps order c ops = some c' → I c'
  | [], c, c', hI, _, h => by
    obtain rfl : c = c' := Option.some.inj h
    exact hI
  | op :: ops, c, c', hI, hall, h => by
    rw [execOps_cons] at h
    obtain ⟨c₁, h₁, h₂⟩ := Option.bind_eq_some_iff.mp h
    have hI₁ : I c₁ := hstep hI (hall op List.mem_cons_self) h₁
    exact execOps_invariant hstep hI₁ (fun x hx => hall x (List.mem_cons_of_mem op hx)) h₂

/-- Every channel is cached under its own id. -/
def IdsMatch (c : ChannelCache κ) : Prop :=
  ∀ id ch, c.channelsIDM id = some ch → ch.id = id

theorem channelById_id {channels : List (Channel κ)} (h : channelById channels id = some ch) :
    ch.id = id := by
  simpa using List.find?_some h

theorem keepPollingIndex_id (old : ChannelCache κ) (ch : Channel κ) :
    (keepPollingIndex old ch).id = ch.id := by
  unfold keepPollingIndex
  split
  · split
    · split <;> rfl
    · rfl
  · rfl

theorem idsMatch_init (h : initChannelCache order old t = some c) : IdsMatch c := by
  obtain ⟨ix, -, rfl⟩ := Option.map_eq_some_iff.mp h
  intro id ch hch
  obtain ⟨row, hrow, rfl⟩ := Option.map_eq_some_iff.mp hch
  rw [keepPollingIndex_id, channelById_id hrow]

theorem idsMatch_update (hc : IdsMatch c) (i status : Int) :
    IdsMatch (cacheUpdateChannelStatus i status c) := by
  intro id ch hch
  simp only [cacheUpdateChannelStatus] at hch
  split at hch
  · rename_i heq
    obtain ⟨row, hrow, rfl⟩ := Option.map_eq_some_iff.mp hch
    exact (hc i row hrow).trans heq.symm
  · exact hc id ch hch

variable {op : CacheOp κ}

theorem idsMatch_exec {c : ChannelCache κ} (hc : IdsMatch c) (h : op.exec order c = some c') :
    IdsMatch c' := by
  cases op with
  | update i status =>
    obtain rfl : cacheUpdateChannelStatus i status c = c' := Option.some.inj h
    exact idsMatch_update hc i status
  | rebuild t => exact idsMatch_init h

theorem idsMatch_run {ops : List (CacheOp κ)} (h : execOps order .empty ops = some c) :
    IdsMatch c := by
  have hempty : IdsMatch (ChannelCache.empty : ChannelCache κ) := by
    intro id ch hch
    cases hch
  exact execOps_invariant (fun hI _ hop => idsMatch_exec hI hop) hempty (fun _ _ => trivial) h

/-- Channel `id` stands at most `n` times in each list of the index. -/
def AtMostTimes (n : Nat) (id : Int) (c : ChannelCache κ) : Prop :=
  ∀ g m, (c.group2model2channels g m).count id ≤ n

theorem atMostTimes_update {n : Nat} (hc : AtMostTimes n id c) (i status : Int) :
    AtMostTimes n id (cacheUpdateChannelStatus i status c) := by
  intro g m
  simp only [cacheUpdateChannelStatus]
  split
  · exact (List.erase_sublist.count_le id).trans (hc g m)
  · exact hc g m

theorem atMostTimes_disable {n : Nat} {status : Int} (hc : AtMostTimes (n + 1) id c)
    (hstatus : status ≠ channelStatusEnabled) :
    AtMostTimes n id (cacheUpdateChannelStatus id status c) := by
  intro g m
  have hle := hc g m
  simp only [cacheUpdateChannelStatus, hstatus, ne_eq, not_false_eq_true, if_true,
    List.count_erase_self]
  omega

theorem atMostTimes_one_exec {tables : ChannelTable κ → Prop}
    (htables : ∀ t, tables t → (initChannelCache order .empty t).isSome = true → t.Unrepeated id)
    {c : ChannelCache κ} (hc : AtMostTimes 1 id c) (hop : op.BuildsFrom tables)
    (h : op.exec order c = some c') : AtMostTimes 1 id c' := by
  cases op with
  | update i status =>
    obtain rfl : cacheUpdateChannelStatus i status c = c' := Option.some.inj h
    exact atMostTimes_update hc i status
  | rebuild t =>
    have hbuilds : (initChannelCache order .empty t).isSome = true := by
      have hsome : (initChannelCache order c t).isSome = true := Option.isSome_of_eq_some h
      simp only [initChannelCache, Option.isSome_map] at hsome ⊢
      exact hsome
    exact count_index_le_one h (htables t hop hbuilds)

/-- A channel that stands in no list stays out of the index until it is
enabled again. -/
theorem atMostTimes_zero_exec {c : ChannelCache κ} (hc : AtMostTimes 0 id c)
    (hop : ¬ op.Reenables id) (h : op.exec order c = some c') :
    AtMostTimes 0 id c' := by
  cases op with
  | update i status =>
    obtain rfl : cacheUpdateChannelStatus i status c = c' := Option.some.inj h
    exact atMostTimes_update hc i status
  | rebuild t =>
    intro g m
    rw [count_index_of_not_enables h hop]

theorem not_selects (hids : IdsMatch c) (hc : AtMostTimes 0 id c) :
    ¬ Selects supports c id := by
  rintro ⟨intn, group, model, retry, requestPath, ch, hsel, rfl⟩
  obtain ⟨m, j, hj, hch⟩ := mem_index_of_selected hsel
  rw [← hids j ch hch] at hj
  have hpos := List.count_pos_iff.mpr hj
  have hzero := hc group m
  omega

/-! ## A repeated entry keeps a disabled channel in rotation -/

theorem splitComma_ne_nil (s : String) : splitComma s ≠ [] := by
  simp [splitComma]

theorem exists_count_of_ne_nil {l : List String} (hne : l ≠ []) :
    ∃ a, 1 ≤ l.count a ∧ (¬ l.Nodup → 2 ≤ l.count a) := by
  by_cases hnd : l.Nodup
  · obtain ⟨a, ha⟩ := List.exists_mem_of_ne_nil l hne
    exact ⟨a, List.count_pos_iff.mpr ha, fun h => absurd hnd h⟩
  · rw [List.nodup_iff_count_le_one] at hnd
    push Not at hnd
    obtain ⟨a, ha⟩ := hnd
    exact ⟨a, by omega, fun _ => ha⟩

theorem exists_two_occurrences (h : ¬ (ch.groups.Nodup ∧ ch.modelNames.Nodup)) :
    ∃ g m, 2 ≤ ch.occurrences g m := by
  obtain ⟨g, hg, hg₂⟩ := exists_count_of_ne_nil (splitComma_ne_nil ch.group)
  obtain ⟨m, hm, hm₂⟩ := exists_count_of_ne_nil (splitComma_ne_nil ch.models)
  refine ⟨g, m, ?_⟩
  by_cases hgroups : ch.groups.Nodup
  · have htwo := hm₂ fun hmodels => h ⟨hgroups, hmodels⟩
    exact Nat.mul_le_mul hg htwo
  · have htwo := hg₂ hgroups
    exact Nat.mul_le_mul htwo hm

/-- The calls that disable the channels of a list one after another. -/
def disableAll (ids : List Int) : List (CacheOp κ) := ids.map fun id => .update id 2

theorem execOps_disableAll (order : SliceSort) :
    ∀ (ids : List Int) (c : ChannelCache κ), ∃ c',
      execOps order c (disableAll ids) = some c'
        ∧ (∀ g m, c'.group2model2channels g m = (c.group2model2channels g m).diff ids)
        ∧ ∀ id, (c'.channelsIDM id).isSome = (c.channelsIDM id).isSome
  | [], c => ⟨c, rfl, fun _ _ => rfl, fun _ => rfl⟩
  | i :: ids, c => by
    obtain ⟨c', hrun, hindex, hcached⟩ :=
      execOps_disableAll order ids (cacheUpdateChannelStatus i 2 c)
    refine ⟨c', hrun, ?_, ?_⟩
    · intro g m
      rw [hindex, List.diff_cons]
      rfl
    · intro id
      rw [hcached]
      simp only [cacheUpdateChannelStatus]
      split
      · rename_i heq
        rw [Option.isSome_map, heq]
      · rfl

theorem diff_eq_singleton {l : List Int} (h : 1 ≤ l.count id) :
    l.diff (l.filter (· ≠ id) ++ List.replicate (l.count id - 1) id) = [id] := by
  rw [← List.perm_singleton, List.perm_iff_count]
  intro j
  rw [List.count_diff, List.count_append]
  by_cases hj : j = id
  · subst hj
    have hnone : (l.filter (· ≠ j)).count j = 0 := by
      rw [List.count_eq_zero]
      simp
    simp only [hnone, List.count_replicate_self, List.count_singleton_self]
    omega
  · have hall : (l.filter (· ≠ id)).count j = l.count j := List.count_filter (by simpa using hj)
    rw [hall]
    simp [List.count_replicate, Ne.symm hj]

/-- A run that disables a channel and selects it right after, from a table that
lists the channel twice under one group and model. -/
theorem selects_of_repeated (supports : PathSupport κ) {tables : ChannelTable κ → Prop}
    (ht : tables t) (hbuilds : (initChannelCache order .empty t).isSome = true)
    (hrep : ¬ t.Unrepeated id) :
    ∃ before c, (∀ op ∈ before, CacheOp.BuildsFrom tables op)
      ∧ execOps order .empty (before ++ [.update id 2]) = some c ∧ Selects supports c id := by
  obtain ⟨c₀, hc₀⟩ := Option.isSome_iff_exists.mp hbuilds
  simp only [ChannelTable.Unrepeated, not_forall] at hrep
  obtain ⟨ch, hmem, rfl, hen, hdup⟩ := hrep
  obtain ⟨g, m, htwo⟩ := exists_two_occurrences hdup
  rw [← count_index_of_mem hc₀ hmem hen] at htwo
  obtain ⟨l, hl⟩ : ∃ l, l = c₀.group2model2channels g m := ⟨_, rfl⟩
  rw [← hl] at htwo
  obtain ⟨before, hbefore⟩ : ∃ ids : List Int,
      ids ++ [ch.id] = l.filter (· ≠ ch.id) ++ List.replicate (l.count ch.id - 1) ch.id := by
    refine ⟨l.filter (· ≠ ch.id) ++ List.replicate (l.count ch.id - 2) ch.id, ?_⟩
    rw [List.append_assoc, ← List.replicate_succ']
    congr 2
    omega
  obtain ⟨c, hrun, hindex, hcached⟩ := execOps_disableAll order (before ++ [ch.id]) c₀
  have hone : c.group2model2channels g m = [ch.id] := by
    rw [hindex, ← hl, hbefore]
    exact diff_eq_singleton (by omega)
  have hexec : execOps order .empty (.rebuild t :: disableAll before ++ [.update ch.id 2])
      = some c := by
    rw [List.cons_append, execOps_cons]
    refine Option.bind_eq_some_iff.mpr ⟨c₀, hc₀, ?_⟩
    simpa [disableAll] using hrun
  have hsome : (c.channelsIDM ch.id).isSome = true := by
    rw [hcached]
    obtain ⟨ix, -, rfl⟩ := Option.map_eq_some_iff.mp hc₀
    simp only [Option.isSome_map, channelById, List.find?_isSome, List.mem_reverse]
    exact ⟨ch, hmem, by simp⟩
  obtain ⟨row, hrow⟩ := Option.isSome_iff_exists.mp hsome
  refine ⟨.rebuild t :: disableAll before, c, ?_, hexec, ?_⟩
  · intro op hop
    rcases List.mem_cons.mp hop with rfl | hop
    · exact ht
    · obtain ⟨i, -, rfl⟩ := List.mem_map.mp hop
      trivial
  · exact ⟨fun _ => 0, g, m, 0, "", row, selected_of_singleton hone hrow,
      idsMatch_run hexec ch.id row hrow⟩

/-- A disabled channel stays unselected in every run over the given tables
exactly when none of the tables that can be loaded repeats an entry of its
group or model column while it is enabled. -/
theorem disabled_not_selected_iff (order : SliceSort) (supports : PathSupport κ)
    (tables : ChannelTable κ → Prop) (id : Int) :
    (∀ before status after c, (∀ op ∈ before ++ after, CacheOp.BuildsFrom tables op) →
        status ≠ channelStatusEnabled → (∀ op ∈ after, ¬ CacheOp.Reenables id op) →
        execOps order .empty (before ++ .update id status :: after) = some c →
        ¬ Selects supports c id)
      ↔ ∀ t, tables t → (initChannelCache order .empty t).isSome = true → t.Unrepeated id := by
  constructor
  · intro hclaim t ht hbuilds
    by_contra hrep
    obtain ⟨before, c, hbefore, hrun, hsel⟩ :=
      selects_of_repeated supports ht hbuilds hrep
    refine hclaim before 2 [] c ?_ (by decide) (by simp) hrun hsel
    intro op hop
    exact hbefore op (by simpa using hop)
  · intro htables before status after c hfrom hstatus hafter hrun
    have hids : IdsMatch c := idsMatch_run hrun
    rw [execOps_append] at hrun
    obtain ⟨c₁, hrun₁, hrun⟩ := Option.bind_eq_some_iff.mp hrun
    rw [execOps_cons] at hrun
    have hempty : AtMostTimes 1 id (ChannelCache.empty : ChannelCache κ) := by
      intro g m
      exact Nat.zero_le 1
    have hbefore : AtMostTimes 1 id c₁ :=
      execOps_invariant (atMostTimes_one_exec htables) hempty
        (fun op hop => hfrom op (List.mem_append_left after hop)) hrun₁
    have hgone : AtMostTimes 0 id (cacheUpdateChannelStatus id status c₁) :=
      atMostTimes_disable hbefore hstatus
    have hstays : AtMostTimes 0 id c :=
      execOps_invariant atMostTimes_zero_exec hgone hafter hrun
    exact not_selects hids hstays

end

/-- One of the orders `sort.Slice` may produce. -/
def stableSort : SliceSort where
  sort key l := l.mergeSort fun a b => decide (key b ≤ key a)
  perm key l := List.mergeSort_perm l _
  sorted key l := by
    have htrans : ∀ a b c : Int, decide (key b ≤ key a) = true → decide (key c ≤ key b) = true →
        decide (key c ≤ key a) = true := by
      intro a b c hab hbc
      simp only [decide_eq_true_eq] at hab hbc ⊢
      exact Int64.le_trans hbc hab
    have htotal : ∀ a b : Int, (decide (key b ≤ key a) || decide (key a ≤ key b)) = true := by
      intro a b
      simpa using Int64.le_total (key b) (key a)
    simpa using List.pairwise_mergeSort htrans htotal l

/-- A channel whose `models` column names one model twice. -/
def twiceListed : Channel Unit where
  id := 7
  type := 1
  status := 1
  weight := none
  models := "gpt-4o,gpt-4o"
  group := "default"
  priority := none
  channelInfo := ⟨false, .random, 0⟩
  advancedCustom := none

def twiceTable : ChannelTable Unit := ⟨[twiceListed], ["default"], by decide⟩

/-- Built from that table and then told that channel 7 is disabled, the cache
still hands it out. -/
theorem twice_listed_selected_after_disable :
    ∃ c, execOps stableSort .empty [.rebuild twiceTable, .update 7 2] = some c
      ∧ Selects (fun _ _ _ => true) c 7 := by
  obtain ⟨c, hc⟩ : ∃ c, initChannelCache stableSort .empty twiceTable = some c :=
    Option.isSome_iff_exists.mp (by decide)
  have htwo : c.group2model2channels "default" "gpt-4o" = [7, 7] := by
    obtain ⟨ix, hix, rfl⟩ := Option.map_eq_some_iff.mp hc
    have hlist : ix "default" "gpt-4o" = List.replicate 2 7 := by
      obtain rfl := Option.some.inj hix
      decide
    simp only [hlist]
    exact List.perm_replicate.mp (stableSort.perm _ _)
  have hone : (cacheUpdateChannelStatus 7 2 c).group2model2channels "default" "gpt-4o" = [7] := by
    simp [cacheUpdateChannelStatus, htwo, channelStatusEnabled]
  have hrow : (cacheUpdateChannelStatus 7 2 c).channelsIDM 7
      = some { twiceListed with status := 2 } := by
    obtain ⟨ix, -, rfl⟩ := Option.map_eq_some_iff.mp hc
    rfl
  refine ⟨cacheUpdateChannelStatus 7 2 c, ?_, fun _ => 0, "default", "gpt-4o", 0, "", _,
    selected_of_singleton hone hrow, rfl⟩
  rw [execOps_cons]
  exact Option.bind_eq_some_iff.mpr ⟨c, hc, rfl⟩

end YouBox
