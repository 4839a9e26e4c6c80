import YouBox.ChannelCache

/-!
# Building the channel cache

`InitChannelCache` makes the outer index from the groups of the abilities table and
fills it from the channels table. A row of `channels` is written before its rows of
`abilities` (`Channel.Insert`), and `FixAbility` empties the abilities first, so the
second table can lack a group that the first one names: the assignment into the
missing inner map panics.

`initChannelCache_safe_iff` says for which pairs of contents the build completes.
-/

namespace YouBox

variable {κ : Type*}

variable {known : List String}

theorem indexModels_known {group : String} (hknown : group ∈ known) (id : Int)
    (models : List String) (ix : ChannelIndex) : (indexModels known id group models ix).isSome := by
  induction models generalizing ix with
  | nil => rfl
  | cons model models ih =>
    rw [indexModels_cons, if_pos hknown]
    exact ih _

theorem indexModels_unknown {group : String} (hunknown : group ∉ known) (id : Int)
    {models : List String} (hmodels : models ≠ []) (ix : ChannelIndex) :
    indexModels known id group models ix = none := by
  cases models with
  | nil => exact absurd rfl hmodels
  | cons model models => rw [indexModels_cons, if_neg hunknown]

theorem indexGroups_isSome_iff (id : Int) {models : List String} (hmodels : models ≠ [])
    (groups : List String) (ix : ChannelIndex) :
    (indexGroups known id models groups ix).isSome ↔ ∀ group ∈ groups, group ∈ known := by
  induction groups generalizing ix with
  | nil => exact iff_of_true rfl nofun
  | cons group groups ih =>
    rw [indexGroups_cons, List.forall_mem_cons]
    by_cases hknown : group ∈ known
    · obtain ⟨next, hnext⟩ := Option.isSome_iff_exists.mp (indexModels_known hknown id models ix)
      rw [hnext, Option.bind_some, ih, and_iff_right hknown]
    · rw [indexModels_unknown hknown id hmodels]
      exact iff_of_false Bool.false_ne_true fun h => hknown h.1

theorem indexChannels_isSome_iff (channels : List (Channel κ)) (ix : ChannelIndex) :
    (indexChannels known channels ix).isSome ↔
      ∀ ch ∈ channels, ch.enabled = true → ∀ group ∈ ch.groups, group ∈ known := by
  induction channels generalizing ix with
  | nil => exact iff_of_true rfl fun ch hch => absurd hch List.not_mem_nil
  | cons ch channels ih =>
    rw [indexChannels_cons, List.forall_mem_cons]
    by_cases hen : ch.enabled = true
    · have hgroups := @indexGroups_isSome_iff known ch.id _
        (splitComma_ne_nil ch.models) ch.groups ix
      rw [if_pos hen, Channel.modelNames]
      cases hix : indexGroups known ch.id (splitComma ch.models) ch.groups ix with
      | none =>
        rw [hix] at hgroups
        exact iff_of_false Bool.false_ne_true fun h =>
          Bool.false_ne_true (hgroups.mpr (h.1 hen))
      | some next =>
        rw [hix] at hgroups
        rw [Option.bind_some, ih]
        exact (and_iff_right fun _ => hgroups.mp rfl).symm
    · rw [if_neg hen]
      exact (ih ix).trans (and_iff_right fun h => absurd h hen).symm

/-- Every group of an enabled channel stands in the abilities. -/
def ChannelTable.GroupsKnown (t : ChannelTable κ) : Prop :=
  ∀ ch ∈ t.channels, ch.enabled = true → ∀ group ∈ ch.groups, group ∈ t.abilityGroups

/-- Every enabled channel stands under each of its groups and models. -/
def ChannelCache.Reaches (c : ChannelCache κ) (t : ChannelTable κ) : Prop :=
  ∀ ch ∈ t.channels, ch.enabled = true → ∀ group ∈ ch.groups, ∀ model ∈ ch.modelNames,
    ch.id ∈ c.group2model2channels group model

theorem reaches_of_init {order : SliceSort} {old c : ChannelCache κ} {t : ChannelTable κ}
    (h : initChannelCache order old t = some c) : c.Reaches t := by
  intro ch hmem hen group hgroup model hmodel
  rw [← List.count_pos_iff, count_index_of_mem h hmem hen, Channel.occurrences]
  exact Nat.mul_pos (List.count_pos_iff.mpr hgroup) (List.count_pos_iff.mpr hmodel)

/-- The build completes, with every enabled channel in the index, if and only if every group
of an enabled channel stands in the abilities that are read after the channels. -/
theorem initChannelCache_safe_iff (order : SliceSort) (old : ChannelCache κ)
    (t : ChannelTable κ) :
    (∃ c, initChannelCache order old t = some c ∧ c.Reaches t) ↔ t.GroupsKnown := by
  have hiff := @indexChannels_isSome_iff κ t.abilityGroups t.channels fun _ _ => []
  rw [ChannelTable.GroupsKnown, ← hiff]
  constructor
  · rintro ⟨c, hc, -⟩
    obtain ⟨ix, hix, -⟩ := Option.map_eq_some_iff.mp hc
    rw [hix]
    rfl
  · intro hsome
    have hinit : (initChannelCache order old t).isSome := by
      rw [initChannelCache, Option.isSome_map]
      exact hsome
    obtain ⟨c, hc⟩ := Option.isSome_iff_exists.mp hinit
    exact ⟨c, hc, reaches_of_init hc⟩

/-- A channel of a new group, between its own row and its rows of `abilities`. -/
def halfInserted : ChannelTable Unit where
  channels := [{
    id := 1, type := 1, status := 1, weight := none, models := "gpt-4o", group := "vip"
    priority := none, channelInfo := ⟨false, .random, 0⟩, advancedCustom := none }]
  abilityGroups := ["default"]
  nodup := List.nodup_singleton _

/-- The build panics. -/
theorem half_inserted_panics : initChannelCache stableSort .empty halfInserted = none := by
  decide

end YouBox
