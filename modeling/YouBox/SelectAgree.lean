import YouBox.AbilitySelect

/-!
# Where cache and database select alike

The cache side of the comparison, over the same channel table as
`AbilitySelect`. The lists of the index are a permutation of the serving
channels, each as often as its columns list it; `mem_cacheReturns` reads
off them what `GetRandomSatisfiedChannel` can return, and the last
section puts the two sides together.
-/

namespace YouBox

variable {κ : Type*}

/-! ## The index as a list of channels -/

/-- The enabled channels, each as often as it stands in the list. -/
def listed (channels : List (Channel κ)) (group model : String) : List (Channel κ) :=
  (channels.filter Channel.enabled).flatMap fun ch =>
    List.replicate (ch.occurrences group model) ch

variable {ch : Channel κ} {found : List (Channel κ)} {known : List String}

variable {retry : Nat} {group model : String}

theorem mem_listed {channels : List (Channel κ)} :
    ch ∈ listed channels group model ↔ ch ∈ serving channels group model := by
  have hpos : ∀ x : Channel κ, x.occurrences group model ≠ 0
      ↔ group ∈ x.groups ∧ model ∈ x.modelNames := by
    intro x
    simp [Channel.occurrences, List.count_eq_zero]
  simp only [listed, List.mem_flatMap, List.mem_filter, List.mem_replicate, hpos, serving,
    Bool.and_eq_true, List.contains_iff_mem]
  constructor
  · rintro ⟨x, ⟨hx, hen⟩, ⟨hgroup, hmodel⟩, rfl⟩
    exact ⟨hx, ⟨hen, hgroup⟩, hmodel⟩
  · rintro ⟨hx, ⟨hen, hgroup⟩, hmodel⟩
    exact ⟨ch, ⟨hx, hen⟩, ⟨hgroup, hmodel⟩, rfl⟩

theorem sum_listed (channels : List (Channel κ)) (group model : String) (f : Channel κ → Nat) :
    ((listed channels group model).map f).sum
      = ((channels.filter Channel.enabled).map fun ch =>
          ch.occurrences group model * f ch).sum := by
  unfold listed
  induction channels.filter Channel.enabled with
  | nil => rfl
  | cons ch rest ih => simp [ih]

theorem count_listed (channels : List (Channel κ)) (group model : String) (id : Int) :
    ((listed channels group model).map Channel.id).count id
      = ((channels.filter fun ch => ch.enabled && ch.id == id).map
          fun ch => ch.occurrences group model).sum := by
  induction channels with
  | nil => rfl
  | cons ch rest ih =>
    unfold listed at ih ⊢
    by_cases hen : ch.enabled = true
    · by_cases hid : ch.id = id
      · simp only [List.filter_cons, hen, if_true, List.flatMap_cons, List.map_append,
          List.map_replicate, List.count_append, ih, hid, List.count_replicate_self, Bool.true_and,
          beq_self_eq_true, List.map_cons, List.sum_cons]
      · simp [hen, hid, List.count_replicate, ih]
    · simpa [hen] using ih

section

variable {order : SliceSort} {old c : ChannelCache κ} {channels : List (Channel κ)}
  {hnd : (channels.map Channel.id).Nodup}

theorem index_perm (h : initChannelCache order old (channelTableOf channels hnd) = some c)
    (group model : String) :
    (c.group2model2channels group model).Perm ((listed channels group model).map Channel.id) := by
  rw [List.perm_iff_count]
  intro id
  rw [count_index h, count_listed]
  rfl

/-! ## Looking channels up -/

theorem keepPollingIndex_fields (old : ChannelCache κ) (ch : Channel κ) :
    (keepPollingIndex old ch).getPriority = ch.getPriority ∧
      (keepPollingIndex old ch).weightNat = ch.weightNat ∧
      (keepPollingIndex old ch).type = ch.type := by
  unfold keepPollingIndex
  split
  · split
    · split <;> exact ⟨rfl, rfl, rfl⟩
    · exact ⟨rfl, rfl, rfl⟩
  · exact ⟨rfl, rfl, rfl⟩

theorem cached_row (h : initChannelCache order old (channelTableOf channels hnd) = some c)
    {ch : Channel κ} (hmem : ch ∈ channels) :
    c.channelsIDM ch.id = some (keepPollingIndex old ch) := by
  obtain ⟨ix, -, rfl⟩ := Option.map_eq_some_iff.mp h
  simp [channelTableOf, channelById_of_mem hnd hmem]

theorem cached_config (h : initChannelCache order old (channelTableOf channels hnd) = some c)
    {ch : Channel κ} (hmem : ch ∈ channels) :
    c.channel2advancedCustomConfig ch.id
      = if ch.type = channelTypeAdvancedCustom then ch.advancedCustom else none := by
  obtain ⟨ix, -, rfl⟩ := Option.map_eq_some_iff.mp h
  simp [channelTableOf, channelById_of_mem hnd hmem]

variable {ids : List Int} {rows : List (Channel κ)}

theorem filterChannels_perm {supports : PathSupport κ}
    (h : initChannelCache order old (channelTableOf channels hnd) = some c)
    (hperm : ids.Perm (rows.map Channel.id)) (hrows : ∀ ch ∈ rows, ch ∈ channels)
    (requestPath model : String) :
    (filterChannelsByRequestPathAndModel supports c ids requestPath model).Perm
      ((rows.filter (Channel.accepts supports requestPath model)).map Channel.id) := by
  unfold filterChannelsByRequestPathAndModel
  split
  · rename_i hskip
    obtain rfl | rfl := hskip
    · have hall : rows.filter (Channel.accepts supports "" model) = rows := by
        rw [List.filter_eq_self]
        intro ch _
        simp [Channel.accepts]
      rw [hall]
      exact hperm
    · rw [List.map_eq_nil_iff.1 (List.nil_perm.1 hperm)]
      exact List.Perm.refl _
  · rename_i hskip
    refine (hperm.filter _).trans (List.Perm.of_eq ?_)
    rw [List.filter_map]
    congr 1
    refine List.filter_congr fun ch hch => ?_
    have hpath : (requestPath == "") = false := by
      simpa using fun heq => hskip (Or.inl heq)
    simp only [Function.comp_apply, cached_row h (hrows ch hch), cached_config h (hrows ch hch),
      (keepPollingIndex_fields old ch).2.2]
    by_cases htype : ch.type = channelTypeAdvancedCustom
    · cases hconfig : ch.advancedCustom <;> simp [htype, Channel.accepts, hpath, hconfig]
    · simp [htype, Channel.accepts]

theorem lookupChannels_eq (hknown : ∀ id ∈ ids, (c.channelsIDM id).isSome = true) :
    lookupChannels c ids = .ok (ids.filterMap c.channelsIDM) := by
  induction ids with
  | nil => rfl
  | cons id rest ih =>
    obtain ⟨hid, hrest⟩ := List.forall_mem_cons.1 hknown
    obtain ⟨ch, hch⟩ := Option.isSome_iff_exists.1 hid
    simp [lookupChannels, hch, ih hrest, Except.map]

theorem cached_rows_perm (h : initChannelCache order old (channelTableOf channels hnd) = some c)
    (hperm : ids.Perm (rows.map Channel.id)) (hrows : ∀ ch ∈ rows, ch ∈ channels) :
    (ids.filterMap c.channelsIDM).Perm (rows.map (keepPollingIndex old)) := by
  refine (hperm.filterMap _).trans (List.Perm.of_eq ?_)
  rw [List.filterMap_map, ← List.filterMap_eq_map]
  exact List.filterMap_congr fun ch hch => cached_row h (hrows ch hch)

theorem cached_known (h : initChannelCache order old (channelTableOf channels hnd) = some c)
    (hperm : ids.Perm (rows.map Channel.id)) (hrows : ∀ ch ∈ rows, ch ∈ channels) :
    ∀ id ∈ ids, (c.channelsIDM id).isSome = true := by
  intro id hid
  obtain ⟨ch, hch, rfl⟩ := List.mem_map.1 (hperm.mem_iff.1 hid)
  rw [cached_row h (hrows ch hch)]
  rfl

end

/-! ## The draw over a list of ids -/

theorem random_zero : Random fun _ => 0 :=
  fun _ hn => ⟨Int64.le_refl 0, hn⟩

theorem targetPriority_singleton (p : Int64) (retry : Nat) :
    targetPriority [p] retry = some p := by
  obtain ⟨q, hq⟩ := targetPriority_isSome (List.cons_ne_nil p []) retry
  rw [hq, List.mem_singleton.1 (mem_of_targetPriority hq)]

/-- What can be drawn from the channels found: those of the level that have
weight, or all of them if none has any. -/
theorem draw_found_iff {p : Int64} (hlevel : level found retry = some p)
    (hfit : (found.map Channel.load).sum < 2 ^ 63) :
    (∃ intn, Random intn ∧ drawChannel intn (found.filter fun ch => ch.getPriority == p)
        = some (.ok (some ch)))
      ↔ ch ∈ found ∧ some ch.getPriority = level found retry ∧ Weighty found ch := by
  have hpart : ((found.filter fun ch => ch.getPriority == p).map Channel.load).sum < 2 ^ 63 :=
    lt_of_le_of_lt ((List.filter_sublist.map _).sum_le_sum fun _ _ => Nat.zero_le _) hfit
  rw [drawChannel_iff hpart, hlevel]
  simp only [List.mem_filter, beq_iff_eq, Option.some.injEq, Weighty, and_assoc]
  refine and_congr_right fun _ => and_congr_right fun hp => or_congr_right ?_
  rw [hp]
  exact ⟨fun h o ho hop => h o ⟨ho, hop⟩, fun h o ho => h o ho.1 ho.2⟩

theorem level_isSome (hne : found ≠ []) (retry : Nat) :
    ∃ p, level found retry = some p :=
  targetPriority_isSome (mt List.map_eq_nil_iff.1 hne) retry

theorem filter_level_ne_nil {p : Int64} (hlevel : level found retry = some p) :
    (found.filter fun ch => ch.getPriority == p) ≠ [] := by
  obtain ⟨ch, hch, hp⟩ := List.mem_map.1 (mem_of_targetPriority hlevel)
  exact List.ne_nil_of_mem (List.mem_filter.2 ⟨hch, by simpa using hp⟩)

variable {id : Int} {pairs : List (String × String)} {seen : List String}

theorem lookupChannels_ne_nil {c : ChannelCache κ} {rest : List Int}
    (h : lookupChannels c (id :: rest) = .ok found) : found ≠ [] := by
  rintro rfl
  rw [lookupChannels] at h
  split at h
  · cases h
  · cases hrest : lookupChannels c rest <;> simp [hrest, Except.map] at h

/-- `GetRandomSatisfiedChannel` over the channels it finds. One channel alone
is returned without a draw, which makes no difference. -/
theorem getRandomSatisfiedChannel_iff {supports : PathSupport κ} {c : ChannelCache κ}
    {requestPath : String} {ids : List Int}
    (hids : satisfiedChannels supports c group model requestPath = ids)
    (hlookup : lookupChannels c ids = .ok found) (hfit : (found.map Channel.load).sum < 2 ^ 63) :
    (∃ intn, Random intn ∧ getRandomSatisfiedChannel supports intn c group model retry requestPath
        = some (.ok (some ch)))
      ↔ ch ∈ found ∧ some ch.getPriority = level found retry ∧ Weighty found ch := by
  match ids, hlookup, hids with
  | [], hlookup, hids =>
    obtain rfl : [] = found := by simpa [lookupChannels] using hlookup
    simp [getRandomSatisfiedChannel, hids]
  | [id], hlookup, hids =>
    cases hrow : c.channelsIDM id with
    | none => simp [lookupChannels, hrow] at hlookup
    | some x =>
      obtain rfl : [x] = found := by simpa [lookupChannels, hrow, Except.map] using hlookup
      have hlevel : level [x] retry = some x.getPriority := targetPriority_singleton _ _
      have hweighty : Weighty [x] x := by
        rcases Nat.eq_zero_or_pos x.weightNat with hzero | hpos
        · exact Or.inr fun other hother _ => (List.mem_singleton.1 hother) ▸ hzero
        · exact Or.inl hpos
      simp only [getRandomSatisfiedChannel, hids, hrow, hlevel]
      constructor
      · rintro ⟨intn, -, hsame⟩
        obtain rfl : x = ch := by simpa using hsame
        exact ⟨List.mem_singleton_self x, rfl, hweighty⟩
      · rintro ⟨hmem, -, -⟩
        obtain rfl := List.mem_singleton.1 hmem
        exact ⟨fun _ => 0, random_zero, rfl⟩
  | id :: id' :: rest, hlookup, hids =>
    obtain ⟨p, hlevel⟩ := level_isSome (lookupChannels_ne_nil hlookup) retry
    rw [← draw_found_iff hlevel hfit]
    have htarget : targetPriority (found.map Channel.getPriority) retry = some p := hlevel
    simp only [getRandomSatisfiedChannel, hids, hlookup, htarget]
    cases htargets : found.filter fun ch => ch.getPriority == p with
    | nil => exact absurd htargets (filter_level_ne_nil hlevel)
    | cons x xs => rfl

/-! ## What the cache returns -/

/-- The candidates of a request: the channels listed under the model's own
name that take the path, or without any those under its matching name. -/
def requestCandidates (supports : PathSupport κ) (channels : List (Channel κ))
    (group model requestPath : String) : List (Channel κ) :=
  let exactly := (listed channels group model).filter (Channel.accepts supports requestPath model)
  if exactly = [] then (listed channels group (formatMatchingModelName model)).filter
    (Channel.accepts supports requestPath model)
  else exactly

theorem listed_subset {channels : List (Channel κ)} :
    ∀ ch ∈ listed channels group model, ch ∈ channels := by
  intro ch hch
  exact List.mem_of_mem_filter (mem_listed.1 hch)

section

variable {supports : PathSupport κ} {order : SliceSort} {old c : ChannelCache κ}
  {channels : List (Channel κ)} {hnd : (channels.map Channel.id).Nodup}
  {group model requestPath : String} {retry : Nat}

theorem requestCandidates_subset :
    ∀ ch ∈ requestCandidates supports channels group model requestPath, ch ∈ channels := by
  intro ch hch
  unfold requestCandidates at hch
  simp only at hch
  split at hch
  · exact listed_subset ch (List.mem_of_mem_filter hch)
  · exact listed_subset ch (List.mem_of_mem_filter hch)

theorem satisfiedChannels_perm
    (h : initChannelCache order old (channelTableOf channels hnd) = some c) :
    (satisfiedChannels supports c group model requestPath).Perm
      ((requestCandidates supports channels group model requestPath).map Channel.id) := by
  have hname : ∀ name, (filterChannelsByRequestPathAndModel supports c
      (c.group2model2channels group name) requestPath model).Perm
      (((listed channels group name).filter
        (Channel.accepts supports requestPath model)).map Channel.id) :=
    fun name => filterChannels_perm h (index_perm h group name) listed_subset requestPath model
  have hempty : filterChannelsByRequestPathAndModel supports c
      (c.group2model2channels group model) requestPath model = []
      ↔ (listed channels group model).filter (Channel.accepts supports requestPath model) = [] := by
    rw [← List.map_eq_nil_iff (f := Channel.id)]
    constructor
    · intro hnil
      exact List.nil_perm.1 (hnil ▸ hname model)
    · intro hnil
      exact List.perm_nil.1 (hnil ▸ hname model)
  unfold satisfiedChannels requestCandidates
  simp only [hempty]
  split
  · exact hname _
  · exact hname _

theorem requestCandidates_fit (hfit : WeightsFit channels group model)
    (hfit' : WeightsFit channels group (formatMatchingModelName model)) :
    ((requestCandidates supports channels group model requestPath).map Channel.load).sum < 2 ^ 63 := by
  have hname : ∀ name, WeightsFit channels group name →
      (((listed channels group name).filter
        (Channel.accepts supports requestPath model)).map Channel.load).sum < 2 ^ 63 := by
    intro name hname
    refine lt_of_le_of_lt ((List.filter_sublist.map _).sum_le_sum fun _ _ => Nat.zero_le _) ?_
    rw [sum_listed]
    exact hname
  unfold requestCandidates
  simp only
  split
  · exact hname _ hfit'
  · exact hname _ hfit

/-! The polling index is all that a rebuild keeps from the old cache, and no
part of the selection. -/

variable {found rows : List (Channel κ)}

theorem level_kept (hperm : found.Perm (rows.map (keepPollingIndex old))) :
    level found retry = level rows retry := by
  refine targetPriority_congr (fun p => ?_) retry
  rw [(hperm.map _).mem_iff, List.map_map]
  have hsame : Channel.getPriority ∘ keepPollingIndex old = Channel.getPriority :=
    funext fun ch => (keepPollingIndex_fields old ch).1
  rw [hsame]

theorem weighty_kept (hperm : found.Perm (rows.map (keepPollingIndex old))) (ch : Channel κ) :
    Weighty found (keepPollingIndex old ch) ↔ Weighty rows ch := by
  unfold Weighty
  obtain ⟨hprio, hweight, -⟩ := keepPollingIndex_fields old ch
  rw [hprio, hweight]
  refine or_congr_right ⟨fun hall other hother hsame => ?_, fun hall other hother hsame => ?_⟩
  · obtain ⟨hprio', hweight', -⟩ := keepPollingIndex_fields old other
    rw [← hweight']
    exact hall _ (hperm.mem_iff.2 (List.mem_map_of_mem hother)) (hprio'.trans hsame)
  · obtain ⟨row, hrow, rfl⟩ := List.mem_map.1 (hperm.mem_iff.1 hother)
    obtain ⟨hprio', hweight', -⟩ := keepPollingIndex_fields old row
    rw [hweight']
    exact hall row hrow (hprio'.symm.trans hsame)

theorem sum_load_kept (hperm : found.Perm (rows.map (keepPollingIndex old))) :
    (found.map Channel.load).sum = (rows.map Channel.load).sum := by
  rw [(hperm.map _).sum_eq, List.map_map]
  have hsame : Channel.load ∘ keepPollingIndex old = Channel.load := by
    funext ch
    simp [Channel.load, (keepPollingIndex_fields old ch).2.1]
  rw [hsame]

/-- The cache returns the candidates of the level that have weight, or all of
them if none has any. -/
theorem mem_cacheReturns (h : initChannelCache order old (channelTableOf channels hnd) = some c)
    (hfit : WeightsFit channels group model)
    (hfit' : WeightsFit channels group (formatMatchingModelName model)) :
    id ∈ cacheReturns supports c group model retry requestPath
      ↔ ∃ ch ∈ requestCandidates supports channels group model requestPath, ch.id = id ∧
          some ch.getPriority
            = level (requestCandidates supports channels group model requestPath) retry ∧
          Weighty (requestCandidates supports channels group model requestPath) ch := by
  obtain ⟨rows, hrows⟩ :
    ∃ rows, requestCandidates supports channels group model requestPath = rows := ⟨_, rfl⟩
  have hperm := @satisfiedChannels_perm κ supports order old c channels hnd group model
    requestPath h
  have hsubset := @requestCandidates_subset κ supports channels group model requestPath
  have hsum := @requestCandidates_fit κ supports channels group model requestPath hfit hfit'
  rw [hrows] at hperm hsubset hsum ⊢
  have hfound := cached_rows_perm h hperm hsubset
  have hlookup := lookupChannels_eq (cached_known h hperm hsubset)
  rw [← sum_load_kept hfound] at hsum
  constructor
  · rintro ⟨intn, ch, hrandom, hget, rfl⟩
    obtain ⟨hmem, hlevel, hweighty⟩ :=
      (getRandomSatisfiedChannel_iff rfl hlookup hsum).1 ⟨intn, hrandom, hget⟩
    obtain ⟨row, hrow, rfl⟩ := List.mem_map.1 (hfound.mem_iff.1 hmem)
    rw [level_kept hfound, (keepPollingIndex_fields old row).1] at hlevel
    exact ⟨row, hrow, (keepPollingIndex_id old row).symm, hlevel,
      (weighty_kept hfound row).1 hweighty⟩
  · rintro ⟨row, hrow, rfl, hlevel, hweighty⟩
    rw [← level_kept hfound, ← (keepPollingIndex_fields old row).1] at hlevel
    obtain ⟨intn, hrandom, hget⟩ := (getRandomSatisfiedChannel_iff rfl hlookup hsum).2
      ⟨hfound.mem_iff.2 (List.mem_map_of_mem hrow), hlevel, (weighty_kept hfound row).2 hweighty⟩
    exact ⟨intn, _, hrandom, hget, keepPollingIndex_id old row⟩

/-! ## Agreement -/

theorem exists_weighty (hne : rows ≠ []) (retry : Nat) :
    ∃ ch ∈ rows, some ch.getPriority = level rows retry ∧ Weighty rows ch := by
  obtain ⟨p, hlevel⟩ := level_isSome hne retry
  obtain ⟨x, hx, hxp⟩ := List.mem_map.1 (mem_of_targetPriority hlevel)
  by_cases hzero : ∀ other ∈ rows, other.getPriority = p → other.weightNat = 0
  · refine ⟨x, hx, by rw [hlevel, hxp], Or.inr ?_⟩
    rw [hxp]
    exact hzero
  · push Not at hzero
    obtain ⟨ch, hch, hchp, hpos⟩ := hzero
    exact ⟨ch, hch, by rw [hlevel, hchp], Or.inl (Nat.pos_of_ne_zero hpos)⟩

theorem level_congr {rows' : List (Channel κ)} (h : ∀ ch, ch ∈ rows ↔ ch ∈ rows') (retry : Nat) :
    level rows retry = level rows' retry := by
  refine targetPriority_congr (fun p => ?_) retry
  simp only [List.mem_map, h]

theorem weighty_congr {rows' : List (Channel κ)} (h : ∀ ch, ch ∈ rows ↔ ch ∈ rows')
    (ch : Channel κ) :
    Weighty rows ch ↔ Weighty rows' ch := by
  simp only [Weighty, h]

variable {rowOrder : RowOrder} {name : String}

theorem mem_accepting {ch : Channel κ} :
    ch ∈ (listed channels group name).filter (Channel.accepts supports requestPath model)
      ↔ ch ∈ accepting supports channels group name requestPath model := by
  simp only [accepting, List.mem_filter, mem_listed]

theorem nil_accepting :
    (listed channels group name).filter (Channel.accepts supports requestPath model) = []
      ↔ accepting supports channels group name requestPath model = [] := by
  simp only [List.eq_nil_iff_forall_not_mem, mem_accepting]

theorem accepting_of_recorded {ch : Channel κ} (h : ch ∈ recorded channels group model)
    (haccepts : ch.accepts supports requestPath model = true) :
    ch ∈ accepting supports channels group model requestPath model :=
  List.mem_filter.2 ⟨serving_of_recorded h, haccepts⟩

/-- Without channels under the model's own name the database has nothing, and
the cache has whatever serves the matching name. -/
theorem agree_of_none (h : initChannelCache order old (channelTableOf channels hnd) = some c)
    (hfit : WeightsFit channels group model)
    (hfit' : WeightsFit channels group (formatMatchingModelName model))
    (hown : accepting supports channels group model requestPath model = []) :
    cacheReturns supports c group model retry requestPath
        = databaseReturns supports rowOrder channels group model retry requestPath
      ↔ accepting supports channels group (formatMatchingModelName model) requestPath model
        = [] := by
  have hdatabase : databaseReturns supports rowOrder channels group model retry requestPath
      = ∅ := by
    rw [Set.eq_empty_iff_forall_notMem]
    intro id hid
    obtain ⟨ch, hch, -, -, haccepts⟩ := (mem_databaseReturns hnd hfit).1 hid
    have hmem := accepting_of_recorded hch haccepts
    rw [hown] at hmem
    cases hmem
  have hcandidates : requestCandidates supports channels group model requestPath
      = (listed channels group (formatMatchingModelName model)).filter
        (Channel.accepts supports requestPath model) := by
    unfold requestCandidates
    rw [if_pos (nil_accepting.2 hown)]
  rw [hdatabase, ← nil_accepting, ← hcandidates]
  constructor
  · intro hempty
    by_contra hne
    obtain ⟨ch, hch, hlevel, hweighty⟩ := exists_weighty hne retry
    have hid := (mem_cacheReturns h hfit hfit').2 ⟨ch, hch, rfl, hlevel, hweighty⟩
    rw [hempty] at hid
    cases hid
  · intro hnil
    rw [Set.eq_empty_iff_forall_notMem]
    intro id hid
    obtain ⟨ch, hch, -⟩ := (mem_cacheReturns h hfit hfit').1 hid
    rw [hnil] at hch
    cases hch

theorem agree_of_some (h : initChannelCache order old (channelTableOf channels hnd) = some c)
    (hfit : WeightsFit channels group model)
    (hfit' : WeightsFit channels group (formatMatchingModelName model))
    (hown : accepting supports channels group model requestPath model ≠ []) :
    cacheReturns supports c group model retry requestPath
        = databaseReturns supports rowOrder channels group model retry requestPath
      ↔ SameDraw (accepting supports channels group model requestPath model)
        (recorded channels group model) retry := by
  obtain ⟨own, howndef⟩ :
    ∃ own, accepting supports channels group model requestPath model = own := ⟨_, rfl⟩
  have hcandidates : ∀ ch, ch ∈ requestCandidates supports channels group model requestPath
      ↔ ch ∈ own := by
    intro ch
    unfold requestCandidates
    rw [if_neg (mt nil_accepting.1 hown), mem_accepting, howndef]
  have hcache : ∀ id, id ∈ cacheReturns supports c group model retry requestPath
      ↔ ∃ ch ∈ own, ch.id = id ∧ some ch.getPriority = level own retry ∧ Weighty own ch := by
    intro id
    simp only [mem_cacheReturns h hfit hfit', level_congr hcandidates, weighty_congr hcandidates,
      hcandidates]
  have hdatabase : ∀ id, id ∈ databaseReturns supports rowOrder channels group model retry
      requestPath ↔ ∃ ch ∈ own, ch.id = id ∧ ch ∈ recorded channels group model ∧
        some ch.getPriority = level (recorded channels group model) retry := by
    intro id
    rw [mem_databaseReturns hnd hfit]
    constructor
    · rintro ⟨ch, hch, hid, hlevel, haccepts⟩
      exact ⟨ch, howndef ▸ accepting_of_recorded hch haccepts, hid, hch, hlevel⟩
    · rintro ⟨ch, hch, hid, hrec, hlevel⟩
      rw [← howndef] at hch
      exact ⟨ch, hrec, hid, hlevel, (List.mem_filter.1 hch).2⟩
  have hsame : ∀ x ∈ own, ∀ y ∈ own, x.id = y.id → x = y := by
    intro x hx y hy hid
    rw [← howndef] at hx hy
    exact List.inj_on_of_nodup_map hnd (List.mem_of_mem_filter (List.mem_of_mem_filter hx))
      (List.mem_of_mem_filter (List.mem_of_mem_filter hy)) hid
  rw [howndef] at hown ⊢
  constructor
  · intro hequal
    have hiff : ∀ ch ∈ own, some ch.getPriority = level own retry ∧ Weighty own ch
        ↔ ch ∈ recorded channels group model ∧
          some ch.getPriority = level (recorded channels group model) retry := by
      intro ch hch
      have hid := hcache ch.id
      rw [hequal, hdatabase] at hid
      constructor
      · intro hdrawn
        obtain ⟨x, hx, hxid, hrec, hlevel⟩ := hid.2 ⟨ch, hch, rfl, hdrawn⟩
        rw [← hsame x hx ch hch hxid]
        exact ⟨hrec, hlevel⟩
      · intro hrec
        obtain ⟨x, hx, hxid, hdrawn⟩ := hid.1 ⟨ch, hch, rfl, hrec⟩
        rw [← hsame x hx ch hch hxid]
        exact hdrawn
    obtain ⟨ch₀, hch₀, hlevel₀, hweighty₀⟩ := exists_weighty hown retry
    have hlevels : level own retry = level (recorded channels group model) retry :=
      hlevel₀.symm.trans ((hiff ch₀ hch₀).1 ⟨hlevel₀, hweighty₀⟩).2
    refine ⟨hlevels, fun ch hch hlevel => ?_⟩
    constructor
    · intro hrec
      exact ((hiff ch hch).2 ⟨hrec, hlevel.trans hlevels⟩).2
    · intro hweighty
      exact ((hiff ch hch).1 ⟨hlevel, hweighty⟩).1
  · rintro ⟨hlevels, hexact⟩
    ext id
    rw [hcache, hdatabase]
    constructor
    · rintro ⟨ch, hch, hid, hlevel, hweighty⟩
      exact ⟨ch, hch, hid, (hexact ch hch hlevel).2 hweighty, hlevel.trans hlevels⟩
    · rintro ⟨ch, hch, hid, hrec, hlevel⟩
      have hlevel' : some ch.getPriority = level own retry := hlevel.trans hlevels.symm
      exact ⟨ch, hch, hid, hlevel', (hexact ch hch hlevel').1 hrec⟩

/-- Cache and database can return the same channels exactly when the table and
the request agree. -/
theorem selection_agrees_iff (order : SliceSort) (rowOrder : RowOrder) (supports : PathSupport κ)
    (channels : List (Channel κ)) (hnd : (channels.map Channel.id).Nodup)
    (old c : ChannelCache κ)
    (h : initChannelCache order old (channelTableOf channels hnd) = some c)
    (group model : String) (retry : Nat) (requestPath : String)
    (hfit : WeightsFit channels group model)
    (hfit' : WeightsFit channels group (formatMatchingModelName model)) :
    cacheReturns supports c group model retry requestPath
        = databaseReturns supports rowOrder channels group model retry requestPath
      ↔ Agreeing supports channels group model retry requestPath := by
  unfold Agreeing
  split
  · exact agree_of_none h hfit hfit' ‹_›
  · exact agree_of_some h hfit hfit' ‹_›

end

/-! ## Building the cache -/

theorem exists_fresh {pair : String × String} (hmem : pair ∈ pairs)
    (hnew : abilityKey pair ∉ seen) :
    ∃ q ∈ freshPairs seen pairs, abilityKey q = abilityKey pair := by
  induction pairs generalizing seen with
  | nil => cases hmem
  | cons x rest ih =>
    unfold freshPairs
    split
    · rename_i hseen
      obtain rfl | hrest := List.mem_cons.1 hmem
      · exact absurd hseen hnew
      · exact ih hrest hnew
    · obtain rfl | hrest := List.mem_cons.1 hmem
      · exact ⟨pair, List.mem_cons_self, rfl⟩
      · by_cases hsame : abilityKey x = abilityKey pair
        · exact ⟨x, List.mem_cons_self, hsame⟩
        · have hfresh : abilityKey pair ∉ abilityKey x :: seen := by
            rw [List.mem_cons, not_or]
            exact ⟨Ne.symm hsame, hnew⟩
          obtain ⟨q, hq, hkey⟩ := ih hrest hfresh
          exact ⟨q, List.mem_cons_of_mem x hq, hkey⟩

theorem freshPairs_append {more : List (String × String)} {q : String × String}
    (h : q ∈ freshPairs seen pairs) : q ∈ freshPairs seen (pairs ++ more) := by
  induction pairs generalizing seen with
  | nil => cases h
  | cons x rest ih =>
    rw [List.cons_append]
    unfold freshPairs at h ⊢
    split at h
    · rename_i hseen
      rw [if_pos hseen]
      exact ih h
    · rename_i hseen
      rw [if_neg hseen]
      obtain rfl | hrest := List.mem_cons.1 h
      · exact List.mem_cons_self
      · exact List.mem_cons_of_mem x (ih hrest)

theorem group_of_abilityKey {group' : String}
    (h : abilityKey (group, model) = abilityKey (group', model)) : group = group' := by
  have hlist := congrArg String.toList h
  simp only [abilityKey, String.toList_append, List.append_assoc] at hlist
  exact String.toList_inj.1 (List.append_cancel_right hlist)

theorem exists_row (ch : Channel κ) (h : group ∈ ch.groups) :
    ∃ model, (group, model) ∈ ch.abilityPairs := by
  obtain ⟨model, rest, hmodels⟩ := List.exists_cons_of_ne_nil (splitComma_ne_nil ch.models)
  have hfirst : (group, model) ∈ ch.groups.map fun group => (group, model) :=
    List.mem_map_of_mem h
  obtain ⟨q, hq, hkey⟩ := exists_fresh hfirst (List.not_mem_nil (a := abilityKey (group, model)))
  obtain ⟨group', -, rfl⟩ := List.mem_map.1 ((freshPairs_spec [] _).1 q hq).2
  obtain rfl := group_of_abilityKey hkey
  refine ⟨model, ?_⟩
  have hnames : ch.modelNames = model :: rest := hmodels
  rw [Channel.abilityPairs, hnames, List.flatMap_cons]
  exact freshPairs_append hq

theorem exists_indexModels (h : group ∈ known) (id : Int) (models : List String)
    (ix : ChannelIndex) : ∃ ix', indexModels known id group models ix = some ix' := by
  induction models generalizing ix with
  | nil => exact ⟨ix, rfl⟩
  | cons model rest ih =>
    rw [indexModels_cons, if_pos h]
    exact ih _

theorem exists_indexGroups {groups : List String} (h : ∀ group ∈ groups, group ∈ known) (id : Int)
    (models : List String) (ix : ChannelIndex) :
    ∃ ix', indexGroups known id models groups ix = some ix' := by
  induction groups generalizing ix with
  | nil => exact ⟨ix, rfl⟩
  | cons group rest ih =>
    obtain ⟨hgroup, hrest⟩ := List.forall_mem_cons.1 h
    obtain ⟨ix₁, hix₁⟩ := exists_indexModels hgroup id models ix
    rw [indexGroups_cons, hix₁]
    exact ih hrest ix₁

theorem exists_indexChannels {channels : List (Channel κ)}
    (h : ∀ ch ∈ channels, ∀ group ∈ ch.groups, group ∈ known) (ix : ChannelIndex) :
    ∃ ix', indexChannels known channels ix = some ix' := by
  induction channels generalizing ix with
  | nil => exact ⟨ix, rfl⟩
  | cons ch rest ih =>
    obtain ⟨hch, hrest⟩ := List.forall_mem_cons.1 h
    rw [indexChannels_cons]
    split
    · obtain ⟨ix₁, hix₁⟩ := exists_indexGroups hch ch.id ch.modelNames ix
      rw [hix₁]
      exact ih hrest ix₁
    · exact ih hrest ix

theorem exists_initChannelCache (order : SliceSort) (old : ChannelCache κ)
    (channels : List (Channel κ)) (hnd : (channels.map Channel.id).Nodup) :
    ∃ c, initChannelCache order old (channelTableOf channels hnd) = some c := by
  have hknown : ∀ ch ∈ channels, ∀ group ∈ ch.groups,
      group ∈ (abilityTable channels).map Ability.group := by
    intro ch hch group hgroup
    obtain ⟨model, hpair⟩ := exists_row ch hgroup
    refine List.mem_map.2 ⟨ch.ability group model, ?_, rfl⟩
    exact List.mem_flatMap.2 ⟨ch, hch, List.mem_map.2 ⟨(group, model), hpair, rfl⟩⟩
  obtain ⟨ix, hix⟩ := exists_indexChannels hknown fun _ _ => []
  refine ⟨_, Option.map_eq_some_iff.2 ⟨ix, hix, rfl⟩⟩

/-! ## A table on which they agree and one on which they do not -/

/-- One of the orders `ORDER BY weight DESC` may produce. -/
def stableRows : RowOrder where
  sort rows := rows.mergeSort fun a b => decide (b.weight ≤ a.weight)
  perm rows := List.mergeSort_perm rows _
  sorted rows := by
    have htrans : ∀ a b c : Ability, decide (b.weight ≤ a.weight) = true →
        decide (c.weight ≤ b.weight) = true → decide (c.weight ≤ a.weight) = true := by
      intro a b c hab hbc
      simp only [decide_eq_true_eq] at hab hbc ⊢
      exact UInt64.le_trans hbc hab
    have htotal : ∀ a b : Ability,
        (decide (b.weight ≤ a.weight) || decide (a.weight ≤ b.weight)) = true := by
      intro a b
      simpa using UInt64.le_total b.weight a.weight
    simpa using List.pairwise_mergeSort htrans htotal rows

def plainChannel (id : Int) (models : String) (weight : UInt64) : Channel Unit where
  id := id
  type := 1
  status := 1
  weight := some weight
  models := models
  group := "default"
  priority := none
  channelInfo := ⟨false, .random, 0⟩
  advancedCustom := none

/-- Two channels with weight under one name. -/
theorem weighted_channels_agree :
    ∃ c, initChannelCache stableSort .empty
        (channelTableOf [plainChannel 1 "gpt-4o" 5, plainChannel 2 "gpt-4o,o3" 1] (by decide))
        = some c ∧
      cacheReturns (fun _ _ _ => true) c "default" "gpt-4o" 0 ""
        = databaseReturns (fun _ _ _ => true) stableRows
          [plainChannel 1 "gpt-4o" 5, plainChannel 2 "gpt-4o,o3" 1] "default" "gpt-4o" 0 "" := by
  obtain ⟨c, hc⟩ := exists_initChannelCache stableSort .empty
    [plainChannel 1 "gpt-4o" 5, plainChannel 2 "gpt-4o,o3" 1] (by decide)
  refine ⟨c, hc, ?_⟩
  exact (selection_agrees_iff stableSort stableRows _ _ _ _ c hc "default" "gpt-4o" 0 ""
    (by decide +kernel) (by decide +kernel)).2 (by decide +kernel)

/-- A model that is served under its matching name: the cache finds the channel,
the database does not. -/
theorem matching_name_only_cached :
    ∃ c, initChannelCache stableSort .empty
        (channelTableOf [plainChannel 7 "gpt-4o-gizmo-*" 1] (by decide)) = some c ∧
      cacheReturns (fun _ _ _ => true) c "default" "gpt-4o-gizmo-g1" 0 ""
        ≠ databaseReturns (fun _ _ _ => true) stableRows [plainChannel 7 "gpt-4o-gizmo-*" 1]
          "default" "gpt-4o-gizmo-g1" 0 "" := by
  obtain ⟨c, hc⟩ := exists_initChannelCache stableSort .empty
    [plainChannel 7 "gpt-4o-gizmo-*" 1] (by decide)
  refine ⟨c, hc, fun hequal => ?_⟩
  have hnone := (agree_of_none hc (by decide) (by decide) (by decide)).1
    hequal
  revert hnone
  decide

end YouBox
