import YouBox.ChannelRows
import YouBox.SelectAgree
import YouBox.Sched

/-!
# The abilities mirror the channels

Seven operations write `channels` and `abilities` side by side. Some delete a
channel's abilities and create them again, some update the rows in place by
channel or by tag. `Mirrors` says what the second table is to be in terms of the
first, and two rules keep it:

- `Mirrors.map`: both tables are changed in place, each row of abilities the way
  its channel is;
- `Mirrors.recreate`: channels are changed and the abilities of at least those
  are created anew.

What falls outside the two rules is the guard `mirrored`. A weight of zero in
`EditChannelByTag` reaches the channels but not the abilities; an `Update` of a
channel that is gone creates abilities for it; and two pairs of a group and a
model whose texts join to the same key get one row between them.
-/

namespace YouBox.ChannelDB

structure DB where
  channels : List Channel
  abilities : List Ability

/-! ## The operations -/

structure TagEdit where
  newTag : Option String
  modelMapping : Option String
  models : Option String
  group : Option String
  priority : Option Int64
  weight : Option UInt64
  paramOverride : Option String
  headerOverride : Option String

def TagEdit.updatedTag (edit : TagEdit) (tag : String) : String := edit.newTag.getD tag

def TagEdit.reCreateAbilities (edit : TagEdit) : Bool :=
  edit.models.getD "" != "" || edit.group.getD "" != ""

/-- `Updates(updateData)` on one row. -/
def Channel.edited (ch : Channel) (edit : TagEdit) : Channel :=
  { ch with
    tag := edit.newTag.or ch.tag
    modelMapping := edit.modelMapping.or ch.modelMapping
    models := if edit.models.getD "" = "" then ch.models else edit.models.getD ""
    group := if edit.group.getD "" = "" then ch.group else edit.group.getD ""
    priority := edit.priority.or ch.priority
    weight := edit.weight.or ch.weight
    paramOverride := edit.paramOverride.or ch.paramOverride
    headerOverride := edit.headerOverride.or ch.headerOverride }

/-- `newId` is the id that the database hands out, and `infoZero` whether the
object's `ChannelInfo` is the zero value. -/
inductive ChannelOp where
  | insert (ch : Channel) (newId : Int)
  | update (ch : Channel) (infoZero : Bool)
  | updateChannelStatus (channelId : Int) (call : StatusCall) (now : Int)
  | enableChannelByTag (tag : String)
  | disableChannelByTag (tag : String)
  | editChannelByTag (tag : String) (edit : TagEdit)
  | delete (channelId : Int)

namespace DB

def getChannelById (db : DB) (id : Int) : Option Channel :=
  db.channels.find? fun ch => ch.id == id

/-- Every row of the channel with that id becomes `f` of it. -/
def updateWhere (db : DB) (p : Channel → Bool) (f : Channel → Channel) : List Channel :=
  db.channels.map fun ch => if p ch then f ch else ch

def insert (db : DB) (ch : Channel) (newId : Int) : Option DB :=
  let ch := ch.created newId
  if (db.getChannelById ch.id).isSome then none
  else some ⟨db.channels ++ [ch], ch.addAbilities db.abilities⟩

/-- Without a row the object stays what it is, and gets abilities all the same. -/
def update (raw : RawArray) (db : DB) (ch : Channel) (infoZero : Bool) : Option DB :=
  if ch.id = 0 then none
  else
    let ch := ch.sized raw ((db.getChannelById ch.id).map Channel.key)
    let channels := db.updateWhere (fun row => row.id == ch.id) fun row => row.updated ch infoZero
    let ch := ((DB.mk channels db.abilities).getChannelById ch.id).getD ch
    some ⟨channels, ch.updateAbilities db.abilities⟩

/-- `none` when the call returns false. -/
def updateChannelStatus (raw : RawArray) (db : DB) (channelId : Int) (call : StatusCall)
    (now : Int) : Option DB :=
  match db.getChannelById channelId with
  | none => none
  | some ch =>
    match ch.updateStatus raw now call with
    | none => none
    | some (ch', follow) =>
      if ch.id = 0 then none
      else
        some ⟨db.updateWhere (fun row => row.id == ch.id) fun row =>
            { ch' with key := row.key },
          if follow then
            updateAbilityStatus channelId (call.status == channelStatusEnabled) db.abilities
          else db.abilities⟩

/-- The status of the channels, and whether the abilities are enabled. -/
def updateStatusByTag (db : DB) (tag : String) (status : Int) (enabled : Bool) : DB :=
  ⟨db.updateWhere (fun ch => ch.tag == some tag) fun ch => { ch with status := status },
    updateAbilityStatusByTag tag enabled db.abilities⟩

def enableChannelByTag (db : DB) (tag : String) : DB :=
  db.updateStatusByTag tag channelStatusEnabled true

def disableChannelByTag (db : DB) (tag : String) : DB :=
  db.updateStatusByTag tag channelStatusManuallyDisabled false

def editChannelByTag (db : DB) (tag : String) (edit : TagEdit) : DB :=
  let channels := db.updateWhere (fun ch => ch.tag == some tag) fun ch => ch.edited edit
  if edit.reCreateAbilities then
    let edited := channels.filter fun ch => ch.tag == some (edit.updatedTag tag)
    ⟨channels, edited.foldl (fun rows ch => ch.updateAbilities rows) db.abilities⟩
  else
    ⟨channels, updateAbilityByTag tag edit.newTag edit.priority edit.weight db.abilities⟩

def delete (db : DB) (channelId : Int) : Option DB :=
  if channelId = 0 then none
  else
    some ⟨db.channels.filter fun ch => ch.id != channelId, deleteAbilities channelId db.abilities⟩

/-- One operation; `none` when it does not succeed. -/
def exec (raw : RawArray) (db : DB) : ChannelOp → Option DB
  | .insert ch newId => db.insert ch newId
  | .update ch infoZero => db.update raw ch infoZero
  | .updateChannelStatus channelId call now => db.updateChannelStatus raw channelId call now
  | .enableChannelByTag tag => some (db.enableChannelByTag tag)
  | .disableChannelByTag tag => some (db.disableChannelByTag tag)
  | .editChannelByTag tag edit => some (db.editChannelByTag tag edit)
  | .delete channelId => db.delete channelId

def step (raw : RawArray) (db : DB) (op : ChannelOp) : DB := (db.exec raw op).getD db

def empty : DB := ⟨[], []⟩

end DB

/-! ## What the abilities are to be -/

/-- The ability is one of those the channel is to have. -/
def Channel.Owns (ch : Channel) (a : Ability) : Prop :=
  ∃ group ∈ ch.groups, ∃ model ∈ ch.modelNames, a = ch.ability group model

structure Mirrors (db : DB) : Prop where
  ids : (db.channels.map Channel.id).Nodup
  distinct : (db.abilities.map Ability.primaryKey).Nodup
  exact : ∀ a, a ∈ db.abilities ↔ ∃ ch ∈ db.channels, ch.Owns a

/-- No two pairs of the channel have the same text. -/
def Channel.ClearKeys (ch : Channel) : Prop :=
  ∀ p ∈ ch.pairs, ∀ q ∈ ch.pairs, abilityKey p = abilityKey q → p = q

instance (ch : Channel) : Decidable ch.ClearKeys :=
  inferInstanceAs (Decidable (∀ p ∈ ch.pairs, ∀ q ∈ ch.pairs, abilityKey p = abilityKey q → p = q))

/-- What an operation that succeeds must meet for the abilities to follow. -/
def mirrored (raw : RawArray) (db : DB) : ChannelOp → Prop
  | .insert ch newId => (ch.created newId).ClearKeys
  | .update ch infoZero =>
    ∃ row ∈ db.channels, row.id = ch.id ∧
      (row.updated (ch.sized raw (some row.key)) infoZero).ClearKeys
  | .editChannelByTag tag edit =>
    if edit.reCreateAbilities then
      ∀ ch ∈ db.channels, (ch.tag = some tag → (ch.edited edit).ClearKeys) ∧
        (ch.tag = some (edit.updatedTag tag) → ch.tag ≠ some tag → ch.ClearKeys)
    else edit.weight = some 0 → ∀ ch ∈ db.channels, ch.tag = some tag → ch.getWeight = 0
  | _ => True

instance (raw : RawArray) (db : DB) : ∀ op, Decidable (mirrored raw db op)
  | .insert ch newId => inferInstanceAs (Decidable (ch.created newId).ClearKeys)
  | .update ch infoZero =>
    inferInstanceAs (Decidable (∃ row ∈ db.channels, row.id = ch.id ∧
      (row.updated (ch.sized raw (some row.key)) infoZero).ClearKeys))
  | .editChannelByTag tag edit =>
    inferInstanceAs (Decidable (if edit.reCreateAbilities then
      ∀ ch ∈ db.channels, (ch.tag = some tag → (ch.edited edit).ClearKeys) ∧
        (ch.tag = some (edit.updatedTag tag) → ch.tag ≠ some tag → ch.ClearKeys)
    else edit.weight = some 0 → ∀ ch ∈ db.channels, ch.tag = some tag → ch.getWeight = 0))
  | .updateChannelStatus .. | .enableChannelByTag _ | .disableChannelByTag _ | .delete _ =>
    inferInstanceAs (Decidable True)

def succeeds (raw : RawArray) (db : DB) (op : ChannelOp) : Prop := (db.exec raw op).isSome

/-- The operation succeeds, and its abilities follow. -/
def succeedsMirrored (raw : RawArray) (db : DB) (op : ChannelOp) : Prop :=
  succeeds raw db op ∧ mirrored raw db op

instance (raw : RawArray) (db : DB) (op : ChannelOp) : Decidable (succeeds raw db op) :=
  inferInstanceAs (Decidable ((db.exec raw op).isSome = true))

instance (raw : RawArray) (db : DB) (op : ChannelOp) : Decidable (succeedsMirrored raw db op) :=
  inferInstanceAs (Decidable (_ ∧ _))

/-! ## A channel and its abilities -/

variable {ch : Channel} {a : Ability} {rows : List Ability} {chs : List Channel} {db : DB}
  {f : Channel → Channel} {raw : RawArray}

theorem mem_pairs {p : String × String} :
    p ∈ ch.pairs ↔ p.1 ∈ ch.groups ∧ p.2 ∈ ch.modelNames := by
  simp only [Channel.pairs, List.mem_flatMap, List.mem_map]
  constructor
  · rintro ⟨model, hmodel, group, hgroup, rfl⟩
    exact ⟨hgroup, hmodel⟩
  · rintro ⟨hgroup, hmodel⟩
    exact ⟨p.2, hmodel, p.1, hgroup, rfl⟩

theorem owns_iff :
    ch.Owns a ↔ ∃ p ∈ ch.pairs, a = ch.ability p.1 p.2 := by
  constructor
  · rintro ⟨group, hgroup, model, hmodel, rfl⟩
    exact ⟨(group, model), mem_pairs.mpr ⟨hgroup, hmodel⟩, rfl⟩
  · rintro ⟨p, hp, rfl⟩
    obtain ⟨hgroup, hmodel⟩ := mem_pairs.mp hp
    exact ⟨p.1, hgroup, p.2, hmodel, rfl⟩

theorem Channel.Owns.channelId (h : ch.Owns a) :
    a.channelId = ch.id := by
  obtain ⟨group, -, model, -, rfl⟩ := h
  rfl

theorem owns_of_mem_abilities (h : a ∈ ch.abilities) : ch.Owns a := by
  obtain ⟨p, hp, rfl⟩ := List.mem_map.mp h
  exact owns_iff.mpr ⟨p, ((freshPairs_spec [] _).1 p hp).2, rfl⟩

theorem mem_abilities (hclear : ch.ClearKeys) :
    a ∈ ch.abilities ↔ ch.Owns a := by
  refine ⟨owns_of_mem_abilities, ?_⟩
  intro h
  obtain ⟨p, hp, rfl⟩ := owns_iff.mp h
  obtain ⟨q, hq, hkey⟩ := exists_fresh hp (List.not_mem_nil (a := abilityKey p))
  obtain rfl := hclear q ((freshPairs_spec [] _).1 q hq).2 p hp hkey
  exact List.mem_map.mpr ⟨q, hq, rfl⟩

theorem abilities_distinct (ch : Channel) : (ch.abilities.map Ability.primaryKey).Nodup := by
  rw [Channel.abilities, List.map_map]
  refine List.Nodup.map ?_ (freshPairs_spec [] ch.pairs).2
  rintro ⟨group, model⟩ ⟨group', model'⟩ h
  simpa [Ability.primaryKey, Channel.ability] using h

/-! ## Creating and deleting -/

theorem mem_deleteAbilities {id : Int} :
    a ∈ deleteAbilities id rows ↔ a ∈ rows ∧ a.channelId ≠ id := by
  simp [deleteAbilities]

theorem deleteAbilities_distinct (id : Int) (h : (rows.map Ability.primaryKey).Nodup) :
    ((deleteAbilities id rows).map Ability.primaryKey).Nodup :=
  h.sublist (List.filter_sublist.map _)

theorem addAbilities_eq (h : ∀ a ∈ rows, a.channelId ≠ ch.id) :
    ch.addAbilities rows = rows ++ ch.abilities := by
  unfold Channel.addAbilities createAbilities
  congr 1
  refine List.filter_eq_self.mpr ?_
  intro a ha
  simp only [Bool.not_eq_true', List.any_eq_false, beq_iff_eq]
  intro row hrow hkey
  refine h row hrow ?_
  have hid : row.channelId = a.channelId := congrArg (fun k => k.2.2) hkey
  rw [hid, (owns_of_mem_abilities ha).channelId]

theorem mem_addAbilities (hclear : ch.ClearKeys) (h : ∀ a ∈ rows, a.channelId ≠ ch.id) :
    a ∈ ch.addAbilities rows ↔ a ∈ rows ∨ ch.Owns a := by
  rw [addAbilities_eq h, List.mem_append, mem_abilities hclear]

theorem addAbilities_distinct (h : ∀ a ∈ rows, a.channelId ≠ ch.id)
    (hdistinct : (rows.map Ability.primaryKey).Nodup) :
    ((ch.addAbilities rows).map Ability.primaryKey).Nodup := by
  rw [addAbilities_eq h, List.map_append, List.nodup_append]
  refine ⟨hdistinct, abilities_distinct ch, ?_⟩
  rintro k hk l hl rfl
  obtain ⟨a, ha, rfl⟩ := List.mem_map.mp hk
  obtain ⟨b, hb, hkey⟩ := List.mem_map.mp hl
  have hid : b.channelId = a.channelId := congrArg (fun k => k.2.2) hkey
  exact h a ha (hid.symm.trans (owns_of_mem_abilities hb).channelId)

theorem mem_updateAbilities (hclear : ch.ClearKeys) :
    a ∈ ch.updateAbilities rows ↔ (a ∈ rows ∧ a.channelId ≠ ch.id) ∨ ch.Owns a := by
  have hnone : ∀ a ∈ deleteAbilities ch.id rows, a.channelId ≠ ch.id :=
    fun a ha => (mem_deleteAbilities.mp ha).2
  have hmem := mem_addAbilities (a := a) hclear hnone
  rwa [mem_deleteAbilities] at hmem

theorem updateAbilities_distinct (ch : Channel) (h : (rows.map Ability.primaryKey).Nodup) :
    ((ch.updateAbilities rows).map Ability.primaryKey).Nodup :=
  addAbilities_distinct (fun _ ha => (mem_deleteAbilities.mp ha).2) (deleteAbilities_distinct ch.id h)

theorem mem_recreate (hids : (chs.map Channel.id).Nodup) (hclear : ∀ ch ∈ chs, ch.ClearKeys) :
    a ∈ chs.foldl (fun rows ch => ch.updateAbilities rows) rows ↔
      (a ∈ rows ∧ ∀ ch ∈ chs, a.channelId ≠ ch.id) ∨ ∃ ch ∈ chs, ch.Owns a := by
  induction chs generalizing rows with
  | nil => simp
  | cons ch rest ih =>
    simp only [List.map_cons, List.nodup_cons, List.forall_mem_cons] at hids hclear
    rw [List.foldl_cons, ih hids.2 hclear.2, mem_updateAbilities hclear.1]
    simp only [List.forall_mem_cons, List.exists_mem_cons_iff]
    -- what the first channel gets, no later one takes away
    have hkeep : ch.Owns a → ∀ other ∈ rest, a.channelId ≠ other.id := by
      intro hown other hother hid
      refine hids.1 (List.mem_map.mpr ⟨other, hother, ?_⟩)
      rw [← hid, hown.channelId]
    rw [or_and_right, and_iff_left_of_imp hkeep, and_assoc, or_assoc]

theorem recreate_distinct (chs : List Channel) (h : (rows.map Ability.primaryKey).Nodup) :
    ((chs.foldl (fun rows ch => ch.updateAbilities rows) rows).map Ability.primaryKey).Nodup := by
  induction chs generalizing rows with
  | nil => exact h
  | cons ch rest ih => exact ih (updateAbilities_distinct ch h)

/-! ## The two rules -/

theorem mem_of_getChannelById {id : Int} (h : db.getChannelById id = some ch) :
    ch ∈ db.channels ∧ ch.id = id :=
  ⟨List.mem_of_find?_eq_some h, by simpa using List.find?_some h⟩

theorem getChannelById_eq (h : (db.channels.map Channel.id).Nodup) (hmem : ch ∈ db.channels) :
    db.getChannelById ch.id = some ch := by
  cases hfind : db.getChannelById ch.id with
  | none => exact absurd (List.find?_eq_none.mp hfind ch hmem) (by simp)
  | some other =>
    obtain ⟨hother, hid⟩ := mem_of_getChannelById hfind
    rw [List.inj_on_of_nodup_map h hother hmem hid]

theorem ids_map (hid : ∀ ch ∈ chs, (f ch).id = ch.id) :
    (chs.map f).map Channel.id = chs.map Channel.id := by
  rw [List.map_map]
  exact List.map_congr_left hid

variable {g : Ability → Ability} {db' : DB} {tag : String} {edit : TagEdit}

theorem Mirrors.map (h : Mirrors db) (hsame : ∀ ch ∈ db.channels, (f ch).id
      = ch.id ∧ (f ch).groups = ch.groups ∧ (f ch).modelNames = ch.modelNames) (hg : ∀ ch ∈
      db.channels, ∀ group model, g (ch.ability group model) = (f ch).ability group model) :
    Mirrors ⟨db.channels.map f, db.abilities.map g⟩ where
  ids := by
    show ((db.channels.map f).map Channel.id).Nodup
    rw [ids_map fun ch hch => (hsame ch hch).1]
    exact h.ids
  distinct := by
    have hkeys : (db.abilities.map g).map Ability.primaryKey
        = db.abilities.map Ability.primaryKey := by
      rw [List.map_map]
      refine List.map_congr_left ?_
      intro a ha
      obtain ⟨ch, hch, group, -, model, -, rfl⟩ := (h.exact a).mp ha
      rw [Function.comp_apply, hg ch hch]
      simp [Ability.primaryKey, Channel.ability, (hsame ch hch).1]
    show ((db.abilities.map g).map Ability.primaryKey).Nodup
    rw [hkeys]
    exact h.distinct
  exact a := by
    simp only [List.mem_map]
    constructor
    · rintro ⟨b, hb, rfl⟩
      obtain ⟨ch, hch, group, hgroup, model, hmodel, rfl⟩ := (h.exact b).mp hb
      obtain ⟨-, hgroups, hmodels⟩ := hsame ch hch
      exact ⟨f ch, ⟨ch, hch, rfl⟩, group, hgroups ▸ hgroup, model, hmodels ▸ hmodel,
        hg ch hch group model⟩
    · rintro ⟨_, ⟨ch, hch, rfl⟩, group, hgroup, model, hmodel, rfl⟩
      obtain ⟨-, hgroups, hmodels⟩ := hsame ch hch
      exact ⟨ch.ability group model,
        (h.exact _).mpr ⟨ch, hch, group, hgroups ▸ hgroup, model, hmodels ▸ hmodel, rfl⟩,
        hg ch hch group model⟩

theorem Mirrors.updateWhere (h : Mirrors db) {p : Channel → Bool} (hsame : ∀
      ch ∈ db.channels, p ch = true → (f ch).id = ch.id ∧ (f ch).groups = ch.groups ∧ (f
      ch).modelNames = ch.modelNames) (hg : ∀ ch ∈ db.channels, p ch = true → ∀ group model, g
      (ch.ability group model) = (f ch).ability group model) (hother : ∀ ch ∈ db.channels, p ch =
      false → ∀ group model, g (ch.ability group model) = ch.ability group model) :
    Mirrors ⟨db.updateWhere p f, db.abilities.map g⟩ := by
  refine h.map ?_ ?_
  · intro ch hch
    split
    · rename_i hp
      exact hsame ch hch hp
    · exact ⟨rfl, rfl, rfl⟩
  · intro ch hch group model
    split
    · rename_i hp
      exact hg ch hch hp group model
    · rename_i hp
      exact hother ch hch (by simpa using hp) group model

/-- Channels changed in any way, and the abilities of these, perhaps of others as
well, created anew. -/
theorem Mirrors.recreate (h : Mirrors db) (hid : ∀ ch ∈ db.channels, (f ch).id = ch.id)
    (hchs : chs.Sublist (db.channels.map f)) (hclear : ∀ ch ∈ chs, ch.ClearKeys)
    (hrest : ∀ ch ∈ db.channels, f ch ∉ chs → f ch = ch) :
    Mirrors ⟨db.channels.map f,
      chs.foldl (fun rows ch => ch.updateAbilities rows) db.abilities⟩ := by
  have hids : ((db.channels.map f).map Channel.id).Nodup := ids_map hid ▸ h.ids
  refine ⟨hids, recreate_distinct chs h.distinct, ?_⟩
  intro a
  show a ∈ chs.foldl _ db.abilities ↔ ∃ ch ∈ db.channels.map f, ch.Owns a
  rw [mem_recreate (hids.sublist (hchs.map _)) hclear]
  constructor
  · rintro (⟨ha, hnot⟩ | ⟨ch, hch, hown⟩)
    · obtain ⟨ch, hch, hown⟩ := (h.exact a).mp ha
      have hkept : f ch = ch := by
        refine hrest ch hch ?_
        intro hmem
        exact hnot (f ch) hmem (hown.channelId.trans (hid ch hch).symm)
      exact ⟨ch, List.mem_map.mpr ⟨ch, hch, hkept⟩, hown⟩
    · exact ⟨ch, hchs.subset hch, hown⟩
  · rintro ⟨ch', hch', hown⟩
    obtain ⟨ch, hch, rfl⟩ := List.mem_map.mp hch'
    by_cases hmem : f ch ∈ chs
    · exact Or.inr ⟨f ch, hmem, hown⟩
    · refine Or.inl ⟨(h.exact a).mpr ⟨ch, hch, hrest ch hch hmem ▸ hown⟩, ?_⟩
      -- the id leads to one channel only
      intro other hother heq
      have hsame := List.inj_on_of_nodup_map hids hch' (hchs.subset hother)
        (hown.channelId.symm.trans heq)
      exact hmem (hsame ▸ hother)

/-! ## One lemma for each operation -/

theorem Mirrors.insert {newId : Int} (h : Mirrors db) (hclear : (ch.created newId).ClearKeys)
    (hrun : db.insert ch newId = some db') : Mirrors db' := by
  unfold DB.insert at hrun
  simp only at hrun
  split at hrun
  · cases hrun
  · rename_i hnew
    cases hrun
    have hfresh : ∀ other ∈ db.channels, other.id ≠ (ch.created newId).id := by
      intro other hother hid
      refine hnew ?_
      rw [← hid, getChannelById_eq h.ids hother]
      rfl
    have hnone : ∀ a ∈ db.abilities, a.channelId ≠ (ch.created newId).id := by
      intro a ha hid
      obtain ⟨other, hother, hown⟩ := (h.exact a).mp ha
      exact hfresh other hother (hown.channelId.symm.trans hid)
    refine ⟨?_, addAbilities_distinct hnone h.distinct, ?_⟩
    · rw [List.map_append, List.nodup_append]
      refine ⟨h.ids, List.nodup_singleton _, ?_⟩
      rintro id hid _ hnew rfl
      obtain ⟨other, hother, rfl⟩ := List.mem_map.mp hid
      exact hfresh other hother (List.mem_singleton.mp hnew)
    · intro a
      rw [mem_addAbilities hclear hnone, h.exact]
      simp only [List.mem_append, List.mem_singleton, or_and_right, exists_or, exists_eq_left]

theorem Mirrors.update {raw : RawArray} {db db' : DB} {ch : Channel} {infoZero : Bool}
    (h : Mirrors db) (hok : mirrored raw db (.update ch infoZero))
    (hrun : db.update raw ch infoZero = some db') : Mirrors db' := by
  obtain ⟨row, hrow, hid, hclear⟩ := hok
  unfold DB.update at hrun
  split at hrun
  · cases hrun
  · rw [← hid, getChannelById_eq h.ids hrow] at hrun
    simp only [Option.map_some, Option.some.injEq] at hrun
    have hsized : (ch.sized raw (some row.key)).id = row.id := (sized_id ..).trans hid.symm
    have hnew : row.updated (ch.sized raw (some row.key)) infoZero ∈
        db.updateWhere (fun other => other.id == (ch.sized raw (some row.key)).id)
          fun other => other.updated (ch.sized raw (some row.key)) infoZero :=
      List.mem_map.mpr ⟨row, hrow, by simp [hid]⟩
    have hids : ∀ other ∈ db.channels,
        (if other.id == (ch.sized raw (some row.key)).id then
          other.updated (ch.sized raw (some row.key)) infoZero else other).id = other.id := by
      intro other _
      split <;> rfl
    have hkept := Mirrors.recreate h hids (List.singleton_sublist.mpr hnew)
      (by simpa using hclear) (by
        intro other hother hnot
        split at hnot
        · rename_i hsame
          have heq : other.id = row.id := by rw [beq_iff_eq.mp hsame, hsized]
          rw [List.inj_on_of_nodup_map h.ids hother hrow heq] at hnot
          exact absurd (List.mem_singleton.mpr rfl) hnot
        · rename_i hother
          rw [if_neg hother])
    -- what is read again is the row just written
    have hread := getChannelById_eq hkept.ids hnew
    rw [← hrun]
    have hrowId : (row.updated (ch.sized raw (some row.key)) infoZero).id
        = (ch.sized raw (some row.key)).id := hsized.symm
    rw [hrowId] at hread
    have hread' : (DB.mk (db.updateWhere (fun other => other.id == (ch.sized raw (some row.key)).id)
          fun other => other.updated (ch.sized raw (some row.key)) infoZero)
        db.abilities).getChannelById (ch.sized raw (some row.key)).id
        = some (row.updated (ch.sized raw (some row.key)) infoZero) := hread
    rw [hread']
    exact hkept

theorem Mirrors.updateChannelStatus {channelId now : Int} {call : StatusCall} (h : Mirrors db)
    (hrun : db.updateChannelStatus raw channelId call now = some db') : Mirrors db' := by
  unfold DB.updateChannelStatus at hrun
  split at hrun
  · cases hrun
  · rename_i ch hread
    obtain ⟨hch, rfl⟩ := mem_of_getChannelById hread
    split at hrun
    · cases hrun
    · rename_i ch' follow hupdate
      split at hrun
      · cases hrun
      · cases hrun
        obtain ⟨hfollow, hstays⟩ := updateStatus_enabled hupdate
        have hframe := updateStatus_frame hupdate
        have hone : ∀ other ∈ db.channels, (other.id == ch.id) = true → other = ch :=
          fun other hother hid => List.inj_on_of_nodup_map h.ids hother hch (beq_iff_eq.mp hid)
        have hsame : ∀ other ∈ db.channels, (other.id == ch.id) = true →
            ch'.id = other.id ∧ ch'.groups = other.groups ∧ ch'.modelNames = other.modelNames := by
          intro other hother hid
          rw [hone other hother hid, hframe]
          exact ⟨rfl, rfl, rfl⟩
        cases follow with
        | true =>
          refine h.updateWhere hsame ?_ ?_
          · intro other hother hid group model
            obtain rfl := hone other hother hid
            have henabled := hfollow rfl
            rw [hframe] at henabled ⊢
            simpa [Channel.ability, Channel.enabled, Channel.getPriority, Channel.getWeight]
              using henabled.symm
          · intro other hother hid group model
            exact if_neg (by simpa [Channel.ability] using hid)
        | false =>
          have hkept := h.updateWhere (f := fun row => { ch' with key := row.key }) (g := id)
            hsame
            (by
              intro other hother hid group model
              rw [hone other hother hid, hframe, hstays rfl]
              rfl)
            (fun _ _ _ _ _ => rfl)
          rwa [List.map_id] at hkept

theorem Mirrors.updateStatusByTag (h : Mirrors db) (tag : String) {status : Int} {enabled : Bool}
    (hstatus : enabled = (status == channelStatusEnabled)) :
    Mirrors (db.updateStatusByTag tag status enabled) := by
  refine h.updateWhere (fun _ _ _ => ⟨rfl, rfl, rfl⟩) ?_ ?_
  · intro ch _ htag group model
    have htag : ch.tag = some tag := by simpa using htag
    simp [Channel.ability, Channel.enabled, Channel.getPriority, Channel.getWeight, htag, hstatus]
  · intro ch _ htag group model
    exact if_neg (by simpa [Channel.ability] using htag)

theorem edited_tag (edit : TagEdit) (h : ch.tag = some tag) :
    (ch.edited edit).tag = some (edit.updatedTag tag) := by
  simp only [Channel.edited, TagEdit.updatedTag, h]
  cases edit.newTag <;> rfl

/-- Both tables get the same tag, priority and weight, unless the weight is one
that `Updates` skips. -/
theorem ability_updates (group model : String) (hweight : edit.weight = some 0 → ch.getWeight = 0) :
    (ch.ability group model).updates edit.newTag edit.priority (edit.weight.getD 0)
      = (ch.edited edit).ability group model := by
  have hpriority : edit.priority.getD ch.getPriority = (ch.edited edit).getPriority := by
    simp only [Channel.getPriority, Channel.edited]
    cases edit.priority <;> rfl
  have hnew : (if edit.weight.getD 0 = 0 then ch.getWeight else edit.weight.getD 0)
      = (ch.edited edit).getWeight := by
    simp only [Channel.getWeight, Channel.edited] at hweight ⊢
    cases hw : edit.weight with
    | none => rfl
    | some w =>
      simp only [Option.getD_some]
      split
      · rename_i hzero
        exact (hweight (by rw [hw, hzero])).trans hzero.symm
      · rfl
  simp [Ability.updates, Channel.ability, hpriority, hnew]
  exact ⟨rfl, rfl, rfl⟩

theorem Mirrors.editChannelByTag (h : Mirrors db)
    (hok : mirrored raw db (.editChannelByTag tag edit)) :
    Mirrors (db.editChannelByTag tag edit) := by
  unfold DB.editChannelByTag
  unfold mirrored at hok
  simp only at hok ⊢
  split
  · rename_i hrecreate
    rw [if_pos hrecreate] at hok
    refine h.recreate ?_ List.filter_sublist ?_ ?_
    · intro ch _
      split <;> rfl
    · intro ch' hch'
      obtain ⟨hmem, htag'⟩ := List.mem_filter.mp hch'
      obtain ⟨ch, hch, rfl⟩ := List.mem_map.mp hmem
      obtain ⟨hedited, hothers⟩ := hok ch hch
      split
      · rename_i htag
        exact hedited (beq_iff_eq.mp htag)
      · rename_i htag
        rw [if_neg htag] at htag'
        exact hothers (beq_iff_eq.mp htag') (fun heq => htag (beq_iff_eq.mpr heq))
    · intro ch hch hnot
      split
      · rename_i htag
        refine absurd (List.mem_filter.mpr ⟨List.mem_map.mpr ⟨ch, hch, rfl⟩, ?_⟩) hnot
        rw [if_pos htag, edited_tag edit (beq_iff_eq.mp htag)]
        exact beq_self_eq_true _
      · rfl
  · rename_i hplace
    rw [if_neg hplace] at hok
    have hempty : edit.models.getD "" = "" ∧ edit.group.getD "" = "" := by
      simpa [TagEdit.reCreateAbilities] using hplace
    refine h.updateWhere ?_ ?_ ?_
    · intro ch _ _
      simp [Channel.edited, Channel.groups, Channel.modelNames, hempty]
    · intro ch hch htag group model
      have htag : ch.tag = some tag := beq_iff_eq.mp htag
      rw [if_pos (show (ch.ability group model).tag = some tag from htag)]
      exact ability_updates group model fun hw => hok hw ch hch htag
    · intro ch _ htag group model
      exact if_neg (by simpa [Channel.ability] using htag)

theorem Mirrors.delete {db db' : DB} {channelId : Int} (h : Mirrors db)
    (hrun : db.delete channelId = some db') : Mirrors db' := by
  unfold DB.delete at hrun
  split at hrun
  · cases hrun
  · cases hrun
    refine ⟨h.ids.sublist (List.filter_sublist.map _), deleteAbilities_distinct channelId h.distinct,
      ?_⟩
    intro a
    simp only [mem_deleteAbilities, h.exact a, List.mem_filter, bne_iff_ne]
    constructor
    · rintro ⟨⟨ch, hch, hown⟩, hid⟩
      exact ⟨ch, ⟨hch, hown.channelId ▸ hid⟩, hown⟩
    · rintro ⟨ch, ⟨hch, hid⟩, hown⟩
      exact ⟨⟨ch, hch, hown⟩, hown.channelId ▸ hid⟩

/-! ## Whole runs -/

theorem Mirrors.step {op : ChannelOp} (h : Mirrors db) (hok : succeedsMirrored raw db op) :
    Mirrors (db.step raw op) := by
  obtain ⟨hsome, hmirrored⟩ := hok
  obtain ⟨db', hrun⟩ := Option.isSome_iff_exists.mp hsome
  have hstep : db.step raw op = db' := by rw [DB.step, hrun, Option.getD_some]
  rw [hstep]
  cases op with
  | insert ch newId => exact h.insert hmirrored hrun
  | update ch infoZero => exact h.update hmirrored hrun
  | updateChannelStatus channelId call now => exact h.updateChannelStatus hrun
  | enableChannelByTag tag =>
    cases hrun
    exact h.updateStatusByTag tag rfl
  | disableChannelByTag tag =>
    cases hrun
    exact h.updateStatusByTag tag rfl
  | editChannelByTag tag edit =>
    cases hrun
    exact h.editChannelByTag hmirrored
  | delete channelId => exact h.delete hrun

theorem mirrors_empty : Mirrors DB.empty :=
  ⟨List.nodup_nil, List.nodup_nil, fun a => by simp [DB.empty]⟩

/-- In a run of operations that succeed and meet the guard every channel has
exactly the abilities of its pairs, each once, and there are no others. -/
theorem abilities_mirror_channels (raw : RawArray) {ops : List ChannelOp} {db : DB}
    (hrun : Sched.Meets (DB.step raw) (succeedsMirrored raw) DB.empty ops)
    (hdb : ops.foldl (DB.step raw) DB.empty = db) :
    (∀ ch ∈ db.channels, ∀ a, a ∈ db.abilities ∧ a.channelId = ch.id ↔
        ∃ group ∈ ch.groups, ∃ model ∈ ch.modelNames, a = ch.ability group model) ∧
      (db.abilities.map Ability.primaryKey).Nodup ∧
      ∀ a ∈ db.abilities, ∃ ch ∈ db.channels, ch.id = a.channelId := by
  have h : Mirrors db := hdb ▸ Sched.Meets.invariant (fun _ _ => Mirrors.step) mirrors_empty hrun
  refine ⟨?_, h.distinct, ?_⟩
  · intro ch hch a
    constructor
    · rintro ⟨ha, hid⟩
      obtain ⟨other, hother, hown⟩ := (h.exact a).mp ha
      obtain rfl := List.inj_on_of_nodup_map h.ids hother hch (hown.channelId.symm.trans hid)
      exact hown
    · intro hown
      exact ⟨(h.exact a).mpr ⟨ch, hch, hown⟩, Channel.Owns.channelId hown⟩
  · intro a ha
    obtain ⟨ch, hch, hown⟩ := (h.exact a).mp ha
    exact ⟨ch, hch, hown.channelId.symm⟩

/-- A channel of one key with weight 5 and the tag `t`. -/
def mirrorDemo (group models : String) : Channel where
  id := 0
  key := "sk-1"
  status := 0
  weight := some 5
  models := models
  group := group
  usedQuota := 0
  modelMapping := none
  priority := none
  otherInfo := ⟨none, none⟩
  tag := some "t"
  paramOverride := none
  headerOverride := none
  channelInfo := ⟨false, 0, fun _ => none, fun _ => none, fun _ => none, 0, .other⟩
  settings := none

def noEdit : TagEdit := ⟨none, none, none, none, none, none, none, none⟩

/-- Two channels, one of them edited, disabled, moved to another tag with its
models, enabled with it, and the other one deleted. -/
def mirrorRun : List ChannelOp :=
  [.insert (mirrorDemo "default,vip" "m,w,m") 1, .insert (mirrorDemo "" "m") 2,
    .update { mirrorDemo "" "" with id := 1, priority := some 7 } true,
    .updateChannelStatus 1 ⟨"", 3, "quota"⟩ 100,
    .editChannelByTag "t" { noEdit with newTag := some "u", models := some "x" },
    .editChannelByTag "u" { noEdit with weight := some 9, priority := some 3 },
    .enableChannelByTag "u", .disableChannelByTag "t", .delete 2]

theorem mirrorRun_mirrors :
    let db := mirrorRun.foldl (DB.step fun _ => none) DB.empty
    ((∀ ch ∈ db.channels, ∀ a, a ∈ db.abilities ∧ a.channelId = ch.id ↔
        ∃ group ∈ ch.groups, ∃ model ∈ ch.modelNames, a = ch.ability group model) ∧
      (db.abilities.map Ability.primaryKey).Nodup ∧
      ∀ a ∈ db.abilities, ∃ ch ∈ db.channels, ch.id = a.channelId) ∧
    db.abilities = [⟨"default", "x", 1, true, 3, 9, some "u"⟩, ⟨"vip", "x", 1, true, 3, 9, some "u"⟩] :=
  ⟨abilities_mirror_channels _ (by decide) rfl, by decide⟩

/-- A weight of zero set by tag leaves 5 in the abilities; an update of a channel
that is not there gives it one; and of the pairs `a|b`, `c` and `a`, `b|c` the
second gets none. -/
theorem abilities_stray :
    (∃ ops, Sched.Meets (DB.step fun _ => none) (succeeds fun _ => none) DB.empty ops ∧
      ∃ ch ∈ (ops.foldl (DB.step fun _ => none) DB.empty).channels, ch.getWeight = 0 ∧
        ∃ a ∈ (ops.foldl (DB.step fun _ => none) DB.empty).abilities,
          a.channelId = ch.id ∧ a.weight = 5) ∧
    (∃ ops, Sched.Meets (DB.step fun _ => none) (succeeds fun _ => none) DB.empty ops ∧
      (ops.foldl (DB.step fun _ => none) DB.empty).channels = [] ∧
      (ops.foldl (DB.step fun _ => none) DB.empty).abilities ≠ []) ∧
    ∃ ops, Sched.Meets (DB.step fun _ => none) (succeeds fun _ => none) DB.empty ops ∧
      ∃ ch ∈ (ops.foldl (DB.step fun _ => none) DB.empty).channels, "a" ∈ ch.groups ∧
        "b|c" ∈ ch.modelNames ∧
        ch.ability "a" "b|c" ∉ (ops.foldl (DB.step fun _ => none) DB.empty).abilities := by
  refine ⟨⟨[.insert (mirrorDemo "" "m") 1, .editChannelByTag "t" { noEdit with weight := some 0 }],
      ?_⟩,
    ⟨[.update { mirrorDemo "default" "m" with id := 1 } true], ?_⟩,
    ⟨[.insert (mirrorDemo "a|b,a" "c,b|c") 1], ?_⟩⟩
  all_goals decide

end YouBox.ChannelDB
