import YouBox.AbilitySelect
import YouBox.SubConsume
import YouBox.TopSplit

/-!
# Rows of channels and abilities

A channel is a row of `channels` with, for each pair of an entry of its `group`
and an entry of its `models` column, a row of `abilities` that repeats whether it
is enabled, its priority, its weight and its tag. The functions that write these
rows follow, each as far as it goes in one statement or one transaction; who runs
them when is left to the modules that follow.

The columns are those these functions read or write. A map of `ChannelInfo` is
the function that looks a key index up, so that a nil map and an empty one are
the same, and the settings are as `GetOtherSettings` reads them.
-/

namespace YouBox.ChannelDB

def channelStatusManuallyDisabled : Int := 2

def channelStatusAutoDisabled : Int := 3

inductive MultiKeyMode where
  | random
  | polling
  | other

structure ChannelInfo where
  isMultiKey : Bool
  multiKeySize : Int
  multiKeyStatusList : Nat → Option Int
  multiKeyDisabledReason : Nat → Option String
  multiKeyDisabledTime : Nat → Option Int
  multiKeyPollingIndex : Int
  multiKeyMode : MultiKeyMode

/-- The entries of the `other_info` document that are written here. -/
structure OtherInfo where
  statusReason : Option String
  statusTime : Option Int
deriving DecidableEq

/-- `ChannelOtherSettings`; `others` stands for the settings that nothing here
looks at. -/
structure ChannelOtherSettings where
  upstreamModelUpdateCheckEnabled : Bool
  upstreamModelUpdateAutoSyncEnabled : Bool
  upstreamModelUpdateLastCheckTime : Int
  upstreamModelUpdateLastDetectedModels : List String
  upstreamModelUpdateLastRemovedModels : List String
  upstreamModelUpdateIgnoredModels : List String
  others : String

/-- A row of `channels`. Without settings the column is the empty text. -/
structure Channel where
  id : Int
  key : String
  status : Int
  weight : Option UInt64
  models : String
  group : String
  usedQuota : Int
  modelMapping : Option String
  priority : Option Int64
  otherInfo : OtherInfo
  tag : Option String
  paramOverride : Option String
  headerOverride : Option String
  channelInfo : ChannelInfo
  settings : Option ChannelOtherSettings

structure Ability where
  group : String
  model : String
  channelId : Int
  enabled : Bool
  priority : Int64
  weight : UInt64
  tag : Option String
deriving DecidableEq

def Ability.primaryKey (a : Ability) : String × String × Int :=
  (a.group, a.model, a.channelId)

/-- What `json.Unmarshal` makes of a text as an array of raw values. -/
abbrev RawArray := String → Option (List String)

/-- `strings.Trim(s, c)` for one character. -/
def trimChar (c : Char) (s : String) : String :=
  String.ofList (TopSplit.trimBy (· == c) s.toList)

def splitLines (s : String) : List String :=
  (s.toList.splitOn '\n').map String.ofList

/-- The keys as a JSON array, where the text is one. -/
def parseKeyArray (raw : RawArray) (key : String) : Option (List String) :=
  if "[".toList <+: (trimSpace key).toList then raw (trimSpace key) else none

namespace Channel

def getPriority (ch : Channel) : Int64 := ch.priority.getD 0

def getWeight (ch : Channel) : UInt64 := ch.weight.getD 0

def enabled (ch : Channel) : Bool := ch.status == channelStatusEnabled

/-- The groups as the abilities have them. -/
def groups (ch : Channel) : List String := splitComma ch.group

/-- The models as the abilities have them. -/
def modelNames (ch : Channel) : List String := splitComma ch.models

def getModels (ch : Channel) : List String :=
  if ch.models = "" then [] else splitComma (trimChar ',' ch.models)

def getKeys (raw : RawArray) (ch : Channel) : List String :=
  if ch.key = "" then []
  else (parseKeyArray raw ch.key).getD (splitLines (trimChar '\n' ch.key))

end Channel

/-! ## The status of a key -/

structure StatusCall where
  usingKey : String
  status : Int
  reason : String
deriving DecidableEq

def hasEnabledMultiKey (keys : List String) (statusList : Nat → Option Int) : Bool :=
  (List.range keys.length).any fun i =>
    match statusList i with
    | none => true
    | some status => status == channelStatusEnabled

/-- The entries of key `i` once it has been given a status. -/
def ChannelInfo.setKeyStatus (info : ChannelInfo) (i : Nat) (call : StatusCall) (now : Int) :
    ChannelInfo :=
  if call.status = channelStatusEnabled then
    { info with multiKeyStatusList := Function.update info.multiKeyStatusList i none }
  else
    { info with
      multiKeyStatusList := Function.update info.multiKeyStatusList i (some call.status)
      multiKeyDisabledReason := Function.update info.multiKeyDisabledReason i (some call.reason)
      multiKeyDisabledTime := Function.update info.multiKeyDisabledTime i (some now) }

def Channel.setStatus (ch : Channel) (status : Int) (reason : String) (now : Int) : Channel :=
  { ch with status := status, otherInfo := ⟨some reason, some now⟩ }

def Channel.handlerMultiKeyUpdate (raw : RawArray) (now : Int) (ch : Channel) (call : StatusCall) :
    Channel :=
  let keys := ch.getKeys raw
  if keys = [] then { ch with status := call.status }
  else
    match keys.idxOf? call.usingKey with
    | none => if call.usingKey ≠ "" then ch else ch.setStatus call.status call.reason now
    | some i =>
      let ch := { ch with channelInfo := ch.channelInfo.setKeyStatus i call now }
      if !hasEnabledMultiKey keys ch.channelInfo.multiKeyStatusList then
        ch.setStatus channelStatusAutoDisabled "All keys are disabled" now
      else if call.status = channelStatusEnabled then { ch with status := channelStatusEnabled }
      else ch

/-- What `UpdateChannelStatus` makes of the row it has read: the row to save, and
whether the abilities are to follow; nothing when the status is already there. -/
def Channel.updateStatus (raw : RawArray) (now : Int) (ch : Channel) (call : StatusCall) :
    Option (Channel × Bool) :=
  if ch.status = call.status then none
  else if ch.channelInfo.isMultiKey then
    let ch' := ch.handlerMultiKeyUpdate raw now call
    some (ch', ch.status != ch'.status)
  else some (ch.setStatus call.status call.reason now, true)

/-! ## A whole row -/

/-- The columns that `Create` fills in. -/
def Channel.created (ch : Channel) (newId : Int) : Channel :=
  { ch with
    id := if ch.id = 0 then newId else ch.id
    status := if ch.status = 0 then channelStatusEnabled else ch.status
    weight := some ch.getWeight
    group := if ch.group = "" then "default" else ch.group
    priority := some ch.getPriority }

/-- How many keys `Update` counts. -/
def multiKeyCount (raw : RawArray) (key : String) : Nat :=
  if key = "" then 0
  else
    match parseKeyArray raw key with
    | some (k :: rest) => (k :: rest).length
    | _ => (splitLines (trimChar '\n' key)).length

/-- The object that `Update` writes; `stored` is the row's key, if there is a row. -/
def Channel.sized (raw : RawArray) (ch : Channel) (stored : Option String) : Channel :=
  if ch.channelInfo.isMultiKey then
    let size := multiKeyCount raw (if ch.key ≠ "" then ch.key else stored.getD "")
    { ch with channelInfo := { ch.channelInfo with
        multiKeySize := size
        multiKeyStatusList := fun i =>
          if size ≤ i then none else ch.channelInfo.multiKeyStatusList i } }
  else ch

@[simp] theorem sized_id (raw : RawArray) (ch : Channel) (stored : Option String) :
    (ch.sized raw stored).id = ch.id := by
  unfold Channel.sized
  split <;> rfl

/-- gorm's `Updates(struct)` on the row: what is zero or nil is not written.
Whether the `ChannelInfo` is zero does not show in its lookups. -/
def Channel.updated (row new : Channel) (infoZero : Bool) : Channel where
  id := row.id
  key := if new.key = "" then row.key else new.key
  status := if new.status = 0 then row.status else new.status
  weight := new.weight.or row.weight
  models := if new.models = "" then row.models else new.models
  group := if new.group = "" then row.group else new.group
  usedQuota := if new.usedQuota = 0 then row.usedQuota else new.usedQuota
  modelMapping := new.modelMapping.or row.modelMapping
  priority := new.priority.or row.priority
  otherInfo := if new.otherInfo = ⟨none, none⟩ then row.otherInfo else new.otherInfo
  tag := new.tag.or row.tag
  paramOverride := new.paramOverride.or row.paramOverride
  headerOverride := new.headerOverride.or row.headerOverride
  channelInfo := if infoZero then row.channelInfo else new.channelInfo
  settings := new.settings.or row.settings

/-! ## Abilities -/

/-- Every pair of a group and a model, in the order of the loops. -/
def Channel.pairs (ch : Channel) : List (String × String) :=
  ch.modelNames.flatMap fun model => ch.groups.map fun group => (group, model)

def Channel.ability (ch : Channel) (group model : String) : Ability where
  group := group
  model := model
  channelId := ch.id
  enabled := ch.enabled
  priority := ch.getPriority
  weight := ch.getWeight
  tag := ch.tag

/-- The rows that `AddAbilities` and `UpdateAbilities` create: those of the pairs
whose key has not occurred before. -/
def Channel.abilities (ch : Channel) : List Ability :=
  (freshPairs [] ch.pairs).map fun pair => ch.ability pair.1 pair.2

/-- `OnConflict{DoNothing: true}` -/
def createAbilities (new rows : List Ability) : List Ability :=
  rows ++ new.filter fun a => !rows.any fun row => row.primaryKey == a.primaryKey

def Channel.addAbilities (ch : Channel) (rows : List Ability) : List Ability :=
  createAbilities ch.abilities rows

def deleteAbilities (id : Int) (rows : List Ability) : List Ability :=
  rows.filter fun row => row.channelId != id

/-- The transaction of `UpdateAbilities`. -/
def Channel.updateAbilities (ch : Channel) (rows : List Ability) : List Ability :=
  createAbilities ch.abilities (deleteAbilities ch.id rows)

def updateAbilityStatus (channelId : Int) (status : Bool) (rows : List Ability) : List Ability :=
  rows.map fun row => if row.channelId = channelId then { row with enabled := status } else row

def updateAbilityStatusByTag (tag : String) (status : Bool) (rows : List Ability) : List Ability :=
  rows.map fun row => if row.tag = some tag then { row with enabled := status } else row

/-- gorm's `Updates(struct)`: a pointer that is nil and a weight that is zero are
not written. -/
def Ability.updates (row : Ability) (newTag : Option String) (priority : Option Int64)
    (weight : UInt64) : Ability :=
  { row with
    tag := newTag.or row.tag
    priority := priority.getD row.priority
    weight := if weight = 0 then row.weight else weight }

def updateAbilityByTag (tag : String) (newTag : Option String) (priority : Option Int64)
    (weight : Option UInt64) (rows : List Ability) : List Ability :=
  rows.map fun row =>
    if row.tag = some tag then row.updates newTag priority (weight.getD 0) else row

/-! ## What the handler can do -/

variable {follow : Bool} {ch' : Channel} {keys : List String}

theorem hasEnabledMultiKey_update_none {list : Nat → Option Int} {i : Nat} (hi : i < keys.length) :
    hasEnabledMultiKey keys (Function.update list i none) = true := by
  refine List.any_eq_true.mpr ⟨i, List.mem_range.mpr hi, ?_⟩
  simp

theorem idxOf?_lt {key : String} {i : Nat} (h : keys.idxOf? key = some i) : i < keys.length := by
  rw [List.idxOf?, List.findIdx?_eq_some_iff_getElem] at h
  exact h.1

theorem handlerMultiKeyUpdate_frame (raw : RawArray) (now : Int) (ch : Channel)
    (call : StatusCall) :
    ch.handlerMultiKeyUpdate raw now call =
      { ch with
        status := (ch.handlerMultiKeyUpdate raw now call).status
        otherInfo := (ch.handlerMultiKeyUpdate raw now call).otherInfo
        channelInfo := (ch.handlerMultiKeyUpdate raw now call).channelInfo } := by
  unfold Channel.handlerMultiKeyUpdate
  simp only
  split
  · rfl
  · split
    · split <;> rfl
    · split
      · rfl
      · split <;> rfl

variable {ch : Channel} {now : Int} {raw : RawArray} {call : StatusCall}

theorem handlerMultiKeyUpdate_enabled
    (h : (ch.handlerMultiKeyUpdate raw now call).status ≠ ch.status) :
    (ch.handlerMultiKeyUpdate raw now call).enabled = (call.status == channelStatusEnabled) := by
  unfold Channel.handlerMultiKeyUpdate at h ⊢
  simp only at h ⊢
  split
  · rfl
  · rename_i hkeys
    rw [if_neg hkeys] at h
    split
    · rename_i hfind
      simp only [hfind] at h
      split
      · rename_i hkey
        rw [if_pos hkey] at h
        exact absurd rfl h
      · rfl
    · rename_i i hfind
      simp only [hfind] at h
      split
      · rename_i hnone
        -- with every key disabled the call was not one that enables
        have hcall : call.status ≠ channelStatusEnabled := by
          intro heq
          rw [ChannelInfo.setKeyStatus, if_pos heq] at hnone
          simp [hasEnabledMultiKey_update_none (idxOf?_lt hfind)] at hnone
        rw [beq_eq_false_iff_ne.mpr hcall]
        rfl
      · rename_i hsome
        rw [if_neg hsome] at h
        split
        · rename_i heq
          simp [Channel.enabled, heq]
        · rename_i hne
          rw [if_neg hne] at h
          exact absurd rfl h

theorem updateStatus_frame (h : ch.updateStatus raw now call = some (ch', follow)) :
    ch' = { ch with
      status := ch'.status, otherInfo := ch'.otherInfo, channelInfo := ch'.channelInfo } := by
  unfold Channel.updateStatus at h
  split at h
  · cases h
  · split at h
    · cases h
      exact handlerMultiKeyUpdate_frame raw now ch call
    · cases h
      rfl

/-- The abilities are told to follow whenever the row changes its status, and then
what it is now. -/
theorem updateStatus_enabled (h : ch.updateStatus raw now call = some (ch', follow)) :
    (follow = true → ch'.enabled = (call.status == channelStatusEnabled)) ∧
      (follow = false → ch'.status = ch.status) := by
  unfold Channel.updateStatus at h
  split at h
  · cases h
  · split at h
    · cases h
      constructor
      · intro hfollow
        exact handlerMultiKeyUpdate_enabled (Ne.symm (bne_iff_ne.mp hfollow))
      · intro hsame
        exact (by simpa using hsame : ch.status = _).symm
    · cases h
      exact ⟨fun _ => rfl, nofun⟩

end YouBox.ChannelDB
