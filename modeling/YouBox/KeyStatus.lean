import YouBox.ChannelRows
import YouBox.Sched

/-!
# The key status in the cache and in the row

With the memory cache on `UpdateChannelStatus` applies `handlerMultiKeyUpdate`
twice, to the cached channel and to the row it then reads. Between the two it
compares the status of the row with the one asked for, and goes home if they are
the same: the cached copy has changed by then, and the row has not.

`staysInStep` says when that makes no difference. It is exact: the calls that
meet it are those after which the two are still the same, as long as they were.
-/

namespace YouBox.ChannelDB

/-- A channel in the cache, and its row. -/
structure Copies where
  cached : Channel
  row : Channel

/-- A call at the time it was made; `now` is read for the cached copy, `later`
for the row. -/
structure TimedCall where
  call : StatusCall
  now : Int
  later : Int

/-- The part of a call that the memory cache sees; nothing when it returns there. -/
def Channel.updateCached (raw : RawArray) (now : Int) (ch : Channel) (call : StatusCall) :
    Option Channel :=
  if ch.channelInfo.isMultiKey then some (ch.handlerMultiKeyUpdate raw now call)
  else if ch.status = call.status then none
  else some { ch with status := call.status }

/-- `UpdateChannelStatus` of a channel that is in the cache. -/
def Copies.updateChannelStatus (raw : RawArray) (s : Copies) (t : TimedCall) : Copies :=
  match s.cached.updateCached raw t.now t.call with
  | none => s
  | some cached =>
    match s.row.updateStatus raw t.later t.call with
    | none => ⟨cached, s.row⟩
    | some (row, _) => ⟨cached, row⟩

/-- The two are of one multi-key channel. -/
def Copies.MultiKey (s : Copies) : Prop :=
  s.cached.key = s.row.key ∧ s.cached.channelInfo.isMultiKey = true ∧
    s.row.channelInfo.isMultiKey = true

/-- The status of the channel and of every key is the same in both. -/
def Copies.InStep (s : Copies) : Prop :=
  s.cached.channelInfo.multiKeyStatusList = s.row.channelInfo.multiKeyStatusList ∧
    s.cached.status = s.row.status

/-- A call for the status the channel has already leaves it as it is. -/
def Channel.unmoved (raw : RawArray) (ch : Channel) (call : StatusCall) : Prop :=
  ∀ i ∈ (ch.getKeys raw).idxOf? call.usingKey,
    if call.status = channelStatusEnabled then ch.channelInfo.multiKeyStatusList i = none
    else ch.channelInfo.multiKeyStatusList i = some call.status ∧
      (call.status = channelStatusAutoDisabled ∨
        hasEnabledMultiKey (ch.getKeys raw) ch.channelInfo.multiKeyStatusList = true)

def staysInStep (raw : RawArray) (s : Copies) (t : TimedCall) : Prop :=
  s.row.status ≠ t.call.status ∨ s.row.unmoved raw t.call

instance (raw : RawArray) (ch : Channel) (call : StatusCall) : Decidable (ch.unmoved raw call) :=
  inferInstanceAs (Decidable (∀ i ∈ (ch.getKeys raw).idxOf? call.usingKey,
    if call.status = channelStatusEnabled then ch.channelInfo.multiKeyStatusList i = none
    else ch.channelInfo.multiKeyStatusList i = some call.status ∧
      (call.status = channelStatusAutoDisabled ∨
        hasEnabledMultiKey (ch.getKeys raw) ch.channelInfo.multiKeyStatusList = true)))

instance (raw : RawArray) (s : Copies) (t : TimedCall) : Decidable (staysInStep raw s t) :=
  inferInstanceAs (Decidable (_ ∨ _))

/-! ## What the handler goes by -/

variable {raw : RawArray} {ch : Channel} {call : StatusCall} {s : Copies}

theorem getKeys_congr {a b : Channel} (h : a.key = b.key) :
    a.getKeys raw = b.getKeys raw := by
  simp only [Channel.getKeys, h]

theorem setKeyStatus_statusList (info : ChannelInfo) (i : Nat) (call : StatusCall) (now : Int) :
    (info.setKeyStatus i call now).multiKeyStatusList =
      Function.update info.multiKeyStatusList i
        (if call.status = channelStatusEnabled then none else some call.status) := by
  unfold ChannelInfo.setKeyStatus
  split <;> rfl

theorem handlerMultiKeyUpdate_missing (now : Int)
    (h : (ch.getKeys raw).idxOf? call.usingKey = none) :
    (ch.handlerMultiKeyUpdate raw now call).channelInfo = ch.channelInfo ∧
      (ch.handlerMultiKeyUpdate raw now call).status =
        if ch.getKeys raw = [] ∨ call.usingKey = "" then call.status else ch.status := by
  unfold Channel.handlerMultiKeyUpdate
  simp only [h]
  split
  · rename_i hkeys
    simp [hkeys]
  · rename_i hkeys
    split
    · rename_i hkey
      simp [hkeys, hkey]
    · rename_i hkey
      simp [hkeys, hkey, Channel.setStatus]

theorem handlerMultiKeyUpdate_found {i : Nat} (now : Int)
    (h : (ch.getKeys raw).idxOf? call.usingKey = some i) :
    (ch.handlerMultiKeyUpdate raw now call).channelInfo = ch.channelInfo.setKeyStatus i call now ∧
      (ch.handlerMultiKeyUpdate raw now call).status =
        if hasEnabledMultiKey (ch.getKeys raw)
            (ch.channelInfo.setKeyStatus i call now).multiKeyStatusList = false then
          channelStatusAutoDisabled
        else if call.status = channelStatusEnabled then channelStatusEnabled
        else ch.status := by
  have hkeys : ch.getKeys raw ≠ [] := by
    intro hnil
    rw [hnil] at h
    cases h
  unfold Channel.handlerMultiKeyUpdate
  simp only [h, if_neg hkeys, Bool.not_eq_true']
  split
  · exact ⟨rfl, rfl⟩
  · split <;> exact ⟨rfl, rfl⟩

theorem handlerMultiKeyUpdate_congr (now later : Int) {a b : Channel} (call : StatusCall)
    (hkey : a.key = b.key)
    (hlist : a.channelInfo.multiKeyStatusList = b.channelInfo.multiKeyStatusList)
    (hstatus : a.status = b.status) :
    (a.handlerMultiKeyUpdate raw now call).channelInfo.multiKeyStatusList
        = (b.handlerMultiKeyUpdate raw later call).channelInfo.multiKeyStatusList ∧
      (a.handlerMultiKeyUpdate raw now call).status
        = (b.handlerMultiKeyUpdate raw later call).status := by
  have hkeys : a.getKeys raw = b.getKeys raw := getKeys_congr hkey
  cases hfind : (b.getKeys raw).idxOf? call.usingKey with
  | none =>
    obtain ⟨hainfo, hastatus⟩ := handlerMultiKeyUpdate_missing now (hkeys ▸ hfind)
    obtain ⟨hbinfo, hbstatus⟩ := handlerMultiKeyUpdate_missing later hfind
    rw [hainfo, hbinfo, hastatus, hbstatus, hkeys, hstatus]
    exact ⟨hlist, rfl⟩
  | some i =>
    obtain ⟨hainfo, hastatus⟩ := handlerMultiKeyUpdate_found now (hkeys ▸ hfind)
    obtain ⟨hbinfo, hbstatus⟩ := handlerMultiKeyUpdate_found later hfind
    rw [hainfo, hbinfo, hastatus, hbstatus, setKeyStatus_statusList, setKeyStatus_statusList,
      hkeys, hlist, hstatus]
    exact ⟨rfl, rfl⟩

/-- Where the channel has the status asked for, the handler changes nothing
exactly when the key is in the state it is to get. -/
theorem handlerMultiKeyUpdate_same_iff (now : Int) (hstatus : ch.status = call.status) :
    ((ch.handlerMultiKeyUpdate raw now call).channelInfo.multiKeyStatusList
          = ch.channelInfo.multiKeyStatusList ∧
        (ch.handlerMultiKeyUpdate raw now call).status = ch.status) ↔
      ch.unmoved raw call := by
  unfold Channel.unmoved
  cases hfind : (ch.getKeys raw).idxOf? call.usingKey with
  | none =>
    obtain ⟨hinfo, hsame⟩ := handlerMultiKeyUpdate_missing now hfind
    rw [hinfo, hsame, hstatus, ite_self]
    simp
  | some i =>
    obtain ⟨hinfo, hsame⟩ := handlerMultiKeyUpdate_found now hfind
    rw [hinfo, hsame, setKeyStatus_statusList, Function.update_eq_self_iff]
    simp only [Option.mem_def, Option.some.injEq, forall_eq']
    by_cases hcall : call.status = channelStatusEnabled
    · simp only [if_pos hcall]
      rw [hasEnabledMultiKey_update_none (idxOf?_lt hfind)]
      simp only [Bool.true_eq_false, if_false, hstatus, hcall, and_true]
      exact eq_comm
    · simp only [if_neg hcall]
      refine ⟨?_, ?_⟩
      · rintro ⟨hentry, hnew⟩
        refine ⟨hentry.symm, ?_⟩
        rw [hentry, Function.update_eq_self] at hnew
        cases hsome : hasEnabledMultiKey (ch.getKeys raw) ch.channelInfo.multiKeyStatusList with
        | true => exact Or.inr rfl
        | false =>
          rw [hsome, if_pos rfl] at hnew
          exact Or.inl (hstatus.symm.trans hnew.symm)
      · rintro ⟨hentry, hside⟩
        refine ⟨hentry.symm, ?_⟩
        rw [← hentry, Function.update_eq_self]
        cases hsome : hasEnabledMultiKey (ch.getKeys raw) ch.channelInfo.multiKeyStatusList with
        | true => rfl
        | false =>
          obtain hauto | hthere := hside
          · rw [if_pos rfl, hstatus, hauto]
          · rw [hsome] at hthere
            cases hthere

/-! ## Calls one after the other -/

@[simp] theorem handlerMultiKeyUpdate_key (raw : RawArray) (now : Int) (ch : Channel)
    (call : StatusCall) : (ch.handlerMultiKeyUpdate raw now call).key = ch.key := by
  rw [handlerMultiKeyUpdate_frame]

@[simp] theorem handlerMultiKeyUpdate_isMultiKey (raw : RawArray) (now : Int) (ch : Channel)
    (call : StatusCall) : (ch.handlerMultiKeyUpdate raw now call).channelInfo.isMultiKey
      = ch.channelInfo.isMultiKey := by
  cases hfind : (ch.getKeys raw).idxOf? call.usingKey with
  | none => rw [(handlerMultiKeyUpdate_missing now hfind).1]
  | some i =>
    rw [(handlerMultiKeyUpdate_found now hfind).1]
    unfold ChannelInfo.setKeyStatus
    split <;> rfl

theorem updateChannelStatus_multiKey (hs : s.MultiKey) (t : TimedCall) :
    s.updateChannelStatus raw t =
      ⟨s.cached.handlerMultiKeyUpdate raw t.now t.call,
        if s.row.status = t.call.status then s.row
        else s.row.handlerMultiKeyUpdate raw t.later t.call⟩ := by
  obtain ⟨-, hcached, hrow⟩ := hs
  unfold Copies.updateChannelStatus Channel.updateCached Channel.updateStatus
  simp only [hcached, hrow, if_true]
  split <;> rename_i hsame
  · split at hsame
    · rename_i hstatus
      rw [if_pos hstatus]
    · cases hsame
  · split at hsame
    · cases hsame
    · rename_i hstatus
      cases hsame
      rw [if_neg hstatus]

theorem Copies.MultiKey.step (hs : s.MultiKey) (t : TimedCall) :
    (s.updateChannelStatus raw t).MultiKey := by
  rw [updateChannelStatus_multiKey hs]
  obtain ⟨hkey, hcached, hrow⟩ := hs
  unfold Copies.MultiKey
  simp only [handlerMultiKeyUpdate_key, handlerMultiKeyUpdate_isMultiKey]
  split
  · exact ⟨hkey, hcached, hrow⟩
  · simp only [handlerMultiKeyUpdate_key, handlerMultiKeyUpdate_isMultiKey]
    exact ⟨hkey, hcached, hrow⟩

theorem Copies.MultiKey.calls {raw : RawArray} {s : Copies} (hs : s.MultiKey)
    (calls : List TimedCall) : (calls.foldl (Copies.updateChannelStatus raw) s).MultiKey := by
  induction calls generalizing s with
  | nil => exact hs
  | cons t rest ih => exact ih (hs.step t)

theorem Copies.InStep.step_iff (hs : s.MultiKey) (h : s.InStep) (t : TimedCall) :
    (s.updateChannelStatus raw t).InStep ↔ staysInStep raw s t := by
  rw [updateChannelStatus_multiKey hs]
  unfold Copies.InStep staysInStep
  obtain ⟨hlist, hstatus⟩ := handlerMultiKeyUpdate_congr t.now t.later t.call hs.1 h.1 h.2
  by_cases hcall : s.row.status = t.call.status
  · -- the row is left, so the cached copy has to stay where it is
    rw [if_pos hcall, ← handlerMultiKeyUpdate_same_iff t.later hcall, hlist, hstatus]
    exact (or_iff_right (not_not_intro hcall)).symm
  · rw [if_neg hcall]
    exact iff_of_true ⟨hlist, hstatus⟩ (Or.inl hcall)

/-- The cached copy and the row have the same status and the same status of every
key after each of the calls exactly when every call meets the condition. -/
theorem keyStatus_inStep_iff {raw : RawArray} {s : Copies} (hs : s.MultiKey) (h : s.InStep)
    (calls : List TimedCall) :
    (∀ done, done <+: calls → (done.foldl (Copies.updateChannelStatus raw) s).InStep) ↔
      Sched.Meets (Copies.updateChannelStatus raw) (staysInStep raw) s calls := by
  have hstep : ∀ s t, s.MultiKey ∧ s.InStep →
      ((s.updateChannelStatus raw t).MultiKey ∧ (s.updateChannelStatus raw t).InStep ↔
        staysInStep raw s t) := by
    intro s t h
    rw [← Copies.InStep.step_iff h.1 h.2]
    exact and_iff_right (h.1.step t)
  rw [Sched.Meets.iff_always hstep ⟨hs, h⟩]
  exact forall₂_congr fun done _ => (and_iff_right (hs.calls done)).symm

/-- A channel of two keys in polling mode; `disabled` is the status of key 1. -/
def twoKeys (disabled : Option Int) : Channel where
  id := 1
  key := "sk-a\nsk-b"
  status := channelStatusEnabled
  weight := some 0
  models := "m"
  group := "default"
  usedQuota := 0
  modelMapping := none
  priority := some 0
  otherInfo := ⟨none, none⟩
  tag := none
  paramOverride := none
  headerOverride := none
  channelInfo := ⟨true, 2, fun i => if i = 1 then disabled else none, fun _ => none,
    fun _ => none, 0, .polling⟩
  settings := none

/-- The second key of a channel is disabled too, and the channel with it; then both
are enabled. -/
def demoCalls : List TimedCall :=
  [⟨⟨"sk-a", channelStatusAutoDisabled, "401"⟩, 10, 11⟩,
    ⟨⟨"sk-b", channelStatusEnabled, ""⟩, 20, 20⟩]

theorem demoCalls_inStep :
    (⟨twoKeys (some 3), twoKeys (some 3)⟩ : Copies).MultiKey ∧
      ∀ done, done <+: demoCalls →
        (done.foldl (Copies.updateChannelStatus fun _ => none)
          ⟨twoKeys (some 3), twoKeys (some 3)⟩).InStep :=
  ⟨⟨rfl, rfl, rfl⟩,
    (keyStatus_inStep_iff ⟨rfl, rfl, rfl⟩ ⟨rfl, rfl⟩ demoCalls).mpr (by decide)⟩

/-- The second key is enabled while the channel is: it is enabled in the cache and
still disabled in the row. -/
theorem enabled_in_cache_only :
    ∃ (s : Copies) (t : TimedCall), s.MultiKey ∧ s.InStep ∧
      t.call.usingKey ∈ s.row.getKeys (fun _ => none) ∧
      (s.updateChannelStatus (fun _ => none) t).cached.channelInfo.multiKeyStatusList 1 = none ∧
      (s.updateChannelStatus (fun _ => none) t).row.channelInfo.multiKeyStatusList 1 = some 2 :=
  ⟨⟨twoKeys (some 2), twoKeys (some 2)⟩, ⟨⟨"sk-b", channelStatusEnabled, ""⟩, 10, 10⟩,
    ⟨rfl, rfl, rfl⟩, ⟨rfl, rfl⟩, by decide, by decide, by decide⟩

end YouBox.ChannelDB
