import YouBox.ChannelRace
import YouBox.UpstreamModels

/-!
# The upstream update beside other changes of a channel

`checkAndPersistChannelUpstreamModelUpdates` works on a channel that was loaded
before it asks the upstream for its models. When the answer is there it writes the
whole settings document, perhaps the models, and then the abilities, all from its
copy. Meanwhile an `UpdateChannelStatus` or an `Update` from the administration may
change the row. Every statement is a step.

The store keeps what the administration has set (`wanted`, `wantedModels`), so
that "as the admin set it" can be said. `Unraced` is the guard: a write puts back
no setting, status, group, priority or weight, and drops no model, that has
changed since the copy was made; and abilities are written with the status that
the row has. Under it the row always shows what is wanted, and the abilities have
the status of the row unless a status change is still about to follow up.
-/

namespace YouBox.ChannelDB

/-! ## What the administration sets -/

/-- The settings that no detection writes. -/
structure AdminSettings where
  upstreamModelUpdateCheckEnabled : Bool
  upstreamModelUpdateAutoSyncEnabled : Bool
  upstreamModelUpdateIgnoredModels : List String
  others : String
deriving DecidableEq

def ChannelOtherSettings.admin (settings : ChannelOtherSettings) : AdminSettings where
  upstreamModelUpdateCheckEnabled := settings.upstreamModelUpdateCheckEnabled
  upstreamModelUpdateAutoSyncEnabled := settings.upstreamModelUpdateAutoSyncEnabled
  upstreamModelUpdateIgnoredModels := settings.upstreamModelUpdateIgnoredModels
  others := settings.others

def Channel.getOtherSettings (ch : Channel) : ChannelOtherSettings :=
  ch.settings.getD ⟨false, false, 0, [], [], [], ""⟩

structure AdminView where
  settings : AdminSettings
  group : String
  priority : Option Int64
  weight : Option UInt64
deriving DecidableEq

def Channel.adminView (ch : Channel) : AdminView :=
  ⟨ch.getOtherSettings.admin, ch.group, ch.priority, ch.weight⟩

/-- What a request to update the channel sets. -/
structure AdminEdit where
  settings : Option ChannelOtherSettings
  models : String
  group : String
  priority : Option Int64
  weight : Option UInt64

/-- The object of the request, with the `ChannelInfo` of the row read before. -/
def AdminEdit.object (edit : AdminEdit) (origin : Channel) : Channel where
  id := origin.id
  key := ""
  status := 0
  weight := edit.weight
  models := edit.models
  group := edit.group
  usedQuota := 0
  modelMapping := none
  priority := edit.priority
  otherInfo := ⟨none, none⟩
  tag := none
  paramOverride := none
  headerOverride := none
  channelInfo := origin.channelInfo
  settings := edit.settings

def AdminView.edited (view : AdminView) (edit : AdminEdit) : AdminView where
  settings := (edit.settings.map ChannelOtherSettings.admin).getD view.settings
  group := if edit.group = "" then view.group else edit.group
  priority := edit.priority.or view.priority
  weight := edit.weight.or view.weight

/-! ## One detection -/

/-- What a detection makes of its copy: the channel, the settings to write, and
whether the models are written with them. -/
structure Checked where
  channel : Channel
  settings : ChannelOtherSettings
  modelsChanged : Bool

/-- `fetched` is what the upstream lists, or nothing if it could not be asked. -/
def UpstreamLib.check (lib : UpstreamLib) (ch : Channel) (now : Int) (allowAutoApply : Bool)
    (fetched : Option (List String)) : Checked :=
  let settings := { ch.getOtherSettings with upstreamModelUpdateLastCheckTime := now }
  match fetched with
  | none => ⟨ch, settings, false⟩
  | some upstream =>
    let pending := lib.collectPendingUpstreamModelChangesFromModels ch.getModels upstream
      settings.upstreamModelUpdateIgnoredModels (lib.normalizeChannelModelMapping ch)
    if allowAutoApply && settings.upstreamModelUpdateAutoSyncEnabled && pending.1 ≠ [] then
      let originModels := normalizeModelNames ch.getModels
      let mergedModels := mergeModelNames originModels pending.1
      let changed := decide (originModels.length < mergedModels.length)
      ⟨if changed then { ch with models := ",".intercalate mergedModels } else ch,
        { settings with
          upstreamModelUpdateLastDetectedModels := []
          upstreamModelUpdateLastRemovedModels := pending.2 },
        changed⟩
    else
      ⟨ch,
        { settings with
          upstreamModelUpdateLastDetectedModels := pending.1
          upstreamModelUpdateLastRemovedModels := pending.2 },
        false⟩

/-- The interval since the last check has passed. -/
def dueForCheck (minInterval : Int) (settings : ChannelOtherSettings) (now : Int) : Bool :=
  !(0 < settings.upstreamModelUpdateLastCheckTime &&
    now - settings.upstreamModelUpdateLastCheckTime < minInterval)

/-! ## The machine -/

/-- The row with its abilities, and what the administration has set. -/
structure SyncStore where
  base : ChannelStore
  wanted : AdminView
  wantedModels : List String

def SyncStore.setBase (s : SyncStore) (base : ChannelStore) : SyncStore := { s with base }

/-- Beside what every step is told: what the upstream lists, and whether asking it
takes a key of the channel's rotation. -/
structure SyncTick extends Tick where
  fetched : Option (List String)
  selectsKey : Bool

structure SyncConfig extends RaceConfig where
  lib : UpstreamLib
  minCheckInterval : Int

/-- Where a detection stands; `loaded` is its copy as it was loaded. -/
inductive SyncPc where
  | load
  | check (loaded : Channel)
  | select (loaded : Channel) (now : Int) (pc : SelectPc)
  | fetch (loaded : Channel) (now : Int)
  | write (loaded : Channel) (checked : Checked)
  | abilities (ch : Channel)
  | done

/-- Where an update stands; `ch` is its object. -/
inductive UpdatePc where
  | read
  | write (ch : Channel)
  | reload (ch : Channel)
  | abilities (ch : Channel)
  | done

inductive SyncThread where
  | checkAndPersist (force allowAutoApply : Bool) (pc : SyncPc)
  | updateChannelStatus (call : StatusCall) (pc : StatusPc)
  | update (edit : AdminEdit) (infoZero : Bool) (pc : UpdatePc)

/-- `updateChannelUpstreamModelSettings` -/
def ChannelStore.updateUpstreamModelSettings (s : ChannelStore) (checked : Checked) :
    ChannelStore :=
  s.setRow { s.row with
    settings := some checked.settings
    models := if checked.modelsChanged then checked.channel.models else s.row.models }

namespace SyncConfig

variable (cfg : SyncConfig)

def checkNext (force allowAutoApply : Bool) (tick : SyncTick) (s : ChannelStore) :
    SyncPc → Option (ChannelStore × SyncPc)
  | .load => some (s, if tick.fails then .done else .check s.row)
  | .check loaded =>
    some (s,
      if !force && !dueForCheck cfg.minCheckInterval loaded.getOtherSettings tick.now then .done
      else if tick.selectsKey then .select loaded tick.now (.loaded loaded)
      else .fetch loaded tick.now)
  | .select loaded now (.returned none) =>
    some (s, .write loaded (cfg.lib.check loaded now allowAutoApply none))
  | .select loaded now (.returned (some _)) => some (s, .fetch loaded now)
  | .select loaded now pc =>
    (cfg.selectNext tick.toTick s pc).map fun p => (p.1, .select loaded now p.2)
  | .fetch loaded now =>
    some (s, .write loaded (cfg.lib.check loaded now allowAutoApply tick.fetched))
  | .write _ checked =>
    if tick.fails then some (s, .done)
    else some (s.updateUpstreamModelSettings checked,
      if checked.modelsChanged then .abilities checked.channel else .done)
  | .abilities ch =>
    some (if tick.fails then s else s.setAbilities (ch.updateAbilities s.abilities), .done)
  | .done => none

/-- `Channel.Update` of the object of a request. -/
def updateNext (edit : AdminEdit) (infoZero : Bool) (tick : SyncTick) (s : SyncStore) :
    UpdatePc → Option (SyncStore × UpdatePc)
  | .read => some (s, if tick.fails then .done else .write (edit.object s.base.row))
  | .write ch =>
    let ch := ch.sized cfg.raw (some s.base.row.key)
    if tick.fails then some (s, .done)
    else some
      (⟨s.base.setRow (s.base.row.updated ch infoZero), s.wanted.edited edit,
        if edit.models = "" then s.wantedModels
        else (edit.object s.base.row).modelSet⟩,
      .reload ch)
  | .reload ch => some (s, .abilities (if tick.fails then ch else s.base.row))
  | .abilities ch =>
    some (if tick.fails then s
      else s.setBase (s.base.setAbilities (ch.updateAbilities s.base.abilities)), .done)
  | .done => none

end SyncConfig

def syncMachine (cfg : SyncConfig) : Sched.Machine SyncStore SyncThread SyncTick where
  next tick s t :=
    match t with
    | .checkAndPersist force allow pc =>
      (cfg.checkNext force allow tick s.base pc).map fun p =>
        (s.setBase p.1, .checkAndPersist force allow p.2)
    | .updateChannelStatus call pc =>
      (cfg.statusNext call tick.toTick s.base pc).map fun p =>
        (s.setBase p.1, .updateChannelStatus call p.2)
    | .update edit infoZero pc =>
      (cfg.updateNext edit infoZero tick s pc).map fun p => (p.1, .update edit infoZero p.2)

def SyncThread.Starts : SyncThread → Prop
  | .checkAndPersist _ _ pc => pc = .load
  | .updateChannelStatus _ pc => pc = .start
  | .update _ _ pc => pc = .read

def SyncThread.finished : SyncThread → Bool
  | .checkAndPersist _ _ .done | .updateChannelStatus _ (.returned ..) | .update _ _ .done => true
  | _ => false

/-- Nothing has been changed yet. -/
def Channel.syncStore (row : Channel) (abilities : List Ability) : SyncStore :=
  ⟨row.store abilities, row.adminView, row.modelSet⟩

/-- The step writes nothing back that has changed, and no other status into the
abilities than the row has. -/
def SyncThread.Unraced (tick : SyncTick) (row : Channel) : SyncThread → Prop
  | .checkAndPersist _ _ (.write loaded checked) => tick.fails = false →
      loaded.getOtherSettings.admin = row.getOtherSettings.admin ∧
        (checked.modelsChanged = true → ∀ m ∈ row.modelSet, m ∈ loaded.modelSet)
  | .checkAndPersist _ _ (.abilities ch) | .update _ _ (.abilities ch) =>
    tick.fails = false → ch.enabled = row.enabled
  | .updateChannelStatus _ (.save loaded _ _) => tick.fails = false →
      loaded.adminView = row.adminView ∧ (∀ m ∈ row.modelSet, m ∈ loaded.modelSet) ∧
        loaded.status = row.status
  | .updateChannelStatus call (.abilities _ _) =>
    tick.fails = false ∧ (call.status == channelStatusEnabled) = row.enabled
  | _ => True

def unraced : Sched.Guard SyncStore SyncThread SyncTick :=
  fun c i tick => ∀ t ∈ c.threads[i]?, t.Unraced tick c.store.base.row

instance (tick : SyncTick) (row : Channel) : ∀ t : SyncThread, Decidable (t.Unraced tick row)
  | .checkAndPersist _ _ (.write loaded checked) =>
    inferInstanceAs (Decidable (tick.fails = false →
      loaded.getOtherSettings.admin = row.getOtherSettings.admin ∧
        (checked.modelsChanged = true → ∀ m ∈ row.modelSet, m ∈ loaded.modelSet)))
  | .checkAndPersist _ _ (.abilities ch) | .update _ _ (.abilities ch) =>
    inferInstanceAs (Decidable (tick.fails = false → ch.enabled = row.enabled))
  | .updateChannelStatus _ (.save loaded _ _) =>
    inferInstanceAs (Decidable (tick.fails = false →
      loaded.adminView = row.adminView ∧ (∀ m ∈ row.modelSet, m ∈ loaded.modelSet) ∧
        loaded.status = row.status))
  | .updateChannelStatus call (.abilities _ _) =>
    inferInstanceAs (Decidable (tick.fails = false ∧
      (call.status == channelStatusEnabled) = row.enabled))
  | .checkAndPersist _ _ .load | .checkAndPersist _ _ (.check _)
  | .checkAndPersist _ _ (.select ..) | .checkAndPersist _ _ (.fetch ..)
  | .checkAndPersist _ _ .done | .update _ _ .read | .update _ _ (.write _)
  | .update _ _ (.reload _) | .update _ _ .done | .updateChannelStatus _ .start
  | .updateChannelStatus _ .cache | .updateChannelStatus _ .read
  | .updateChannelStatus _ (.handle _) | .updateChannelStatus _ (.unlock ..)
  | .updateChannelStatus _ (.returned ..) => inferInstanceAs (Decidable True)

instance (c : Sched.Conf SyncStore SyncThread) (i : Nat) (tick : SyncTick) :
    Decidable (unraced c i tick) :=
  inferInstanceAs (Decidable (∀ t ∈ c.threads[i]?, t.Unraced tick c.store.base.row))

/-- The channel's abilities are enabled exactly if the channel is. -/
def ChannelStore.AbilitiesAgree (s : ChannelStore) : Prop :=
  ∀ a ∈ s.abilities, a.channelId = s.row.id → a.enabled = s.row.enabled

instance (s : ChannelStore) : Decidable s.AbilitiesAgree :=
  inferInstanceAs (Decidable (∀ a ∈ s.abilities, a.channelId = s.row.id →
    a.enabled = s.row.enabled))

/-! ## What the writes keep -/

theorem check_keeps (lib : UpstreamLib) (ch : Channel) (now : Int) (allowAutoApply : Bool)
    (fetched : Option (List String)) :
    (lib.check ch now allowAutoApply fetched).channel =
        { ch with models := (lib.check ch now allowAutoApply fetched).channel.models } ∧
      (lib.check ch now allowAutoApply fetched).settings.admin = ch.getOtherSettings.admin ∧
      ((lib.check ch now allowAutoApply fetched).modelsChanged = true →
        ∀ m ∈ ch.modelSet, m ∈ (lib.check ch now allowAutoApply fetched).channel.modelSet) := by
  unfold UpstreamLib.check
  cases fetched with
  | none => exact ⟨rfl, rfl, nofun⟩
  | some upstream =>
    simp only
    split
    · refine ⟨?_, rfl, ?_⟩
      · split <;> rfl
      · intro hchanged m hm
        rw [if_pos hchanged]
        obtain ⟨hne, htrim, hcomma⟩ := mem_modelSet hm
        refine mem_modelSet_of_join rfl ?_ hne htrim hcomma
        exact mem_mergeModelNames.mpr (Or.inl (mem_normalizeModelNames.mpr ⟨m, hm, htrim, hne⟩))
    · exact ⟨rfl, rfl, nofun⟩

variable {a : Ability} {allow force : Bool} {rows : List Ability}

theorem enabled_of_updateAbilities {ch : Channel} (ha : a ∈ ch.updateAbilities rows)
    (hid : a.channelId = ch.id) : a.enabled = ch.enabled := by
  unfold Channel.updateAbilities createAbilities deleteAbilities at ha
  obtain h | h := List.mem_append.mp ha
  · have hne := (List.mem_filter.mp h).2
    simp [hid] at hne
  · obtain ⟨pair, -, rfl⟩ := List.mem_map.mp (List.mem_filter.mp h).1
    rfl

variable {id : Int} {c : Sched.Conf SyncStore SyncThread} {i : Nat} {t t' : SyncThread}
  {s' : SyncStore}

theorem enabled_of_updateAbilityStatus {status : Bool} (ha : a ∈ updateAbilityStatus id status rows)
    (hid : a.channelId = id) : a.enabled = status := by
  obtain ⟨row, -, rfl⟩ := List.mem_map.mp ha
  by_cases hrow : row.channelId = id
  · rw [if_pos hrow]
  · rw [if_neg hrow] at hid
    exact absurd hid hrow

theorem updated_object (raw : RawArray) (edit : AdminEdit) (origin row : Channel) (infoZero : Bool)
    (stored : Option String) :
    (row.updated ((edit.object origin).sized raw stored) infoZero).status = row.status ∧
      (row.updated ((edit.object origin).sized raw stored) infoZero).adminView
        = row.adminView.edited edit ∧
      (row.updated ((edit.object origin).sized raw stored) infoZero).models
        = if edit.models = "" then row.models else edit.models := by
  have hsized : ∃ info, (edit.object origin).sized raw stored =
      { edit.object origin with channelInfo := info } := by
    unfold Channel.sized
    split
    · exact ⟨_, rfl⟩
    · exact ⟨_, rfl⟩
  obtain ⟨info, hinfo⟩ := hsized
  rw [hinfo]
  refine ⟨rfl, ?_, rfl⟩
  unfold Channel.adminView AdminView.edited Channel.getOtherSettings
  simp only [Channel.updated, AdminEdit.object]
  cases edit.settings <;> rfl

theorem adminView_updateUpstreamModelSettings {s : ChannelStore} {checked : Checked}
    (h : checked.settings.admin = s.row.getOtherSettings.admin) :
    (s.updateUpstreamModelSettings checked).row.adminView = s.row.adminView := by
  have hgroup : (s.updateUpstreamModelSettings checked).row.adminView =
      ⟨checked.settings.admin, s.row.group, s.row.priority, s.row.weight⟩ := rfl
  rw [hgroup, h]
  rfl

theorem modelSet_congr {a b : Channel} (h : a.models = b.models) : a.modelSet = b.modelSet := by
  simp only [Channel.modelSet, Channel.getModels, h]

/-! ## The invariant -/

/-- The status in the abilities is still to follow the row's. -/
def SyncThread.Owes : SyncThread → Prop
  | .updateChannelStatus _ (.abilities ..) => True
  | _ => False

/-- What an execution knows of its copy. -/
def SyncThread.Knows (id : Int) : SyncThread → Prop
  | .checkAndPersist _ _ (.check ch) | .checkAndPersist _ _ (.select ch _ _)
  | .checkAndPersist _ _ (.fetch ch _) | .checkAndPersist _ _ (.abilities ch) => ch.id = id
  | .checkAndPersist _ _ (.write loaded checked) => checked.channel.id = id ∧
      checked.settings.admin = loaded.getOtherSettings.admin ∧
      (checked.modelsChanged = true → ∀ m ∈ loaded.modelSet, m ∈ checked.channel.modelSet)
  | .updateChannelStatus _ (.handle ch) => ch.id = id
  | .updateChannelStatus call (.save loaded ch follow) => loaded.id = id ∧
      ∃ raw now, loaded.updateStatus raw now call = some (ch, follow)
  | .update edit _ (.write ch) => ch.id = id ∧ ∃ origin, ch = edit.object origin
  | .update _ _ (.reload ch) | .update _ _ (.abilities ch) => ch.id = id
  | _ => True

structure SyncInv (id : Int) (c : Sched.Conf SyncStore SyncThread) : Prop where
  rowId : c.store.base.row.id = id
  view : c.store.base.row.adminView = c.store.wanted
  models : ∀ m ∈ c.store.wantedModels, m ∈ c.store.base.row.modelSet
  abilities : (∃ t ∈ c.threads, t.Owes) ∨ c.store.base.AbilitiesAgree
  threads : ∀ t ∈ c.threads, t.Knows id

theorem SyncInv.row (h : SyncInv id c) (ht : c.threads[i]? = some t)
    (hid : s'.base.row.id = c.store.base.row.id) (hview : s'.base.row.adminView = s'.wanted)
    (hmodels : ∀ m ∈ s'.wantedModels, m ∈ s'.base.row.modelSet)
    (habilities : s'.base.abilities = c.store.base.abilities)
    (hstatus : s'.base.row.status = c.store.base.row.status ∨ t'.Owes) (howes : t.Owes → t'.Owes)
    (hknows : t'.Knows id) : SyncInv id ⟨s', c.threads.set i t'⟩ where
  rowId := hid.trans h.rowId
  view := hview
  models := hmodels
  threads := Sched.forall_threads_set h.threads hknows
  abilities := by
    have hmem : t' ∈ c.threads.set i t' :=
      List.mem_set (List.getElem?_eq_some_iff.mp ht).1 t'
    obtain hsame | hnow := hstatus
    · obtain hsome | hagree := h.abilities
      · exact Or.inl (Sched.exists_threads_set ht hsome howes)
      · refine Or.inr ?_
        intro a ha haid
        have henabled := hagree a (habilities ▸ ha) (haid.trans hid)
        unfold Channel.enabled at henabled ⊢
        rw [henabled, hsame]
    · exact Or.inl ⟨t', hmem, hnow⟩

theorem SyncInv.agree (h : SyncInv id c) (hrow : s'.base.row = c.store.base.row)
    (hwanted : s'.wanted = c.store.wanted) (hmodels : s'.wantedModels = c.store.wantedModels)
    (hagree : s'.base.AbilitiesAgree) (hknows : t'.Knows id) :
    SyncInv id ⟨s', c.threads.set i t'⟩ where
  rowId := hrow ▸ h.rowId
  view := by
    show s'.base.row.adminView = s'.wanted
    rw [hrow, hwanted]
    exact h.view
  models := by
    show ∀ m ∈ s'.wantedModels, m ∈ s'.base.row.modelSet
    rw [hrow, hmodels]
    exact h.models
  threads := Sched.forall_threads_set h.threads hknows
  abilities := Or.inr hagree

variable {base : ChannelStore} {cfg : SyncConfig} {tick : SyncTick}

theorem SyncInv.quiet (h : SyncInv id c) (ht : c.threads[i]? = some t)
    (hid : base.row.id = c.store.base.row.id)
    (hview : base.row.adminView = c.store.base.row.adminView)
    (hmodels : base.row.models = c.store.base.row.models)
    (habilities : base.abilities = c.store.base.abilities)
    (hstatus : base.row.status = c.store.base.row.status) (howes : t.Owes → t'.Owes)
    (hknows : t'.Knows id) : SyncInv id ⟨c.store.setBase base, c.threads.set i t'⟩ := by
  have hset : base.row.modelSet = c.store.base.row.modelSet := modelSet_congr hmodels
  refine h.row ht hid (hview.trans h.view) ?_ habilities (Or.inl hstatus) howes hknows
  intro m hm
  exact hset ▸ h.models m hm

theorem check_knows {lib : UpstreamLib} {now : Int} {loaded : Channel}
    {fetched : Option (List String)} (hid : loaded.id = id) :
    (SyncThread.checkAndPersist force allow
      (.write loaded (lib.check loaded now allow fetched))).Knows id := by
  obtain ⟨hchannel, hsettings, hmodels⟩ := check_keeps lib loaded now allow fetched
  refine ⟨?_, hsettings, hmodels⟩
  rw [hchannel]
  exact hid

theorem SyncInv.check {id : Int} {c : Sched.Conf SyncStore SyncThread} {i : Nat} {pc pc' : SyncPc}
    (h : SyncInv id c) (hok : (SyncThread.checkAndPersist force allow pc).Unraced tick
      c.store.base.row) (ht : c.threads[i]? = some (.checkAndPersist force allow pc))
    (hn : cfg.checkNext force allow tick c.store.base pc = some (base, pc')) :
    SyncInv id ⟨c.store.setBase base, c.threads.set i (.checkAndPersist force allow pc')⟩ := by
  have hknows := h.threads _ (List.mem_of_getElem? ht)
  cases pc with
  | load =>
    cases hn
    refine h.quiet ht rfl rfl rfl rfl rfl False.elim ?_
    split
    · trivial
    · exact h.rowId
  | check loaded =>
    cases hn
    refine h.quiet ht rfl rfl rfl rfl rfl False.elim ?_
    split
    · trivial
    · split <;> exact hknows
  | select loaded now pc =>
    have hsame : ∀ base pc', SelectStep tick.toTick c.store.base pc base pc' →
        SyncInv id ⟨c.store.setBase base,
          c.threads.set i (.checkAndPersist force allow (.select loaded now pc'))⟩ := by
      intro base pc' hstep
      cases hstep <;> exact h.quiet ht rfl rfl rfl rfl rfl False.elim hknows
    cases pc with
    | returned result =>
      cases result with
      | none =>
        cases hn
        exact h.quiet ht rfl rfl rfl rfl rfl False.elim (check_knows hknows)
      | some key =>
        cases hn
        exact h.quiet ht rfl rfl rfl rfl rfl False.elim hknows
    | load | loaded | locked | save =>
      simp only [SyncConfig.checkNext, Option.map_eq_some_iff, Prod.mk.injEq] at hn
      obtain ⟨⟨base', pc'⟩, hnext, rfl, rfl⟩ := hn
      exact hsame _ _ (selectStep_of_next hnext)
  | fetch loaded now =>
    cases hn
    exact h.quiet ht rfl rfl rfl rfl rfl False.elim (check_knows hknows)
  | write loaded checked =>
    obtain ⟨hid, hsettings, hmodels⟩ := hknows
    simp only [SyncConfig.checkNext] at hn
    split at hn
    · cases hn
      exact h.quiet ht rfl rfl rfl rfl rfl False.elim trivial
    · rename_i hfails
      cases hn
      obtain ⟨hadmin, hfresh⟩ := hok (by simpa using hfails)
      refine h.row ht rfl ?_ ?_ rfl (Or.inl rfl) False.elim ?_
      · exact (adminView_updateUpstreamModelSettings (hsettings.trans hadmin)).trans h.view
      · intro m hm
        have hmem := h.models m hm
        cases hchanged : checked.modelsChanged with
        | false =>
          have hset : (c.store.base.updateUpstreamModelSettings checked).row.modelSet
              = c.store.base.row.modelSet := modelSet_congr (by
            simp [ChannelStore.updateUpstreamModelSettings, ChannelStore.setRow, hchanged])
          exact hset ▸ hmem
        | true =>
          have hset : (c.store.base.updateUpstreamModelSettings checked).row.modelSet
              = checked.channel.modelSet := modelSet_congr (by
            simp [ChannelStore.updateUpstreamModelSettings, ChannelStore.setRow, hchanged])
          exact hset ▸ hmodels hchanged m (hfresh hchanged m hmem)
      · split
        · exact hid
        · trivial
  | abilities ch =>
    cases hn
    split
    · exact h.quiet ht rfl rfl rfl rfl rfl False.elim trivial
    · rename_i hfails
      have henabled := hok (by simpa using hfails)
      refine h.agree rfl rfl rfl ?_ trivial
      intro a ha haid
      exact (enabled_of_updateAbilities ha (haid.trans (h.rowId.trans hknows.symm))).trans henabled
  | done => cases hn

theorem SyncInv.status {cfg : RaceConfig} {call : StatusCall} {pc pc' : StatusPc} (h : SyncInv id c)
    (hok : (SyncThread.updateChannelStatus call pc).Unraced tick c.store.base.row)
    (ht : c.threads[i]? = some (.updateChannelStatus call pc))
    (hstep : cfg.StatusStep call tick.toTick c.store.base pc base pc') :
    SyncInv id ⟨c.store.setBase base, c.threads.set i (.updateChannelStatus call pc')⟩ := by
  have hknows := h.threads _ (List.mem_of_getElem? ht)
  cases hstep with
  | lock hpc =>
    refine h.quiet ht rfl rfl rfl rfl rfl ?_ ?_
    · obtain ⟨rfl, rfl⟩ | ⟨result, ticket, rfl, rfl⟩ := hpc <;> exact False.elim
    · obtain ⟨rfl, rfl⟩ | ⟨result, ticket, rfl, rfl⟩ := hpc <;> trivial
  | begin hpc =>
    refine h.quiet ht rfl rfl rfl rfl rfl ?_ trivial
    obtain rfl | rfl := hpc <;> exact False.elim
  | fail hpc =>
    refine h.quiet ht rfl rfl rfl rfl rfl ?_ trivial
    obtain rfl | rfl | ⟨ch, rfl⟩ := hpc <;> exact False.elim
  | read => exact h.quiet ht rfl rfl rfl rfl rfl False.elim h.rowId
  | handle hupdate => exact h.quiet ht rfl rfl rfl rfl rfl False.elim ⟨hknows, _, _, hupdate⟩
  | save hfails hpc =>
    rename_i loaded ch follow
    obtain ⟨hid, raw, now, hupdate⟩ := hknows
    obtain ⟨hview, hmodels, hstatus⟩ := hok hfails
    have hframe := updateStatus_frame hupdate
    have hview' : ch.adminView = loaded.adminView := by
      rw [hframe]
      rfl
    have hset : ch.modelSet = loaded.modelSet := modelSet_congr (by rw [hframe])
    have hid' : ch.id = loaded.id := by rw [hframe]
    subst hpc
    refine h.row ht (hid'.trans (hid.trans h.rowId.symm)) (hview'.trans (hview.trans h.view)) ?_ rfl
      ?_ False.elim ?_
    · intro m hm
      exact hset ▸ hmodels m (h.models m hm)
    · cases follow with
      | true => exact Or.inr trivial
      | false =>
        have hsame := (updateStatus_enabled hupdate).2 rfl
        exact Or.inl (hsame.trans hstatus)
    · cases follow <;> trivial
  | unsaved hpc =>
    subst hpc
    refine h.quiet ht rfl rfl rfl rfl rfl False.elim ?_
    split <;> trivial
  | abilities hfails =>
    obtain ⟨-, henabled⟩ := hok
    refine h.agree rfl rfl rfl ?_ trivial
    intro a ha haid
    exact (enabled_of_updateAbilityStatus ha haid).trans henabled
  | unfollowed hfails =>
    obtain ⟨hfine, -⟩ := hok
    exact absurd hfails (by simp [hfine])
  | leave => exact h.quiet ht rfl rfl rfl rfl rfl False.elim trivial

theorem SyncInv.update {id : Int} {c : Sched.Conf SyncStore SyncThread} {i : Nat} {edit : AdminEdit}
    {infoZero : Bool} {pc pc' : UpdatePc} {s' : SyncStore} (h : SyncInv id c)
    (hok : (SyncThread.update edit infoZero pc).Unraced tick c.store.base.row)
    (ht : c.threads[i]? = some (.update edit infoZero pc))
    (hn : cfg.updateNext edit infoZero tick c.store pc = some (s', pc')) :
    SyncInv id ⟨s', c.threads.set i (.update edit infoZero pc')⟩ := by
  have hknows := h.threads _ (List.mem_of_getElem? ht)
  cases pc with
  | read =>
    cases hn
    refine h.quiet ht rfl rfl rfl rfl rfl nofun ?_
    split
    · trivial
    · exact ⟨h.rowId, _, rfl⟩
  | write ch =>
    obtain ⟨hid, origin, rfl⟩ := hknows
    simp only [SyncConfig.updateNext] at hn
    split at hn
    · cases hn
      exact h.quiet ht rfl rfl rfl rfl rfl nofun trivial
    · cases hn
      obtain ⟨hstatus, hview, hmodels⟩ := updated_object cfg.raw edit origin c.store.base.row
        infoZero (some c.store.base.row.key)
      refine h.row ht rfl (hview.trans (congrArg (AdminView.edited · edit) h.view)) ?_ rfl
        (Or.inl hstatus) nofun ?_
      · intro m hm
        split at hm
        · rename_i hempty
          rw [if_pos hempty] at hmodels
          exact modelSet_congr hmodels ▸ h.models m hm
        · rename_i hset
          rw [if_neg hset] at hmodels
          have hobject : (c.store.base.row.updated ((edit.object origin).sized cfg.raw
              (some c.store.base.row.key)) infoZero).modelSet
              = (edit.object c.store.base.row).modelSet := modelSet_congr hmodels
          exact hobject ▸ hm
      · exact (sized_id ..).trans hid
  | reload ch =>
    cases hn
    refine h.quiet ht rfl rfl rfl rfl rfl nofun ?_
    split
    · exact hknows
    · exact h.rowId
  | abilities ch =>
    cases hn
    split
    · exact h.quiet ht rfl rfl rfl rfl rfl nofun trivial
    · rename_i hfails
      have henabled := hok (by simpa using hfails)
      refine h.agree rfl rfl rfl ?_ trivial
      intro a ha haid
      exact (enabled_of_updateAbilities ha (haid.trans (h.rowId.trans hknows.symm))).trans henabled
  | done => cases hn

theorem SyncInv.step (h : SyncInv id c) (hok : unraced c i tick) (ht : c.threads[i]? = some t)
    (hn : (syncMachine cfg).next tick c.store t = some (s', t')) :
    SyncInv id ⟨s', c.threads.set i t'⟩ := by
  have hok := hok t ht
  cases t with
  | checkAndPersist force allow pc =>
    simp only [syncMachine, Option.map_eq_some_iff, Prod.mk.injEq] at hn
    obtain ⟨⟨base, pc'⟩, hnext, rfl, rfl⟩ := hn
    exact h.check hok ht hnext
  | updateChannelStatus call pc =>
    simp only [syncMachine, Option.map_eq_some_iff, Prod.mk.injEq] at hn
    obtain ⟨⟨base, pc'⟩, hnext, rfl, rfl⟩ := hn
    exact h.status hok ht (RaceConfig.statusStep_of_next hnext)
  | update edit infoZero pc =>
    simp only [syncMachine, Option.map_eq_some_iff, Prod.mk.injEq] at hn
    obtain ⟨⟨s₁, pc'⟩, hnext, rfl, rfl⟩ := hn
    exact h.update hok ht hnext

theorem SyncInv.start {row : Channel} {abilities : List Ability} {threads : List SyncThread}
    (hagree : (row.store abilities).AbilitiesAgree) (hstart : ∀ t ∈ threads, t.Starts) :
    SyncInv row.id ⟨row.syncStore abilities, threads⟩ where
  rowId := rfl
  view := rfl
  models := fun _ hm => hm
  abilities := Or.inr hagree
  threads := by
    intro t ht
    have hstarts := hstart t ht
    cases t with
    | checkAndPersist force allow pc => cases hstarts; trivial
    | updateChannelStatus call pc => cases hstarts; trivial
    | update edit infoZero pc => cases hstarts; trivial

/-- **The upstream update undoes nothing.** In every run in which nothing changed
is put back, once all have finished the row shows what the administration has set,
has every model it has listed, and the abilities are enabled as the channel is. -/
theorem changes_survive {cfg : SyncConfig} {row : Channel} {abilities : List Ability}
    {threads : List SyncThread} {c : Sched.Conf SyncStore SyncThread}
    (hagree : (row.store abilities).AbilitiesAgree) (hstart : ∀ t ∈ threads, t.Starts)
    (hrun : Sched.Steps (syncMachine cfg) unraced ⟨row.syncStore abilities, threads⟩ c)
    (hdone : ∀ t ∈ c.threads, t.finished = true) :
    c.store.base.row.adminView = c.store.wanted ∧
      (∀ m ∈ c.store.wantedModels, m ∈ c.store.base.row.modelSet) ∧
      c.store.base.AbilitiesAgree := by
  have hinv : SyncInv row.id c :=
    Sched.Steps.invariant (SyncInv.start hagree hstart) (fun hI hok ht h => hI.step hok ht h) hrun
  refine ⟨hinv.view, hinv.models, ?_⟩
  obtain ⟨t, ht, howes⟩ | hagrees := hinv.abilities
  · have hfinished := hdone t ht
    unfold SyncThread.Owes at howes
    split at howes
    · cases hfinished
    · cases howes
  · exact hagrees

/-- A channel of one key and one model that is to take over new models. -/
def syncDemo : Channel :=
  { twoKeys none with
    key := "sk-a"
    channelInfo := ⟨false, 0, fun _ => none, fun _ => none, fun _ => none, 0, .other⟩
    settings := some ⟨true, true, 0, [], [], [], "x"⟩ }

def syncDemoConfig : SyncConfig :=
  { raceDemo with lib := ⟨fun _ _ => none, fun _ => none⟩, minCheckInterval := 300 }

/-- The upstream lists two models. -/
def syncTick : SyncTick :=
  { quietTick with now := 1000, fetched := some ["m", "w"], selectsKey := false }

def syncDemoStore : SyncStore := syncDemo.syncStore syncDemo.abilities

/-- Other settings, a group and a model beside the old one. -/
def syncDemoEdit : AdminEdit :=
  ⟨some ⟨true, true, 0, [], [], [], "y"⟩, "m,n", "vip", none, none⟩

def syncDemoThreads : List SyncThread :=
  [.checkAndPersist false true .load, .update syncDemoEdit false .read,
    .updateChannelStatus ⟨"", 3, "quota"⟩ .start]

theorem syncDemo_survives :
    ∃ c, Sched.Steps (syncMachine syncDemoConfig) unraced ⟨syncDemoStore, syncDemoThreads⟩ c ∧
      (c.store.base.row.adminView = c.store.wanted ∧
        (∀ m ∈ c.store.wantedModels, m ∈ c.store.base.row.modelSet) ∧
        c.store.base.AbilitiesAgree) ∧
      c.store.base.row.group = "vip" ∧ c.store.base.row.models = "m,n,w" ∧
      c.store.base.row.status = 3 := by
  have hrun : ∃ c, Sched.Steps (syncMachine syncDemoConfig) unraced
        ⟨syncDemoStore, syncDemoThreads⟩ c ∧
      (∀ t ∈ c.threads, t.finished = true) ∧
      c.store.base.row.group = "vip" ∧ c.store.base.row.models = "m,n,w" ∧
      c.store.base.row.status = 3 := Sched.exists_of_run
    ([1, 1, 1, 1, 0, 0, 0, 0, 0, 2, 2, 2, 2, 2, 2].map (·, syncTick)) (by decide)
  obtain ⟨c, hrun, hdone, hend⟩ := hrun
  refine ⟨c, hrun, changes_survive (by decide) ?_ hrun hdone, hend⟩
  intro t ht
  fin_cases ht <;> rfl

/-- The same update while the upstream is asked: its settings and its model are
gone. The same status change then: the channel is disabled, its abilities are
not. -/
theorem changes_undone :
    (∃ c, Sched.Steps (syncMachine syncDemoConfig) Sched.free ⟨syncDemoStore, syncDemoThreads⟩ c ∧
      c.store.wanted.settings.others = "y" ∧
      c.store.base.row.getOtherSettings.others = "x" ∧
      "n" ∈ c.store.wantedModels ∧ "n" ∉ c.store.base.row.modelSet ∧
      ∀ t ∈ c.threads, t.finished = true) ∧
    ∃ c, Sched.Steps (syncMachine syncDemoConfig) Sched.free ⟨syncDemoStore, syncDemoThreads⟩ c ∧
      c.store.base.row.status = 3 ∧ (∃ a ∈ c.store.base.abilities, a.enabled = true) ∧
      ∀ t ∈ c.threads, t.finished = true := by
  constructor
  · exact Sched.exists_of_run
      ([0, 0, 1, 1, 1, 1, 0, 0, 0, 2, 2, 2, 2, 2, 2].map (·, syncTick)) (by decide)
  · exact Sched.exists_of_run
      ([1, 1, 1, 1, 0, 0, 2, 2, 2, 2, 2, 2, 0, 0, 0].map (·, syncTick)) (by decide)

end YouBox.ChannelDB
