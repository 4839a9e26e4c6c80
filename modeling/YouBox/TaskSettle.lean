import YouBox.TaskBilling
import YouBox.TaskPrice

/-!
# Settling a task by its tokens

When a task reports the tokens it used, `RecalculateTaskQuotaByTokens` prices it
again, from the row that was stored at its submission. The row has the group the
task was sent to, and not the group of the user who sent it: where the submission
looks up what the one pays for the other (`HandleGroupRatio`), the settlement looks
up what the group pays for itself.

`settled_by_submitted_ratio_iff` says, by which of the two overrides there are, when
the ratios are the same. They are so under all settings for users of the group in use,
and for no others.
-/

namespace YouBox

/-- A stored task, as far as its settlement reads it. -/
structure StoredTask where
  task : BilledTask
  group : String
  /-- of `Properties` -/
  originModelName : String
  billingContext : Option TaskBillingContext

/-- The row that is inserted for a task once it is submitted: `InitTask` and the
billing context. -/
def storeTask (s : TaskPriceSettings) (info : TaskRelayInfo) (task : BilledTask) : StoredTask where
  task := task
  group := info.usingGroup
  originModelName := info.originModelName
  billingContext := some
    { modelPrice := info.priceData.modelPrice
      groupRatio := info.priceData.groupRatioInfo.groupRatio
      modelRatio := info.priceData.modelRatio
      otherRatios := info.priceData.otherRatios
      originModelName := info.originModelName
      perCallBilling := decide (info.originModelName ∈ s.taskPricePatches)
        || info.priceData.usePrice }

def taskModelName (t : StoredTask) : String :=
  match t.billingContext with
  | some context =>
    if context.originModelName ≠ "" then context.originModelName else t.originModelName
  | none => t.originModelName

/-- The product of the ratios that are kept with the task. -/
def storedMultiplier (t : StoredTask) : ℚ :=
  match t.billingContext with
  | some context => (OtherRatios.addAll [] context.otherRatios).multiplier
  | none => 1

/-- What a task is priced at by its tokens. -/
structure TokenCharge where
  modelRatio : ℚ
  groupRatio : ℚ
  otherMultiplier : ℚ
  actualQuota : Int
  clamp : Option QuotaClamp

/-- The group that a task is settled in: that of its row, else that of its user, whose
row may be missing. -/
def settledGroup (userGroup : Option String) (t : StoredTask) : String :=
  if t.group = "" then userGroup.getD "" else t.group

/-- `RecalculateTaskQuotaByTokens` before it adjusts anything. -/
def chargeByTokens (s : PriceSettings) (userGroup : Option String) (t : StoredTask)
    (totalTokens : Int) : Option TokenCharge :=
  if totalTokens ≤ 0 then none
  else
    let (modelRatio, hasRatioSetting, _) := s.modelRatio (taskModelName t)
    if hasRatioSetting = false ∨ modelRatio ≤ 0 then none
    else
      let group := settledGroup userGroup t
      if group = "" then none
      else
        let groupRatio := s.group.getGroupRatio group
        let finalGroupRatio := (s.group.getGroupGroupRatio group group).getD groupRatio
        let otherMultiplier := storedMultiplier t
        let quota := quotaFromFloatChecked
          (totalTokens * modelRatio * finalGroupRatio * otherMultiplier)
        some ⟨modelRatio, finalGroupRatio, otherMultiplier, quota.1, quota.2⟩

def recalculateTaskQuotaByTokens (env : Env) (a : Answers) (s : PriceSettings)
    (userGroup : Option String) (t : StoredTask) (totalTokens : Int) (db : DB) : StoredTask × DB :=
  match chargeByTokens s userGroup t totalTokens with
  | none => (t, db)
  | some charge =>
    let r := recalculateTaskQuota env a charge.actualQuota t.task db
    ({ t with task := r.1 }, r.2)

/-- The task is priced again. -/
def Recharged (s : PriceSettings) (userGroup : Option String) (t : StoredTask)
    (totalTokens : Int) : Prop :=
  0 < totalTokens ∧ (s.modelRatio (taskModelName t)).2.1 = true ∧
    0 < (s.modelRatio (taskModelName t)).1 ∧ settledGroup userGroup t ≠ ""

/-- The group ratio a task is settled by, if it is, is the one it was submitted at. -/
def SettledAlike (s s' : TaskPriceSettings) (estimateBilling : TaskRelayInfo → OtherRatios)
    (task : BilledTask) (userGroup : Option String) (totalTokens : Int)
    (priced : TaskRelayInfo) : Prop :=
  ∀ charge, chargeByTokens s'.toPriceSettings userGroup
      (storeTask s (chargeTask s estimateBilling priced).1 task) totalTokens = some charge →
    charge.groupRatio = priced.priceData.groupRatioInfo.groupRatio

/-- What a user's group pays for the group in use is what a group pays for itself. Each
is an override or, where there is none, the plain ratio. -/
def SameRatio (g : GroupSettings) (userGroup usingGroup group : String) : Prop :=
  match g.getGroupGroupRatio userGroup usingGroup, g.getGroupGroupRatio group group with
  | some special, some own => special = own
  | some special, none => special = g.getGroupRatio group
  | none, some own => g.getGroupRatio usingGroup = own
  | none, none => g.getGroupRatio usingGroup = g.getGroupRatio group

/-! ## The two ratios -/

theorem ratioInfo_groupRatio (g : GroupSettings) (userGroup usingGroup : String) :
    (g.ratioInfo userGroup usingGroup).groupRatio
      = (g.getGroupGroupRatio userGroup usingGroup).getD (g.getGroupRatio usingGroup) := by
  unfold GroupSettings.ratioInfo
  cases g.getGroupGroupRatio userGroup usingGroup <;> rfl

variable {s s' : TaskPriceSettings} {usingGroup actionModelName : String}
  {info priced : TaskRelayInfo}

theorem modelPriceHelperPerCall_ratio {info : PriceInfo} {priceData : TaskPriceData}
    (h : modelPriceHelperPerCall s info = .ok (priceData, usingGroup)) :
    usingGroup = info.autoGroup.getD info.usingGroup ∧
      priceData.groupRatioInfo = s.group.ratioInfo info.userGroup usingGroup := by
  unfold modelPriceHelperPerCall handleGroupRatio at h
  simp only at h
  split at h
  · split at h
    · cases h
    · cases h
      exact ⟨rfl, rfl⟩
  · split at h
    · cases h
    · split at h
      · cases h
      · cases h
        exact ⟨rfl, rfl⟩

theorem rebuildPrice_ok (h : rebuildPrice s actionModelName info = .ok priced) :
    priced.originModelName
        = (if info.originModelName = "" then actionModelName else info.originModelName) ∧
      priced.usingGroup = info.autoGroup.getD info.usingGroup ∧
      priced.priceData.groupRatioInfo = s.group.ratioInfo info.userGroup priced.usingGroup := by
  unfold rebuildPrice at h
  simp only at h
  split at h
  · cases h
  · rename_i priceData usingGroup hprice
    cases h
    have hratio := modelPriceHelperPerCall_ratio hprice
    exact ⟨rfl, hratio⟩

theorem modelPriceHelperPerCall_free {g : GroupSettings} {info : PriceInfo}
    {r : TaskPriceData × String} (h : modelPriceHelperPerCall s info = .ok r)
    (hfree : (g.ratioInfo info.userGroup (info.autoGroup.getD info.usingGroup)).groupRatio = 0) :
    ∃ r', modelPriceHelperPerCall { s with group := g } info = .ok r' := by
  have hzero : quotaFromFloatStrict 0 = .ok 0 := by decide +kernel
  have hcall : TaskPriceSettings.callPrice { s with group := g } info.originModelName
      = s.callPrice info.originModelName := rfl
  unfold modelPriceHelperPerCall handleGroupRatio at h ⊢
  simp only [hfree, mul_zero, hzero, hcall] at h ⊢
  cases hprice : s.callPrice info.originModelName with
  | some price => exact ⟨_, rfl⟩
  | none =>
    simp only [hprice] at h ⊢
    split at h
    · cases h
    · rename_i hset
      rw [if_neg hset]
      exact ⟨_, rfl⟩

theorem rebuildPrice_free (h : rebuildPrice s actionModelName info = .ok priced)
    {g : GroupSettings}
    (hfree : (g.ratioInfo info.userGroup priced.usingGroup).groupRatio = 0) :
    ∃ priced', rebuildPrice { s with group := g } actionModelName info = .ok priced' := by
  rw [(rebuildPrice_ok h).2.1] at hfree
  unfold rebuildPrice at h ⊢
  simp only at h ⊢
  split at h
  · cases h
  · rename_i hprice
    obtain ⟨r, hr⟩ := modelPriceHelperPerCall_free hprice hfree
    rw [hr]
    exact ⟨_, rfl⟩

theorem sameRatio_iff {g : GroupSettings} {userGroup group : String} :
    (g.getGroupGroupRatio group group).getD (g.getGroupRatio group)
        = (g.ratioInfo userGroup usingGroup).groupRatio ↔
      SameRatio g userGroup usingGroup group := by
  rw [ratioInfo_groupRatio]
  unfold SameRatio
  cases g.getGroupGroupRatio userGroup usingGroup <;>
    cases g.getGroupGroupRatio group group <;> exact eq_comm

theorem chargeByTokens_groupRatio {s : PriceSettings} {userGroup : Option String} {t : StoredTask}
    {totalTokens : Int} :
    (¬ Recharged s userGroup t totalTokens ∧ chargeByTokens s userGroup t totalTokens = none) ∨
      (Recharged s userGroup t totalTokens ∧
        ∃ charge, chargeByTokens s userGroup t totalTokens = some charge ∧
          charge.groupRatio = (s.group.getGroupGroupRatio (settledGroup userGroup t)
            (settledGroup userGroup t)).getD
              (s.group.getGroupRatio (settledGroup userGroup t))) := by
  unfold Recharged chargeByTokens
  by_cases htokens : totalTokens ≤ 0
  · exact Or.inl ⟨fun h => by omega, if_pos htokens⟩
  rw [if_neg htokens]
  simp only
  by_cases hratio : (s.modelRatio (taskModelName t)).2.1 = false ∨
      (s.modelRatio (taskModelName t)).1 ≤ 0
  · refine Or.inl ⟨?_, if_pos hratio⟩
    rintro ⟨-, hset, hpos, -⟩
    rcases hratio with hunset | hzero
    · rw [hunset] at hset
      cases hset
    · exact absurd hzero (not_le.mpr hpos)
  rw [if_neg hratio]
  obtain ⟨hset, hpos⟩ := not_or.mp hratio
  by_cases hgroup : settledGroup userGroup t = ""
  · exact Or.inl ⟨fun h => h.2.2.2 hgroup, if_pos hgroup⟩
  · rw [if_neg hgroup]
    exact Or.inr ⟨⟨by omega, by simpa using hset, not_le.mp hpos, hgroup⟩, _, rfl, rfl⟩

variable (estimateBilling : TaskRelayInfo → OtherRatios) (task : BilledTask)
  (userGroup : Option String) (totalTokens : Int)

theorem settledAlike_iff (hsubmit : rebuildPrice s actionModelName info = .ok priced)
    (hunchanged : s'.group = s.group) :
    let t := storeTask s (chargeTask s estimateBilling priced).1 task
    SettledAlike s s' estimateBilling task userGroup totalTokens priced ↔
      ¬ Recharged s'.toPriceSettings userGroup t totalTokens ∨
        SameRatio s.group info.userGroup priced.usingGroup (settledGroup userGroup t) := by
  intro t
  unfold SettledAlike
  rcases @chargeByTokens_groupRatio s'.toPriceSettings userGroup t totalTokens with
    ⟨hnot, hnone⟩ | ⟨hrecharged, charge, hcharge, hgroup⟩
  · rw [hnone]
    exact iff_of_true (fun charge h => by cases h) (Or.inl hnot)
  · rw [hcharge, (rebuildPrice_ok hsubmit).2.2, ← sameRatio_iff,
      or_iff_right (not_not.mpr hrecharged)]
    simp only [Option.some.injEq, forall_eq', hgroup, hunchanged]

/-- Only the group in use is free, and for one group. -/
def freeFor (userGroup usingGroup : String) : GroupSettings where
  groupRatio _ := none
  groupGroupRatio u := if u = userGroup then
    some fun group => if group = usingGroup then some 0 else none else none

theorem freeFor_groupRatio (userGroup usingGroup : String) :
    ((freeFor userGroup usingGroup).ratioInfo userGroup usingGroup).groupRatio = 0 := by
  simp [ratioInfo_groupRatio, freeFor, GroupSettings.getGroupGroupRatio]

/-- A group that is free for itself is the one in use, and that of the user. -/
theorem sameRatio_freeFor {userGroup usingGroup group : String}
    (h : SameRatio (freeFor userGroup usingGroup) userGroup usingGroup group) :
    userGroup = group ∧ usingGroup = group := by
  rw [← sameRatio_iff, freeFor_groupRatio] at h
  by_contra hother
  have hown : (freeFor userGroup usingGroup).getGroupGroupRatio group group = none := by
    unfold GroupSettings.getGroupGroupRatio freeFor
    by_cases hgroup : group = userGroup
    · have husing : group ≠ usingGroup := fun h => hother ⟨hgroup.symm, h.symm⟩
      simp [hgroup, hgroup ▸ husing]
    · simp [hgroup]
  rw [hown] at h
  simp [GroupSettings.getGroupRatio, freeFor] at h

/-- **A task is settled by the ratio of its submission**, the groups' settings being
unchanged, if and only if it is not priced again, or the ratio of the user's group for
the group in use is that of the group it is settled in for itself. Whatever these
settings are, that is so for exactly the users of the group in use, settled in it. -/
theorem settled_by_submitted_ratio_iff
    (hsubmit : rebuildPrice s actionModelName info = .ok priced) :
    let t := storeTask s (chargeTask s estimateBilling priced).1 task
    let group := settledGroup userGroup t
    (s'.group = s.group →
      (SettledAlike s s' estimateBilling task userGroup totalTokens priced ↔
        ¬ Recharged s'.toPriceSettings userGroup t totalTokens ∨
          SameRatio s.group info.userGroup priced.usingGroup group)) ∧
    ((∀ g priced', rebuildPrice { s with group := g } actionModelName info = .ok priced' →
        SettledAlike { s with group := g } { s' with group := g } estimateBilling task userGroup
          totalTokens priced') ↔
      ¬ Recharged s'.toPriceSettings userGroup t totalTokens ∨
        (info.userGroup = group ∧ priced.usingGroup = group)) := by
  intro t group
  refine ⟨settledAlike_iff estimateBilling task userGroup totalTokens hsubmit, ?_⟩
  have hiff : ∀ {g priced'}, rebuildPrice { s with group := g } actionModelName info = .ok priced' →
      (SettledAlike { s with group := g } { s' with group := g } estimateBilling task userGroup
          totalTokens priced' ↔ ¬ Recharged s'.toPriceSettings userGroup t totalTokens ∨
        SameRatio g info.userGroup priced.usingGroup group) := by
    intro g priced' hsubmit'
    obtain ⟨hmodel, husing, -⟩ := rebuildPrice_ok hsubmit
    obtain ⟨hmodel', husing', -⟩ := rebuildPrice_ok hsubmit'
    -- the settings of the groups do not choose the group or the model
    have hkeys := settledAlike_iff estimateBilling task userGroup totalTokens hsubmit'
      (show ({ s' with group := g } : TaskPriceSettings).group = g from rfl)
    simp only [Recharged, taskModelName, settledGroup, storeTask, chargeTask, hmodel', husing']
      at hkeys
    simp only [hkeys, Recharged, taskModelName, settledGroup, storeTask, chargeTask, hmodel,
      husing, t, group]
  constructor
  · intro hall
    refine or_iff_not_imp_left.mpr fun hrecharged => ?_
    obtain ⟨priced', hsubmit'⟩ := rebuildPrice_free hsubmit (freeFor_groupRatio _ _)
    exact sameRatio_freeFor (((hiff hsubmit').mp (hall _ _ hsubmit')).resolve_left hrecharged)
  · rintro hcond g priced' hsubmit'
    refine (hiff hsubmit').mpr (hcond.imp_right ?_)
    rintro ⟨huser, husing⟩
    rw [huser, husing, ← sameRatio_iff, ratioInfo_groupRatio]

/-! The group "vip" pays half in "default"; a model by tokens. -/

def vipSettings : TaskPriceSettings :=
  { demoPriceSettings with
    group := ⟨fun _ => some 1, fun userGroup => if userGroup = "vip" then
      some fun usingGroup => if usingGroup = "default" then some (1 / 2) else none else none⟩
    modelPrice := fun _ => none
    modelRatio := fun model => (2, true, model) }

def taskOf (userGroup : String) : TaskRelayInfo :=
  { demoRemix with originModelName := "veo-3", userGroup, isRemix := false }

def tokenTask (priced : TaskRelayInfo) : StoredTask :=
  storeTask vipSettings (chargeTask vipSettings (fun _ => []) priced).1 ⟨7, 3, none, 0, 500000⟩

theorem default_settled_alike :
    ∃ priced, rebuildPrice vipSettings "" (taskOf "default") = .ok priced ∧
      SettledAlike vipSettings vipSettings (fun _ => []) ⟨7, 3, none, 0, 500000⟩ none 1000
        priced := by
  have hgroup : (rebuildPrice vipSettings "" (taskOf "default")).toOption.map
      (fun priced => priced.usingGroup) = some "default" := by
    decide +kernel
  cases hpriced : rebuildPrice vipSettings "" (taskOf "default") with
  | error e =>
    rw [hpriced] at hgroup
    cases hgroup
  | ok priced =>
    rw [hpriced] at hgroup
    have husing : priced.usingGroup = "default" := Option.some.inj hgroup
    refine ⟨priced, rfl, ((settled_by_submitted_ratio_iff (fun _ => [])
      ⟨7, 3, none, 0, 500000⟩ none 1000 hpriced).1
      (rfl : vipSettings.group = vipSettings.group)).mpr (Or.inr ?_)⟩
    have hsettled : settledGroup none (tokenTask priced) = "default" := by
      show (if priced.usingGroup = "" then "" else priced.usingGroup) = "default"
      rw [husing]
      rfl
    have hsame : SameRatio vipSettings.group "default" "default" "default" := rfl
    rw [husing]
    exact (congrArg (SameRatio vipSettings.group "default" "default") hsettled).mpr hsame

/-- Submitted at half, settled in full. -/
theorem vip_settled_in_full :
    ∃ priced charge, rebuildPrice vipSettings "" (taskOf "vip") = .ok priced ∧
      priced.priceData.groupRatioInfo.groupRatio = 1 / 2 ∧
      chargeByTokens vipSettings.toPriceSettings none (tokenTask priced) 1000 = some charge ∧
      charge.groupRatio = 1 := by
  have hratios : ((rebuildPrice vipSettings "" (taskOf "vip")).toOption.bind fun priced =>
      (chargeByTokens vipSettings.toPriceSettings none (tokenTask priced) 1000).map fun charge =>
        (priced.priceData.groupRatioInfo.groupRatio, charge.groupRatio)) = some (1 / 2, 1) := by
    decide +kernel
  obtain ⟨priced, hpriced, hcharges⟩ := Option.bind_eq_some_iff.mp hratios
  obtain ⟨charge, hcharge, hboth⟩ := Option.map_eq_some_iff.mp hcharges
  obtain ⟨hsubmitted, hsettled⟩ := Prod.mk.inj hboth
  cases hrun : rebuildPrice vipSettings "" (taskOf "vip") with
  | error e =>
    rw [hrun] at hpriced
    cases hpriced
  | ok priced' =>
    rw [hrun] at hpriced
    obtain rfl := Option.some.inj hpriced
    exact ⟨priced', charge, rfl, hsubmitted, hcharge, hsettled⟩

end YouBox
