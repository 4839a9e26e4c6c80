import YouBox.QuotaMath
import YouBox.TopUp
import YouBox.MachineInt

/-!
# The price of a request before it is sent

`ModelPriceHelper` looks the ratios of a request up and estimates what it will
cost. The group ratio is the one of the group the request goes to, unless the
user's own group has a special ratio for it (`handleGroupRatio`). A model may be
priced by ratio, by a fixed price or by a tiered expression, and the third
freezes a snapshot of what it found for the settlement.

The estimate is converted strictly: a value that does not fit the quota columns
is refused (`quotaFromFloatStrict_bounds`). Floats are rationals here, and the
sum of the token counts is a word.
-/

namespace YouBox

/-! ## Strict conversions -/

inductive QuotaClampKind where
  | overflow
  | underflow
deriving DecidableEq

structure QuotaClamp where
  op : String
  kind : QuotaClampKind
  original : ℚ
  clamped : Int
deriving DecidableEq

/-- `saturateQuota`, with the clamp it reports. -/
def saturateQuotaChecked (value : ℚ) (op : String) : Int × Option QuotaClamp :=
  if 2147483647 ≤ value then (2147483647, some ⟨op, .overflow, value, 2147483647⟩)
  else if value ≤ -2147483648 then (-2147483648, some ⟨op, .underflow, value, -2147483648⟩)
  else (intPart value, none)

def strictQuota : Int × Option QuotaClamp → Except QuotaClamp Int
  | (_, some clamp) => .error clamp
  | (quota, none) => .ok quota

def quotaFromFloatStrict (value : ℚ) : Except QuotaClamp Int :=
  strictQuota (saturateQuotaChecked value "QuotaFromFloat")

def quotaRoundStrict (value : ℚ) : Except QuotaClamp Int :=
  strictQuota (saturateQuotaChecked (roundHalfAway value) "QuotaRound")

variable {value : ℚ} {quota promptTokens : Int} {modelPrice : ℚ}

theorem strictQuota_ok {op : String} (h : strictQuota (saturateQuotaChecked value op) = .ok quota) :
    value < 2147483647 ∧ quota = intPart value := by
  unfold saturateQuotaChecked at h
  by_cases hover : 2147483647 ≤ value
  · rw [if_pos hover] at h
    cases h
  · rw [if_neg hover] at h
    by_cases hunder : value ≤ -2147483648
    · rw [if_pos hunder] at h
      cases h
    · rw [if_neg hunder] at h
      exact ⟨not_le.mp hover, (Except.ok.inj h).symm⟩

theorem intPart_of_nonneg {x : ℚ} (h : 0 ≤ x) : intPart x = ⌊x⌋ := if_pos h

theorem quotaFromFloatStrict_ok (hvalue : 0 ≤ value) (h : quotaFromFloatStrict value = .ok quota) :
    value < 2147483647 ∧ quota = ⌊value⌋ := by
  obtain ⟨hlt, rfl⟩ := strictQuota_ok h
  exact ⟨hlt, intPart_of_nonneg hvalue⟩

theorem quotaFromFloatStrict_bounds (hvalue : 0 ≤ value)
    (h : quotaFromFloatStrict value = .ok quota) : 0 ≤ quota ∧ quota < 2147483647 := by
  obtain ⟨hlt, rfl⟩ := quotaFromFloatStrict_ok hvalue h
  refine ⟨Int.floor_nonneg.2 hvalue, Int.floor_lt.2 ?_⟩
  exact_mod_cast hlt

theorem quotaFromFloatStrict_mono {x y : ℚ} {p q : Int} (hx : 0 ≤ x) (hxy : x ≤ y)
    (hp : quotaFromFloatStrict x = .ok p) (hq : quotaFromFloatStrict y = .ok q) : p ≤ q := by
  obtain ⟨-, rfl⟩ := quotaFromFloatStrict_ok hx hp
  obtain ⟨-, rfl⟩ := quotaFromFloatStrict_ok (hx.trans hxy) hq
  exact Int.floor_le_floor hxy

/-! ## Group ratios -/

structure GroupSettings where
  /-- `groupRatioMap` -/
  groupRatio : String → Option ℚ
  /-- `groupGroupRatioMap` -/
  groupGroupRatio : String → Option (String → Option ℚ)

def GroupSettings.getGroupRatio (g : GroupSettings) (name : String) : ℚ :=
  (g.groupRatio name).getD 1

def GroupSettings.getGroupGroupRatio (g : GroupSettings) (userGroup usingGroup : String) :
    Option ℚ :=
  (g.groupGroupRatio userGroup).bind fun ratios => ratios usingGroup

structure GroupRatioInfo where
  groupRatio : ℚ
  groupSpecialRatio : ℚ
  hasSpecialRatio : Bool

/-- The ratio for the group in use, with the user-group override. -/
def GroupSettings.ratioInfo (g : GroupSettings) (userGroup usingGroup : String) :
    GroupRatioInfo :=
  match g.getGroupGroupRatio userGroup usingGroup with
  | some userGroupRatio => ⟨userGroupRatio, userGroupRatio, true⟩
  | none => ⟨g.getGroupRatio usingGroup, -1, false⟩

/-- `HandleGroupRatio`: "auto_group" of the context, when it is set, becomes the
group in use, which is returned with the ratio. -/
def handleGroupRatio (g : GroupSettings) (autoGroup : Option String)
    (userGroup usingGroup : String) : GroupRatioInfo × String :=
  let usingGroup := autoGroup.getD usingGroup
  (g.ratioInfo userGroup usingGroup, usingGroup)

/-! ## `ModelPriceHelper` -/

/-- `TokenCountMeta`, as pricing reads it. -/
structure TokenCountMeta where
  maxTokens : Int := 0
  imagePriceRatio : ℚ := 0
  /-- by name, in the order of iteration -/
  billingRatios : List (String × ℚ) := []

/-- `PriceData` of the source, with what only the estimate reads. -/
structure ModelPriceData extends PriceData where
  freeModel : Bool
  audioRatio : ℚ
  audioCompletionRatio : ℚ
  quotaToPreConsume : Int
  groupSpecialRatio : ℚ
  hasSpecialRatio : Bool

/-- The settings of a model, and the rest of what pricing reads. -/
structure PriceSettings where
  group : GroupSettings
  /-- `GetModelPrice` -/
  modelPrice : String → Option ℚ
  /-- `GetModelRatio`: the ratio, whether it is set, and the name it was looked up by -/
  modelRatio : String → ℚ × Bool × String
  completionRatio : String → ℚ
  cacheRatio : String → ℚ
  createCacheRatio : String → ℚ
  imageRatio : String → ℚ
  audioRatio : String → ℚ
  audioCompletionRatio : String → ℚ
  billingMode : String → String
  billingExpr : String → Option String
  preConsumedQuota : Int
  quotaPerUnit : ℚ
  enableFreeModelPreConsume : Bool
  exprHashString : String → String
  runExprWithRequest : String → TokenParams → RequestInput → Except String ℚ

/-- The fields of `RelayInfo` and the context that pricing reads. -/
structure PriceInfo where
  originModelName : String
  userId : Nat
  isAdmin : Bool
  acceptUnsetRatioModel : Bool
  userGroup : String
  usingGroup : String
  /-- "auto_group" -/
  autoGroup : Option String
  /-- `ResolveIncomingBillingExprRequestInput` -/
  requestInput : Except String RequestInput

inductive PriceError where
  | message (text : String)
  | clamp (c : QuotaClamp)
deriving DecidableEq

def modelPriceNotConfiguredError (modelName : String) (isAdmin : Bool) : PriceError :=
  if isAdmin then
    .message ("模型 " ++ modelName ++ " 的价格未配置。请前往「系统设置 → 运营设置」开启自用模式，或在「系统设置 → 分组与模型定价设置」中为该模型配置价格；"
      ++ "Model " ++ modelName ++ " price not configured. Go to System Settings → Operation Settings to enable self-use mode, or configure the model price in System Settings → Group & Model Pricing")
  else
    .message ("模型 " ++ modelName ++ " 的价格尚未由管理员配置，暂时无法使用，请联系站点管理员开启该模型；"
      ++ "Model " ++ modelName ++ " has not been priced by the administrator yet. Please contact the site administrator to enable this model")

def claudeCacheCreation1hMultiplier : ℚ := 6 / 3.75

def defaultTieredPreConsumeMaxTokens : Int := 8192

/-- The tokens an estimate by ratio is for. -/
def preConsumedTokens (s : PriceSettings) (promptTokens : Int) (tcm : TokenCountMeta) : Int :=
  let preConsumed := max promptTokens s.preConsumedQuota
  if tcm.maxTokens ≠ 0 then wrap64 (preConsumed + tcm.maxTokens) else preConsumed

/-- What pricing leaves behind: the price, the group in use, and for a tiered
model the snapshot and the input of its expression. -/
structure Priced where
  priceData : ModelPriceData
  usingGroup : String
  tieredBillingSnapshot : Option BillingSnapshot
  billingRequestInput : Option RequestInput

def modelPriceHelperTiered (s : PriceSettings) (info : PriceInfo) (promptTokens : Int)
    (tcm : TokenCountMeta) (ratio : GroupRatioInfo) (usingGroup : String) :
    Except PriceError Priced :=
  match s.billingExpr info.originModelName with
  | none =>
    .error (.message ("model " ++ info.originModelName
      ++ " is configured as tiered_expr but has no billing expression"))
  | some exprStr =>
    let estimatedCompletionTokens :=
      if tcm.maxTokens = 0 ∧ ratio.groupRatio ≠ 0 then defaultTieredPreConsumeMaxTokens
      else tcm.maxTokens
    match info.requestInput with
    | .error err => .error (.message err)
    | .ok requestInput =>
      let params : TokenParams :=
        ⟨promptTokens, estimatedCompletionTokens, promptTokens, 0, 0, 0, 0, 0, 0, 0, 0, 0⟩
      match s.runExprWithRequest exprStr params requestInput with
      | .error err =>
        .error (.message ("model " ++ info.originModelName ++ " tiered expr run failed: "
          ++ err))
      | .ok rawCost =>
        let quotaBeforeGroup := rawCost / 1000000 * s.quotaPerUnit
        match quotaRoundStrict (quotaBeforeGroup * ratio.groupRatio) with
        | .error clamp => .error (.clamp clamp)
        | .ok rounded =>
          let freeModel := !s.enableFreeModelPreConsume && ratio.groupRatio == 0
          let preConsumedQuota := if freeModel then 0 else rounded
          .ok
            { priceData :=
                -- the ratios of the source's zero value
                { modelPrice := 0, modelRatio := 0, completionRatio := 0, cacheRatio := 0,
                  cacheCreationRatio := 0, cacheCreation5mRatio := 0,
                  cacheCreation1hRatio := 0, imageRatio := 0, usePrice := false,
                  groupRatio := ratio.groupRatio, otherRatios := [], freeModel,
                  audioRatio := 0, audioCompletionRatio := 0,
                  quotaToPreConsume := preConsumedQuota,
                  groupSpecialRatio := ratio.groupSpecialRatio,
                  hasSpecialRatio := ratio.hasSpecialRatio }
              usingGroup
              tieredBillingSnapshot :=
                some ⟨"tiered_expr", exprStr, s.exprHashString exprStr, ratio.groupRatio,
                  preConsumedQuota, s.quotaPerUnit⟩
              billingRequestInput := some requestInput }

/-- Pricing by ratio. -/
def ratioPriceData (s : PriceSettings) (info : PriceInfo) (promptTokens : Int)
    (tcm : TokenCountMeta) (ratio : GroupRatioInfo) : Except PriceError ModelPriceData :=
  let model := info.originModelName
  let (modelRatio, success, matchName) := s.modelRatio model
  if success = false ∧ info.acceptUnsetRatioModel = false then
    .error (modelPriceNotConfiguredError matchName info.isAdmin)
  else
    match quotaFromFloatStrict
        (preConsumedTokens s promptTokens tcm * (modelRatio * ratio.groupRatio)) with
    | .error clamp => .error (.clamp clamp)
    | .ok quota =>
      let freeModel :=
        !s.enableFreeModelPreConsume && (ratio.groupRatio == 0 || modelRatio == 0)
      .ok
        -- the price of a model that has none is -1
        { modelPrice := -1, modelRatio, completionRatio := s.completionRatio model,
          cacheRatio := s.cacheRatio model, cacheCreationRatio := s.createCacheRatio model,
          cacheCreation5mRatio := s.createCacheRatio model,
          cacheCreation1hRatio := s.createCacheRatio model * claudeCacheCreation1hMultiplier,
          imageRatio := s.imageRatio model, usePrice := false, groupRatio := ratio.groupRatio,
          otherRatios := [], freeModel, audioRatio := s.audioRatio model,
          audioCompletionRatio := s.audioCompletionRatio model,
          quotaToPreConsume := if freeModel then 0 else quota,
          groupSpecialRatio := ratio.groupSpecialRatio,
          hasSpecialRatio := ratio.hasSpecialRatio }

/-- Pricing by a fixed price. A free model is estimated all the same. -/
def fixedPriceData (s : PriceSettings) (tcm : TokenCountMeta) (ratio : GroupRatioInfo)
    (modelPrice : ℚ) : Except PriceError ModelPriceData :=
  let modelPrice :=
    if tcm.imagePriceRatio ≠ 0 then modelPrice * tcm.imagePriceRatio else modelPrice
  let priceData : ModelPriceData :=
    { modelPrice, modelRatio := 0, completionRatio := 0, cacheRatio := 0, cacheCreationRatio := 0,
      cacheCreation5mRatio := 0, cacheCreation1hRatio := 0, imageRatio := 0, usePrice := true,
      groupRatio := ratio.groupRatio,
      -- `AddOtherRatio` keeps the positive ones
      otherRatios := (tcm.billingRatios.map Prod.snd).filter (0 < ·),
      freeModel := !s.enableFreeModelPreConsume && (ratio.groupRatio == 0 || modelPrice == 0),
      audioRatio := 0, audioCompletionRatio := 0, quotaToPreConsume := 0,
      groupSpecialRatio := ratio.groupSpecialRatio, hasSpecialRatio := ratio.hasSpecialRatio }
  match quotaFromFloatStrict
      (modelPrice * s.quotaPerUnit * ratio.groupRatio * priceData.otherRatioMultiplier) with
  | .error clamp => .error (.clamp clamp)
  | .ok quota => .ok { priceData with quotaToPreConsume := quota }

def modelPriceHelper (s : PriceSettings) (info : PriceInfo) (promptTokens : Int)
    (tcm : TokenCountMeta) : Except PriceError Priced :=
  let (ratio, usingGroup) :=
    handleGroupRatio s.group info.autoGroup info.userGroup info.usingGroup
  if s.billingMode info.originModelName = "tiered_expr" then
    modelPriceHelperTiered s info promptTokens tcm ratio usingGroup
  else
    let priced :=
      match s.modelPrice info.originModelName with
      | none => ratioPriceData s info promptTokens tcm ratio
      | some modelPrice => fixedPriceData s tcm ratio modelPrice
    priced.map fun priceData => ⟨priceData, usingGroup, none, none⟩

/-! ## What pricing leaves behind -/

variable {s : PriceSettings} {info : PriceInfo} {tcm : TokenCountMeta} {ratio : GroupRatioInfo}
  {priced : Priced}

variable {priceData : ModelPriceData}

variable {priced' : Priced}

structure GroupSettings.Nonneg (g : GroupSettings) : Prop where
  groupRatio : ∀ group ratio, g.groupRatio group = some ratio → 0 ≤ ratio
  groupGroupRatio : ∀ userGroup ratios group ratio, g.groupGroupRatio userGroup = some ratios →
    ratios group = some ratio → 0 ≤ ratio

theorem GroupSettings.Nonneg.ratioInfo {g : GroupSettings} (h : g.Nonneg)
    (userGroup usingGroup : String) : 0 ≤ (g.ratioInfo userGroup usingGroup).groupRatio := by
  unfold GroupSettings.ratioInfo
  cases hspecial : g.getGroupGroupRatio userGroup usingGroup with
  | some ratio =>
    obtain ⟨ratios, hratios, hratio⟩ := Option.bind_eq_some_iff.mp hspecial
    exact h.groupGroupRatio userGroup ratios usingGroup ratio hratios hratio
  | none =>
    show 0 ≤ (g.groupRatio usingGroup).getD 1
    cases hratio : g.groupRatio usingGroup with
    | none => exact zero_le_one
    | some ratio => exact h.groupRatio usingGroup ratio hratio

theorem ratioPriceData_ok (h : ratioPriceData s info promptTokens tcm ratio = .ok priceData) :
    ∃ quota, quotaFromFloatStrict (preConsumedTokens s promptTokens tcm
        * ((s.modelRatio info.originModelName).1 * ratio.groupRatio)) = .ok quota ∧
      priceData.quotaToPreConsume =
        if s.enableFreeModelPreConsume = false ∧ (ratio.groupRatio = 0
          ∨ (s.modelRatio info.originModelName).1 = 0) then 0 else quota := by
  simp only [ratioPriceData] at h
  split at h
  · cases h
  · split at h
    · cases h
    · rename_i quota hquota
      cases h
      exact ⟨quota, hquota, by simp⟩

theorem fixedPriceData_ok (h : fixedPriceData s tcm ratio modelPrice = .ok priceData) :
    quotaFromFloatStrict ((if tcm.imagePriceRatio ≠ 0 then modelPrice * tcm.imagePriceRatio
        else modelPrice) * s.quotaPerUnit * ratio.groupRatio * priceData.otherRatioMultiplier)
      = .ok priceData.quotaToPreConsume := by
  simp only [fixedPriceData] at h
  split at h
  · cases h
  · rename_i quota hquota
    cases h
    exact hquota

theorem fixedPriceData_otherRatios (h : fixedPriceData s tcm ratio modelPrice = .ok priceData) :
    priceData.otherRatios = (tcm.billingRatios.map Prod.snd).filter (0 < ·) := by
  simp only [fixedPriceData] at h
  split at h
  · cases h
  · cases h
    rfl

end YouBox
