import YouBox.PriceHelper
import YouBox.Strconv
import YouBox.TopUpAmounts

/-!
# The price of a task, and of a remix

`RelayTaskSubmit` prices a task by its model, lets the adaptor add ratios for its
length and size (`EstimateBilling`), and charges the product before it sends
anything. A remix takes the ratios of the task it starts from: `ResolveOriginTask`
puts them into `PriceData`, the adaptor leaves them out, and the step between the
two builds a new `PriceData`.

What the origin's ratios and the adaptor's come to together is the adaptor's
product times that of the ratios it says nothing about (`multiplier_addAll`). These
are the ones that are lost, and so `remix_charged_iff` says that the charge is right
exactly if they make no difference to the quota.
-/

namespace YouBox

/-! ## Other ratios -/

/-- `otherRatios`: a map from names to ratios. -/
abbrev OtherRatios := List (String × ℚ)

namespace OtherRatios

/-- `AddOtherRatio`; a ratio that is not positive is not valid. -/
def add (ratios : OtherRatios) (key : String) (ratio : ℚ) : OtherRatios :=
  if 0 < ratio then (key, ratio) :: ratios.filter (fun e => e.1 ≠ key) else ratios

/-- `AddOtherRatio` for each entry of a map. -/
def addAll (ratios entries : OtherRatios) : OtherRatios :=
  entries.foldl (fun ratios e => ratios.add e.1 e.2) ratios

/-- `OtherRatioMultiplier`. -/
def multiplier (ratios : OtherRatios) : ℚ :=
  ((ratios.map Prod.snd).filter fun ratio => 0 < ratio ∧ ratio ≠ 1).prod

def keys (ratios : OtherRatios) : List String := ratios.map Prod.fst

/-- The ratios under names that the others have not. -/
def without (ratios others : OtherRatios) : OtherRatios :=
  ratios.filter fun e => e.1 ∉ others.keys

theorem multiplier_append (xs ys : OtherRatios) :
    multiplier (xs ++ ys) = xs.multiplier * ys.multiplier := by
  unfold multiplier
  rw [List.map_append, List.filter_append, List.prod_append]

theorem without_nil (ratios : OtherRatios) : ratios.without [] = ratios := by
  simp [without, keys]

theorem mem_keys_add {ratios : OtherRatios} {key name : String} {ratio : ℚ} (h : 0 < ratio) :
    name ∈ (ratios.add key ratio).keys ↔ name = key ∨ name ∈ ratios.keys := by
  unfold add keys
  rw [if_pos h, List.map_cons, List.mem_cons, List.mem_map, List.mem_map]
  refine or_congr_right' fun hname => exists_congr fun e => and_congr_left fun he => ?_
  subst he
  rw [List.mem_filter]
  simp [hname]

theorem add_append_without (ratios others : OtherRatios) (key : String) (ratio : ℚ) :
    add (others ++ ratios.without others) key ratio
      = others.add key ratio ++ ratios.without (others.add key ratio) := by
  by_cases h : 0 < ratio
  · have hleft : (ratios.without others).filter (fun e => e.1 ≠ key)
        = ratios.without (others.add key ratio) := by
      unfold without
      rw [List.filter_filter]
      refine List.filter_congr fun e _ => ?_
      rw [← Bool.decide_and, decide_eq_decide, mem_keys_add h]
      tauto
    rw [← hleft]
    unfold add
    rw [if_pos h, if_pos h, List.filter_append, List.cons_append]
  · unfold add
    rw [if_neg h, if_neg h]

theorem addAll_eq (ratios entries : OtherRatios) :
    ratios.addAll entries = addAll [] entries ++ ratios.without (addAll [] entries) := by
  induction entries using List.reverseRecOn with
  | nil => exact (without_nil ratios).symm
  | append_singleton entries e ih =>
    unfold addAll at ih ⊢
    rw [List.foldl_append, List.foldl_append, List.foldl_cons, List.foldl_cons, List.foldl_nil,
      List.foldl_nil, ih]
    exact add_append_without _ _ _ _

theorem multiplier_addAll (ratios entries : OtherRatios) :
    (ratios.addAll entries).multiplier
      = (addAll [] entries).multiplier * (ratios.without (addAll [] entries)).multiplier := by
  rw [addAll_eq, multiplier_append]

end OtherRatios

/-! ## The price of one call -/

/-- `PriceData`, as far as a task fills it. -/
structure TaskPriceData where
  freeModel : Bool := false
  modelPrice : ℚ := 0
  modelRatio : ℚ := 0
  usePrice : Bool := false
  quota : Int := 0
  groupRatioInfo : GroupRatioInfo := ⟨0, 0, false⟩
  otherRatios : OtherRatios := []

structure TaskPriceSettings extends PriceSettings where
  /-- `GetDefaultModelPriceMap` -/
  defaultModelPrice : String → Option ℚ
  /-- models whose price takes no ratios -/
  taskPricePatches : List String

/-- The model's price for each call: its own or the default one. -/
def TaskPriceSettings.callPrice (s : TaskPriceSettings) (model : String) : Option ℚ :=
  (s.modelPrice model).orElse fun _ => s.defaultModelPrice model

/-- `ModelPriceHelperPerCall`, with the group in use that `HandleGroupRatio` leaves. -/
def modelPriceHelperPerCall (s : TaskPriceSettings) (info : PriceInfo) :
    Except PriceError (TaskPriceData × String) :=
  let (ratio, usingGroup) :=
    handleGroupRatio s.group info.autoGroup info.userGroup info.usingGroup
  match s.callPrice info.originModelName with
  | some modelPrice =>
    match quotaFromFloatStrict (modelPrice * s.quotaPerUnit * ratio.groupRatio) with
    | .error clamp => .error (.clamp clamp)
    | .ok quota =>
      let freeModel :=
        !s.enableFreeModelPreConsume && (ratio.groupRatio == 0 || modelPrice == 0)
      .ok ({ freeModel, modelPrice, usePrice := true,
             quota := if freeModel then 0 else quota, groupRatioInfo := ratio }, usingGroup)
  | none =>
    let (modelRatio, ratioSuccess, matchName) := s.modelRatio info.originModelName
    if ratioSuccess = false ∧ info.acceptUnsetRatioModel = false then
      .error (modelPriceNotConfiguredError matchName info.isAdmin)
    else
      -- half of the model's ratio
      match quotaFromFloatStrict (modelRatio / 2 * s.quotaPerUnit * ratio.groupRatio) with
      | .error clamp => .error (.clamp clamp)
      | .ok quota =>
        let freeModel :=
          !s.enableFreeModelPreConsume && (ratio.groupRatio == 0 || modelRatio == 0)
        .ok ({ freeModel, modelPrice := -1, modelRatio, quota := if freeModel then 0 else quota,
               groupRatioInfo := ratio }, usingGroup)

/-! ## The task a remix starts from -/

/-- The parameters of a task's price, kept with it. -/
structure TaskBillingContext where
  modelPrice : ℚ
  groupRatio : ℚ
  modelRatio : ℚ
  otherRatios : OtherRatios
  originModelName : String
  perCallBilling : Bool

/-- What `ResolveOriginTask` reads of a task; the last three are texts of its data,
empty where the data has none. -/
structure OriginTask where
  originModelName : String
  upstreamModelName : String
  billingContext : Option TaskBillingContext
  model : String
  seconds : String
  size : String

/-- The fields of `RelayInfo` that the submission of a task prices with. -/
structure TaskRelayInfo extends PriceInfo where
  isRemix : Bool
  priceData : TaskPriceData
  /-- `Billing` is set: an earlier attempt has charged. -/
  billed : Bool

def maxTaskDurationSeconds : Int := 3600

/-- The ratio of the larger sizes. -/
def largeSizeRatio : ℚ := 1666667 / 1000000

/-- The ratios of a task that was stored without its price. -/
def legacyRatios (ratios : OtherRatios) (origin : OriginTask) : OtherRatios :=
  let seconds := Strconv.atoiValue origin.seconds
  let seconds := if seconds ≤ 0 then 4 else seconds
  let seconds := if maxTaskDurationSeconds < seconds then maxTaskDurationSeconds else seconds
  let ratios := (ratios.add "seconds" seconds).add "size" 1
  if origin.size = "1792x1024" ∨ origin.size = "1024x1792" then ratios.add "size" largeSizeRatio
  else ratios

/-- `ResolveOriginTask`, once the task is found and its channel is enabled. -/
def resolveOriginTask (origin : OriginTask) (info : TaskRelayInfo) : TaskRelayInfo :=
  let originModelName :=
    if info.originModelName ≠ "" then info.originModelName
    else if origin.originModelName ≠ "" then origin.originModelName
    else if origin.upstreamModelName ≠ "" then origin.upstreamModelName
    else origin.model
  let otherRatios :=
    if info.isRemix then
      match origin.billingContext with
      | some context => info.priceData.otherRatios.addAll context.otherRatios
      | none => legacyRatios info.priceData.otherRatios origin
    else info.priceData.otherRatios
  { info with originModelName, priceData := { info.priceData with otherRatios } }

/-! ## Submission -/

/-- The request a Sora task is estimated by. -/
structure TaskSubmitReq where
  seconds : String
  duration : Int
  size : String

/-- `EstimateBilling` of the Sora adaptor; no request is one that cannot be read. -/
def soraEstimateBilling (req : Option TaskSubmitReq) (info : TaskRelayInfo) : OtherRatios :=
  if info.isRemix then []
  else
    match req with
    | none => []
    | some req =>
      let seconds := Strconv.atoiValue req.seconds
      let seconds := if seconds = 0 then req.duration else seconds
      let seconds := if seconds ≤ 0 then 4 else seconds
      let size := if req.size = "" then "720x1280" else req.size
      [("seconds", (seconds : ℚ)),
        ("size", if size = "1792x1024" ∨ size = "1024x1792" then largeSizeRatio else 1)]

def quotaFromFloatChecked (value : ℚ) : Int × Option QuotaClamp :=
  saturateQuotaChecked value "QuotaFromFloat"

/-- Steps 2 and 4 of `RelayTaskSubmit`: a task without a model's name is priced under
the one of its action, and `PriceData` is built anew. -/
def rebuildPrice (s : TaskPriceSettings) (actionModelName : String) (info : TaskRelayInfo) :
    Except PriceError TaskRelayInfo :=
  let modelName := if info.originModelName = "" then actionModelName else info.originModelName
  let info := { info with originModelName := modelName }
  match modelPriceHelperPerCall s info.toPriceInfo with
  | .error e => .error e
  | .ok (priceData, usingGroup) => .ok { info with priceData, usingGroup }

/-- Steps 5 to 7: the task as it is priced, and what is charged before the request is
sent, if anything. -/
def chargeTask (s : TaskPriceSettings) (estimateBilling : TaskRelayInfo → OtherRatios)
    (info : TaskRelayInfo) : TaskRelayInfo × Option Int :=
  let otherRatios := info.priceData.otherRatios.addAll (estimateBilling info)
  let quota :=
    if info.originModelName ∈ s.taskPricePatches then info.priceData.quota
    else (quotaFromFloatChecked (info.priceData.quota * otherRatios.multiplier)).1
  ({ info with priceData := { info.priceData with otherRatios, quota } },
    if info.billed ∨ info.priceData.freeModel then none else some quota)

/-- `RelayTaskSubmit`, as far as it prices and charges. -/
def relayTaskSubmitPrice (s : TaskPriceSettings) (estimateBilling : TaskRelayInfo → OtherRatios)
    (actionModelName : String) (info : TaskRelayInfo) :
    Except PriceError (TaskRelayInfo × Option Int) :=
  (rebuildPrice s actionModelName info).map (chargeTask s estimateBilling)

/-! ## The charge of a remix -/

/-- The base price times the origin's ratios merged with the adaptor's. -/
def remixQuota (base : Int) (origin estimated : OtherRatios) : Int :=
  (quotaFromFloatChecked (base * ((OtherRatios.addAll [] origin).addAll estimated).multiplier)).1

/-- The ratios that were stored with the task. -/
def OriginTask.storedRatios (origin : OriginTask) : OtherRatios :=
  match origin.billingContext with
  | some context => context.otherRatios
  | none => []

/-- Whatever a submission that starts from the task charges is by the task's ratios
and the adaptor's. -/
def RemixCharged (s : TaskPriceSettings) (estimateBilling : TaskRelayInfo → OtherRatios)
    (actionModelName : String) (origin : OriginTask) (info : TaskRelayInfo) : Prop :=
  ∀ task, rebuildPrice s actionModelName (resolveOriginTask origin info) = .ok task →
    ∀ priced quota, relayTaskSubmitPrice s estimateBilling actionModelName
        (resolveOriginTask origin info) = .ok (priced, some quota) →
      quota = remixQuota task.priceData.quota origin.storedRatios (estimateBilling task)

/-- Two amounts are the same quota: both beyond the same end of it, or cut off to the
same number. -/
def SameQuota (x y : ℚ) : Prop :=
  (2147483647 ≤ x ∧ 2147483647 ≤ y) ∨ (x ≤ -2147483648 ∧ y ≤ -2147483648) ∨
    ∃ n : Int, CutsTo x n ∧ CutsTo y n

/-- Nothing is charged, or the ratios of the origin that the adaptor does not name make
no difference to the quota; where the model takes no ratios at all, neither does the
adaptor's product. -/
def RatiosIdle (s : TaskPriceSettings) (estimateBilling : TaskRelayInfo → OtherRatios)
    (ratios : OtherRatios) (task : TaskRelayInfo) : Prop :=
  let base : ℚ := task.priceData.quota
  let own := OtherRatios.addAll [] (estimateBilling task)
  let left := (OtherRatios.addAll [] ratios).without own
  task.billed = true ∨ task.priceData.freeModel = true ∨
    SameQuota (if task.originModelName ∈ s.taskPricePatches then base else base * own.multiplier)
      (base * (own.multiplier * left.multiplier))

/-! ## Conversions -/

theorem CutsTo.high_iff {x : ℚ} {n : Int} (h : CutsTo x n) :
    2147483647 ≤ x ↔ 2147483647 ≤ n := by
  rcases h with ⟨-, hle, hlt⟩ | ⟨hneg, hlt, hle⟩
  · constructor
    · intro hhigh
      have hnext : (2147483647 : Int) < n + 1 := by exact_mod_cast hhigh.trans_lt hlt
      omega
    · intro hhigh
      have hcast : (2147483647 : ℚ) ≤ n := by exact_mod_cast hhigh
      exact hcast.trans hle
  · have hzero : n < 1 := by exact_mod_cast (by linarith : (n : ℚ) < 1)
    exact iff_of_false (by linarith) (by omega)

theorem CutsTo.low_iff {x : ℚ} {n : Int} (h : CutsTo x n) :
    x ≤ -2147483648 ↔ n ≤ -2147483648 := by
  rcases h with ⟨hnonneg, -, hlt⟩ | ⟨-, hlt, hle⟩
  · have hzero : -1 < n := by exact_mod_cast (by linarith : (-1 : ℚ) < n)
    exact iff_of_false (by linarith) (by omega)
  · constructor
    · intro hlow
      have hnext : n - 1 < -2147483648 := by exact_mod_cast hlt.trans_le hlow
      omega
    · intro hlow
      have hcast : (n : ℚ) ≤ -2147483648 := by exact_mod_cast hlow
      exact hle.trans hcast

theorem quotaFromFloatChecked_eq {x : ℚ} {n : Int} (h : CutsTo x n) :
    (quotaFromFloatChecked x).1 = max (-2147483648) (min 2147483647 n) := by
  unfold quotaFromFloatChecked saturateQuotaChecked
  by_cases hhigh : 2147483647 ≤ x
  · have hn := h.high_iff.mp hhigh
    rw [if_pos hhigh]
    show (2147483647 : Int) = max (-2147483648) (min 2147483647 n)
    omega
  have hn := mt h.high_iff.mpr hhigh
  rw [if_neg hhigh]
  by_cases hlow : x ≤ -2147483648
  · have hm := h.low_iff.mp hlow
    rw [if_pos hlow]
    show (-2147483648 : Int) = max (-2147483648) (min 2147483647 n)
    omega
  · have hm := mt h.low_iff.mpr hlow
    rw [if_neg hlow]
    show intPart x = max (-2147483648) (min 2147483647 n)
    rw [intPart_eq_iff.mpr h]
    omega

theorem quotaFromFloatChecked_eq_iff {x y : ℚ} :
    (quotaFromFloatChecked x).1 = (quotaFromFloatChecked y).1 ↔ SameQuota x y := by
  have hx : CutsTo x (intPart x) := intPart_eq_iff.mp rfl
  have hy : CutsTo y (intPart y) := intPart_eq_iff.mp rfl
  have hsame : (∃ n : Int, CutsTo x n ∧ CutsTo y n) ↔ intPart x = intPart y := by
    constructor
    · rintro ⟨n, hxn, hyn⟩
      rw [intPart_eq_iff.mpr hxn, intPart_eq_iff.mpr hyn]
    · intro heq
      exact ⟨intPart x, hx, heq ▸ hy⟩
  unfold SameQuota
  rw [quotaFromFloatChecked_eq hx, quotaFromFloatChecked_eq hy, hsame, hx.high_iff, hy.high_iff,
    hx.low_iff, hy.low_iff]
  omega

theorem quotaFromFloatChecked_strict {x : ℚ} {quota : Int}
    (h : quotaFromFloatStrict x = .ok quota) :
    (quotaFromFloatChecked quota).1 = quota := by
  have hfits : quota = (quotaFromFloatChecked x).1 := by
    unfold quotaFromFloatStrict at h
    unfold quotaFromFloatChecked
    cases hchecked : saturateQuotaChecked x "QuotaFromFloat" with
    | mk q clamp =>
      rw [hchecked] at h
      cases clamp with
      | none => exact (Except.ok.inj h).symm
      | some c => cases h
  have hself : CutsTo (quota : ℚ) quota := by
    rw [← intPart_eq_iff]
    unfold intPart
    rw [Int.floor_intCast, Int.ceil_intCast, ite_self]
  have hx : CutsTo x (intPart x) := intPart_eq_iff.mp rfl
  rw [quotaFromFloatChecked_eq hx] at hfits
  rw [quotaFromFloatChecked_eq hself]
  omega

theorem quotaFromFloatChecked_zero : (quotaFromFloatChecked ((0 : Int) : ℚ)).1 = 0 := by
  decide

variable {s : TaskPriceSettings}

theorem modelPriceHelperPerCall_base {info : PriceInfo} {base : TaskPriceData} {usingGroup : String}
    (h : modelPriceHelperPerCall s info = .ok (base, usingGroup)) :
    (quotaFromFloatChecked base.quota).1 = base.quota ∧ base.otherRatios = [] := by
  have hkept : ∀ {free : Bool} {x : ℚ} {quota : Int}, quotaFromFloatStrict x = .ok quota →
      (quotaFromFloatChecked ((if free then 0 else quota : Int) : ℚ)).1
        = if free then 0 else quota := by
    intro free x quota hquota
    cases free with
    | true => exact quotaFromFloatChecked_zero
    | false => exact quotaFromFloatChecked_strict hquota
  unfold modelPriceHelperPerCall at h
  simp only at h
  split at h
  · split at h
    · cases h
    · rename_i quota hquota
      obtain ⟨rfl, -⟩ := Prod.mk.inj (Except.ok.inj h)
      exact ⟨hkept hquota, rfl⟩
  · split at h
    · cases h
    · split at h
      · cases h
      · rename_i quota hquota
        obtain ⟨rfl, -⟩ := Prod.mk.inj (Except.ok.inj h)
        exact ⟨hkept hquota, rfl⟩

theorem rebuildPrice_base {actionModelName : String} {info task : TaskRelayInfo}
    (h : rebuildPrice s actionModelName info = .ok task) :
    (quotaFromFloatChecked task.priceData.quota).1 = task.priceData.quota ∧
      task.priceData.otherRatios = [] := by
  unfold rebuildPrice at h
  simp only at h
  split at h
  · cases h
  · rename_i base usingGroup hbase
    obtain rfl := Except.ok.inj h
    exact modelPriceHelperPerCall_base hbase

/-! ## Remixes -/

theorem remixQuota_eq (base : Int) (ratios estimated : OtherRatios) :
    remixQuota base ratios estimated =
      (quotaFromFloatChecked (base * ((OtherRatios.addAll [] estimated).multiplier
        * ((OtherRatios.addAll [] ratios).without
            (OtherRatios.addAll [] estimated)).multiplier))).1 := by
  unfold remixQuota
  rw [OtherRatios.multiplier_addAll]

theorem chargeTask_iff {estimateBilling : TaskRelayInfo → OtherRatios} {task : TaskRelayInfo}
    (ratios : OtherRatios)
    (hbase : (quotaFromFloatChecked task.priceData.quota).1 = task.priceData.quota)
    (hnew : task.priceData.otherRatios = []) :
    (∀ quota, (chargeTask s estimateBilling task).2 = some quota →
        quota = remixQuota task.priceData.quota ratios (estimateBilling task)) ↔
      RatiosIdle s estimateBilling ratios task := by
  unfold RatiosIdle
  simp only
  by_cases hnone : task.billed = true ∨ task.priceData.freeModel = true
  · have hfree : (chargeTask s estimateBilling task).2 = none := if_pos hnone
    rw [hfree]
    exact iff_of_true (fun quota hquota => by cases hquota) (by tauto)
  · have hcharged : (chargeTask s estimateBilling task).2 = some (quotaFromFloatChecked
        (if task.originModelName ∈ s.taskPricePatches then (task.priceData.quota : ℚ)
          else task.priceData.quota
            * (OtherRatios.addAll [] (estimateBilling task)).multiplier)).1 := by
      unfold chargeTask
      simp only [if_neg hnone, hnew]
      split
      · rw [hbase]
      · rfl
    rw [hcharged, remixQuota_eq]
    simp only [Option.some.injEq, forall_eq', quotaFromFloatChecked_eq_iff]
    rw [← or_assoc]
    exact (or_iff_right hnone).symm

/-- **A remix is charged by the ratios of its origin** and the adaptor's if and only if
those of the origin that the adaptor does not name make no difference. -/
theorem remix_charged_iff (s : TaskPriceSettings) (estimateBilling : TaskRelayInfo → OtherRatios)
    (actionModelName : String) (origin : OriginTask) (info : TaskRelayInfo) :
    RemixCharged s estimateBilling actionModelName origin info ↔
      ∀ task, rebuildPrice s actionModelName (resolveOriginTask origin info) = .ok task →
        RatiosIdle s estimateBilling origin.storedRatios task := by
  unfold RemixCharged relayTaskSubmitPrice
  refine forall_congr' fun task => forall_congr' fun htask => ?_
  obtain ⟨hbase, hnew⟩ := rebuildPrice_base htask
  rw [← chargeTask_iff origin.storedRatios hbase hnew, htask]
  simp only [Except.map, Except.ok.injEq, Prod.ext_iff]
  constructor
  · intro h quota hquota
    exact h _ quota ⟨rfl, hquota⟩
  · rintro h - quota ⟨-, hquota⟩
    exact h quota hquota

/-! A task of eight seconds in a large size, at a tenth of a dollar for a call. -/

def demoPriceSettings : TaskPriceSettings where
  group := ⟨fun _ => none, fun _ => none⟩
  modelPrice model := if model = "sora-2" then some (1 / 10) else none
  modelRatio model := (0, false, model)
  completionRatio _ := 1
  cacheRatio _ := 1
  createCacheRatio _ := 1
  imageRatio _ := 1
  audioRatio _ := 1
  audioCompletionRatio _ := 1
  billingMode _ := "ratio"
  billingExpr _ := none
  preConsumedQuota := 500
  quotaPerUnit := 500000
  enableFreeModelPreConsume := false
  exprHashString expr := expr
  runExprWithRequest _ _ _ := .error "no expression"
  defaultModelPrice _ := none
  taskPricePatches := []

def demoOrigin : OriginTask where
  originModelName := "sora-2"
  upstreamModelName := "sora-2"
  billingContext :=
    some ⟨1 / 10, 1, 0, [("seconds", 8), ("size", largeSizeRatio)], "sora-2", true⟩
  model := ""
  seconds := "8"
  size := "1792x1024"

def demoRemix : TaskRelayInfo where
  originModelName := ""
  userId := 7
  isAdmin := false
  acceptUnsetRatioModel := false
  userGroup := "default"
  usingGroup := "default"
  autoGroup := none
  requestInput := .error ""
  isRemix := true
  priceData := {}
  billed := false

/-- The remix is charged the price of one call, not of the eight seconds. -/
theorem remix_ratios_lost :
    (relayTaskSubmitPrice demoPriceSettings (soraEstimateBilling none) "sora-2"
        (resolveOriginTask demoOrigin demoRemix)).toOption.bind Prod.snd = some 50000 ∧
      remixQuota 50000 demoOrigin.storedRatios [] = 666666 ∧
      ¬ RemixCharged demoPriceSettings (soraEstimateBilling none) "sora-2" demoOrigin
        demoRemix := by
  have hcharge : (relayTaskSubmitPrice demoPriceSettings (soraEstimateBilling none) "sora-2"
      (resolveOriginTask demoOrigin demoRemix)).toOption.bind Prod.snd = some 50000 := by
    decide +kernel
  have hbase : (rebuildPrice demoPriceSettings "sora-2" (resolveOriginTask demoOrigin
      demoRemix)).toOption.map (fun task => (task.isRemix, task.priceData.quota))
        = some (true, 50000) := by
    decide +kernel
  have hright : remixQuota 50000 demoOrigin.storedRatios [] = 666666 := by decide +kernel
  refine ⟨hcharge, hright, fun h => ?_⟩
  unfold RemixCharged at h
  unfold relayTaskSubmitPrice at hcharge h
  cases htask : rebuildPrice demoPriceSettings "sora-2" (resolveOriginTask demoOrigin
      demoRemix) with
  | error e =>
    rw [htask] at hbase
    cases hbase
  | ok task =>
    rw [htask] at hbase hcharge
    obtain ⟨hremix, hquota⟩ := Prod.mk.inj (Option.some.inj hbase)
    have hestimate : soraEstimateBilling none task = [] := if_pos hremix
    have hwrong := h task htask (chargeTask demoPriceSettings (soraEstimateBilling none) task).1
      50000 (by rw [htask]; exact congrArg Except.ok (Prod.ext rfl hcharge))
    rw [hquota, hestimate, hright] at hwrong
    exact absurd hwrong (by decide)

end YouBox
