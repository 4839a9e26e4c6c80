import YouBox.TaskBilling
import YouBox.TextUsage

/-!
# What a text request is charged and counted

`PostTextConsumeQuota`: the quota of a request by ratio, by price or by a tiered
expression, and where it goes. The settlement charges it to the funding source,
two counters add it up (the user's and the channel's used quota), and an entry
of the consume log records it.

The ratio and price modes bill nothing for a request without tokens
(`calculateTextQuotaSummary_quota_zero`); the tiered mode replaces that quota by
its own and the counters are skipped all the same. So charge and counters agree
unless a tiered expression, or its fallback, bills a request that has no tokens.

Decimals and floats are rationals, `Div` and the conversions to quota rounding
as `shopspring/decimal` does. What evaluates an expression is a parameter. The
statements of the counters and of the log go through; those of the settlement
may fail (`Answers`).
-/

namespace YouBox

/-! ## Decimals and quota -/

def roundHalfAway (x : ℚ) : Int :=
  if 0 ≤ x then ⌊x + 1 / 2⌋ else ⌈x - 1 / 2⌉

/-- `Decimal.Div`: sixteen digits after the point. -/
def decimalDiv (x y : ℚ) : ℚ := (roundHalfAway (x / y * 10 ^ 16) : ℚ) / 10 ^ 16

/-- To the range of an `int32`. -/
def saturateQuota (value : Int) : Int :=
  if 2147483647 ≤ value then 2147483647
  else if value ≤ -2147483648 then -2147483648
  else value

/-- `QuotaFromDecimalChecked`, and `QuotaRoundChecked` of a float. -/
def quotaFromDecimal (d : ℚ) : Int := saturateQuota (roundHalfAway d)

/-! ## The request -/

structure PriceData where
  modelPrice : ℚ
  modelRatio : ℚ
  completionRatio : ℚ
  cacheRatio : ℚ
  cacheCreationRatio : ℚ
  cacheCreation5mRatio : ℚ
  cacheCreation1hRatio : ℚ
  imageRatio : ℚ
  usePrice : Bool
  groupRatio : ℚ
  otherRatios : List ℚ

structure BillingSnapshot where
  billingMode : String
  exprString : String
  exprHash : String
  groupRatio : ℚ
  estimatedQuotaAfterGroup : Int
  quotaPerUnit : ℚ

structure RequestInput where
  headers : List (String × String) := []
  body : String := ""

/-- The fields of `RelayInfo` that pricing reads, beside those of billing, and
what the gin context says of tool calls. -/
structure TextRequest where
  channelId : Nat
  /-- `none` without `ChannelMeta` -/
  channelType : Option Nat
  originModelName : String
  finalRequestRelayFormat : String
  requestConversionChain : List String
  relayFormat : String
  estimatePromptTokens : Int
  priceData : PriceData
  /-- `ResponsesUsageInfo`: the call counts of the built-in tools -/
  responsesUsageInfo : Option (List (String × Int))
  claudeWebSearchRequests : Int
  /-- quality and size -/
  imageGenerationCall : Option (String × String)
  tieredBillingSnapshot : Option BillingSnapshot
  billingRequestInput : Option RequestInput

/-- The settings, and what evaluates billing expressions. -/
structure TextSettings where
  quotaPerUnit : ℚ
  toolPriceForModel : String → String → ℚ
  defaultModelRatio : String → Option ℚ
  logConsumeEnabled : Bool
  /-- `UsedVars` -/
  usedVars : String → String → Bool
  /-- `RunExprByHashWithRequest`, the cost it returns -/
  runExprByHashWithRequest : String → String → TokenParams → RequestInput → Option ℚ

def TextRequest.getFinalRequestRelayFormat (req : TextRequest) : String :=
  if req.finalRequestRelayFormat ≠ "" then req.finalRequestRelayFormat
  else req.requestConversionChain.getLast?.getD req.relayFormat

def usageSemanticFromUsage (req : TextRequest) (usage : Option Usage) : String :=
  match usage.filter (fun u => u.usageSemantic ≠ "") with
  | some u => u.usageSemantic
  | none => if req.getFinalRequestRelayFormat = "claude" then "anthropic" else "openai"

def isLegacyClaudeDerivedOpenAIUsage (req : TextRequest) (u : Usage) : Bool :=
  if req.getFinalRequestRelayFormat = "claude" then false
  else if u.usageSource ≠ "" ∨ u.usageSemantic ≠ "" then false
  else decide (0 < u.claudeCacheCreation5mTokens ∨ 0 < u.claudeCacheCreation1hTokens)

/-! ## Tool calls -/

def getGPTImage1PriceOnceCall (quality size : String) : ℚ :=
  match quality, size with
  | "low", "1024x1024" => 0.011
  | "low", "1024x1536" => 0.016
  | "low", "1536x1024" => 0.016
  | "medium", "1024x1024" => 0.042
  | "medium", "1024x1536" => 0.063
  | "medium", "1536x1024" => 0.063
  | "high", "1024x1536" => 0.25
  | "high", "1536x1024" => 0.25
  | _, _ => 0.167

def getGeminiInputAudioPricePerMillionTokens (modelName : String) : ℚ :=
  let starts (pre : String) : Bool := pre.toList.isPrefixOf modelName.toList
  if starts "gemini-2.5-flash-preview-native-audio" then 3
  else if starts "gemini-2.5-flash-preview-lite" then 0.5
  else if starts "gemini-2.5-flash-preview" then 1
  else if starts "gemini-2.5-flash" then 1
  else if starts "gemini-2.0-flash" then 0.7
  else if starts "gemini-robotics-er-1.5" then 1
  else 0

/-- The calls of one built-in tool, priced by the thousand. -/
def builtInToolSurcharge (cfg : TextSettings) (req : TextRequest) (tools : List (String × Int))
    (tool modelName : String) : ℚ :=
  let callCount := (tools.lookup tool).getD 0
  if 0 < callCount then
    decimalDiv (cfg.toolPriceForModel tool modelName * callCount) 1000
      * req.priceData.groupRatio * cfg.quotaPerUnit
  else 0

def calculateTextToolCallSurcharge (cfg : TextSettings) (req : TextRequest) : ℚ :=
  let model := req.originModelName
  let groupRatio := req.priceData.groupRatio
  let webSearch :=
    match req.responsesUsageInfo with
    | some tools => builtInToolSurcharge cfg req tools "web_search_preview" model
    | none =>
      if "search-preview".toList.isSuffixOf model.toList then
        decimalDiv (cfg.toolPriceForModel "web_search_preview" model) 1000
          * groupRatio * cfg.quotaPerUnit
      else 0
  let claudeWebSearch :=
    if 0 < req.claudeWebSearchRequests then
      decimalDiv (cfg.toolPriceForModel "web_search" "") 1000 * groupRatio * cfg.quotaPerUnit
        * req.claudeWebSearchRequests
    else 0
  let fileSearch :=
    match req.responsesUsageInfo with
    | some tools => builtInToolSurcharge cfg req tools "file_search" ""
    | none => 0
  let imageGeneration :=
    match req.imageGenerationCall with
    | some (quality, size) =>
      getGPTImage1PriceOnceCall quality size * groupRatio * cfg.quotaPerUnit
    | none => 0
  webSearch + claudeWebSearch + fileSearch + imageGeneration

/-! ## The ratio and price modes -/

/-- The token counts of `textQuotaSummary`. -/
structure TextTokens where
  promptTokens : Int
  completionTokens : Int
  cacheTokens : Int
  cacheCreationTokens : Int
  cacheCreationTokens5m : Int
  cacheCreationTokens1h : Int
  imageTokens : Int
  audioTokens : Int

def Usage.textTokens (u : Usage) : TextTokens where
  promptTokens := u.promptTokens
  completionTokens := u.completionTokens
  cacheTokens := u.promptTokensDetails.cachedTokens
  cacheCreationTokens := u.promptTokensDetails.cacheCreationTokensTotal
  cacheCreationTokens5m := u.claudeCacheCreation5mTokens
  cacheCreationTokens1h := u.claudeCacheCreation1hTokens
  imageTokens := u.promptTokensDetails.imageTokens
  audioTokens := u.promptTokensDetails.audioTokens

def hasCustomModelRatio (cfg : TextSettings) (modelName : String) (currentRatio : ℚ) : Bool :=
  match cfg.defaultModelRatio modelName with
  | none => true
  | some defaultRatio => currentRatio ≠ defaultRatio

/-- The cache writes that explain what OpenRouter charged. -/
def calcOpenRouterCacheCreateTokens (cfg : TextSettings) (u : Usage) (p : PriceData) : Int :=
  if p.cacheCreationRatio = 1 then 0
  else
    let quotaPrice := p.modelRatio / cfg.quotaPerUnit
    let cost := match u.cost with
      | .float x => x
      | _ => 0
    roundHalfAway ((cost - u.promptTokens * quotaPrice
        + u.promptTokensDetails.cachedTokens * (quotaPrice - quotaPrice * p.cacheRatio)
        - u.completionTokens * (quotaPrice * p.completionRatio))
      / (quotaPrice * p.cacheCreationRatio - quotaPrice))

/-- OpenRouter counts cache reads and writes into a Claude prompt. -/
def openRouterTokens (cfg : TextSettings) (req : TextRequest) (u : Usage) (t : TextTokens) :
    TextTokens :=
  let p := req.priceData
  let promptTokens := t.promptTokens - t.cacheTokens
  let isUsingCustomSettings := p.usePrice || hasCustomModelRatio cfg req.originModelName p.modelRatio
  let maybeCacheCreationTokens := calcOpenRouterCacheCreateTokens cfg u p
  let cacheCreationTokens :=
    -- usage.Cost is an `any`: a float, zero or not, is not the integer 0
    if t.cacheCreationTokens = 0 ∧ p.cacheCreationRatio ≠ 1 ∧ u.cost ≠ .int 0
        ∧ isUsingCustomSettings = false ∧ 0 ≤ maybeCacheCreationTokens
        ∧ maybeCacheCreationTokens ≤ promptTokens then
      maybeCacheCreationTokens
    else t.cacheCreationTokens
  { t with
    promptTokens := promptTokens - cacheCreationTokens
    cacheCreationTokens := cacheCreationTokens }

def PriceData.applyOtherRatiosToDecimal (p : PriceData) (value : ℚ) : ℚ :=
  p.otherRatios.foldl (fun value ratio => if 0 < ratio ∧ ratio ≠ 1 then value * ratio else value)
    value

/-- The quota by ratio; `inclusive` says that the prompt count includes what the
cache has read and written. -/
def ratioQuota (cfg : TextSettings) (req : TextRequest) (t : TextTokens) (inclusive : Bool)
    (toolCallSurchargeQuota : ℚ) : Int :=
  let p := req.priceData
  let ratio := p.modelRatio * p.groupRatio
  let cachedTokensWithRatio := t.cacheTokens * p.cacheRatio
  let cacheWrites := t.cacheCreationTokens ≠ 0 ∨ 0 < t.cacheCreationTokens5m
    ∨ 0 < t.cacheCreationTokens1h
  let remaining :=
    max 0 (t.cacheCreationTokens - t.cacheCreationTokens5m - t.cacheCreationTokens1h)
  let cachedCreationTokensWithRatio : ℚ :=
    if ¬ cacheWrites then 0
    else if inclusive then t.cacheCreationTokens * p.cacheCreationRatio
    else remaining * p.cacheCreationRatio + t.cacheCreationTokens5m * p.cacheCreation5mRatio
      + t.cacheCreationTokens1h * p.cacheCreation1hRatio
  let audioInputPrice :=
    if t.audioTokens = 0 then 0 else getGeminiInputAudioPricePerMillionTokens req.originModelName
  let audioInputQuota :=
    if 0 < audioInputPrice then
      decimalDiv audioInputPrice 1000000 * t.audioTokens * p.groupRatio * cfg.quotaPerUnit
    else 0
  let baseTokens := t.promptTokens
    - (if inclusive then t.cacheTokens else 0)
    - (if inclusive then t.cacheCreationTokens else 0)
    - t.imageTokens
    - (if 0 < audioInputPrice then t.audioTokens else 0)
  let promptQuota := ((max 0 baseTokens : Int) : ℚ) + cachedTokensWithRatio
    + t.imageTokens * p.imageRatio + cachedCreationTokensWithRatio
  let completionQuota := t.completionTokens * p.completionRatio
  let quota := p.applyOtherRatiosToDecimal
    ((promptQuota + completionQuota) * ratio + toolCallSurchargeQuota + audioInputQuota)
  quotaFromDecimal (if ratio ≠ 0 ∧ quota ≤ 0 then 1 else quota)

/-- The quota by price. -/
def priceQuota (cfg : TextSettings) (req : TextRequest) (toolCallSurchargeQuota : ℚ) : Int :=
  let p := req.priceData
  quotaFromDecimal (p.applyOtherRatiosToDecimal
    (p.modelPrice * cfg.quotaPerUnit * p.groupRatio + toolCallSurchargeQuota))

structure TextQuotaSummary where
  promptTokens : Int
  completionTokens : Int
  totalTokens : Int
  isClaudeUsageSemantic : Bool
  toolCallSurchargeQuota : ℚ
  quota : Int

/-- What stands in for a usage that was not reported. -/
def TextRequest.estimatedUsage (req : TextRequest) : Usage :=
  { promptTokens := req.estimatePromptTokens, totalTokens := req.estimatePromptTokens }

def calculateTextQuotaSummary (cfg : TextSettings) (req : TextRequest) (usage : Option Usage) :
    TextQuotaSummary :=
  let isClaudeUsageSemantic := usageSemanticFromUsage req usage = "anthropic"
  let u := usage.getD req.estimatedUsage
  let totalTokens := u.promptTokens + u.completionTokens
  let inclusive := !isClaudeUsageSemantic && !isLegacyClaudeDerivedOpenAIUsage req u
  let t := if req.channelType = some 20 ∧ isClaudeUsageSemantic then
      openRouterTokens cfg req u u.textTokens
    else u.textTokens
  let surcharge := calculateTextToolCallSurcharge cfg req
  let quota := if req.priceData.usePrice then priceQuota cfg req surcharge
    else ratioQuota cfg req t inclusive surcharge
  { promptTokens := t.promptTokens
    completionTokens := t.completionTokens
    totalTokens := totalTokens
    isClaudeUsageSemantic := isClaudeUsageSemantic
    toolCallSurchargeQuota := surcharge
    quota :=
      if totalTokens = 0 then 0
      else if req.priceData.modelRatio * req.priceData.groupRatio ≠ 0 ∧ quota = 0 then 1
      else quota }

/-! ## The tiered mode -/

structure TieredResult where
  actualQuotaBeforeGroup : ℚ
  actualQuotaAfterGroup : Int

/-- Prices are in dollars for a million tokens. -/
def quotaConversion (exprOutput : ℚ) (snap : BillingSnapshot) : ℚ :=
  exprOutput / 1000000 * snap.quotaPerUnit

def computeTieredQuotaWithRequest (cfg : TextSettings) (snap : BillingSnapshot)
    (params : TokenParams) (request : RequestInput) : Option TieredResult :=
  match cfg.runExprByHashWithRequest snap.exprString snap.exprHash params request with
  | none => none
  | some cost =>
    let quotaBeforeGroup := quotaConversion cost snap
    some ⟨quotaBeforeGroup, quotaFromDecimal (quotaBeforeGroup * snap.groupRatio)⟩

/-- The snapshot, if the request is billed by it. -/
def TextRequest.tieredSnapshot (req : TextRequest) : Option BillingSnapshot :=
  req.tieredBillingSnapshot.filter (fun snap => snap.billingMode = "tiered_expr")

def tryTieredSettle (cfg : TextSettings) (req : TextRequest) (finalPreConsumedQuota : Int)
    (params : TokenParams) : Option (Int × Option TieredResult) :=
  match req.tieredSnapshot with
  | none => none
  | some snap =>
    match computeTieredQuotaWithRequest cfg snap params (req.billingRequestInput.getD {}) with
    | none =>
      some (if finalPreConsumedQuota ≤ 0 then snap.estimatedQuotaAfterGroup
        else finalPreConsumedQuota, none)
    | some tr => some (tr.actualQuotaAfterGroup, some tr)

def composeTieredTextQuota (req : TextRequest) (toolCallSurchargeQuota : ℚ) (tieredQuota : Int)
    (tieredResult : Option TieredResult) : Int :=
  if toolCallSurchargeQuota = 0 then tieredQuota
  else
    match tieredResult, req.tieredBillingSnapshot with
    | some tr, some snap =>
      quotaFromDecimal (tr.actualQuotaBeforeGroup * snap.groupRatio + toolCallSurchargeQuota)
    | _, _ => quotaFromDecimal (tieredQuota + toolCallSurchargeQuota)

/-- What the expression sees of a usage. -/
def TextRequest.tieredTokenParams (cfg : TextSettings) (req : TextRequest) (u : Usage) :
    TokenParams :=
  let usedVars (name : String) : Bool :=
    match req.tieredBillingSnapshot with
    | some snap => cfg.usedVars snap.exprString name
    | none => false
  buildTieredTokenParams u (usageSemanticFromUsage req (some u) = "anthropic") usedVars

/-! ## The settlement of a text request -/

/-- The summary as it is settled. -/
def textQuotaSummary (cfg : TextSettings) (req : TextRequest) (finalPreConsumedQuota : Int)
    (usage : Option UpstreamUsage) : TextQuotaSummary :=
  let billingUsage := usage.map effectiveBillingUsage
  let summary := calculateTextQuotaSummary cfg req billingUsage
  match billingUsage with
  | none => summary
  | some u =>
    match tryTieredSettle cfg req finalPreConsumedQuota (req.tieredTokenParams cfg u) with
    | none => summary
    | some (tieredQuota, tieredResult) =>
      { summary with
        quota := composeTieredTextQuota req summary.toolCallSurchargeQuota tieredQuota
          tieredResult }

/-- The counters, those waiting in the batch stores included. -/
structure QuotaCounters where
  usedQuota : Nat → Int
  requestCount : Nat → Int
  channelUsedQuota : Nat → Int

def QuotaCounters.updateUserUsedQuotaAndRequestCount (s : QuotaCounters) (userId : Nat)
    (quota : Int) : QuotaCounters :=
  { s with
    usedQuota := Function.update s.usedQuota userId (s.usedQuota userId + quota)
    requestCount := Function.update s.requestCount userId (s.requestCount userId + 1) }

def QuotaCounters.updateChannelUsedQuota (s : QuotaCounters) (channelId : Nat) (quota : Int) :
    QuotaCounters :=
  { s with
    channelUsedQuota :=
      Function.update s.channelUsedQuota channelId (s.channelUsedQuota channelId + quota) }

structure ConsumeLog where
  userId : Nat
  channelId : Nat
  tokenId : Nat
  promptTokens : Int
  completionTokens : Int
  modelName : String
  quota : Int

def gizmoModelName (model : String) : String :=
  if "gpt-4-gizmo".toList.isPrefixOf model.toList then "gpt-4-gizmo-*"
  else if "gpt-4o-gizmo".toList.isPrefixOf model.toList then "gpt-4o-gizmo-*"
  else model

/-- What a settled request leaves behind. -/
structure TextOutcome where
  db : DB
  counters : QuotaCounters
  /-- the entry of the consume log, unless the log is off -/
  log : Option ConsumeLog

/-- A settlement that fails is only logged. -/
def postTextConsumeQuota (env : Env) (a : Answers) (cfg : TextSettings) (req : TextRequest)
    (usage : Option UpstreamUsage) (st : Submission) (counters : QuotaCounters) (db : DB) :
    TextOutcome :=
  let summary := textQuotaSummary cfg req st.info.finalPreConsumedQuota usage
  { db := (settleBilling env a summary.quota st db).2.2
    counters :=
      if summary.totalTokens = 0 then counters
      else (counters.updateUserUsedQuotaAndRequestCount st.info.userId
        summary.quota).updateChannelUsedQuota req.channelId summary.quota
    log :=
      if cfg.logConsumeEnabled then
        some ⟨st.info.userId, req.channelId, st.info.tokenId, summary.promptTokens,
          summary.completionTokens, gizmoModelName req.originModelName, summary.quota⟩
      else none }

/-- What a request meets before it is settled: its price, and the reserves made
for it. -/
structure TextOpening where
  freeModel : Bool := false
  /-- `relayInfo.QuotaClamp` is set: the price did not fit. -/
  clamped : Bool := false
  quotaToPreConsume : Int
  answers : OpenAnswers := {}
  reserves : List (Int × Answers) := []

/-- The request, unless the pre-consume refuses it. -/
def openTextRequest (env : Env) (o : TextOpening) (info : RelayInfo) (db : DB) :
    Option (Submission × DB) :=
  if o.freeModel then some (⟨info, none⟩, db)
  else
    match preConsumeBilling env o.answers o.clamped o.quotaToPreConsume info db with
    | (none, _) => none
    | (some s, db₁) =>
      let r := reserveAll env o.reserves s db₁
      some (⟨r.1.relayInfo, some r.1⟩, r.2)

/-- The writes that undo a pre-consume or a reserve go through. -/
structure TextOpening.RollsBack (o : TextOpening) : Prop where
  wallet : o.answers.wallet.rollback = false
  subscription : o.answers.subscription.rollback = false
  reserves : ∀ c ∈ o.reserves, c.2.rollback = false

/-- The four amounts are one: what the funding source has been charged since
`before`, what the two counters have added, and what the log says. -/
structure ChargeAgrees (env : Env) (before : DB) (req : TextRequest) (st : Submission)
    (counters : QuotaCounters) (out : TextOutcome) : Prop where
  user : out.counters.usedQuota st.info.userId - counters.usedQuota st.info.userId
    = taken env before.books out.db.books st.source
  channel : out.counters.channelUsedQuota req.channelId - counters.channelUsedQuota req.channelId
    = taken env before.books out.db.books st.source
  log : ∀ entry ∈ out.log, entry.quota = taken env before.books out.db.books st.source

/-! ## Requests without tokens -/

/-- The tokens of a request, as it is billed. -/
def TextRequest.totalTokens (req : TextRequest) (usage : Option UpstreamUsage) : Int :=
  match usage with
  | none => req.estimatePromptTokens
  | some u => (effectiveBillingUsage u).promptTokens + (effectiveBillingUsage u).completionTokens

/-- What a request costs by its tiered expression, tool calls included, before it
is rounded; where the expression fails, what was pre-consumed or estimated. -/
def TextRequest.tieredCost (cfg : TextSettings) (req : TextRequest) (finalPreConsumedQuota : Int)
    (usage : Option UpstreamUsage) : Option ℚ :=
  match usage, req.tieredSnapshot with
  | some u, some snap =>
    let cost :=
      match cfg.runExprByHashWithRequest snap.exprString snap.exprHash
        (req.tieredTokenParams cfg (effectiveBillingUsage u))
        (req.billingRequestInput.getD {}) with
      | some cost => cost / 1000000 * snap.quotaPerUnit * snap.groupRatio
      | none => ((if finalPreConsumedQuota ≤ 0 then snap.estimatedQuotaAfterGroup
          else finalPreConsumedQuota : Int) : ℚ)
    some (cost + calculateTextToolCallSurcharge cfg req)
  | _, _ => none

theorem roundHalfAway_eq_zero_iff (x : ℚ) : roundHalfAway x = 0 ↔ |x| < 1 / 2 := by
  unfold roundHalfAway
  by_cases hx : 0 ≤ x
  · rw [if_pos hx, Int.floor_eq_zero_iff, Set.mem_Ico, abs_of_nonneg hx]
    constructor
    · rintro ⟨-, hlt⟩
      linarith
    · intro hlt
      exact ⟨by linarith, by linarith⟩
  · have hneg : x < 0 := not_le.mp hx
    rw [if_neg hx, Int.ceil_eq_zero_iff, Set.mem_Ioc, abs_of_neg hneg]
    constructor
    · rintro ⟨hlt, -⟩
      linarith
    · intro hlt
      exact ⟨by linarith, by linarith⟩

theorem quotaFromDecimal_eq_zero_iff (d : ℚ) : quotaFromDecimal d = 0 ↔ |d| < 1 / 2 := by
  have hsaturate : ∀ value, saturateQuota value = 0 ↔ value = 0 := by
    intro value
    unfold saturateQuota
    split
    · omega
    split <;> omega
  rw [quotaFromDecimal, hsaturate, roundHalfAway_eq_zero_iff]

theorem intCast_eq_zero_iff (n : Int) : n = 0 ↔ |(n : ℚ)| < 1 / 2 := by
  constructor
  · rintro rfl
    norm_num
  · intro h
    have hlt : |(n : ℚ)| < 1 := lt_trans h (by norm_num)
    have hint : |n| < 1 := by exact_mod_cast hlt
    exact Int.abs_lt_one_iff.mp hint

variable {req : TextRequest} {cfg : TextSettings}

theorem calculateTextQuotaSummary_quota_zero {usage : Option Usage}
    (h : (calculateTextQuotaSummary cfg req usage).totalTokens = 0) :
    (calculateTextQuotaSummary cfg req usage).quota = 0 := by
  unfold calculateTextQuotaSummary at h ⊢
  simp only at h ⊢
  rw [if_pos h]

theorem textQuotaSummary_totalTokens (cfg : TextSettings) (req : TextRequest)
    (finalPreConsumedQuota : Int) (usage : Option UpstreamUsage) :
    (textQuotaSummary cfg req finalPreConsumedQuota usage).totalTokens = req.totalTokens usage := by
  cases usage with
  | none => simp [textQuotaSummary, calculateTextQuotaSummary, TextRequest.totalTokens,
      TextRequest.estimatedUsage]
  | some u =>
    simp only [textQuotaSummary, Option.map_some]
    split
    · rfl
    · rfl

theorem composeTieredTextQuota_eq_zero_iff {finalPreConsumedQuota tieredQuota : Int}
    {u : UpstreamUsage} {tieredResult : Option TieredResult}
    (h : tryTieredSettle cfg req finalPreConsumedQuota
      (req.tieredTokenParams cfg (effectiveBillingUsage u)) = some (tieredQuota, tieredResult)) :
    composeTieredTextQuota req (calculateTextToolCallSurcharge cfg req) tieredQuota tieredResult = 0
      ↔ ∀ x ∈ req.tieredCost cfg finalPreConsumedQuota (some u), |x| < 1 / 2 := by
  unfold tryTieredSettle at h
  unfold TextRequest.tieredCost composeTieredTextQuota
  cases hsnap : req.tieredSnapshot with
  | none => rw [hsnap] at h; cases h
  | some snap =>
    rw [hsnap] at h
    have hreq : req.tieredBillingSnapshot = some snap := (Option.filter_eq_some_iff.mp hsnap).1
    simp only [computeTieredQuotaWithRequest] at h
    cases hrun : cfg.runExprByHashWithRequest snap.exprString snap.exprHash
      (req.tieredTokenParams cfg (effectiveBillingUsage u)) (req.billingRequestInput.getD {}) with
    | none =>
      simp only [hrun, Option.some.injEq, Prod.mk.injEq] at h
      obtain ⟨rfl, rfl⟩ := h
      simp only [Option.mem_def, Option.some.injEq, forall_eq', hrun]
      split
      · rename_i hzero
        rw [hzero, add_zero]
        exact intCast_eq_zero_iff _
      · exact quotaFromDecimal_eq_zero_iff _
    | some cost =>
      simp only [hrun, Option.some.injEq, Prod.mk.injEq] at h
      obtain ⟨rfl, rfl⟩ := h
      simp only [Option.mem_def, Option.some.injEq, forall_eq', hrun, hreq, quotaConversion]
      split
      · rename_i hzero
        rw [hzero, add_zero]
        exact quotaFromDecimal_eq_zero_iff _
      · exact quotaFromDecimal_eq_zero_iff _

theorem textQuotaSummary_quota_eq_zero_iff {finalPreConsumedQuota : Int}
    {usage : Option UpstreamUsage} (htotal : req.totalTokens usage = 0) :
    (textQuotaSummary cfg req finalPreConsumedQuota usage).quota = 0
      ↔ ∀ x ∈ req.tieredCost cfg finalPreConsumedQuota usage, |x| < 1 / 2 := by
  have hzero : (calculateTextQuotaSummary cfg req (usage.map effectiveBillingUsage)).quota = 0 := by
    refine calculateTextQuotaSummary_quota_zero ?_
    cases usage with
    | none => simpa [calculateTextQuotaSummary, TextRequest.estimatedUsage,
        TextRequest.totalTokens] using htotal
    | some u => exact htotal
  cases usage with
  | none => simpa [textQuotaSummary, TextRequest.tieredCost] using hzero
  | some u =>
    simp only [textQuotaSummary, Option.map_some]
    cases htry : tryTieredSettle cfg req finalPreConsumedQuota
      (req.tieredTokenParams cfg (effectiveBillingUsage u)) with
    | none =>
      have hsnap : req.tieredSnapshot = none := by
        unfold tryTieredSettle at htry
        cases hs : req.tieredSnapshot with
        | none => rfl
        | some snap =>
          rw [hs] at htry
          simp only at htry
          split at htry <;> cases htry
      simpa [TextRequest.tieredCost, hsnap] using hzero
    | some p => exact composeTieredTextQuota_eq_zero_iff htry

/-! ## Charged and counted -/

theorem openTextRequest_prepaid {env : Env} {o : TextOpening} {info : RelayInfo} {before db : DB}
    {st : Submission} (hwf : before.WF) (hfresh : info.Fresh before) (hroll : o.RollsBack)
    (h : openTextRequest env o info before = some (st, db)) : Prepaid env before st db := by
  unfold openTextRequest at h
  split at h
  · cases h
    exact ⟨rfl, hfresh⟩
  rcases hpre : preConsumeBilling env o.answers o.clamped o.quotaToPreConsume info before with
    ⟨_ | s, db₁⟩
  · rw [hpre] at h
    cases h
  · rw [hpre] at h
    cases h
    have hopened : Submitted env before ⟨s.relayInfo, some s⟩ db₁ :=
      preConsumeBilling_submitted hwf hroll.wallet hroll.subscription hfresh hpre
    obtain ⟨info', hbal⟩ := hopened.prepaid
    exact ⟨info', reserveAll_balanced hroll.reserves hbal⟩

/-- **Charged and counted quota agree**, for a request whose settlement the
funding source takes in full, exactly if the request has tokens or its tiered
price comes to nothing. -/
theorem textCharge_agrees_iff {env : Env} {a : Answers} {cfg : TextSettings} {req : TextRequest}
    {usage : Option UpstreamUsage} {o : TextOpening} {info : RelayInfo} {st : Submission}
    {counters : QuotaCounters} {before db : DB} (hwf : before.WF) (hfresh : info.Fresh before)
    (hroll : o.RollsBack) (hopen : openTextRequest env o info before = some (st, db))
    (hsettled : SettlementTaken env a
      (textQuotaSummary cfg req st.info.finalPreConsumedQuota usage).quota st db) :
    ChargeAgrees env before req st counters
        (postTextConsumeQuota env a cfg req usage st counters db)
      ↔ req.totalTokens usage ≠ 0
        ∨ ∀ x ∈ req.tieredCost cfg st.info.finalPreConsumedQuota usage, |x| < 1 / 2 := by
  have hprepaid := openTextRequest_prepaid hwf hfresh hroll hopen
  have htotal := textQuotaSummary_totalTokens cfg req st.info.finalPreConsumedQuota usage
  have htaken : taken env before.books
      (postTextConsumeQuota env a cfg req usage st counters db).db.books st.source
        = (textQuotaSummary cfg req st.info.finalPreConsumedQuota usage).quota :=
    ((settleBilling_settles hprepaid).holds (settlementTaken_iff.mp hsettled)).taken_eq
  have hlog : ∀ entry ∈ (postTextConsumeQuota env a cfg req usage st counters db).log,
      entry.quota = (textQuotaSummary cfg req st.info.finalPreConsumedQuota usage).quota := by
    intro entry hentry
    simp only [postTextConsumeQuota] at hentry
    split at hentry
    · obtain rfl := Option.some.inj hentry
      rfl
    · cases hentry
  by_cases hzero : req.totalTokens usage = 0
  · have hcounters : (postTextConsumeQuota env a cfg req usage st counters db).counters
        = counters := by
      simp only [postTextConsumeQuota]
      rw [if_pos (htotal.trans hzero)]
    have hfree : ChargeAgrees env before req st counters
        (postTextConsumeQuota env a cfg req usage st counters db)
          ↔ (textQuotaSummary cfg req st.info.finalPreConsumedQuota usage).quota = 0 := by
      constructor
      · intro h
        have huser := h.user
        rw [hcounters, htaken] at huser
        omega
      · intro hquota
        rw [hquota] at htaken hlog
        exact ⟨by rw [hcounters, htaken]; omega, by rw [hcounters, htaken]; omega,
          by rw [htaken]; exact hlog⟩
    rw [hfree, textQuotaSummary_quota_eq_zero_iff hzero]
    simp [hzero]
  · refine iff_of_true ⟨?_, ?_, by rw [htaken]; exact hlog⟩ (Or.inl hzero)
    · rw [htaken]
      simp [postTextConsumeQuota, htotal, hzero, QuotaCounters.updateUserUsedQuotaAndRequestCount,
        QuotaCounters.updateChannelUsedQuota]
    · rw [htaken]
      simp [postTextConsumeQuota, htotal, hzero, QuotaCounters.updateUserUsedQuotaAndRequestCount,
        QuotaCounters.updateChannelUsedQuota]

/-! A user with 100 in the wallet, on a model that costs one unit for a token of
the prompt and four for one of the answer, or 40 for a call. -/

def textDemo : TextSettings where
  quotaPerUnit := 500000
  toolPriceForModel _ _ := 10
  defaultModelRatio _ := none
  logConsumeEnabled := true
  usedVars _ _ := false
  runExprByHashWithRequest expr _ _ _ := if expr = "tier(\"call\", 80)" then some 80 else none

def textDemoRequest (snap : Option BillingSnapshot) : TextRequest where
  channelId := 5
  channelType := some 1
  originModelName := "gpt-4o"
  finalRequestRelayFormat := ""
  requestConversionChain := []
  relayFormat := "openai"
  estimatePromptTokens := 10
  priceData := ⟨0, 1, 4, 1 / 2, 1, 1, 1, 1, false, 1, []⟩
  responsesUsageInfo := none
  claudeWebSearchRequests := 0
  imageGenerationCall := none
  tieredBillingSnapshot := snap
  billingRequestInput := none

def callSnapshot : BillingSnapshot :=
  ⟨"tiered_expr", "tier(\"call\", 80)", "", 1, 40, 500000⟩

def noCounters : QuotaCounters := ⟨fun _ => 0, fun _ => 0, fun _ => 0⟩

/-- The request with 10 pre-consumed. -/
def textDemoSubmission : Submission := ⟨walletSession.relayInfo, some walletSession⟩

def textDemoDB : DB := (newBillingSession openEnv {} walletInfo 10 (fundedDB 100)).2

theorem walletInfo_fresh (w : Int) : walletInfo.Fresh (fundedDB w) :=
  ⟨rfl, rfl, by show findRecord openDB.records "r2" = none; decide⟩

theorem textDemo_opened :
    openTextRequest openEnv { quotaToPreConsume := 10 } walletInfo (fundedDB 100)
      = some (textDemoSubmission, textDemoDB) := rfl

theorem textDemo_agrees :
    ChargeAgrees openEnv (fundedDB 100) (textDemoRequest none) textDemoSubmission noCounters
        (postTextConsumeQuota openEnv {} textDemo (textDemoRequest none)
          (some ⟨{ promptTokens := 10, completionTokens := 5 }, none⟩) textDemoSubmission
          noCounters textDemoDB) ∧
      (textQuotaSummary textDemo (textDemoRequest none)
        textDemoSubmission.info.finalPreConsumedQuota
        (some ⟨{ promptTokens := 10, completionTokens := 5 }, none⟩)).quota = 30 := by
  refine ⟨?_, by decide +kernel⟩
  have hroll : TextOpening.RollsBack { quotaToPreConsume := 10 } :=
    ⟨rfl, rfl, fun c hc => absurd hc List.not_mem_nil⟩
  refine (textCharge_agrees_iff (fundedDB_wf 100) (walletInfo_fresh 100) hroll
    textDemo_opened ?_).mpr (Or.inl (by decide))
  show _ ∨ _
  decide +kernel

/-- A call that brought no tokens is charged 40 by its expression, and logged,
but counted nowhere. -/
theorem tokenless_call_not_counted :
    openTextRequest openEnv { quotaToPreConsume := 10 } walletInfo (fundedDB 100)
        = some (textDemoSubmission, textDemoDB) ∧
      let out := postTextConsumeQuota openEnv {} textDemo (textDemoRequest (some callSnapshot))
        (some ⟨{}, none⟩) textDemoSubmission noCounters textDemoDB
      taken openEnv (fundedDB 100).books out.db.books textDemoSubmission.source = 40
        ∧ out.log.map ConsumeLog.quota = some 40
        ∧ out.counters.usedQuota 7 = 0 ∧ out.counters.channelUsedQuota 5 = 0
        ∧ ¬ ChargeAgrees openEnv (fundedDB 100) (textDemoRequest (some callSnapshot))
          textDemoSubmission noCounters out := by
  refine ⟨textDemo_opened, ?_⟩
  intro out
  have htaken : taken openEnv (fundedDB 100).books out.db.books textDemoSubmission.source
      = 40 := by
    decide +kernel
  have hused : out.counters.usedQuota 7 = 0 := by
    decide
  refine ⟨htaken, by decide +kernel, hused, by decide +kernel, ?_⟩
  intro h
  have huser : out.counters.usedQuota 7 - 0 = _ := h.user
  rw [htaken, hused] at huser
  cases huser

end YouBox
