import YouBox.PriceHelper
import YouBox.RelayPath

/-!
# Token limits of a request and what is estimated for them

A client bounds the tokens of an answer under a name of its format's own. The
validation refuses a bound over half of the largest `int32`, so that the
conversion to `int` never wraps (`intOfUint_limit`); pricing then adds the bound
to the prompt, or to the option `PreConsumedQuota` where that is larger, and
multiplies the sum by the ratios.

The option is the one operand of the sum that nothing bounds. The estimate is in
range and grows with the bound exactly as long as the option and the bound add
up within a word (`estimate_sound_iff`).
-/

namespace YouBox

/-! ## The requests, as the body decodes -/

/-- A value of any type: nothing, a text, or something else. -/
inductive AnyValue (V : Type) where
  | absent
  | text (s : String)
  | other (v : V)

variable {V : Type}

structure GeneralOpenAIRequest (V : Type) where
  model : String
  messages : List V := []
  prompt : AnyValue V := .absent
  pre : AnyValue V := .absent
  suffix : AnyValue V := .absent
  maxTokens : Option UInt64 := none
  maxCompletionTokens : Option UInt64 := none
  input : AnyValue V := .absent
  instruction : String := ""
  /-- `WebSearchOptions.SearchContextSize` -/
  webSearchContextSize : Option String := none

structure ClaudeRequest (V : Type) where
  model : String
  messages : List V
  maxTokens : Option UInt64
  maxTokensToSample : Option UInt64

structure OpenAIResponsesRequest (V : Type) where
  model : String
  input : Option V
  maxOutputTokens : Option UInt64

structure GeminiChatRequest (V : Type) where
  requests : List V
  contents : List V
  /-- `GenerationConfig.MaxOutputTokens` -/
  maxOutputTokens : Option UInt64

/-- The two spellings of the bound in a Gemini body. -/
structure GeminiChatBody (V : Type) where
  requests : List V
  contents : List V
  maxOutputTokens : Option UInt64
  maxOutputTokensSnake : Option UInt64

/-- `UnmarshalJSON` of the generation configuration. -/
def GeminiChatBody.unmarshalJSON (b : GeminiChatBody V) : GeminiChatRequest V where
  requests := b.requests
  contents := b.contents
  maxOutputTokens := b.maxOutputTokensSnake.or b.maxOutputTokens

/-- `Content.Parts`. -/
structure GeminiEmbeddingRequest (V : Type) where
  parts : List V

inductive Request (V : Type) where
  | openAI (r : GeneralOpenAIRequest V)
  | claude (r : ClaudeRequest V)
  | responses (r : OpenAIResponsesRequest V)
  | gemini (r : GeminiChatRequest V)
  | geminiEmbedding (r : GeminiEmbeddingRequest V)
  | geminiBatchEmbedding (r : List (Option (GeminiEmbeddingRequest V)))

/-- What the decoder makes of a body at each type, and the rest of the HTTP
request. -/
structure IncomingRequest (V : Type) where
  path : String
  /-- `c.Param("model")` -/
  modelParam : String := ""
  openAI : Except String (GeneralOpenAIRequest V)
  claude : Except String (ClaudeRequest V)
  responses : Except String (OpenAIResponsesRequest V)
  gemini : Except String (GeminiChatBody V)
  geminiEmbedding : Except String (GeminiEmbeddingRequest V)
  geminiBatchEmbedding : Except String (List (Option (GeminiEmbeddingRequest V)))

inductive RelayFormat where
  | openAI
  | claude
  | gemini
  | openAIResponses
deriving DecidableEq

/-! ## Validation -/

/-- `math.MaxInt32 / 2`. -/
def maxTokensLimit : Nat := 1073741823

def exceedsMaxTokensLimit (values : List (Option UInt64)) : Bool :=
  values.any fun v => decide (maxTokensLimit < (v.getD 0).toNat)

/-- The body, unless it does not decode or a check fails. -/
def validated {α : Type} (body : Except String α) (check : α → Option String) :
    Except String α :=
  match body with
  | .error err => .error err
  | .ok request =>
    match check request with
    | some err => .error err
    | none => .ok request

def getAndValidateResponsesRequest (c : IncomingRequest V) :
    Except String (OpenAIResponsesRequest V) :=
  validated c.responses fun request =>
    if request.model = "" then some "model is required"
    else if request.input.isNone then some "input is required"
    else if exceedsMaxTokensLimit [request.maxOutputTokens] then
      some "max_output_tokens is invalid"
    else none

def getAndValidateClaudeRequest (c : IncomingRequest V) : Except String (ClaudeRequest V) :=
  validated c.claude fun textRequest =>
    if textRequest.messages.isEmpty then some "field messages is required"
    else if textRequest.model = "" then some "field model is required"
    else if exceedsMaxTokensLimit [textRequest.maxTokens, textRequest.maxTokensToSample] then
      some "max_tokens is invalid"
    else none

/-- What the relay mode asks of a text request. -/
def checkRelayMode (relayMode : RelayMode) (r : GeneralOpenAIRequest V) : Option String :=
  match relayMode with
  | .completions =>
    -- a prompt that is missing is not the empty text
    match r.prompt with
    | .text "" => some "field prompt is required"
    | _ => none
  | .chatCompletions =>
    match r.messages, r.pre, r.suffix with
    | [], .absent, .absent => some "field messages is required"
    | _, _, _ => none
  | .moderations =>
    match r.input with
    | .absent | .text "" => some "field input is required"
    | _ => none
  | .edits => if r.instruction = "" then some "field instruction is required" else none
  | _ => none

/-- The models a text request may leave out. -/
def GeneralOpenAIRequest.withModel (r : GeneralOpenAIRequest V) (relayMode : RelayMode)
    (modelParam : String) : GeneralOpenAIRequest V :=
  if r.model ≠ "" then r
  else if relayMode = .moderations then { r with model := "text-moderation-latest" }
  else if relayMode = .embeddings then { r with model := modelParam }
  else r

def GeneralOpenAIRequest.withSearchContextSize (r : GeneralOpenAIRequest V) :
    GeneralOpenAIRequest V :=
  { r with
    webSearchContextSize :=
      r.webSearchContextSize.map fun size => if size = "" then "medium" else size }

def getAndValidateTextRequest (c : IncomingRequest V) (relayMode : RelayMode) :
    Except String (GeneralOpenAIRequest V) :=
  let body := c.openAI.map fun r => r.withModel relayMode c.modelParam
  (validated body fun r =>
    if exceedsMaxTokensLimit [r.maxTokens, r.maxCompletionTokens] then some "max_tokens is invalid"
    else if r.model = "" then some "model is required"
    else if r.webSearchContextSize.any fun size =>
        size ≠ "" ∧ size ∉ ["high", "medium", "low"] then
      some "invalid search_context_size, must be one of: high, medium, low"
    else checkRelayMode relayMode r).map GeneralOpenAIRequest.withSearchContextSize

def getAndValidateGeminiRequest (c : IncomingRequest V) : Except String (GeminiChatRequest V) :=
  validated (c.gemini.map GeminiChatBody.unmarshalJSON) fun request =>
    if request.contents.isEmpty ∧ request.requests.isEmpty then some "contents is required"
    else if exceedsMaxTokensLimit [request.maxOutputTokens] then some "maxOutputTokens is invalid"
    else none

def getAndValidateGeminiEmbeddingRequest (c : IncomingRequest V) :
    Except String (GeminiEmbeddingRequest V) :=
  validated c.geminiEmbedding fun request =>
    if request.parts.isEmpty then some "content.parts is required" else none

/-- The first item of a batch that will not do. -/
def batchItemError : Nat → List (Option (GeminiEmbeddingRequest V)) → Option String
  | _, [] => none
  | i, none :: _ => some ("requests[" ++ toString i ++ "] must not be null")
  | i, some item :: rest =>
    if item.parts.isEmpty then some ("requests[" ++ toString i ++ "].content.parts is required")
    else batchItemError (i + 1) rest

def getAndValidateGeminiBatchEmbeddingRequest (c : IncomingRequest V) :
    Except String (List (Option (GeminiEmbeddingRequest V))) :=
  validated c.geminiBatchEmbedding fun requests =>
    if requests.isEmpty then some "requests is required" else batchItemError 0 requests

def getAndValidateRequest (c : IncomingRequest V) : RelayFormat → Except String (Request V)
  | .openAI => (getAndValidateTextRequest c (path2RelayMode c.path)).map .openAI
  | .gemini =>
    if Strings.contains c.path ":batchEmbedContents" then
      (getAndValidateGeminiBatchEmbeddingRequest c).map .geminiBatchEmbedding
    else if Strings.contains c.path ":embedContent" then
      (getAndValidateGeminiEmbeddingRequest c).map .geminiEmbedding
    else (getAndValidateGeminiRequest c).map .gemini
  | .claude => (getAndValidateClaudeRequest c).map .claude
  | .openAIResponses => (getAndValidateResponsesRequest c).map .responses

/-! ## What is read for pricing -/

/-- `int(x)` of a `uint`. -/
def intOfUint (x : UInt64) : Int := wrap64 x.toNat

/-- The token limit of a text request: the larger of its two. -/
def GeneralOpenAIRequest.tokenLimit (r : GeneralOpenAIRequest V) : UInt64 :=
  let maxTokens := r.maxTokens.getD 0
  let maxCompletionTokens := r.maxCompletionTokens.getD 0
  if maxTokens < maxCompletionTokens then maxCompletionTokens else maxTokens

/-- `GetTokenCountMeta`, as pricing reads it. -/
def Request.getTokenCountMeta : Request V → TokenCountMeta
  | .openAI r => { maxTokens := intOfUint r.tokenLimit }
  | .claude r =>
    { maxTokens := match r.maxTokens with
        | some n => intOfUint n
        | none => 0 }
  | .responses r => { maxTokens := intOfUint (r.maxOutputTokens.getD 0) }
  | .gemini r =>
    { maxTokens := match r.maxOutputTokens with
        | some n => if 0 < n then intOfUint n else 0
        | none => 0 }
  | .geminiEmbedding _ => {}
  | .geminiBatchEmbedding _ => {}

def Request.fastTokenCountMetaForPricing : Request V → TokenCountMeta
  | .openAI r => { maxTokens := intOfUint r.tokenLimit }
  | .responses r => { maxTokens := intOfUint (r.maxOutputTokens.getD 0) }
  | .claude r => { maxTokens := intOfUint (r.maxTokens.getD 0) }
  | _ => {}

/-- The texts are needed for counting tokens and for the sensitive words. -/
def Request.pricingMeta (needText : Bool) (r : Request V) : TokenCountMeta :=
  if needText then r.getTokenCountMeta else r.fastTokenCountMetaForPricing

/-- The limit the client has set, as pricing would read it without wrapping. -/
def Request.tokenLimit : Request V → UInt64
  | .openAI r => r.tokenLimit
  | .claude r => r.maxTokens.getD 0
  | .responses r => r.maxOutputTokens.getD 0
  | .gemini r => r.maxOutputTokens.getD 0
  | .geminiEmbedding _ => 0
  | .geminiBatchEmbedding _ => 0

theorem GeneralOpenAIRequest.tokenLimit_cases (r : GeneralOpenAIRequest V) :
    r.tokenLimit = r.maxTokens.getD 0 ∨ r.tokenLimit = r.maxCompletionTokens.getD 0 := by
  unfold GeneralOpenAIRequest.tokenLimit
  grind

theorem exceedsMaxTokensLimit_false {values : List (Option UInt64)}
    (h : exceedsMaxTokensLimit values = false) :
    ∀ v ∈ values, (v.getD 0).toNat ≤ maxTokensLimit := by
  intro v hv
  have hall := List.any_eq_false.mp h v hv
  simpa using hall

theorem validated_ok {α : Type} {body : Except String α} {check : α → Option String} {r : α}
    (h : validated body check = .ok r) : check r = none := by
  unfold validated at h
  split at h
  · cases h
  · split at h
    · cases h
    · rename_i hcheck
      cases h
      exact hcheck

theorem except_map_ok {α β : Type} {x : Except String α} {f : α → β} {b : β}
    (h : x.map f = .ok b) : ∃ a, x = .ok a ∧ f a = b := by
  cases x with
  | error err => cases h
  | ok a => exact ⟨a, rfl, Except.ok.inj h⟩

variable {r : Request V}

theorem tokenLimit_le {c : IncomingRequest V} {format : RelayFormat}
    (h : getAndValidateRequest c format = .ok r) : r.tokenLimit.toNat ≤ maxTokensLimit := by
  cases format with
  | openAI =>
    obtain ⟨_, hrequest, rfl⟩ := except_map_ok h
    obtain ⟨request, hvalid, rfl⟩ := except_map_ok hrequest
    have hcheck := validated_ok hvalid
    split at hcheck
    · cases hcheck
    rename_i hexceeds
    have hall := exceedsMaxTokensLimit_false (Bool.eq_false_iff.mpr hexceeds)
    show request.tokenLimit.toNat ≤ maxTokensLimit
    rcases request.tokenLimit_cases with hlimit | hlimit
    · rw [hlimit]
      exact hall request.maxTokens (by simp)
    · rw [hlimit]
      exact hall request.maxCompletionTokens (by simp)
  | claude =>
    obtain ⟨request, hvalid, rfl⟩ := except_map_ok h
    have hcheck := validated_ok hvalid
    have hexceeds : exceedsMaxTokensLimit [request.maxTokens, request.maxTokensToSample] = false := by
      grind
    exact exceedsMaxTokensLimit_false hexceeds _ (by simp)
  | gemini =>
    simp only [getAndValidateRequest] at h
    split at h
    · obtain ⟨request, -, rfl⟩ := except_map_ok h
      exact Nat.zero_le _
    split at h
    · obtain ⟨request, -, rfl⟩ := except_map_ok h
      exact Nat.zero_le _
    obtain ⟨request, hvalid, rfl⟩ := except_map_ok h
    have hcheck := validated_ok hvalid
    have hexceeds : exceedsMaxTokensLimit [request.maxOutputTokens] = false := by
      grind
    exact exceedsMaxTokensLimit_false hexceeds _ (by simp)
  | openAIResponses =>
    obtain ⟨request, hvalid, rfl⟩ := except_map_ok h
    have hcheck := validated_ok hvalid
    have hexceeds : exceedsMaxTokensLimit [request.maxOutputTokens] = false := by
      grind
    exact exceedsMaxTokensLimit_false hexceeds _ (by simp)

theorem intOfUint_limit {x : UInt64} (h : x.toNat ≤ maxTokensLimit) : intOfUint x = x.toNat := by
  unfold maxTokensLimit at h
  exact wrap64_of_fits (by omega) (by omega)

/-! ## The estimate -/

/-- `QuotaToPreConsume`. -/
def estimate (s : PriceSettings) (info : PriceInfo) (promptTokens : Int) (tcm : TokenCountMeta) :
    Except PriceError Int :=
  (modelPriceHelper s info promptTokens tcm).map fun priced => priced.priceData.quotaToPreConsume

/-- Ratios and prices that are not negative, and an option that is a word. -/
structure PriceSettings.Nonneg (s : PriceSettings) : Prop where
  group : s.group.Nonneg
  modelPrice : ∀ model price, s.modelPrice model = some price → 0 ≤ price
  modelRatio : ∀ model, 0 ≤ (s.modelRatio model).1
  quotaPerUnit : 0 ≤ s.quotaPerUnit
  preConsumedQuota : -(2 ^ 63) ≤ s.preConsumedQuota ∧ s.preConsumedQuota < 2 ^ 63

/-- One request's pricing: how it was read, the settings and the counts. -/
structure Pricing where
  settings : PriceSettings
  info : PriceInfo
  promptTokens : Int
  needText : Bool
  imagePriceRatio : ℚ
  billingRatios : List (String × ℚ)

/-- The counts of a request, with the image and other ratios. -/
def Pricing.tcm (p : Pricing) (r : Request V) : TokenCountMeta :=
  { r.pricingMeta p.needText with
    imagePriceRatio := p.imagePriceRatio
    billingRatios := p.billingRatios }

def Pricing.estimate (p : Pricing) (r : Request V) : Except PriceError Int :=
  YouBox.estimate p.settings p.info p.promptTokens (p.tcm r)

/-- What pricing may be given: no tiered billing, nothing negative. -/
structure Pricing.Regular (p : Pricing) : Prop where
  settings : p.settings.Nonneg
  untiered : p.settings.billingMode p.info.originModelName ≠ "tiered_expr"
  promptTokens : 0 ≤ p.promptTokens ∧ p.promptTokens ≤ 2 ^ 31 - 1
  imagePriceRatio : 0 ≤ p.imagePriceRatio

/-- The estimate of an accepted request is refused or in range, no word wraps on
the way, and a request of the same format with a smaller limit is not estimated
higher. -/
structure Pricing.Sound (p : Pricing) (format : RelayFormat) (r : Request V) : Prop where
  range : ∀ quota, p.estimate r = .ok quota → 0 ≤ quota ∧ quota < 2147483647
  conversion : intOfUint r.tokenLimit = r.tokenLimit.toNat
  addition : p.settings.modelPrice p.info.originModelName = none →
    preConsumedTokens p.settings p.promptTokens (p.tcm r)
      = max p.promptTokens p.settings.preConsumedQuota + (p.tcm r).maxTokens
  monotone : ∀ (c : IncomingRequest V) smaller quota quota',
    getAndValidateRequest c format = .ok smaller →
    smaller.tokenLimit ≤ r.tokenLimit → p.estimate smaller = .ok quota →
    p.estimate r = .ok quota' → quota ≤ quota'

def Request.format : Request V → RelayFormat
  | .openAI _ => .openAI
  | .claude _ => .claude
  | .responses _ => .openAIResponses
  | .gemini _ => .gemini
  | .geminiEmbedding _ => .gemini
  | .geminiBatchEmbedding _ => .gemini

theorem accepted_format {c : IncomingRequest V} {format : RelayFormat}
    (h : getAndValidateRequest c format = .ok r) : r.format = format := by
  cases format with
  | openAI =>
    obtain ⟨request, -, rfl⟩ := except_map_ok h
    rfl
  | claude =>
    obtain ⟨request, -, rfl⟩ := except_map_ok h
    rfl
  | openAIResponses =>
    obtain ⟨request, -, rfl⟩ := except_map_ok h
    rfl
  | gemini =>
    simp only [getAndValidateRequest] at h
    split at h
    · obtain ⟨request, -, rfl⟩ := except_map_ok h
      rfl
    split at h
    · obtain ⟨request, -, rfl⟩ := except_map_ok h
      rfl
    · obtain ⟨request, -, rfl⟩ := except_map_ok h
      rfl

theorem intOfUint_zero : intOfUint 0 = 0 :=
  wrap64_of_fits (by simp) (by simp)

theorem pricingMeta_maxTokens (needText : Bool) (r : Request V) :
    (r.pricingMeta needText).maxTokens
      = if needText = false ∧ r.format = .gemini then 0 else intOfUint r.tokenLimit := by
  cases needText with
  | false => cases r <;> simp [Request.pricingMeta, Request.fastTokenCountMetaForPricing,
      Request.format, Request.tokenLimit]
  | true =>
    simp only [Request.pricingMeta, if_true, Bool.true_eq_false, false_and, if_false]
    cases r with
    | openAI request => simp only [Request.getTokenCountMeta, Request.tokenLimit]
    | responses request => simp only [Request.getTokenCountMeta, Request.tokenLimit]
    | geminiEmbedding request => exact intOfUint_zero.symm
    | geminiBatchEmbedding request => exact intOfUint_zero.symm
    | claude request =>
      simp only [Request.getTokenCountMeta, Request.tokenLimit]
      cases request.maxTokens with
      | none => exact intOfUint_zero.symm
      | some n => rfl
    | gemini request =>
      simp only [Request.getTokenCountMeta, Request.tokenLimit]
      cases request.maxOutputTokens with
      | none => exact intOfUint_zero.symm
      | some n =>
        simp only [Option.getD_some]
        split
        · rfl
        · rename_i hn
          have hzero : n = 0 := by
            simpa using hn
          rw [hzero, intOfUint_zero]

/-! ## Soundness -/

theorem tcm_maxTokens_range {c : IncomingRequest V} {format : RelayFormat} (p : Pricing)
    (h : getAndValidateRequest c format = .ok r) :
    0 ≤ (p.tcm r).maxTokens ∧ (p.tcm r).maxTokens ≤ maxTokensLimit := by
  have hlimit := tokenLimit_le h
  show 0 ≤ (r.pricingMeta p.needText).maxTokens ∧ (r.pricingMeta p.needText).maxTokens ≤ _
  rw [pricingMeta_maxTokens, intOfUint_limit hlimit]
  split
  · exact ⟨le_rfl, Int.natCast_nonneg _⟩
  · exact ⟨Int.natCast_nonneg _, by exact_mod_cast hlimit⟩

theorem tcm_maxTokens_mono {c c' : IncomingRequest V} {format : RelayFormat} {r' : Request V}
    (p : Pricing) (h : getAndValidateRequest c format = .ok r)
    (h' : getAndValidateRequest c' format = .ok r') (hle : r.tokenLimit ≤ r'.tokenLimit) :
    (p.tcm r).maxTokens ≤ (p.tcm r').maxTokens := by
  show (r.pricingMeta p.needText).maxTokens ≤ (r'.pricingMeta p.needText).maxTokens
  rw [pricingMeta_maxTokens, pricingMeta_maxTokens, intOfUint_limit (tokenLimit_le h),
    intOfUint_limit (tokenLimit_le h'), accepted_format h, accepted_format h']
  split
  · exact le_rfl
  · exact_mod_cast UInt64.le_iff_toNat_le.mp hle

/-- The sum of the estimate is exact. -/
def Pricing.Fits (p : Pricing) (r : Request V) : Prop :=
  p.settings.preConsumedQuota + (p.tcm r).maxTokens < 2 ^ 63

variable {p : Pricing}

theorem preConsumedTokens_eq_iff {c : IncomingRequest V} {format : RelayFormat} (hp : p.Regular)
    (h : getAndValidateRequest c format = .ok r) :
    preConsumedTokens p.settings p.promptTokens (p.tcm r)
        = max p.promptTokens p.settings.preConsumedQuota + (p.tcm r).maxTokens
      ↔ p.Fits r := by
  obtain ⟨hlo, hhi⟩ := tcm_maxTokens_range p h
  obtain ⟨hprompt, hprompt'⟩ := hp.promptTokens
  have hquota := hp.settings.preConsumedQuota.2
  have hlimit : (maxTokensLimit : Int) = 1073741823 := rfl
  unfold preConsumedTokens Pricing.Fits
  simp only
  split
  · constructor
    · intro heq
      have hrange := wrap64_range
        (max p.promptTokens p.settings.preConsumedQuota + (p.tcm r).maxTokens)
      omega
    · intro hfits
      exact wrap64_of_fits (by omega) (by omega)
  · rename_i hzero
    constructor
    · intro _
      omega
    · intro _
      omega

def Pricing.groupRatio (p : Pricing) : ℚ :=
  (handleGroupRatio p.settings.group p.info.autoGroup p.info.userGroup
    p.info.usingGroup).1.groupRatio

def Pricing.ratio (p : Pricing) : ℚ :=
  (p.settings.modelRatio p.info.originModelName).1 * p.groupRatio

theorem Pricing.Regular.groupRatio_nonneg (hp : p.Regular) : 0 ≤ p.groupRatio :=
  hp.settings.group.ratioInfo _ _

theorem Pricing.Regular.ratio_nonneg (hp : p.Regular) : 0 ≤ p.ratio :=
  mul_nonneg (hp.settings.modelRatio _) hp.groupRatio_nonneg

/-- What an estimate by ratio is converted from. A free model is estimated at
nothing, whatever the limit. -/
theorem estimate_by_ratio {quota : Int} (hp : p.Regular)
    (hprice : p.settings.modelPrice p.info.originModelName = none) (h : p.estimate r = .ok quota) :
    ∃ full, quotaFromFloatStrict
        (preConsumedTokens p.settings p.promptTokens (p.tcm r) * p.ratio) = .ok full ∧
      quota = if p.settings.enableFreeModelPreConsume = false ∧ (p.groupRatio = 0
        ∨ (p.settings.modelRatio p.info.originModelName).1 = 0) then 0 else full := by
  simp only [Pricing.estimate, YouBox.estimate, modelPriceHelper, if_neg hp.untiered, hprice] at h
  cases hdata : ratioPriceData p.settings p.info p.promptTokens (p.tcm r)
      (handleGroupRatio p.settings.group p.info.autoGroup p.info.userGroup
        p.info.usingGroup).1 with
  | error err =>
    rw [hdata] at h
    cases h
  | ok priceData =>
    rw [hdata] at h
    cases h
    exact ratioPriceData_ok hdata

theorem estimate_by_price {price : ℚ} (hp : p.Regular)
    (hprice : p.settings.modelPrice p.info.originModelName = some price) :
    ∃ value : ℚ, 0 ≤ value ∧ ∀ (r : Request V) quota, p.estimate r = .ok quota →
      quotaFromFloatStrict value = .ok quota := by
  have hprice0 := hp.settings.modelPrice _ _ hprice
  have hfull : 0 ≤ (if p.imagePriceRatio ≠ 0 then price * p.imagePriceRatio else price) := by
    split
    · exact mul_nonneg hprice0 hp.imagePriceRatio
    · exact hprice0
  refine ⟨(if p.imagePriceRatio ≠ 0 then price * p.imagePriceRatio else price)
    * p.settings.quotaPerUnit * p.groupRatio
    * (((p.billingRatios.map Prod.snd).filter (0 < ·)).filter
        fun ratio => 0 < ratio ∧ ratio ≠ 1).prod, ?_, ?_⟩
  · refine mul_nonneg (mul_nonneg (mul_nonneg hfull hp.settings.quotaPerUnit)
      hp.groupRatio_nonneg) (List.prod_nonneg fun ratio hratio => ?_)
    simp only [List.mem_filter, decide_eq_true_eq] at hratio
    exact le_of_lt hratio.2.1
  · intro r quota h
    simp only [Pricing.estimate, YouBox.estimate, modelPriceHelper, if_neg hp.untiered,
      hprice] at h
    cases hdata : fixedPriceData p.settings (p.tcm r)
        (handleGroupRatio p.settings.group p.info.autoGroup p.info.userGroup
          p.info.usingGroup).1 price with
    | error err =>
      rw [hdata] at h
      cases h
    | ok priceData =>
      rw [hdata] at h
      cases h
      have hratios := fixedPriceData_otherRatios hdata
      have hquota := fixedPriceData_ok hdata
      rw [PriceData.otherRatioMultiplier, hratios] at hquota
      exact hquota

/-- **The estimate of an accepted request is in range** and grows with the token
limit, without a word that wraps, exactly if the model has a fixed price or the
option and the limit add up within a word. -/
theorem estimate_sound_iff {p : Pricing} {c : IncomingRequest V} {format : RelayFormat}
    {r : Request V} (hp : p.Regular) (h : getAndValidateRequest c format = .ok r) :
    p.Sound format r ↔
      p.settings.modelPrice p.info.originModelName ≠ none ∨ p.Fits r := by
  constructor
  · intro hsound
    by_cases hprice : p.settings.modelPrice p.info.originModelName = none
    · exact Or.inr ((preConsumedTokens_eq_iff hp h).mp (hsound.addition hprice))
    · exact Or.inl hprice
  · intro hcond
    have hconv := intOfUint_limit (tokenLimit_le h)
    cases hprice : p.settings.modelPrice p.info.originModelName with
    | some price =>
      obtain ⟨value, hvalue, hfull⟩ := estimate_by_price hp hprice
      refine ⟨?_, hconv, by simp [hprice], ?_⟩
      · intro quota hquota
        exact quotaFromFloatStrict_bounds hvalue (hfull r quota hquota)
      · intro c' smaller quota quota' _ _ hquota hquota'
        exact quotaFromFloatStrict_mono hvalue le_rfl (hfull smaller quota hquota)
          (hfull r quota' hquota')
    | none =>
      have hfits : p.Fits r := hcond.resolve_left fun hne => hne hprice
      have hsum := (preConsumedTokens_eq_iff hp h).mpr hfits
      have htokens : ∀ r' : Request V, 0 ≤ (p.tcm r').maxTokens →
          (0 : ℚ) ≤ ((max p.promptTokens p.settings.preConsumedQuota
            + (p.tcm r').maxTokens : Int) : ℚ) * p.ratio := by
        intro r' hr'
        have hprompt := hp.promptTokens.1
        have hnonneg : 0 ≤ max p.promptTokens p.settings.preConsumedQuota
            + (p.tcm r').maxTokens := by omega
        exact mul_nonneg (by exact_mod_cast hnonneg) hp.ratio_nonneg
      refine ⟨?_, hconv, fun _ => hsum, ?_⟩
      · intro quota hquota
        obtain ⟨full, hfull, rfl⟩ := estimate_by_ratio hp hprice hquota
        rw [hsum] at hfull
        have hbounds := quotaFromFloatStrict_bounds (htokens r (tcm_maxTokens_range p h).1) hfull
        split
        · exact ⟨le_rfl, by norm_num⟩
        · exact hbounds
      · intro c' smaller quota quota' hsmaller hle hquota hquota'
        have hmono := tcm_maxTokens_mono p hsmaller h hle
        have hfits' : p.Fits smaller := by
          unfold Pricing.Fits at hfits ⊢
          omega
        have hsum' := (preConsumedTokens_eq_iff hp hsmaller).mpr hfits'
        obtain ⟨full, hfull, rfl⟩ := estimate_by_ratio hp hprice hquota
        obtain ⟨full', hfull', rfl⟩ := estimate_by_ratio hp hprice hquota'
        rw [hsum'] at hfull
        rw [hsum] at hfull'
        have hle' := quotaFromFloatStrict_mono (htokens smaller (tcm_maxTokens_range p hsmaller).1)
          (mul_le_mul_of_nonneg_right (by exact_mod_cast by omega) hp.ratio_nonneg) hfull hfull'
        split
        · exact le_rfl
        · exact hle'

/-! A model at one unit for a token, in a group at a ten-billionth, and a Claude
request with a limit of one token. -/

def limitSettings (preConsumedQuota : Int) : PriceSettings where
  group := ⟨fun _ => some (1 / 10000000000), fun _ => none⟩
  modelPrice _ := none
  modelRatio model := (1, true, model)
  completionRatio _ := 1
  cacheRatio _ := 1
  createCacheRatio _ := 1
  imageRatio _ := 1
  audioRatio _ := 1
  audioCompletionRatio _ := 1
  billingMode _ := "ratio"
  billingExpr _ := none
  preConsumedQuota
  quotaPerUnit := 500000
  enableFreeModelPreConsume := true
  exprHashString expr := expr
  runExprWithRequest _ _ _ := .ok 0

def limitPricing (preConsumedQuota : Int) : Pricing where
  settings := limitSettings preConsumedQuota
  info := ⟨"claude-sonnet-4", 7, false, false, "default", "default", none, .ok {}⟩
  promptTokens := 10
  needText := false
  imagePriceRatio := 0
  billingRatios := []

def limitClaude : ClaudeRequest Unit := ⟨"claude-sonnet-4", [()], some 1, none⟩

def limitRequest : IncomingRequest Unit where
  path := "/v1/messages"
  openAI := .error ""
  claude := .ok limitClaude
  responses := .error ""
  gemini := .error ""
  geminiEmbedding := .error ""
  geminiBatchEmbedding := .error ""

theorem limitPricing_regular {preConsumedQuota : Int} (hlo : -(2 ^ 63) ≤ preConsumedQuota)
    (hhi : preConsumedQuota < 2 ^ 63) : (limitPricing preConsumedQuota).Regular where
  settings :=
    { group :=
        { groupRatio := by
            rintro group ratio hratio
            cases hratio
            norm_num
          groupGroupRatio := by
            rintro userGroup ratios group ratio hratios -
            cases hratios }
      modelPrice := by
        rintro model price hprice
        cases hprice
      modelRatio := fun _ => zero_le_one
      quotaPerUnit := by simp [limitPricing, limitSettings]
      preConsumedQuota := ⟨hlo, hhi⟩ }
  untiered := by simp [limitPricing, limitSettings]
  promptTokens := by simp [limitPricing]
  imagePriceRatio := le_rfl

theorem limitRequest_accepted :
    getAndValidateRequest limitRequest .claude = .ok (.claude limitClaude) := rfl

theorem default_option_sound :
    (limitPricing 500).settings.preConsumedQuota = 500 ∧
      (limitPricing 500).Sound .claude (.claude limitClaude) := by
  refine ⟨rfl, (estimate_sound_iff (limitPricing_regular (by norm_num) (by norm_num))
    limitRequest_accepted).mpr (Or.inr ?_)⟩
  show (_ : Int) < 2 ^ 63
  decide

/-- With the option at the largest word, one token more makes the estimate a
credit. -/
theorem largest_option_credits :
    (limitPricing (2 ^ 63 - 1)).Regular ∧
      getAndValidateRequest limitRequest .claude = .ok (.claude limitClaude) ∧
      (limitPricing (2 ^ 63 - 1)).estimate (.claude limitClaude) = .ok (-922337203) ∧
      ¬ (limitPricing (2 ^ 63 - 1)).Sound .claude (.claude limitClaude) := by
  have hestimate : (limitPricing (2 ^ 63 - 1)).estimate (.claude limitClaude)
      = .ok (-922337203) := by
    decide +kernel
  refine ⟨limitPricing_regular (by norm_num) (by norm_num), limitRequest_accepted, hestimate, ?_⟩
  intro hsound
  have hrange := hsound.range _ hestimate
  omega

end YouBox
