import YouBox.QuotaMath
import YouBox.UsageSound

/-!
# The formula of a text quota

What `calculateTextQuotaSummary` computes, said as a bill. The prompt is cut into
lines, each a number of tokens at one unit price: the cached tokens, the cache
writes, images and audio, and the plain rest. With the completion, the tool calls
and the other ratios they make up a sum, and the quota is that sum rounded, never
above what a quota column holds, never under one where the ratio charges at all,
and nothing for a request without tokens (`summary_quota_eq`).

The lines take every token of the prompt once as long as those that are priced
apart fit into it; the counts of an upstream may overlap, and then they are
charged in full and the plain line is empty (`billTokens_promptLines`). One more
token of completion never makes a request cheaper, unless the completion decides
how many cache writes explain the cost of an OpenRouter call (`quota_mono`).

Prices and ratios are rationals, token counts integers.
-/

namespace YouBox

/-! ## Bills -/

/-- A number of tokens and the price of one of them. -/
structure BillLine where
  tokens : Int
  unit : ℚ

def billTokens (lines : List BillLine) : Int :=
  (lines.map fun l => l.tokens).sum

def billCost (lines : List BillLine) : ℚ :=
  (lines.map fun l => (l.tokens : ℚ) * l.unit).sum

@[simp] theorem billTokens_cons (l : BillLine) (lines : List BillLine) :
    billTokens (l :: lines) = l.tokens + billTokens lines := by
  simp [billTokens]

@[simp] theorem billTokens_nil : billTokens [] = 0 := rfl

@[simp] theorem billTokens_append (xs ys : List BillLine) :
    billTokens (xs ++ ys) = billTokens xs + billTokens ys := by
  simp [billTokens]

@[simp] theorem billCost_cons (l : BillLine) (lines : List BillLine) :
    billCost (l :: lines) = l.tokens * l.unit + billCost lines := by
  simp [billCost]

@[simp] theorem billCost_nil : billCost [] = 0 := rfl

@[simp] theorem billCost_append (xs ys : List BillLine) :
    billCost (xs ++ ys) = billCost xs + billCost ys := by
  simp [billCost]

/-- A line charges no negative number of tokens and no negative price. -/
def BillLine.Nonneg (l : BillLine) : Prop := 0 ≤ l.tokens ∧ 0 ≤ l.unit

theorem billCost_nonneg {lines : List BillLine} (h : ∀ l ∈ lines, l.Nonneg) :
    0 ≤ billCost lines := by
  induction lines with
  | nil => exact le_refl 0
  | cons l rest ih =>
    obtain ⟨htokens, hunit⟩ := h l List.mem_cons_self
    have hrest := ih fun x hx => h x (List.mem_cons_of_mem l hx)
    have hcast : (0 : ℚ) ≤ l.tokens := by exact_mod_cast htokens
    rw [billCost_cons]
    positivity

/-! ## The lines of a prompt -/

def TextRequest.ratio (req : TextRequest) : ℚ :=
  req.priceData.modelRatio * req.priceData.groupRatio

/-- What a token of audio costs on a model that prices it. -/
def TextRequest.audioUnit (cfg : TextSettings) (req : TextRequest) : ℚ :=
  decimalDiv (getGeminiInputAudioPricePerMillionTokens req.originModelName) 1000000
    * req.priceData.groupRatio * cfg.quotaPerUnit

/-- All tokens of the prompt: a Claude usage reports the cache beside it. -/
def TextTokens.promptTotal (t : TextTokens) (inclusive : Bool) : Int :=
  if inclusive then t.promptTokens
  else t.promptTokens + t.cacheTokens
    + max t.cacheCreationTokens (t.cacheCreationTokens5m + t.cacheCreationTokens1h)

/-- The part of the prompt that has prices of its own. -/
def pricedLines (cfg : TextSettings) (req : TextRequest) (t : TextTokens) (inclusive : Bool) :
    List BillLine :=
  let p := req.priceData
  let creation :=
    if inclusive then [⟨t.cacheCreationTokens, p.cacheCreationRatio * req.ratio⟩]
    else [⟨max 0 (t.cacheCreationTokens - t.cacheCreationTokens5m - t.cacheCreationTokens1h),
        p.cacheCreationRatio * req.ratio⟩,
      ⟨t.cacheCreationTokens5m, p.cacheCreation5mRatio * req.ratio⟩,
      ⟨t.cacheCreationTokens1h, p.cacheCreation1hRatio * req.ratio⟩]
  let audio :=
    if 0 < getGeminiInputAudioPricePerMillionTokens req.originModelName then
      [⟨t.audioTokens, req.audioUnit cfg⟩]
    else []
  ⟨t.cacheTokens, p.cacheRatio * req.ratio⟩ :: ⟨t.imageTokens, p.imageRatio * req.ratio⟩
    :: (creation ++ audio)

/-- The whole prompt: what is left beside the priced lines is plain. -/
def promptLines (cfg : TextSettings) (req : TextRequest) (t : TextTokens) (inclusive : Bool) :
    List BillLine :=
  ⟨max 0 (t.promptTotal inclusive - billTokens (pricedLines cfg req t inclusive)), req.ratio⟩
    :: pricedLines cfg req t inclusive

/-- The price of a request in quota, before it is rounded. -/
def referenceSum (cfg : TextSettings) (req : TextRequest) (t : TextTokens) (inclusive : Bool) :
    ℚ :=
  let p := req.priceData
  let charge :=
    if p.usePrice then p.modelPrice * cfg.quotaPerUnit * p.groupRatio
    else billCost (promptLines cfg req t inclusive)
      + t.completionTokens * (p.completionRatio * req.ratio)
  (charge + calculateTextToolCallSurcharge cfg req) * p.otherRatioMultiplier

/-- What a request with a ratio costs at least. -/
def TextRequest.leastQuota (req : TextRequest) : Int :=
  if req.ratio = 0 then 0 else 1

/-! ## What is summed up -/

/-- The usage that is billed: the estimate stands in for one that was not reported. -/
def TextRequest.billedUsage (req : TextRequest) (usage : Option Usage) : Usage :=
  usage.getD req.estimatedUsage

def TextRequest.isClaude (req : TextRequest) (usage : Option Usage) : Bool :=
  decide (usageSemanticFromUsage req usage = "anthropic")

/-- The prompt count includes what the cache has read and written. -/
def TextRequest.inclusive (req : TextRequest) (usage : Option Usage) : Bool :=
  !req.isClaude usage && !isLegacyClaudeDerivedOpenAIUsage req (req.billedUsage usage)

def TextRequest.isOpenRouterClaude (req : TextRequest) (usage : Option Usage) : Prop :=
  req.channelType = some 20 ∧ req.isClaude usage

instance (req : TextRequest) (usage : Option Usage) : Decidable (req.isOpenRouterClaude usage) :=
  inferInstanceAs (Decidable (_ ∧ _))

def TextRequest.billedTokens (cfg : TextSettings) (req : TextRequest) (usage : Option Usage) :
    TextTokens :=
  if req.isOpenRouterClaude usage then
    openRouterTokens cfg req (req.billedUsage usage) (req.billedUsage usage).textTokens
  else (req.billedUsage usage).textTokens

theorem summary_totalTokens (cfg : TextSettings) (req : TextRequest) (usage : Option Usage) :
    (calculateTextQuotaSummary cfg req usage).totalTokens
      = (req.billedUsage usage).promptTokens + (req.billedUsage usage).completionTokens := rfl

theorem summary_quota (cfg : TextSettings) (req : TextRequest) (usage : Option Usage) :
    (calculateTextQuotaSummary cfg req usage).quota =
      let quota := if req.priceData.usePrice then
          priceQuota cfg req (calculateTextToolCallSurcharge cfg req)
        else ratioQuota cfg req (req.billedTokens cfg usage) (req.inclusive usage)
          (calculateTextToolCallSurcharge cfg req)
      if (calculateTextQuotaSummary cfg req usage).totalTokens = 0 then 0
      else if req.ratio ≠ 0 ∧ quota = 0 then 1
      else quota := by
  unfold calculateTextQuotaSummary TextRequest.billedTokens TextRequest.inclusive
    TextRequest.isOpenRouterClaude TextRequest.isClaude TextRequest.billedUsage TextRequest.ratio
  simp only [decide_eq_true_eq]

/-! ## Nothing is negative -/

structure PriceData.Nonneg (p : PriceData) : Prop where
  modelPrice : 0 ≤ p.modelPrice
  modelRatio : 0 ≤ p.modelRatio
  completionRatio : 0 ≤ p.completionRatio
  cacheRatio : 0 ≤ p.cacheRatio
  cacheCreationRatio : 0 ≤ p.cacheCreationRatio
  cacheCreation5mRatio : 0 ≤ p.cacheCreation5mRatio
  cacheCreation1hRatio : 0 ≤ p.cacheCreation1hRatio
  imageRatio : 0 ≤ p.imageRatio
  groupRatio : 0 ≤ p.groupRatio

structure TextSettings.Nonneg (cfg : TextSettings) : Prop where
  quotaPerUnit : 0 ≤ cfg.quotaPerUnit
  toolPrice : ∀ tool model, 0 ≤ cfg.toolPriceForModel tool model

/-- The counts that are charged. The prompt of an OpenRouter usage may be less than zero
once the cache is taken off it. -/
structure TextTokens.Nonneg (t : TextTokens) : Prop where
  completion : 0 ≤ t.completionTokens
  cache : 0 ≤ t.cacheTokens
  creation : 0 ≤ t.cacheCreationTokens
  creation5m : 0 ≤ t.cacheCreationTokens5m
  creation1h : 0 ≤ t.cacheCreationTokens1h
  image : 0 ≤ t.imageTokens
  audio : 0 ≤ t.audioTokens

variable {cfg : TextSettings} {req : TextRequest} {t : TextTokens}

theorem ratio_nonneg (hp : req.priceData.Nonneg) : 0 ≤ req.ratio :=
  mul_nonneg hp.modelRatio hp.groupRatio

theorem audioPrice_nonneg (modelName : String) :
    0 ≤ getGeminiInputAudioPricePerMillionTokens modelName := by
  unfold getGeminiInputAudioPricePerMillionTokens
  dsimp only
  split_ifs <;> norm_num

theorem imagePrice_nonneg (quality size : String) : 0 ≤ getGPTImage1PriceOnceCall quality size := by
  unfold getGPTImage1PriceOnceCall
  split <;> norm_num

theorem audioUnit_nonneg (hcfg : cfg.Nonneg) (hp : req.priceData.Nonneg) :
    0 ≤ req.audioUnit cfg :=
  mul_nonneg (mul_nonneg (decimalDiv_nonneg (audioPrice_nonneg _) (by norm_num)) hp.groupRatio)
    hcfg.quotaPerUnit

theorem builtInToolSurcharge_nonneg (hcfg : cfg.Nonneg) (hp : req.priceData.Nonneg)
    (tools : List (String × Int)) (tool modelName : String) :
    0 ≤ builtInToolSurcharge cfg req tools tool modelName := by
  unfold builtInToolSurcharge
  dsimp only
  split
  · rename_i hcalls
    have hcast : (0 : ℚ) ≤ ((tools.lookup tool).getD 0 : Int) := by exact_mod_cast hcalls.le
    have hdiv := decimalDiv_nonneg (mul_nonneg (hcfg.toolPrice tool modelName) hcast)
      (show (0 : ℚ) ≤ 1000 by norm_num)
    exact mul_nonneg (mul_nonneg hdiv hp.groupRatio) hcfg.quotaPerUnit
  · exact le_refl 0

theorem surcharge_nonneg (hcfg : cfg.Nonneg) (hp : req.priceData.Nonneg) :
    0 ≤ calculateTextToolCallSurcharge cfg req := by
  have hgroup := hp.groupRatio
  have hunit := hcfg.quotaPerUnit
  have hdiv : ∀ tool model, 0 ≤ decimalDiv (cfg.toolPriceForModel tool model) 1000 :=
    fun tool model => decimalDiv_nonneg (hcfg.toolPrice tool model) (by norm_num)
  unfold calculateTextToolCallSurcharge
  dsimp only
  refine add_nonneg (add_nonneg (add_nonneg ?_ ?_) ?_) ?_
  · split
    · exact builtInToolSurcharge_nonneg hcfg hp _ _ _
    · split
      · exact mul_nonneg (mul_nonneg (hdiv _ _) hgroup) hunit
      · exact le_refl 0
  · split
    · rename_i hcalls
      have hcast : (0 : ℚ) ≤ (req.claudeWebSearchRequests : ℚ) := by exact_mod_cast hcalls.le
      exact mul_nonneg (mul_nonneg (mul_nonneg (hdiv _ _) hgroup) hunit) hcast
    · exact le_refl 0
  · split
    · exact builtInToolSurcharge_nonneg hcfg hp _ _ _
    · exact le_refl 0
  · split
    · exact mul_nonneg (mul_nonneg (imagePrice_nonneg _ _) hgroup) hunit
    · exact le_refl 0

theorem pricedLines_nonneg (hcfg : cfg.Nonneg) (hp : req.priceData.Nonneg) (ht : t.Nonneg)
    (inclusive : Bool) : ∀ l ∈ pricedLines cfg req t inclusive, l.Nonneg := by
  have hratio := ratio_nonneg hp
  have hcache : BillLine.Nonneg ⟨t.cacheTokens, req.priceData.cacheRatio * req.ratio⟩ :=
    ⟨ht.cache, mul_nonneg hp.cacheRatio hratio⟩
  have himage : BillLine.Nonneg ⟨t.imageTokens, req.priceData.imageRatio * req.ratio⟩ :=
    ⟨ht.image, mul_nonneg hp.imageRatio hratio⟩
  unfold pricedLines
  dsimp only
  refine List.forall_mem_cons.2 ⟨hcache, List.forall_mem_cons.2 ⟨himage, ?_⟩⟩
  refine List.forall_mem_append.2 ⟨?_, ?_⟩
  · cases inclusive with
    | true => simpa using ⟨ht.creation, mul_nonneg hp.cacheCreationRatio hratio⟩
    | false =>
      have hremaining : BillLine.Nonneg
          ⟨max 0 (t.cacheCreationTokens - t.cacheCreationTokens5m - t.cacheCreationTokens1h),
            req.priceData.cacheCreationRatio * req.ratio⟩ :=
        ⟨le_max_left _ _, mul_nonneg hp.cacheCreationRatio hratio⟩
      have h5m : BillLine.Nonneg
          ⟨t.cacheCreationTokens5m, req.priceData.cacheCreation5mRatio * req.ratio⟩ :=
        ⟨ht.creation5m, mul_nonneg hp.cacheCreation5mRatio hratio⟩
      have h1h : BillLine.Nonneg
          ⟨t.cacheCreationTokens1h, req.priceData.cacheCreation1hRatio * req.ratio⟩ :=
        ⟨ht.creation1h, mul_nonneg hp.cacheCreation1hRatio hratio⟩
      simpa using ⟨hremaining, h5m, h1h⟩
  · split
    · simpa using ⟨ht.audio, audioUnit_nonneg hcfg hp⟩
    · simp

theorem promptLines_nonneg (hcfg : cfg.Nonneg) (hp : req.priceData.Nonneg) (ht : t.Nonneg)
    (inclusive : Bool) : ∀ l ∈ promptLines cfg req t inclusive, l.Nonneg :=
  List.forall_mem_cons.2
    ⟨⟨le_max_left _ _, ratio_nonneg hp⟩, pricedLines_nonneg hcfg hp ht inclusive⟩

theorem referenceSum_nonneg (hcfg : cfg.Nonneg) (hp : req.priceData.Nonneg) (ht : t.Nonneg)
    (inclusive : Bool) : 0 ≤ referenceSum cfg req t inclusive := by
  have hcompletion : (0 : ℚ) ≤ t.completionTokens := by exact_mod_cast ht.completion
  refine mul_nonneg (add_nonneg ?_ (surcharge_nonneg hcfg hp)) (otherRatioMultiplier_pos _).le
  split
  · exact mul_nonneg (mul_nonneg hp.modelPrice hcfg.quotaPerUnit) hp.groupRatio
  · exact add_nonneg (billCost_nonneg (promptLines_nonneg hcfg hp ht inclusive))
      (mul_nonneg hcompletion (mul_nonneg hp.completionRatio (ratio_nonneg hp)))

/-- Every token of the prompt stands on one line, unless those that are priced apart
are more than the prompt. -/
theorem billTokens_promptLines (cfg : TextSettings) (req : TextRequest) (t : TextTokens)
    (inclusive : Bool) :
    billTokens (promptLines cfg req t inclusive)
      = max (t.promptTotal inclusive) (billTokens (pricedLines cfg req t inclusive)) := by
  unfold promptLines
  rw [billTokens_cons]
  dsimp only
  omega

/-! ## The two modes compute the sum -/

theorem priceQuota_eq (hprice : req.priceData.usePrice = true) (inclusive : Bool) :
    priceQuota cfg req (calculateTextToolCallSurcharge cfg req)
      = quotaFromDecimal (referenceSum cfg req t inclusive) := by
  unfold priceQuota referenceSum
  simp only [applyOtherRatiosToDecimal_eq, hprice, if_true]

theorem billTokens_pricedLines (cfg : TextSettings) (req : TextRequest) (t : TextTokens)
    (inclusive : Bool) :
    t.promptTotal inclusive - billTokens (pricedLines cfg req t inclusive) =
      t.promptTokens - (if inclusive then t.cacheTokens else 0)
        - (if inclusive then t.cacheCreationTokens else 0) - t.imageTokens
        - (if 0 < getGeminiInputAudioPricePerMillionTokens req.originModelName then t.audioTokens
          else 0) := by
  unfold TextTokens.promptTotal pricedLines
  by_cases haudio : 0 < getGeminiInputAudioPricePerMillionTokens req.originModelName
  · cases inclusive <;> simp [haudio] <;> omega
  · cases inclusive <;> simp [haudio] <;> omega

theorem creationCost (ht : t.Nonneg) (req : TextRequest) (inclusive : Bool) :
    let p := req.priceData
    let remaining :=
      max 0 (t.cacheCreationTokens - t.cacheCreationTokens5m - t.cacheCreationTokens1h)
    let cost : ℚ :=
      if inclusive then t.cacheCreationTokens * p.cacheCreationRatio
      else remaining * p.cacheCreationRatio + t.cacheCreationTokens5m * p.cacheCreation5mRatio
        + t.cacheCreationTokens1h * p.cacheCreation1hRatio
    (if ¬ (t.cacheCreationTokens ≠ 0 ∨ 0 < t.cacheCreationTokens5m
        ∨ 0 < t.cacheCreationTokens1h) then 0
      else if inclusive then t.cacheCreationTokens * p.cacheCreationRatio
      else remaining * p.cacheCreationRatio + t.cacheCreationTokens5m * p.cacheCreation5mRatio
        + t.cacheCreationTokens1h * p.cacheCreation1hRatio) = cost := by
  dsimp only
  split
  · rename_i hnone
    have h5m := ht.creation5m
    have h1h := ht.creation1h
    obtain ⟨hc, hm, hh⟩ : t.cacheCreationTokens = 0 ∧ t.cacheCreationTokens5m = 0
        ∧ t.cacheCreationTokens1h = 0 := by omega
    cases inclusive <;> simp [hc, hm, hh]
  · rfl

theorem ratioQuota_eq (ht : t.Nonneg) (hprice : req.priceData.usePrice = false)
    (inclusive : Bool) :
    ratioQuota cfg req t inclusive (calculateTextToolCallSurcharge cfg req)
      = quotaFromDecimal (if req.ratio ≠ 0 ∧ referenceSum cfg req t inclusive ≤ 0 then 1
          else referenceSum cfg req t inclusive) := by
  have key : ∀ sum, sum = referenceSum cfg req t inclusive →
      quotaFromDecimal (if req.ratio ≠ 0 ∧ sum ≤ 0 then 1 else sum)
        = quotaFromDecimal (if req.ratio ≠ 0 ∧ referenceSum cfg req t inclusive ≤ 0 then 1
          else referenceSum cfg req t inclusive) := by
    rintro _ rfl
    rfl
  unfold ratioQuota
  dsimp only
  refine key _ ?_
  -- the plain line is what the code takes off the prompt
  have hplain := billTokens_pricedLines cfg req t inclusive
  have haudio : (if 0 < (if t.audioTokens = 0 then 0
        else getGeminiInputAudioPricePerMillionTokens req.originModelName) then t.audioTokens
      else 0) = if 0 < getGeminiInputAudioPricePerMillionTokens req.originModelName then
        t.audioTokens else 0 := by
    by_cases hzero : t.audioTokens = 0 <;> simp [hzero]
  rw [applyOtherRatiosToDecimal_eq, haudio, ← hplain]
  unfold referenceSum
  dsimp only
  rw [if_neg (show ¬ req.priceData.usePrice = true by simp [hprice])]
  congr 1
  rw [add_right_comm]
  congr 1
  unfold promptLines
  rw [billCost_cons]
  dsimp only
  generalize max 0 (t.promptTotal inclusive - billTokens (pricedLines cfg req t inclusive)) = plain
  have hcreation := creationCost ht req inclusive
  dsimp only at hcreation
  rw [hcreation]
  by_cases hpriced : 0 < getGeminiInputAudioPricePerMillionTokens req.originModelName
  · have hunit : (if 0 < (if t.audioTokens = 0 then 0
          else getGeminiInputAudioPricePerMillionTokens req.originModelName) then
          decimalDiv (if t.audioTokens = 0 then 0
            else getGeminiInputAudioPricePerMillionTokens req.originModelName) 1000000
            * t.audioTokens * req.priceData.groupRatio * cfg.quotaPerUnit
        else 0) = t.audioTokens * req.audioUnit cfg := by
      unfold TextRequest.audioUnit
      by_cases hzero : t.audioTokens = 0
      · simp [hzero]
      · simp only [hzero, if_false, hpriced, if_true]
        ring
    rw [hunit]
    unfold pricedLines TextRequest.ratio
    cases inclusive <;> simp [hpriced] <;> ring
  · have hzero : (if t.audioTokens = 0 then 0
        else getGeminiInputAudioPricePerMillionTokens req.originModelName) ≤ 0 := by
      split
      · exact le_refl 0
      · exact not_lt.1 hpriced
    rw [if_neg (not_lt.2 hzero)]
    unfold pricedLines TextRequest.ratio
    cases inclusive <;> simp [hpriced] <;> ring

/-! ## The tokens that are billed -/

section

variable {usage : Option Usage}

theorem textTokens_nonneg {u : Usage} (hu : ∀ n ∈ u.counts, 0 ≤ n) : u.textTokens.Nonneg := by
  have hcreation : 0 ≤ u.promptTokensDetails.cacheCreationTokensTotal := by
    unfold InputTokenDetails.cacheCreationTokensTotal
    dsimp only
    omega
  simp only [Usage.counts, InputTokenDetails.counts, List.forall_mem_append,
    List.forall_mem_cons] at hu
  obtain ⟨⟨⟨-, hcompletion, -, -, -, h5m, h1h, -⟩, hcached, -, -, -, haudio, himage, -⟩, -⟩ := hu
  exact ⟨hcompletion, hcached, hcreation, h5m, h1h, himage, haudio⟩

theorem openRouterTokens_nonneg {u : Usage} {t : TextTokens} (ht : t.Nonneg) :
    (openRouterTokens cfg req u t).Nonneg := by
  obtain ⟨hcompletion, hcache, hcreation, h5m, h1h, himage, haudio⟩ := ht
  unfold openRouterTokens
  refine ⟨hcompletion, hcache, ?_, h5m, h1h, himage, haudio⟩
  dsimp only
  split
  · rename_i hinferred
    exact hinferred.2.2.2.2.1
  · exact hcreation

theorem billedUsage_counts (hestimate : 0 ≤ req.estimatePromptTokens)
    (husage : ∀ u ∈ usage, ∀ n ∈ u.counts, 0 ≤ n) :
    ∀ n ∈ (req.billedUsage usage).counts, 0 ≤ n := by
  cases usage with
  | some u => exact husage u rfl
  | none =>
    simp [TextRequest.billedUsage, TextRequest.estimatedUsage, Usage.counts,
      InputTokenDetails.counts, OutputTokenDetails.counts, hestimate]

theorem billedTokens_nonneg (hestimate : 0 ≤ req.estimatePromptTokens)
    (husage : ∀ u ∈ usage, ∀ n ∈ u.counts, 0 ≤ n) : (req.billedTokens cfg usage).Nonneg := by
  have htokens := textTokens_nonneg (billedUsage_counts hestimate husage)
  unfold TextRequest.billedTokens
  split
  · exact openRouterTokens_nonneg htokens
  · exact htokens

/-! ## The quota -/

/-- What the formula gives for the tokens that are billed. -/
def TextRequest.referenceSum (cfg : TextSettings) (req : TextRequest) (usage : Option Usage) : ℚ :=
  YouBox.referenceSum cfg req (req.billedTokens cfg usage) (req.inclusive usage)

theorem atLeast_leastQuota (req : TextRequest) {quota : Int} (h : 0 ≤ quota) :
    (if req.ratio ≠ 0 ∧ quota = 0 then 1 else quota) = max req.leastQuota quota := by
  unfold TextRequest.leastQuota
  by_cases hratio : req.ratio = 0
  · simp only [hratio, ne_eq, not_true_eq_false, false_and, if_false, if_true]
    omega
  · simp only [hratio, ne_eq, not_false_eq_true, true_and, if_false]
    split <;> omega

/-- The quota is the sum of the bill, rounded and held within the quota columns; it is
at least one where there is a ratio, and nothing without tokens. -/
theorem summary_quota_eq (hcfg : cfg.Nonneg) (hp : req.priceData.Nonneg)
    (hestimate : 0 ≤ req.estimatePromptTokens) (husage : ∀ u ∈ usage, ∀ n ∈ u.counts, 0 ≤ n) :
    (calculateTextQuotaSummary cfg req usage).quota =
      if (calculateTextQuotaSummary cfg req usage).totalTokens = 0 then 0
      else max req.leastQuota (quotaFromDecimal (req.referenceSum cfg usage)) := by
  have ht : (req.billedTokens cfg usage).Nonneg := billedTokens_nonneg hestimate husage
  have hsum : 0 ≤ req.referenceSum cfg usage := referenceSum_nonneg hcfg hp ht _
  have hquota := quotaFromDecimal_nonneg hsum
  have hone : quotaFromDecimal 1 = 1 := by decide +kernel
  have hzero : quotaFromDecimal 0 = 0 := by decide +kernel
  have hbill : YouBox.referenceSum cfg req (req.billedTokens cfg usage) (req.inclusive usage)
      = req.referenceSum cfg usage := rfl
  rw [summary_quota]
  dsimp only
  split
  · rfl
  · cases hprice : req.priceData.usePrice with
    | true =>
      rw [if_pos rfl, priceQuota_eq hprice (req.inclusive usage)]
      exact atLeast_leastQuota req hquota
    | false =>
      rw [if_neg (show ¬ false = true by decide), ratioQuota_eq ht hprice, hbill]
      by_cases hfree : req.ratio ≠ 0 ∧ req.referenceSum cfg usage ≤ 0
      · -- a sum of nothing is charged as one
        have hnothing : req.referenceSum cfg usage = 0 := le_antisymm hfree.2 hsum
        have hleast : req.leastQuota = 1 := if_neg hfree.1
        rw [if_pos hfree, hone, hnothing, hzero, hleast]
        simp
      · rw [if_neg hfree]
        exact atLeast_leastQuota req hquota

/-! ## One more token of completion -/

/-- The usage with another number of completion tokens. -/
def Usage.withCompletion (u : Usage) (n : Int) : Usage := { u with completionTokens := n }

/-- The cache writes are worked out from what OpenRouter charged. -/
def TextRequest.infersCacheCreation (cfg : TextSettings) (req : TextRequest) (u : Usage) : Prop :=
  req.isOpenRouterClaude (some u) ∧ u.textTokens.cacheCreationTokens = 0
    ∧ req.priceData.cacheCreationRatio ≠ 1 ∧ u.cost ≠ .int 0
    ∧ (req.priceData.usePrice
      || hasCustomModelRatio cfg req.originModelName req.priceData.modelRatio) = false

theorem usageSemantic_withCompletion (req : TextRequest) (u : Usage) (n : Int) :
    usageSemanticFromUsage req (some (u.withCompletion n)) = usageSemanticFromUsage req (some u) := by
  unfold usageSemanticFromUsage Usage.withCompletion
  by_cases hsemantic : u.usageSemantic = "" <;> simp [Option.filter, hsemantic]

theorem isClaude_withCompletion (req : TextRequest) (u : Usage) (n : Int) :
    req.isClaude (some (u.withCompletion n)) = req.isClaude (some u) := by
  unfold TextRequest.isClaude
  rw [usageSemantic_withCompletion]

theorem inclusive_withCompletion (req : TextRequest) (u : Usage) (n : Int) :
    req.inclusive (some (u.withCompletion n)) = req.inclusive (some u) := by
  unfold TextRequest.inclusive
  rw [isClaude_withCompletion]
  rfl

theorem openRouterTokens_withCompletion {u : Usage}
    (h : ¬ (u.textTokens.cacheCreationTokens = 0 ∧ req.priceData.cacheCreationRatio ≠ 1
      ∧ u.cost ≠ .int 0 ∧ (req.priceData.usePrice
        || hasCustomModelRatio cfg req.originModelName req.priceData.modelRatio) = false))
    (n : Int) :
    openRouterTokens cfg req (u.withCompletion n) (u.withCompletion n).textTokens
      = { openRouterTokens cfg req u u.textTokens with completionTokens := n } := by
  have hreported : ∀ v : Usage, v.textTokens.cacheCreationTokens = u.textTokens.cacheCreationTokens →
      v.cost = u.cost → (openRouterTokens cfg req v v.textTokens) =
        { v.textTokens with
          promptTokens := v.textTokens.promptTokens - v.textTokens.cacheTokens
            - v.textTokens.cacheCreationTokens } := by
    intro v hcreation hcost
    unfold openRouterTokens
    dsimp only
    rw [if_neg]
    rintro ⟨h1, h2, h3, h4, -, -⟩
    exact h ⟨hcreation ▸ h1, h2, hcost ▸ h3, h4⟩
  rw [hreported u rfl rfl, hreported (u.withCompletion n) rfl rfl]
  rfl

theorem billedTokens_withCompletion {u : Usage} (h : ¬ req.infersCacheCreation cfg u) (n : Int) :
    req.billedTokens cfg (some (u.withCompletion n))
      = { req.billedTokens cfg (some u) with completionTokens := n } := by
  unfold TextRequest.billedTokens
  have hrouter : req.isOpenRouterClaude (some (u.withCompletion n))
      ↔ req.isOpenRouterClaude (some u) := by
    unfold TextRequest.isOpenRouterClaude
    rw [isClaude_withCompletion]
  by_cases hopen : req.isOpenRouterClaude (some u)
  · rw [if_pos hopen, if_pos (hrouter.2 hopen)]
    exact openRouterTokens_withCompletion (fun hinfers => h ⟨hopen, hinfers⟩) n
  · rw [if_neg hopen, if_neg (fun hc => hopen (hrouter.1 hc))]
    rfl

theorem referenceSum_mono (hp : req.priceData.Nonneg) {n : Int}
    (h : t.completionTokens ≤ n) (inclusive : Bool) :
    YouBox.referenceSum cfg req t inclusive
      ≤ YouBox.referenceSum cfg req { t with completionTokens := n } inclusive := by
  have hcast : (t.completionTokens : ℚ) ≤ n := by exact_mod_cast h
  unfold YouBox.referenceSum
  dsimp only
  refine mul_le_mul_of_nonneg_right ?_ (otherRatioMultiplier_pos _).le
  refine add_le_add ?_ (le_refl _)
  split
  · exact le_refl _
  · exact add_le_add (le_refl _)
      (mul_le_mul_of_nonneg_right hcast (mul_nonneg hp.completionRatio (ratio_nonneg hp)))

theorem quota_mono (hcfg : cfg.Nonneg) (hp : req.priceData.Nonneg)
    (hestimate : 0 ≤ req.estimatePromptTokens) {u : Usage} (hu : ∀ n ∈ u.counts, 0 ≤ n)
    (hcost : ¬ req.infersCacheCreation cfg u) {n : Int} (hn : u.completionTokens ≤ n) :
    (calculateTextQuotaSummary cfg req (some u)).quota
      ≤ (calculateTextQuotaSummary cfg req (some (u.withCompletion n))).quota := by
  have hprompt : 0 ≤ u.promptTokens := hu _ (by simp [Usage.counts])
  have hcompletion : 0 ≤ u.completionTokens := hu _ (by simp [Usage.counts])
  have hu' : ∀ m ∈ (u.withCompletion n).counts, 0 ≤ m := by
    intro m hm
    simp only [Usage.counts, Usage.withCompletion, List.cons_append, List.mem_cons] at hm
    rcases hm with rfl | rfl | hm
    · exact hprompt
    · omega
    · exact hu m (by simp only [Usage.counts, List.cons_append, List.mem_cons]; tauto)
  have hbase : ∀ v ∈ some u, ∀ m ∈ v.counts, 0 ≤ m := by
    rintro v ⟨⟩
    exact hu
  have hlonger : ∀ v ∈ some (u.withCompletion n), ∀ m ∈ v.counts, 0 ≤ m := by
    rintro v ⟨⟩
    exact hu'
  have hsum : 0 ≤ req.referenceSum cfg (some u) :=
    referenceSum_nonneg hcfg hp (billedTokens_nonneg hestimate hbase) _
  have hle : req.referenceSum cfg (some u) ≤ req.referenceSum cfg (some (u.withCompletion n)) := by
    unfold TextRequest.referenceSum
    rw [billedTokens_withCompletion hcost, inclusive_withCompletion]
    refine referenceSum_mono hp ?_ _
    unfold TextRequest.billedTokens
    split
    · exact hn
    · exact hn
  have hquota := quotaFromDecimal_mono hsum hle
  have hleast : 0 ≤ req.leastQuota := by
    unfold TextRequest.leastQuota
    split <;> decide
  have hpos := quotaFromDecimal_nonneg (hsum.trans hle)
  rw [summary_quota_eq hcfg hp hestimate hbase, summary_quota_eq hcfg hp hestimate hlonger,
    summary_totalTokens, summary_totalTokens]
  change (if u.promptTokens + u.completionTokens = 0 then 0 else _)
    ≤ if u.promptTokens + n = 0 then 0 else _
  split <;> split <;> omega

/-! ## The whole statement -/

/-- The quota of a request and the bill it is the sum of. -/
structure QuotaIsBill (cfg : TextSettings) (req : TextRequest) (usage : Option Usage) : Prop where
  nonneg : 0 ≤ (calculateTextQuotaSummary cfg req usage).quota
  bounded : (calculateTextQuotaSummary cfg req usage).quota ≤ 2147483647
  formula : (calculateTextQuotaSummary cfg req usage).quota =
    if (calculateTextQuotaSummary cfg req usage).totalTokens = 0 then 0
    else max req.leastQuota (quotaFromDecimal (req.referenceSum cfg usage))
  least : 0 < (calculateTextQuotaSummary cfg req usage).totalTokens → 0 < req.ratio →
    1 ≤ (calculateTextQuotaSummary cfg req usage).quota
  lines : ∀ l ∈ promptLines cfg req (req.billedTokens cfg usage) (req.inclusive usage),
    0 ≤ l.tokens
  once : billTokens (promptLines cfg req (req.billedTokens cfg usage) (req.inclusive usage))
    = max ((req.billedTokens cfg usage).promptTotal (req.inclusive usage))
      (billTokens (pricedLines cfg req (req.billedTokens cfg usage) (req.inclusive usage)))
  mono : ∀ u ∈ usage, ¬ req.infersCacheCreation cfg u → ∀ n, u.completionTokens ≤ n →
    (calculateTextQuotaSummary cfg req usage).quota
      ≤ (calculateTextQuotaSummary cfg req (some (u.withCompletion n))).quota

theorem text_quota_is_bill (hcfg : cfg.Nonneg) (hp : req.priceData.Nonneg)
    (hestimate : 0 ≤ req.estimatePromptTokens) (husage : ∀ u ∈ usage, ∀ n ∈ u.counts, 0 ≤ n) :
    QuotaIsBill cfg req usage := by
  have ht : (req.billedTokens cfg usage).Nonneg := billedTokens_nonneg hestimate husage
  have hquota := quotaFromDecimal_nonneg
    (@referenceSum_nonneg cfg req _ hcfg hp ht (req.inclusive usage))
  have hbound : quotaFromDecimal (req.referenceSum cfg usage) ≤ 2147483647 :=
    quotaFromDecimal_le _
  have hformula := summary_quota_eq hcfg hp hestimate husage
  have hleast : req.leastQuota = 0 ∨ req.leastQuota = 1 := by
    unfold TextRequest.leastQuota
    split
    · exact Or.inl rfl
    · exact Or.inr rfl
  refine ⟨?_, ?_, hformula, ?_,
    fun l hl => (promptLines_nonneg hcfg hp ht _ l hl).1, billTokens_promptLines _ _ _ _, ?_⟩
  · rw [hformula]
    split
    · exact le_refl 0
    · omega
  · rw [hformula]
    split
    · norm_num
    · omega
  · intro htotal hratio
    have hone : req.leastQuota = 1 := if_neg hratio.ne'
    rw [hformula, if_neg htotal.ne', hone]
    exact le_max_left _ _
  · intro u hu hcost n hn
    obtain rfl := Option.mem_def.1 hu
    exact quota_mono hcfg hp hestimate (husage u rfl) hcost hn

end

theorem textDemo_nonneg : textDemo.Nonneg :=
  ⟨by norm_num [textDemo], fun _ _ => by norm_num [textDemo]⟩

theorem textDemoRequest_nonneg : (textDemoRequest none).priceData.Nonneg := by
  constructor <;> norm_num [textDemoRequest]

/-- A prompt of which the cache holds a part. -/
def cachedUsage : Usage where
  promptTokens := 100
  completionTokens := 10
  totalTokens := 110
  promptTokensDetails := { cachedTokens := 60 }

theorem cachedUsage_is_bill :
    QuotaIsBill textDemo (textDemoRequest none) (some cachedUsage) ∧
      (calculateTextQuotaSummary textDemo (textDemoRequest none) (some cachedUsage)).quota = 110 :=
  ⟨text_quota_is_bill textDemo_nonneg textDemoRequest_nonneg (by decide) (by
    rintro u ⟨⟩
    decide), by decide +kernel⟩

/-- The prefixes that the cache has read and written overlap. -/
def overlappingUsage : Usage where
  promptTokens := 100
  totalTokens := 100
  promptTokensDetails := { cachedTokens := 60, cacheWriteTokens := 60 }

/-- A Claude model behind OpenRouter, with a cost that cache writes have to explain. -/
def openRouterSettings : TextSettings := { textDemo with defaultModelRatio := fun _ => some 1 }

def openRouterRequest : TextRequest :=
  { textDemoRequest none with
    channelType := some 20
    relayFormat := "claude"
    priceData := ⟨0, 1, 1, 1, 5, 5, 5, 1, false, 1, []⟩ }

def openRouterUsage : Usage where
  promptTokens := 100
  totalTokens := 100
  cost := .float (150 / 500000)

/-- A hundred tokens of a prompt are charged as a hundred and twenty, and the inferred cache
writes make a request with one more token of completion cheaper. -/
theorem overlap_charged_twice :
    ((∀ n ∈ overlappingUsage.counts, 0 ≤ n) ∧
      ((textDemoRequest none).billedTokens textDemo (some overlappingUsage)).promptTotal
        ((textDemoRequest none).inclusive (some overlappingUsage)) = 100 ∧
      billTokens (promptLines textDemo (textDemoRequest none)
        ((textDemoRequest none).billedTokens textDemo (some overlappingUsage))
        ((textDemoRequest none).inclusive (some overlappingUsage))) = 120) ∧
    (∀ n ∈ openRouterUsage.counts, 0 ≤ n) ∧
      (calculateTextQuotaSummary openRouterSettings openRouterRequest
        (some openRouterUsage)).quota = 152 ∧
      (calculateTextQuotaSummary openRouterSettings openRouterRequest
        (some (openRouterUsage.withCompletion 1))).quota = 149 := by
  refine ⟨⟨by decide, by decide +kernel, by decide +kernel⟩, by decide, by decide +kernel,
    by decide +kernel⟩

end YouBox
