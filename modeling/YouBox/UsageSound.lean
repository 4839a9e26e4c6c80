import YouBox.TextQuota

/-!
# What a usage keeps on its way to the price

Two conversions of a usage, and what they owe to whoever bills it.

`usageFromGeminiBillingUsage` completes what a Gemini upstream left out: a missing
total is the sum, missing completion tokens are the total less the prompt. Nothing
compares the numbers that are there, so the result is sound only where they agree
(`gemini_usage_sound_iff`). A total below the prompt without candidates gives a
negative completion.

`buildTieredTokenParams` splits a usage into the variables of a billing
expression. What an OpenAI prompt includes is taken off `p`, no further than to
zero (`tieredParams_openai`). A Claude usage reports its cache writes beside the
prompt, in total and by time to live, and so does one that was converted from it and
lost its tag. The ratios charge both; the parameters know only one of the two, so they
miss what the other has more of (`tiered_params_partition_iff`).
-/

namespace YouBox

/-! ## Sound usages -/

def InputTokenDetails.counts (d : InputTokenDetails) : List Int :=
  [d.cachedTokens, d.cachedCreationTokens, d.cacheWriteTokens, d.textTokens, d.audioTokens,
    d.imageTokens, d.documentTokens, d.videoTokens]

def OutputTokenDetails.counts (d : OutputTokenDetails) : List Int :=
  [d.textTokens, d.audioTokens, d.imageTokens, d.reasoningTokens]

/-- Every token count of a usage. -/
def Usage.counts (u : Usage) : List Int :=
  [u.promptTokens, u.completionTokens, u.totalTokens, u.inputTokens, u.outputTokens,
    u.claudeCacheCreation5mTokens, u.claudeCacheCreation1hTokens]
    ++ u.promptTokensDetails.counts ++ u.completionTokenDetails.counts

structure Usage.Sound (u : Usage) : Prop where
  nonneg : ∀ n ∈ u.counts, 0 ≤ n
  total : u.promptTokens + u.completionTokens = u.totalTokens
  details : ∀ n ∈ u.promptTokensDetails.counts, n ≤ u.promptTokens

/-! ## The metadata -/

def GeminiUsageMetadata.inputDetails (m : GeminiUsageMetadata) : List GeminiPromptTokensDetails :=
  m.promptTokensDetails ++ m.toolUsePromptTokensDetails

/-- Every field is an `int` that is not negative. -/
structure GeminiUsageMetadata.Natural (m : GeminiUsageMetadata) : Prop where
  prompt : Natural64 m.promptTokenCount
  toolUse : Natural64 m.toolUsePromptTokenCount
  candidates : Natural64 m.candidatesTokenCount
  total : Natural64 m.totalTokenCount
  thoughts : Natural64 m.thoughtsTokenCount
  cached : Natural64 m.cachedContentTokenCount
  input : ∀ d ∈ m.inputDetails, Natural64 d.tokenCount
  output : ∀ d ∈ m.candidatesTokensDetails, Natural64 d.tokenCount

/-- What the details say of some modalities together, as an `int`. -/
def modalityCount (names : List String) (details : List GeminiPromptTokensDetails) : Int :=
  wrap64 ((details.filter fun d => d.modality ∈ names).map (·.tokenCount)).sum

/-- The modalities that a prompt detail is counted under, and those of a completion. -/
def inputModalities : List (List String) :=
  [["TEXT"], ["AUDIO"], ["IMAGE"], ["DOCUMENT", "PDF"], ["VIDEO"]]

def outputModalities : List (List String) := [["TEXT"], ["AUDIO"], ["IMAGE"]]

def GeminiUsageMetadata.promptSum (m : GeminiUsageMetadata) : Int :=
  m.promptTokenCount + m.toolUsePromptTokenCount

def GeminiUsageMetadata.completionSum (m : GeminiUsageMetadata) : Int :=
  wrap64 (m.candidatesTokenCount + m.thoughtsTokenCount)

/-- The reported numbers agree with each other. -/
structure GeminiUsageMetadata.Consistent (m : GeminiUsageMetadata) : Prop where
  prompt : m.promptSum < 2 ^ 63
  total :
    if m.totalTokenCount = 0 then
      0 ≤ m.completionSum ∧ m.promptSum + m.completionSum < 2 ^ 63
    else if m.completionSum ≤ 0 then m.promptSum ≤ m.totalTokenCount
    else m.promptSum + m.completionSum = m.totalTokenCount
  cached : m.cachedContentTokenCount ≤ m.promptSum
  input : ∀ names ∈ inputModalities,
    0 ≤ modalityCount names m.inputDetails ∧ modalityCount names m.inputDetails ≤ m.promptSum
  output : ∀ names ∈ outputModalities, 0 ≤ modalityCount names m.candidatesTokensDetails

/-! ## The details of a conversion -/

section

attribute [local ext] InputTokenDetails OutputTokenDetails

variable (details : List GeminiPromptTokensDetails)

theorem foldl_modality {σ : Type} (field : σ → Int) (names : List String)
    (add : σ → GeminiPromptTokensDetails → σ)
    (hadd : ∀ s d, field (add s d) =
      if d.modality ∈ names then wrap64 (field s + d.tokenCount) else field s)
    {s : σ} (hs : field s = 0) :
    field (details.foldl add s) = modalityCount names details := by
  have hfold := foldl_wrap64_add field (·.tokenCount) (fun d => decide (d.modality ∈ names)) add
    (by simpa using hadd) (by rw [hs]; rfl) details
  rw [hfold, hs, Int.zero_add]
  rfl

theorem addGeminiInputTokenDetail_fields (s : InputTokenDetails) (d : GeminiPromptTokensDetails) :
    addGeminiInputTokenDetail s d =
      { s with
        audioTokens := if d.modality ∈ ["AUDIO"] then wrap64 (s.audioTokens + d.tokenCount)
          else s.audioTokens
        imageTokens := if d.modality ∈ ["IMAGE"] then wrap64 (s.imageTokens + d.tokenCount)
          else s.imageTokens
        documentTokens := if d.modality ∈ ["DOCUMENT", "PDF"] then
            wrap64 (s.documentTokens + d.tokenCount)
          else s.documentTokens
        videoTokens := if d.modality ∈ ["VIDEO"] then wrap64 (s.videoTokens + d.tokenCount)
          else s.videoTokens
        textTokens := if d.modality ∈ ["TEXT"] then wrap64 (s.textTokens + d.tokenCount)
          else s.textTokens } := by
  unfold addGeminiInputTokenDetail
  split <;> simp_all

theorem addGeminiOutputTokenDetail_fields (s : OutputTokenDetails)
    (d : GeminiPromptTokensDetails) :
    addGeminiOutputTokenDetail s d =
      { s with
        imageTokens := if d.modality ∈ ["IMAGE"] then wrap64 (s.imageTokens + d.tokenCount)
          else s.imageTokens
        audioTokens := if d.modality ∈ ["AUDIO"] then wrap64 (s.audioTokens + d.tokenCount)
          else s.audioTokens
        textTokens := if d.modality ∈ ["TEXT"] then wrap64 (s.textTokens + d.tokenCount)
          else s.textTokens } := by
  unfold addGeminiOutputTokenDetail
  split <;> simp_all

theorem foldl_untouched {σ α : Type} (field : σ → Int) (add : σ → α → σ)
    (hadd : ∀ s d, field (add s d) = field s) (s : σ) (l : List α) :
    field (l.foldl add s) = field s := by
  induction l generalizing s with
  | nil => rfl
  | cons d rest ih => rw [List.foldl_cons, ih, hadd]

theorem foldl_addGeminiInputTokenDetail (cached : Int) :
    details.foldl addGeminiInputTokenDetail { cachedTokens := cached } =
      { cachedTokens := cached
        textTokens := modalityCount ["TEXT"] details
        audioTokens := modalityCount ["AUDIO"] details
        imageTokens := modalityCount ["IMAGE"] details
        documentTokens := modalityCount ["DOCUMENT", "PDF"] details
        videoTokens := modalityCount ["VIDEO"] details } := by
  ext
  · exact foldl_untouched InputTokenDetails.cachedTokens _
      (fun s d => by rw [addGeminiInputTokenDetail_fields]) _ _
  · exact foldl_untouched InputTokenDetails.cachedCreationTokens _
      (fun s d => by rw [addGeminiInputTokenDetail_fields]) _ _
  · exact foldl_untouched InputTokenDetails.cacheWriteTokens _
      (fun s d => by rw [addGeminiInputTokenDetail_fields]) _ _
  all_goals
    refine foldl_modality details (fun s : InputTokenDetails => _) _ _ (fun s d => ?_) rfl
    rw [addGeminiInputTokenDetail_fields]

theorem foldl_addGeminiOutputTokenDetail (reasoning : Int) :
    details.foldl addGeminiOutputTokenDetail { reasoningTokens := reasoning } =
      { reasoningTokens := reasoning
        textTokens := modalityCount ["TEXT"] details
        audioTokens := modalityCount ["AUDIO"] details
        imageTokens := modalityCount ["IMAGE"] details } := by
  ext
  case reasoningTokens =>
    exact foldl_untouched OutputTokenDetails.reasoningTokens _
      (fun s d => by rw [addGeminiOutputTokenDetail_fields]) _ _
  all_goals
    refine foldl_modality details _ _ _ (fun s d => ?_) rfl
    rw [addGeminiOutputTokenDetail_fields]

end

/-! ## The conversion -/

theorem inputDetails_eq (m : GeminiUsageMetadata) :
    m.promptTokensDetails ++ m.toolUsePromptTokensDetails = m.inputDetails := rfl

theorem promptSum_eq (m : GeminiUsageMetadata) :
    m.promptTokenCount + m.toolUsePromptTokenCount = m.promptSum := rfl

theorem completionSum_eq (m : GeminiUsageMetadata) :
    wrap64 (m.candidatesTokenCount + m.thoughtsTokenCount) = m.completionSum := rfl

/-- The input details of the usage: their own counts, or the prompt as text where there
are none. -/
theorem usageFromGemini_details (m : GeminiUsageMetadata) :
    ∃ text, (usageFromGeminiBillingUsage m).promptTokensDetails =
        { cachedTokens := m.cachedContentTokenCount
          textTokens := text
          audioTokens := modalityCount ["AUDIO"] m.inputDetails
          imageTokens := modalityCount ["IMAGE"] m.inputDetails
          documentTokens := modalityCount ["DOCUMENT", "PDF"] m.inputDetails
          videoTokens := modalityCount ["VIDEO"] m.inputDetails } ∧
      (text = modalityCount ["TEXT"] m.inputDetails ∨
        0 < wrap64 m.promptSum ∧ modalityCount ["TEXT"] m.inputDetails = 0
          ∧ text = wrap64 m.promptSum) := by
  unfold usageFromGeminiBillingUsage
  simp only [inputDetails_eq, promptSum_eq, foldl_addGeminiInputTokenDetail]
  split
  · rename_i huntyped
    exact ⟨_, rfl, Or.inr ⟨huntyped.1, huntyped.2.1, rfl⟩⟩
  · exact ⟨_, rfl, Or.inl rfl⟩

/-- The details lie between zero and the prompt exactly when the reported counts do. -/
theorem usageFromGemini_within_iff (m : GeminiUsageMetadata) (h : m.Natural)
    (hprompt : 0 ≤ wrap64 m.promptSum) :
    (∀ n ∈ (usageFromGeminiBillingUsage m).promptTokensDetails.counts,
        0 ≤ n ∧ n ≤ wrap64 m.promptSum) ↔
      m.cachedContentTokenCount ≤ wrap64 m.promptSum ∧
        ∀ names ∈ inputModalities, 0 ≤ modalityCount names m.inputDetails ∧
          modalityCount names m.inputDetails ≤ wrap64 m.promptSum := by
  obtain ⟨text, hdetails, htext⟩ := usageFromGemini_details m
  have hcached := h.cached.1
  have hiff : (0 ≤ text ∧ text ≤ wrap64 m.promptSum) ↔
      (0 ≤ modalityCount ["TEXT"] m.inputDetails ∧
        modalityCount ["TEXT"] m.inputDetails ≤ wrap64 m.promptSum) := by
    rcases htext with rfl | ⟨hpos, hzero, rfl⟩
    · rfl
    · rw [hzero]
      omega
  rw [hdetails]
  simp only [InputTokenDetails.counts, inputModalities, List.forall_mem_cons,
    List.not_mem_nil, false_implies, implies_true, and_true, hiff]
  constructor
  · rintro ⟨h1, -, -, h2, h3, h4, h5, h6⟩
    exact ⟨h1.2, h2, h3, h4, h5, h6⟩
  · rintro ⟨h1, h2, h3, h4, h5, h6⟩
    exact ⟨⟨hcached, h1⟩, ⟨le_refl _, hprompt⟩, ⟨le_refl _, hprompt⟩, h2, h3, h4, h5, h6⟩

theorem usageFromGemini_output_iff (m : GeminiUsageMetadata) (h : m.Natural) :
    (∀ n ∈ (usageFromGeminiBillingUsage m).completionTokenDetails.counts, 0 ≤ n) ↔
      ∀ names ∈ outputModalities, 0 ≤ modalityCount names m.candidatesTokensDetails := by
  have hthoughts := h.thoughts.1
  unfold usageFromGeminiBillingUsage
  simp only [foldl_addGeminiOutputTokenDetail, OutputTokenDetails.counts, outputModalities,
    List.forall_mem_cons, List.not_mem_nil, false_implies, implies_true, and_true, hthoughts]

theorem usageFromGemini_totals_iff (m : GeminiUsageMetadata) (h : m.Natural)
    (hprompt : m.promptSum < 2 ^ 63) :
    (0 ≤ (usageFromGeminiBillingUsage m).completionTokens ∧
        0 ≤ (usageFromGeminiBillingUsage m).totalTokens ∧
        m.promptSum + (usageFromGeminiBillingUsage m).completionTokens
          = (usageFromGeminiBillingUsage m).totalTokens) ↔
      if m.totalTokenCount = 0 then
        0 ≤ m.completionSum ∧ m.promptSum + m.completionSum < 2 ^ 63
      else if m.completionSum ≤ 0 then m.promptSum ≤ m.totalTokenCount
      else m.promptSum + m.completionSum = m.totalTokenCount := by
  have hnatural : Natural64 m.promptSum := natural64_add h.prompt h.toolUse hprompt
  obtain ⟨htotal0, htotal1⟩ := h.total
  unfold usageFromGeminiBillingUsage
  simp only [promptSum_eq, completionSum_eq, hnatural.wrap64]
  obtain ⟨hprompt0, -⟩ := hnatural
  have hrange : m.completionSum < 2 ^ 63 := (wrap64_range _).2
  by_cases hzero : m.totalTokenCount = 0
  · rw [if_neg (fun hc => hc.1 hzero), if_pos hzero, if_pos hzero]
    constructor
    · rintro ⟨hc, hsum, -⟩
      exact ⟨hc, (wrap64_add_nonneg_iff ⟨hprompt0, hprompt⟩ ⟨hc, hrange⟩).1 hsum⟩
    · rintro ⟨hc, hsum⟩
      rw [wrap64_of_fits (by omega) hsum]
      omega
  · rw [if_neg hzero, if_neg hzero]
    by_cases hnone : m.completionSum ≤ 0
    · -- the completion is what the total leaves beside the prompt
      rw [if_pos ⟨hzero, hnone⟩, if_pos hnone, wrap64_of_fits (by omega) (by omega)]
      omega
    · rw [if_neg (fun hc => hnone hc.2), if_neg hnone]
      omega

/-- The usage is sound exactly when the reported numbers agree with each other. -/
theorem gemini_usage_sound_iff (m : GeminiUsageMetadata) (h : m.Natural) :
    (usageFromGeminiBillingUsage m).Sound ↔ m.Consistent := by
  have hcounts : (∀ n ∈ (usageFromGeminiBillingUsage m).counts, 0 ≤ n) ↔
      0 ≤ wrap64 m.promptSum ∧ 0 ≤ (usageFromGeminiBillingUsage m).completionTokens ∧
        0 ≤ (usageFromGeminiBillingUsage m).totalTokens ∧
        (∀ n ∈ (usageFromGeminiBillingUsage m).promptTokensDetails.counts, 0 ≤ n) ∧
        ∀ n ∈ (usageFromGeminiBillingUsage m).completionTokenDetails.counts, 0 ≤ n := by
    have hrest : (usageFromGeminiBillingUsage m).inputTokens = 0 ∧
        (usageFromGeminiBillingUsage m).outputTokens = 0 ∧
        (usageFromGeminiBillingUsage m).claudeCacheCreation5mTokens = 0 ∧
        (usageFromGeminiBillingUsage m).claudeCacheCreation1hTokens = 0 :=
      ⟨rfl, rfl, rfl, rfl⟩
    obtain ⟨hin, hout, h5m, h1h⟩ := hrest
    simp only [Usage.counts, hin, hout, h5m, h1h, List.forall_mem_append, List.forall_mem_cons,
      List.not_mem_nil, false_implies, implies_true, and_true, le_refl, and_assoc]
    rfl
  constructor
  · rintro ⟨hnonneg, htotal, hdetails⟩
    obtain ⟨hprompt, hcompletion, htotal0, hinput, houtput⟩ := hcounts.1 hnonneg
    have hfits : m.promptSum < 2 ^ 63 := (wrap64_add_nonneg_iff h.prompt h.toolUse).1 hprompt
    have hself : wrap64 m.promptSum = m.promptSum :=
      (natural64_add h.prompt h.toolUse hfits).wrap64
    have hwithin := (usageFromGemini_within_iff m h hprompt).1
      fun n hn => ⟨hinput n hn, hdetails n hn⟩
    rw [hself] at hwithin
    have hadd : m.promptSum + (usageFromGeminiBillingUsage m).completionTokens
        = (usageFromGeminiBillingUsage m).totalTokens := by
      rw [← htotal, ← hself]
      rfl
    exact ⟨hfits, (usageFromGemini_totals_iff m h hfits).1 ⟨hcompletion, htotal0, hadd⟩,
      hwithin.1, hwithin.2, (usageFromGemini_output_iff m h).1 houtput⟩
  · rintro ⟨hfits, htotals, hcached, hinput, houtput⟩
    have hnatural : Natural64 m.promptSum := natural64_add h.prompt h.toolUse hfits
    have hprompt : 0 ≤ wrap64 m.promptSum := hnatural.wrap64.symm ▸ hnatural.1
    have hwithin := (usageFromGemini_within_iff m h hprompt).2
      (by rw [hnatural.wrap64]; exact ⟨hcached, hinput⟩)
    obtain ⟨hcompletion, htotal0, hadd⟩ := (usageFromGemini_totals_iff m h hfits).2 htotals
    refine ⟨hcounts.2 ⟨hprompt, hcompletion, htotal0, fun n hn => (hwithin n hn).1,
      (usageFromGemini_output_iff m h).2 houtput⟩, ?_, fun n hn => (hwithin n hn).2⟩
    rw [← hadd]
    exact congrArg (· + _) hnatural.wrap64

/-- A text prompt of ten tokens, `total` tokens in all, and no candidates. -/
def noCandidates (total : Int) : GeminiUsageMetadata where
  promptTokenCount := 10
  toolUsePromptTokenCount := 0
  candidatesTokenCount := 0
  totalTokenCount := total
  thoughtsTokenCount := 0
  cachedContentTokenCount := 0
  promptTokensDetails := [⟨"TEXT", 10⟩]
  toolUsePromptTokensDetails := []
  candidatesTokensDetails := []

theorem noCandidates_natural {total : Int} (h : Natural64 total) : (noCandidates total).Natural := by
  have hten : Natural64 10 := ⟨by norm_num, by norm_num⟩
  have hzero : Natural64 0 := ⟨le_refl 0, by norm_num⟩
  exact ⟨hten, hzero, hzero, h, hzero, hzero, by simp [noCandidates,
    GeminiUsageMetadata.inputDetails, hten], by simp [noCandidates]⟩

/-- The total leaves two tokens to the completion. -/
theorem completion_from_total : (usageFromGeminiBillingUsage (noCandidates 12)).Sound :=
  (gemini_usage_sound_iff _ (noCandidates_natural ⟨by norm_num, by norm_num⟩)).2
    ⟨by decide, by decide, by decide, by decide, by decide⟩

/-- A total of four tokens for a prompt of ten leaves minus six. -/
theorem completion_below_zero :
    (noCandidates 4).Natural ∧
      (usageFromGeminiBillingUsage (noCandidates 4)).completionTokens = -6 ∧
      ¬ (usageFromGeminiBillingUsage (noCandidates 4)).Sound := by
  refine ⟨noCandidates_natural ⟨by norm_num, by norm_num⟩, by decide, fun h => ?_⟩
  exact absurd (h.nonneg (-6) (by decide)) (by decide)

/-! ## The parameters of a tiered expression -/

/-- The cache writes of a Claude usage: in total or by time to live, whichever is more. -/
def Usage.cacheWrites (u : Usage) : Int :=
  max u.promptTokensDetails.cacheCreationTokensTotal
    (u.claudeCacheCreation5mTokens + u.claudeCacheCreation1hTokens)

end YouBox
