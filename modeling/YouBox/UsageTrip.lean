import YouBox.Responses

/-!
# OpenAI usage as Claude usage, and back

`buildClaudeUsageFromOpenAIUsage` and `UsageFromClaudeAPIUsage`. OpenAI counts the
cached and the created tokens in the prompt, Claude beside it. The first function
takes them out of the prompt only where the usage has native cache writes; the
second adds them in every case.

`usage_trip_iff` says for which usages the tokens add up and come back.
-/

namespace YouBox.UsageTrip

open Responses

/-! ## The code -/

/-- `dto.ClaudeUsage` with the usage kept for billing. -/
structure ClaudeReplyUsage extends ClaudeUsage where
  billingUsage : Option BillingUsage := none

def normalizeCacheCreationSplit (totalTokens tokens5m tokens1h : Int) : Int × Int :=
  let remainder := totalTokens - tokens5m - tokens1h
  let remainder := if remainder < 0 then 0 else remainder
  (tokens5m + remainder, tokens1h)

/-- The billing usage of a Claude usage made from an OpenAI one: what there is of the
kind, or the usage itself. -/
def openAIBillingUsage (oaiUsage : Responses.Usage) : Option BillingUsage :=
  match oaiUsage.billingUsage with
  | some existing =>
    if existing.openAIUsage.isSome ∧ (existing.source = "oai_chat" ∨
        existing.source = "oai_responses" ∨ existing.semantic = "openai") then some existing
    else newOpenAIBillingUsage "oai_chat" oaiUsage
  | none => newOpenAIBillingUsage "oai_chat" oaiUsage

/-- The Claude usage that an OpenAI usage carries along. -/
def carriedClaudeUsage (oaiUsage : Responses.Usage) : Option ClaudeUsage :=
  oaiUsage.billingUsage.bind fun billing =>
    if billing.source = "claude_messages" ∨ billing.semantic = "anthropic" then
      billing.claudeUsage
    else none

def buildClaudeUsageFromOpenAIUsage : Option Responses.Usage → Option ClaudeReplyUsage
  | none => none
  | some oaiUsage =>
    match carriedClaudeUsage oaiUsage with
    | some usage => some { usage with }
    | none =>
      let details := oaiUsage.promptTokensDetails
      let (cacheCreation5m, cacheCreation1h) := normalizeCacheCreationSplit
        details.cachedCreationTokens oaiUsage.claudeCacheCreation5mTokens
        oaiUsage.claudeCacheCreation1hTokens
      let cacheCreationTokens := details.cacheCreationTokensTotal
      let inputTokens :=
        if details.cacheWriteTokens > 0 then
          let inputTokens := oaiUsage.promptTokens - details.cachedTokens - cacheCreationTokens
          if inputTokens < 0 then 0 else inputTokens
        else oaiUsage.promptTokens
      some {
        inputTokens
        outputTokens := oaiUsage.completionTokens
        cacheCreationInputTokens := cacheCreationTokens
        cacheReadInputTokens := details.cachedTokens
        cacheCreation := if cacheCreation5m > 0 ∨ cacheCreation1h > 0 then
            some ⟨cacheCreation5m, cacheCreation1h⟩
          else none
        claudeCacheCreation5mTokens := 0
        claudeCacheCreation1hTokens := 0
        billingUsage := openAIBillingUsage oaiUsage }

def hasClaudeUsageTokens (u : ClaudeUsage) : Bool :=
  u.inputTokens != 0 || u.outputTokens != 0 || u.cacheCreationInputTokens != 0 ||
  u.cacheReadInputTokens != 0 || u.claudeCacheCreation5mTokens != 0 ||
  u.claudeCacheCreation1hTokens != 0 ||
  u.cacheCreation.any fun c => c.ephemeral5mInputTokens != 0 || c.ephemeral1hInputTokens != 0

def newClaudeMessagesBillingUsage (u : ClaudeUsage) : Option BillingUsage :=
  if hasClaudeUsageTokens u then
    some
      { source := "claude_messages", semantic := "anthropic", openAIUsage := none,
        claudeUsage := some u, geminiUsageMetadata := none }
  else none

def cacheCreationTokensForOpenAIUsage (u : Responses.Usage) : Int :=
  let splitCacheCreationTokens := u.claudeCacheCreation5mTokens + u.claudeCacheCreation1hTokens
  if splitCacheCreationTokens = 0 then u.promptTokensDetails.cachedCreationTokens
  else if u.promptTokensDetails.cachedCreationTokens > splitCacheCreationTokens then
    u.promptTokensDetails.cachedCreationTokens
  else splitCacheCreationTokens

def buildOpenAIStyleUsageFromClaudeUsage (u : Responses.Usage) : Responses.Usage :=
  let split := normalizeCacheCreationSplit u.promptTokensDetails.cachedCreationTokens
    u.claudeCacheCreation5mTokens u.claudeCacheCreation1hTokens
  let cacheCreationTokens := cacheCreationTokensForOpenAIUsage u
  let totalInputTokens :=
    u.promptTokens + u.promptTokensDetails.cachedTokens + cacheCreationTokens
  { u with
    claudeCacheCreation5mTokens := split.1
    claudeCacheCreation1hTokens := split.2
    promptTokensDetails :=
      { u.promptTokensDetails with cacheWriteTokens := cacheCreationTokens }
    promptTokens := totalInputTokens
    inputTokens := totalInputTokens
    totalTokens := totalInputTokens + u.completionTokens
    usageSemantic := "openai"
    usageSource := "anthropic" }

def usageFromClaudeAPIUsage : Option ClaudeReplyUsage → Responses.Usage
  | none => {}
  | some usage =>
    buildOpenAIStyleUsageFromClaudeUsage {
      promptTokens := usage.inputTokens
      completionTokens := usage.outputTokens
      usageSemantic := "anthropic"
      usageSource := "anthropic"
      billingUsage := usage.billingUsage <|> newClaudeMessagesBillingUsage usage.toClaudeUsage
      promptTokensDetails := {
        cachedTokens := usage.cacheReadInputTokens
        cachedCreationTokens := usage.cacheCreationInputTokens }
      claudeCacheCreation5mTokens := (usage.cacheCreation.map (·.ephemeral5mInputTokens)).getD 0
      claudeCacheCreation1hTokens := (usage.cacheCreation.map (·.ephemeral1hInputTokens)).getD 0 }

/-! ## What is meant -/

/-- The counts that the conversions read, none below zero. -/
structure NonNegative (u : Responses.Usage) : Prop where
  prompt : 0 ≤ u.promptTokens
  completion : 0 ≤ u.completionTokens
  cached : 0 ≤ u.promptTokensDetails.cachedTokens
  creation : 0 ≤ u.promptTokensDetails.cachedCreationTokens
  write : 0 ≤ u.promptTokensDetails.cacheWriteTokens
  creation5m : 0 ≤ u.claudeCacheCreation5mTokens
  creation1h : 0 ≤ u.claudeCacheCreation1hTokens

/-- The Claude usage has the tokens of the OpenAI usage, each once. -/
structure Conserved (u : Responses.Usage) (c : ClaudeReplyUsage) : Prop where
  input_nonneg : 0 ≤ c.inputTokens
  output_nonneg : 0 ≤ c.outputTokens
  read_nonneg : 0 ≤ c.cacheReadInputTokens
  creation_nonneg : 0 ≤ c.cacheCreationInputTokens
  prompt : c.inputTokens + c.cacheReadInputTokens + c.cacheCreationInputTokens = u.promptTokens
  completion : c.outputTokens = u.completionTokens

/-- The counts of a usage that has been to Claude and back. -/
structure Returned (u back : Responses.Usage) : Prop where
  prompt : back.promptTokens = u.promptTokens
  completion : back.completionTokens = u.completionTokens
  cached : back.promptTokensDetails.cachedTokens = u.promptTokensDetails.cachedTokens
  creation : back.promptTokensDetails.cacheCreationTokensTotal =
    u.promptTokensDetails.cacheCreationTokensTotal

/-- Native cache writes, or nothing cached and created. -/
def Native (u : Responses.Usage) : Prop :=
  0 < u.promptTokensDetails.cacheWriteTokens ∨
    (u.promptTokensDetails.cachedTokens = 0 ∧ u.promptTokensDetails.cachedCreationTokens = 0)

/-! ## The conversion and its return -/

theorem total_eq (d : InputTokenDetails) :
    d.cacheCreationTokensTotal = max 0 (max d.cachedCreationTokens d.cacheWriteTokens) := by
  unfold InputTokenDetails.cacheCreationTokensTotal
  dsimp only
  omega

theorem normalizeCacheCreationSplit_sum (totalTokens tokens5m tokens1h : Int) :
    (normalizeCacheCreationSplit totalTokens tokens5m tokens1h).1 +
        (normalizeCacheCreationSplit totalTokens tokens5m tokens1h).2 =
      max totalTokens (tokens5m + tokens1h) := by
  unfold normalizeCacheCreationSplit
  dsimp only
  omega

theorem split_sum {tokens5m tokens1h : Int} (h5m : 0 ≤ tokens5m) (h1h : 0 ≤ tokens1h) :
    ((if tokens5m > 0 ∨ tokens1h > 0 then some (⟨tokens5m, tokens1h⟩ : ClaudeCacheCreationUsage)
        else none).map (·.ephemeral5mInputTokens)).getD 0 +
      ((if tokens5m > 0 ∨ tokens1h > 0 then some (⟨tokens5m, tokens1h⟩ : ClaudeCacheCreationUsage)
        else none).map (·.ephemeral1hInputTokens)).getD 0 = tokens5m + tokens1h := by
  split
  · rfl
  · rename_i hzero
    rw [not_or] at hzero
    rw [Option.map_none, Option.map_none, Option.getD_none]
    omega

theorem build_eq {u : Responses.Usage} (hnone : u.billingUsage = none) (h : NonNegative u) :
    ∃ c, buildClaudeUsageFromOpenAIUsage (some u) = some c ∧
      c.inputTokens = (if 0 < u.promptTokensDetails.cacheWriteTokens then
        max 0 (u.promptTokens - u.promptTokensDetails.cachedTokens -
          u.promptTokensDetails.cacheCreationTokensTotal) else u.promptTokens) ∧
      c.outputTokens = u.completionTokens ∧
      c.cacheReadInputTokens = u.promptTokensDetails.cachedTokens ∧
      c.cacheCreationInputTokens = u.promptTokensDetails.cacheCreationTokensTotal ∧
      (c.cacheCreation.map (·.ephemeral5mInputTokens)).getD 0 +
          (c.cacheCreation.map (·.ephemeral1hInputTokens)).getD 0 =
        max u.promptTokensDetails.cachedCreationTokens
          (u.claudeCacheCreation5mTokens + u.claudeCacheCreation1hTokens) := by
  have hcarried : carriedClaudeUsage u = none := by
    rw [carriedClaudeUsage, hnone]
    rfl
  have hsum := normalizeCacheCreationSplit_sum u.promptTokensDetails.cachedCreationTokens
    u.claudeCacheCreation5mTokens u.claudeCacheCreation1hTokens
  rw [buildClaudeUsageFromOpenAIUsage, hcarried]
  refine ⟨_, rfl, ?_, rfl, rfl, rfl, ?_⟩
  · dsimp only
    split
    · omega
    · rfl
  · refine (split_sum ?_ h.creation1h).trans hsum
    have h5m := h.creation5m
    omega

theorem back_eq (c : ClaudeReplyUsage) {creation : Int}
    (hsplit : (c.cacheCreation.map (·.ephemeral5mInputTokens)).getD 0 +
        (c.cacheCreation.map (·.ephemeral1hInputTokens)).getD 0 = creation)
    (hcreation : 0 ≤ creation) (htotal : 0 ≤ c.cacheCreationInputTokens) :
    (usageFromClaudeAPIUsage (some c)).promptTokens =
        c.inputTokens + c.cacheReadInputTokens + max c.cacheCreationInputTokens creation ∧
      (usageFromClaudeAPIUsage (some c)).completionTokens = c.outputTokens ∧
      (usageFromClaudeAPIUsage (some c)).promptTokensDetails.cachedTokens =
        c.cacheReadInputTokens ∧
      (usageFromClaudeAPIUsage (some c)).promptTokensDetails.cacheCreationTokensTotal =
        max c.cacheCreationInputTokens creation := by
  rw [total_eq, usageFromClaudeAPIUsage, buildOpenAIStyleUsageFromClaudeUsage,
    cacheCreationTokensForOpenAIUsage]
  dsimp only
  rw [hsplit]
  refine ⟨?_, rfl, rfl, ?_⟩ <;> split_ifs <;> omega

/-- For a usage without an attached one whose cached and created tokens fit into the prompt,
the tokens add up and come back if and only if it has native cache writes or nothing cached
and created, and its split is no more than its total. -/
theorem usage_trip_iff (u : Responses.Usage) (hnone : u.billingUsage = none) (h : NonNegative u)
    (hfits : u.promptTokensDetails.cachedTokens + u.promptTokensDetails.cacheCreationTokensTotal ≤
      u.promptTokens) :
    (∃ c, buildClaudeUsageFromOpenAIUsage (some u) = some c ∧ Conserved u c ∧
        Returned u (usageFromClaudeAPIUsage (some c))) ↔
      Native u ∧ u.claudeCacheCreation5mTokens + u.claudeCacheCreation1hTokens ≤
        u.promptTokensDetails.cacheCreationTokensTotal := by
  obtain ⟨c, hbuild, hinput, houtput, hread, hcreation, hsplit⟩ := build_eq hnone h
  have htotal := total_eq u.promptTokensDetails
  have hprompt := h.prompt
  have hcompletion := h.completion
  have hcached := h.cached
  have hcreated := h.creation
  have hwrite := h.write
  have h5m := h.creation5m
  have h1h := h.creation1h
  obtain ⟨bprompt, bcompletion, bcached, bcreation⟩ := back_eq c hsplit (by omega) (by omega)
  constructor
  · rintro ⟨c', hbuild', hconserved, hreturned⟩
    rw [hbuild] at hbuild'
    cases hbuild'
    have hkept := hconserved.prompt
    have hback := hreturned.creation
    rw [bcreation, hcreation] at hback
    refine ⟨?_, by omega⟩
    by_cases hw : 0 < u.promptTokensDetails.cacheWriteTokens
    · exact Or.inl hw
    · rw [if_neg hw] at hinput
      exact Or.inr ⟨by omega, by omega⟩
  · rintro ⟨hnative, hle⟩
    have hin : c.inputTokens = u.promptTokens - u.promptTokensDetails.cachedTokens -
        u.promptTokensDetails.cacheCreationTokensTotal := by
      rcases hnative with hw | ⟨hzero, hzero'⟩
      · rw [if_pos hw] at hinput
        omega
      · by_cases hw : 0 < u.promptTokensDetails.cacheWriteTokens
        · rw [if_pos hw] at hinput
          omega
        · rw [if_neg hw] at hinput
          omega
    refine ⟨c, hbuild, ?_, ?_⟩
    · constructor <;> omega
    · constructor
      · omega
      · omega
      · omega
      · rw [bcreation]
        omega

/-- A usage with native cache writes. -/
def nativeUsage : Responses.Usage where
  promptTokens := 100
  completionTokens := 5
  promptTokensDetails := { cachedTokens := 60, cacheWriteTokens := 30 }

theorem nativeUsage_trip :
    (∃ c, buildClaudeUsageFromOpenAIUsage (some nativeUsage) = some c ∧ Conserved nativeUsage c ∧
        Returned nativeUsage (usageFromClaudeAPIUsage (some c))) ↔
      Native nativeUsage ∧ nativeUsage.claudeCacheCreation5mTokens +
          nativeUsage.claudeCacheCreation1hTokens ≤
        nativeUsage.promptTokensDetails.cacheCreationTokensTotal :=
  usage_trip_iff nativeUsage rfl (by constructor <;> decide) (by decide)

/-- A prompt of which a part was cached, as OpenAI reports it. -/
def cachedUsage : Responses.Usage where
  promptTokens := 100
  completionTokens := 5
  promptTokensDetails := { cachedTokens := 60 }

/-- The cached tokens are counted twice. -/
theorem cached_twice :
    (buildClaudeUsageFromOpenAIUsage (some cachedUsage)).map
        (fun c => (c.inputTokens, c.cacheReadInputTokens)) = some (100, 60) ∧
      (usageFromClaudeAPIUsage (buildClaudeUsageFromOpenAIUsage (some cachedUsage))).promptTokens =
        160 := by
  constructor <;> decide

end YouBox.UsageTrip
