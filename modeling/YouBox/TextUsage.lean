import YouBox.MachineInt
import YouBox.SubConsume

/-!
# The usage a text request is billed by

`effectiveBillingUsage`: the usage an upstream reports may carry another one, in
the upstream's own terms, and that one is billed. Then what the two price
calculations take from it: the token counts of the ratio and price modes and the
`TokenParams` of the tiered one.

Of `dto.Usage` and its relatives the model has the fields that these read.
-/

namespace YouBox

structure InputTokenDetails where
  cachedTokens : Int := 0
  cachedCreationTokens : Int := 0
  cacheWriteTokens : Int := 0
  textTokens : Int := 0
  audioTokens : Int := 0
  imageTokens : Int := 0
  documentTokens : Int := 0
  videoTokens : Int := 0

structure OutputTokenDetails where
  textTokens : Int := 0
  audioTokens : Int := 0
  imageTokens : Int := 0
  reasoningTokens : Int := 0

/-- `Cost any`: what OpenRouter charged. -/
inductive UsageCost where
  | absent
  | int (n : Int)
  | float (x : ℚ)
deriving DecidableEq

/-- The counts of `dto.Usage`. -/
structure Usage where
  promptTokens : Int := 0
  completionTokens : Int := 0
  totalTokens : Int := 0
  usageSemantic : String := ""
  usageSource : String := ""
  promptTokensDetails : InputTokenDetails := {}
  completionTokenDetails : OutputTokenDetails := {}
  inputTokens : Int := 0
  outputTokens : Int := 0
  claudeCacheCreation5mTokens : Int := 0
  claudeCacheCreation1hTokens : Int := 0
  cost : UsageCost := .absent

structure ClaudeCacheCreationUsage where
  ephemeral5mInputTokens : Int
  ephemeral1hInputTokens : Int

structure ClaudeUsage where
  inputTokens : Int
  cacheCreationInputTokens : Int
  cacheReadInputTokens : Int
  outputTokens : Int
  cacheCreation : Option ClaudeCacheCreationUsage
  claudeCacheCreation5mTokens : Int
  claudeCacheCreation1hTokens : Int

structure GeminiPromptTokensDetails where
  modality : String
  tokenCount : Int

structure GeminiUsageMetadata where
  promptTokenCount : Int
  toolUsePromptTokenCount : Int
  candidatesTokenCount : Int
  totalTokenCount : Int
  thoughtsTokenCount : Int
  cachedContentTokenCount : Int
  promptTokensDetails : List GeminiPromptTokensDetails
  toolUsePromptTokensDetails : List GeminiPromptTokensDetails
  candidatesTokensDetails : List GeminiPromptTokensDetails

structure BillingUsage where
  source : String
  semantic : String
  openAIUsage : Option Usage
  claudeUsage : Option ClaudeUsage
  geminiUsageMetadata : Option GeminiUsageMetadata

/-- What an adaptor hands to the settlement. -/
structure UpstreamUsage where
  usage : Usage
  billingUsage : Option BillingUsage := none

/-! ## The usage in the upstream's terms -/

/-- Simple case folding, onto ASCII where there is something to fold onto. -/
def foldChar (c : Char) : Char :=
  if c = '\u017f' then 's' else if c = '\u212a' then 'k' else c.toLower

/-- `strings.EqualFold` with a lower-case ASCII constant. -/
def equalFold (s const : String) : Bool :=
  s.toList.map foldChar = const.toList

def usageFromOpenAIBillingUsage (source : String) (openAIUsage : Usage) : Usage :=
  let u := openAIUsage
  let u := if u.promptTokens = 0 ∧ 0 < u.inputTokens then { u with promptTokens := u.inputTokens }
    else u
  let u := if u.completionTokens = 0 ∧ 0 < u.outputTokens then
      { u with completionTokens := u.outputTokens }
    else u
  let u := if u.inputTokens = 0 ∧ 0 < u.promptTokens then { u with inputTokens := u.promptTokens }
    else u
  let u := if u.outputTokens = 0 ∧ 0 < u.completionTokens then
      { u with outputTokens := u.completionTokens }
    else u
  let u := if u.totalTokens = 0 then
      { u with totalTokens := u.promptTokens + u.completionTokens }
    else u
  { u with usageSemantic := "openai", usageSource := source }

/-- The cache creation by time to live, as reported or as kept by a conversion. -/
def ClaudeUsage.cacheCreationFor (ephemeral : ClaudeCacheCreationUsage → Int) (kept : Int)
    (u : ClaudeUsage) : Int :=
  let reported := (u.cacheCreation.map ephemeral).getD 0
  if reported = 0 then kept else reported

def usageFromClaudeBillingUsage (u : ClaudeUsage) : Usage where
  promptTokens := u.inputTokens
  completionTokens := u.outputTokens
  totalTokens := u.inputTokens + u.outputTokens
  inputTokens := u.inputTokens + u.cacheReadInputTokens + u.cacheCreationInputTokens
  outputTokens := u.outputTokens
  usageSemantic := "anthropic"
  usageSource := "claude_messages"
  claudeCacheCreation5mTokens :=
    u.cacheCreationFor (·.ephemeral5mInputTokens) u.claudeCacheCreation5mTokens
  claudeCacheCreation1hTokens :=
    u.cacheCreationFor (·.ephemeral1hInputTokens) u.claudeCacheCreation1hTokens
  promptTokensDetails :=
    { cachedTokens := u.cacheReadInputTokens, cachedCreationTokens := u.cacheCreationInputTokens }

def addGeminiInputTokenDetail (details : InputTokenDetails) (detail : GeminiPromptTokensDetails) :
    InputTokenDetails :=
  let n := detail.tokenCount
  match detail.modality with
  | "AUDIO" => { details with audioTokens := wrap64 (details.audioTokens + n) }
  | "IMAGE" => { details with imageTokens := wrap64 (details.imageTokens + n) }
  | "DOCUMENT" | "PDF" => { details with documentTokens := wrap64 (details.documentTokens + n) }
  | "VIDEO" => { details with videoTokens := wrap64 (details.videoTokens + n) }
  | "TEXT" => { details with textTokens := wrap64 (details.textTokens + n) }
  | _ => details

def addGeminiOutputTokenDetail (details : OutputTokenDetails)
    (detail : GeminiPromptTokensDetails) : OutputTokenDetails :=
  let n := detail.tokenCount
  match detail.modality with
  | "IMAGE" => { details with imageTokens := wrap64 (details.imageTokens + n) }
  | "AUDIO" => { details with audioTokens := wrap64 (details.audioTokens + n) }
  | "TEXT" => { details with textTokens := wrap64 (details.textTokens + n) }
  | _ => details

def usageFromGeminiBillingUsage (m : GeminiUsageMetadata) : Usage :=
  let promptTokens := wrap64 (m.promptTokenCount + m.toolUsePromptTokenCount)
  let completionTokens := wrap64 (m.candidatesTokenCount + m.thoughtsTokenCount)
  let input := (m.promptTokensDetails ++ m.toolUsePromptTokensDetails).foldl
    addGeminiInputTokenDetail { cachedTokens := m.cachedContentTokenCount }
  let untyped := 0 < promptTokens ∧ input.textTokens = 0 ∧ input.audioTokens = 0
    ∧ input.imageTokens = 0 ∧ input.documentTokens = 0 ∧ input.videoTokens = 0
  { promptTokens := promptTokens
    completionTokens :=
      if m.totalTokenCount ≠ 0 ∧ completionTokens ≤ 0 then
        wrap64 (m.totalTokenCount - promptTokens)
      else completionTokens
    totalTokens :=
      if m.totalTokenCount = 0 then wrap64 (promptTokens + completionTokens)
      else m.totalTokenCount
    usageSemantic := "gemini"
    usageSource := "gemini_chat"
    promptTokensDetails := if untyped then { input with textTokens := promptTokens } else input
    completionTokenDetails := m.candidatesTokensDetails.foldl addGeminiOutputTokenDetail
      { reasoningTokens := m.thoughtsTokenCount } }

def usageFromBillingUsage (b : BillingUsage) : Option Usage :=
  let source := trimSpace b.source
  let semantic := trimSpace b.semantic
  let openAI := b.openAIUsage.filter fun _ => equalFold source "oai_chat"
    || equalFold source "oai_responses" || equalFold semantic "openai"
  let claude := b.claudeUsage.filter fun _ => equalFold source "claude_messages"
    || equalFold semantic "anthropic"
  let gemini := b.geminiUsageMetadata.filter fun _ => equalFold source "gemini_chat"
    || equalFold semantic "gemini"
  match openAI, claude, gemini with
  | some u, _, _ => some (usageFromOpenAIBillingUsage b.source u)
  | none, some u, _ => some (usageFromClaudeBillingUsage u)
  | none, none, some m => some (usageFromGeminiBillingUsage m)
  | none, none, none => none

def effectiveBillingUsage (u : UpstreamUsage) : Usage :=
  (u.billingUsage.bind usageFromBillingUsage).getD u.usage

/-! ## What the calculations take from it -/

def InputTokenDetails.cacheCreationTokensTotal (d : InputTokenDetails) : Int :=
  let total := if d.cachedCreationTokens < d.cacheWriteTokens then d.cacheWriteTokens
    else d.cachedCreationTokens
  if total < 0 then 0 else total

/-- `billingexpr.TokenParams`; the floats are token counts. -/
structure TokenParams where
  p : Int
  c : Int
  len : Int
  cr : Int
  cc : Int
  cc1h : Int
  img : Int
  imgO : Int
  ai : Int
  ao : Int
  doc : Int
  vid : Int

/-- `p` and `c` are what the expression does not price on its own;
`usedVars` says which variables it uses. -/
def buildTieredTokenParams (u : Usage) (isClaudeUsageSemantic : Bool) (usedVars : String → Bool) :
    TokenParams :=
  let anthropic := u.usageSemantic = "anthropic"
  let cr := u.promptTokensDetails.cachedTokens
  let cc5m := if anthropic then u.claudeCacheCreation5mTokens
    else u.promptTokensDetails.cacheCreationTokensTotal
  let cc1h := if anthropic then u.claudeCacheCreation1hTokens else 0
  let img := u.promptTokensDetails.imageTokens
  let ai := u.promptTokensDetails.audioTokens
  let doc := u.promptTokensDetails.documentTokens
  let vid := u.promptTokensDetails.videoTokens
  let imgO := u.completionTokenDetails.imageTokens
  let ao := u.completionTokenDetails.audioTokens
  let priced (name : String) (n : Int) : Int :=
    if !isClaudeUsageSemantic && usedVars name then n else 0
  let p := u.promptTokens - priced "cr" cr - priced "cc" cc5m - priced "cc1h" cc1h
    - priced "img" img - priced "ai" ai - priced "doc" doc - priced "vid" vid
  let c := u.completionTokens - priced "img_o" imgO - priced "ao" ao
  { p := if p < 0 then 0 else p
    c := if c < 0 then 0 else c
    len := if isClaudeUsageSemantic then u.promptTokens + cr + cc5m + cc1h else u.promptTokens
    cr, cc := cc5m, cc1h, img, imgO, ai, ao, doc, vid }

end YouBox
