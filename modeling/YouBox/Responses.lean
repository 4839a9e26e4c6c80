import YouBox.ClaudeStream
import YouBox.SubGroups
import YouBox.TextUsage

/-!
# The Responses format

The data that the conversions between chat completions and OpenAI's
Responses API pass around: JSON values and raw JSON messages, the
messages and tool calls of the chat format, and the output items, the
response and the stream events of the other. The usage record is the one
that is billed, with the details that only one of the formats has and
the copy kept for the settlement.

Every field here is read or written by one of the converters. Fields
with a fixed value (`object`, the empty annotations of a text part) are
left out.
-/

namespace YouBox.Responses

/-! ## JSON -/

/-- What `encoding/json` makes of a document: a number is its text. -/
inductive Json where
  | null
  | bool (b : Bool)
  | num (text : String)
  | str (s : String)
  | arr (items : List Json)
  | obj (fields : List (String × Json))

/-- `m[key]`, the zero value where the key is missing. -/
def fieldOf (fields : List (String × Json)) (key : String) : Json :=
  ((fields.find? fun f => f.1 == key).map (·.2)).getD .null

/-- A `json.RawMessage` the way its readers take it apart: nothing at
all, `null`, a string, or any other value with its trimmed text. -/
inductive Raw where
  | absent
  | null
  | str (s : String)
  | other (value : Json) (text : String)

def jsonRawMessageToString : Raw → String
  | .absent => ""
  | .null => ""
  | .str s => s
  | .other _ text => text

/-- `Unmarshal` into a string, which stays empty when it fails. -/
def Raw.stringValue : Raw → String
  | .str s => s
  | _ => ""

/-! ## Chat messages -/

structure FunctionRequest where
  description : String := ""
  name : String := ""
  parameters : Json := .null
  arguments : String := ""

structure ToolCallRequest where
  id : String := ""
  type : String := ""
  function : FunctionRequest := {}
  custom : Raw := .absent

/-- `dto.Message`. The raw tool calls are the list they parse to. -/
structure Message where
  role : String
  content : Json := .null
  reasoningContent : Option String := none
  reasoning : Option String := none
  toolCalls : List ToolCallRequest := []
  toolCallId : String := ""

def contentTypeText : String := "text"

/-- The text of a content part, if it is one. -/
def textPart : Json → String
  | .obj fields =>
    match fieldOf fields "type", fieldOf fields "text" with
    | .str type, .str text => if type = contentTypeText then text else ""
    | _, _ => ""
  | _ => ""

def Message.stringContent (m : Message) : String :=
  match m.content with
  | .str s => s
  | .arr items => String.join (items.map textPart)
  | _ => ""

def Message.getReasoningContent (m : Message) : String :=
  match m.reasoningContent, m.reasoning with
  | none, none => ""
  | some s, _ => s
  | none, some s => s

/-! ## Usage -/

/-- `dto.Usage` with the details of the Responses format and the usage
kept for billing. -/
structure Usage extends YouBox.Usage where
  promptCacheHitTokens : Int := 0
  inputTokensDetails : Option InputTokenDetails := none
  billingUsage : Option BillingUsage := none

def hasOpenAIUsageTokens (u : Usage) : Bool :=
  u.promptTokens != 0 || u.completionTokens != 0 || u.totalTokens != 0 || u.inputTokens != 0 ||
  u.outputTokens != 0 || u.promptCacheHitTokens != 0 || u.claudeCacheCreation5mTokens != 0 ||
  u.claudeCacheCreation1hTokens != 0 ||
  u.promptTokensDetails.cachedTokens != 0 || u.promptTokensDetails.cachedCreationTokens != 0 ||
  u.promptTokensDetails.cacheWriteTokens != 0 || u.promptTokensDetails.textTokens != 0 ||
  u.promptTokensDetails.imageTokens != 0 || u.promptTokensDetails.audioTokens != 0 ||
  u.promptTokensDetails.documentTokens != 0 || u.promptTokensDetails.videoTokens != 0 ||
  u.completionTokenDetails.reasoningTokens != 0 || u.completionTokenDetails.textTokens != 0 ||
  u.completionTokenDetails.imageTokens != 0 || u.completionTokenDetails.audioTokens != 0 ||
  u.inputTokensDetails.isSome

def newOpenAIBillingUsage (source : String) (u : Usage) : Option BillingUsage :=
  if hasOpenAIUsageTokens u then
    some
      { source := source, semantic := "openai", openAIUsage := some u.toUsage,
        claudeUsage := none, geminiUsageMetadata := none }
  else none

/-! ## Responses -/

structure ResponsesOutputContent where
  type : String
  text : String

structure ResponsesOutput where
  type : String
  id : String := ""
  status : String := ""
  role : String := ""
  content : List ResponsesOutputContent := []
  callId : String := ""
  name : String := ""
  arguments : Raw := .absent

def ResponsesOutput.argumentsString (out : ResponsesOutput) : String :=
  jsonRawMessageToString out.arguments

structure IncompleteDetails where
  reason : String

structure OpenAIResponsesResponse where
  id : String := ""
  createdAt : Int := 0
  status : Raw := .absent
  incompleteDetails : Option IncompleteDetails := none
  model : String := ""
  output : List ResponsesOutput := []
  usage : Option Usage := none

def responseStatusString (resp : OpenAIResponsesResponse) : String :=
  trimSpace resp.status.stringValue

def responsesOutputTypeFunctionCall : String := "function_call"
def responsesOutputTypeCustomToolCall : String := "custom_tool_call"
def responsesOutputTypeMessage : String := "message"
def responsesOutputTypeReasoning : String := "reasoning"
def responsesIncompleteReasonContentFilter : String := "content_filter"
def responsesIncompleteReasonMaxTokens : String := "max_output_tokens"

def isResponsesToolOutputType (outputType : String) : Bool :=
  outputType = responsesOutputTypeFunctionCall || outputType = responsesOutputTypeCustomToolCall

/-! ## Stream events -/

/-- The event types that one of the converters writes or looks for. -/
inductive EventType where
  | created
  | completed
  | done
  | incomplete
  | failed
  | error
  | outputTextDelta
  | outputTextDone
  | outputItemAdded
  | outputItemDone
  | functionArgsDelta
  | functionArgsDone
  | customToolInputDelta
  | customToolInputDone
  | reasoningSummaryDelta
  | reasoningSummaryDone
  | reasoningTextDelta
  | reasoningTextDone
  | other (type : String)

structure ResponsesReasoningSummaryPart where
  type : String
  text : String

structure ResponsesStreamResponse where
  type : EventType
  response : Option OpenAIResponsesResponse := none
  delta : String := ""
  item : Option ResponsesOutput := none
  outputIndex : Option Int := none
  contentIndex : Option Int := none
  summaryIndex : Option Int := none
  itemId : String := ""
  part : Option ResponsesReasoningSummaryPart := none

end YouBox.Responses
