import YouBox.ChatRequest
import YouBox.RelayPath

/-!
# Chat requests and Claude requests

The requests, messages and blocks that `OpenAIChatRequestToClaudeMessages` and
`ClaudeMessagesRequestToOpenAIChat` turn into each other.

The converters read fields that hold any JSON. A type assertion that fails, a
nil pointer that is followed and a slice cut beyond its start are a
`Failure.panic`; an error that is returned is a `Failure.error`.
-/

namespace YouBox.ClaudeChat

open Responses

inductive Failure where
  | error (message : String)
  | panic (message : String)

def Failure.isPanic : Failure → Bool
  | .error _ => false
  | .panic _ => true

/-! ## Fields of any type -/

/-- A field of type `any`: what JSON decodes to, or a slice that a converter has
put there. -/
inductive AnyOf (α : Type) where
  | json (v : Json)
  | slice (items : List α)

def AnyOf.isString {α : Type} : AnyOf α → Bool
  | .json (.str _) => true
  | _ => false

def AnyOf.stringValue {α : Type} : AnyOf α → String
  | .json (.str s) => s
  | _ => ""

def AnyOf.isNil {α : Type} : AnyOf α → Bool
  | .json .null => true
  | _ => false

/-- The dynamic type of a decoded value, as the runtime names it. -/
def goTypeName : Json → String
  | .null => "nil"
  | .bool _ => "bool"
  | .num _ => "float64"
  | .str _ => "string"
  | .arr _ => "[]interface {}"
  | .obj _ => "map[string]interface {}"

/-- `v.(string)`. -/
def assertString : Json → Except Failure String
  | .str s => .ok s
  | v => .error (.panic
      ("interface conversion: interface {} is " ++ goTypeName v ++ ", not string"))

/-! ## Chat requests -/

structure MediaContent where
  part : Responses.MediaContent
  cacheControl : Option Json := none

/-- `dto.Message`. The raw tool calls are the list they parse to, `none` where
there is no raw message. -/
structure Message where
  role : String
  content : AnyOf MediaContent := .json .null
  name : Option String := none
  toolCalls : Option (List ToolCallRequest) := none
  toolCallId : String := ""

def Message.stringContent (m : Message) : String :=
  match m.content with
  | .json (.str s) => s
  | .json (.arr items) => String.join (items.map textPart)
  | _ => ""

def Message.setStringContent (m : Message) (s : String) : Message :=
  { m with content := .json (.str s) }

def Message.parseContent (m : Message) : List MediaContent :=
  match m.content with
  | .json (.str s) => [{ part := .text s }]
  | .json (.arr items) => (items.filterMap parsePart).map fun part => { part }
  | .json _ => []
  | .slice items => items

inductive FileSource where
  | url (url : String)
  | base64 (data mimeType : String)

def newFileSourceFromData (data mimeType : String) : FileSource :=
  if Strings.hasPrefix data "http://" || Strings.hasPrefix data "https://" then .url data
  else .base64 data mimeType

def MediaContent.toFileSource (media : MediaContent) : Option FileSource :=
  let source data mimeType :=
    if data = "" then none else some (newFileSourceFromData data mimeType)
  match media.part with
  | .text _ => none
  | .imageUrl url _ => source url ""
  | .inputAudio data format => source data (if format ≠ "" then "audio/" ++ format else "")
  | .fileId _ => none
  | .fileData _ data => source data ""
  | .videoUrl url => source url ""

structure WebSearchOptions where
  searchContextSize : String := ""
  userLocation : Option Json := none

/-- `dto.GeneralOpenAIRequest`, the fields that these converters read or write. -/
structure GeneralOpenAIRequest where
  model : String
  messages : List Message := []
  stream : Option Bool := none
  maxTokens : Option Nat := none
  maxCompletionTokens : Option Nat := none
  reasoningEffort : String := ""
  verbosity : Option Json := none
  temperature : Option Rat := none
  topP : Option Rat := none
  topK : Option Int := none
  stop : Json := .null
  parallelTooCalls : Option Bool := none
  tools : List ToolCallRequest := []
  toolChoice : Json := .null
  webSearchOptions : Option WebSearchOptions := none
  reasoning : Option Json := none

def GeneralOpenAIRequest.getMaxTokens (req : GeneralOpenAIRequest) : Nat :=
  if req.maxCompletionTokens.getD 0 ≠ 0 then req.maxCompletionTokens.getD 0
  else req.maxTokens.getD 0

/-! ## Claude requests -/

structure ClaudeMessageSource where
  type : String
  mediaType : String
  data : Json

/-- `dto.ClaudeMediaMessage`, a block. -/
structure ClaudeMediaMessage where
  type : String := ""
  text : Option String := none
  source : Option ClaudeMessageSource := none
  cacheControl : Option Json := none
  id : String := ""
  name : String := ""
  input : Json := .null
  content : AnyOf MediaContent := .json .null
  toolUseId : String := ""

def ClaudeMediaMessage.getText (b : ClaudeMediaMessage) : String := b.text.getD ""

structure ClaudeMessage where
  role : String
  content : AnyOf ClaudeMediaMessage := .json .null

structure Tool where
  name : String
  description : String := ""
  inputSchema : JsonMap

structure ClaudeWebSearchUserLocation where
  type : String := "approximate"
  timezone : String := ""
  country : String := ""
  region : String := ""
  city : String := ""

structure ClaudeWebSearchTool where
  type : String := "web_search_20250305"
  name : String := "web_search"
  maxUses : Nat := 0
  userLocation : Option ClaudeWebSearchUserLocation := none

inductive ClaudeTool where
  | function (tool : Tool)
  | webSearch (tool : ClaudeWebSearchTool)

structure ClaudeToolChoice where
  type : String
  name : String := ""
  disableParallelToolUse : Bool := false

structure Thinking where
  type : String
  budgetTokens : Option Int := none
  display : String := ""

/-- `dto.ClaudeRequest`, the fields that these converters read or write. -/
structure ClaudeRequest where
  model : String
  system : AnyOf ClaudeMediaMessage := .json .null
  messages : List ClaudeMessage := []
  maxTokens : Option Nat := none
  stopSequences : List String := []
  temperature : Option Rat := none
  topP : Option Rat := none
  topK : Option Int := none
  stream : Option Bool := none
  tools : AnyOf ClaudeTool := .json .null
  outputConfig : Option Json := none
  toolChoice : Option ClaudeToolChoice := none
  thinking : Option Thinking := none

/-- `encoding/json` and `fmt` at the types of these converters. Decoding into a
slice gives `none` where the slice stays nil. `unmarshalInput` is what a map
holds after arguments are decoded into it, `mediaJson` what parts are written as. -/
structure Lib extends JsonLib where
  unmarshalInput : String → Json
  unmarshalMaxTokens : Json → Except String Int
  unmarshalEffort : Json → Option String
  unmarshalBlocks : Json → Except String (Option (List ClaudeMediaMessage))
  unmarshalTools : Json → Except String (List Tool)
  marshalBlocks : Option (List ClaudeMediaMessage) → String
  mediaJson : List MediaContent → Json
  sprintS : Json → String

/-- `model_setting`: the settings of Claude, and the models that keep their
suffix. `thinkingBudget` is the percentage of the tokens, rounded down. -/
structure ClaudeSettings where
  defaultMaxTokens : String → Nat
  thinkingAdapterEnabled : Bool
  thinkingBudget : Nat → Int
  thinkingModelBlacklist : List String

def ClaudeSettings.shouldPreserveThinkingSuffix (settings : ClaudeSettings) (modelName : String) :
    Bool :=
  trimSpace modelName ≠ "" &&
    settings.thinkingModelBlacklist.any fun entry => trimSpace entry == trimSpace modelName

end YouBox.ClaudeChat
