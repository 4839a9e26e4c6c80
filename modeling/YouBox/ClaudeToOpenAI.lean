import YouBox.ClaudeRequest

/-!
# From Claude messages to chat messages

`ClaudeMessagesRequestToOpenAIChat`. The blocks of a message go three ways: a
tool result becomes a message at once, texts and images are collected, and so are
the calls. Behind the tool messages comes one message with the calls or, where
there are none, with the texts and images.
-/

namespace YouBox.ClaudeChat

open Responses

/-! ## The request around the messages -/

structure ChannelMeta where
  channelType : Nat
  upstreamModelName : String

structure RelayInfo where
  originModelName : String
  channelMeta : Option ChannelMeta := none

def channelTypeOpenRouter : Nat := 20

def relayInfoChannelType (info : Option RelayInfo) : Nat :=
  ((info.bind RelayInfo.channelMeta).map ChannelMeta.channelType).getD 0

def relayInfoUpstreamModelName (info : Option RelayInfo) : String :=
  ((info.bind RelayInfo.channelMeta).map ChannelMeta.upstreamModelName).getD ""

def isOpenRouter (info : Option RelayInfo) : Bool :=
  relayInfoChannelType info = channelTypeOpenRouter

/-- `openRouterRequestReasoning`, marshalled. -/
def reasoningJson (thinking : Thinking) : Json :=
  let budget := thinking.budgetTokens.getD 0
  match thinking.type with
  | "enabled" => .obj ([("enabled", .bool true)] ++
      if budget = 0 then [] else [("max_tokens", .num (toString budget))])
  | "adaptive" => .obj [("enabled", .bool true)]
  | _ => .obj [("enabled", .bool false)]

def applyRelayInfo (lib : Lib) (claude : ClaudeRequest) (info : Option RelayInfo)
    (req : GeneralOpenAIRequest) : GeneralOpenAIRequest :=
  if isOpenRouter info then
    let effort := (claude.outputConfig.bind lib.unmarshalEffort).getD ""
    { req with
      verbosity := if effort ≠ "" then some (.str effort) else req.verbosity
      reasoning := claude.thinking.map reasoningJson }
  else
    match info with
    | some info =>
      if Strings.hasSuffix info.originModelName "-thinking" &&
          !Strings.hasSuffix req.model "-thinking" then
        { req with model := req.model ++ "-thinking" }
      else req
    | none => req

def stopOf (stopSequences : List String) : Json :=
  match stopSequences with
  | [] => .null
  | [stop] => .str stop
  | stops => .arr (stops.map .str)

def toolOfClaude (tool : Tool) : ToolCallRequest where
  type := "function"
  function :=
    { name := tool.name
      description := tool.description
      parameters := .obj tool.inputSchema }

/-- `Any2Type[[]dto.Tool]`, whose error is passed over. -/
def toolsOf (lib : Lib) : AnyOf ClaudeTool → List Tool
  | .json v =>
    match lib.unmarshalTools v with
    | .ok tools => tools
    | .error _ => []
  | .slice tools => tools.map fun tool =>
    match tool with
    | .function tool => tool
    | .webSearch tool => { name := tool.name, inputSchema := [] }

/-- `Any2Type[[]dto.ClaudeMediaMessage]`. -/
def parseBlocks (lib : Lib) : AnyOf ClaudeMediaMessage →
    Except String (Option (List ClaudeMediaMessage))
  | .json v => lib.unmarshalBlocks v
  | .slice blocks => .ok (some blocks)

/-- The slice that is left where the error is passed over. -/
def blocksOrNil (parsed : Except String (Option (List ClaudeMediaMessage))) :
    Option (List ClaudeMediaMessage) :=
  match parsed with
  | .ok blocks => blocks
  | .error _ => none

def systemContent (info : Option RelayInfo) (systems : List ClaudeMediaMessage) :
    AnyOf MediaContent :=
  if isOpenRouter info &&
      Strings.hasPrefix (relayInfoUpstreamModelName info) "anthropic/claude" then
    .slice (systems.map fun b => { part := .text b.getText, cacheControl := b.cacheControl })
  else .json (.str (String.join (systems.map ClaudeMediaMessage.getText)))

def systemMessagesOf (lib : Lib) (claude : ClaudeRequest) (info : Option RelayInfo) :
    List Message :=
  if claude.system.isNil then []
  else if claude.system.isString ∧ claude.system.stringValue ≠ "" then
    [{ role := "system", content := .json (.str claude.system.stringValue) }]
  else
    let systems := (blocksOrNil (parseBlocks lib claude.system)).getD []
    if systems.isEmpty then []
    else [{ role := "system", content := systemContent info systems }]

/-! ## The message loop -/

section

variable (lib : Lib) (messages : List ClaudeMessage)

/-- `SearchToolNameByToolCallId`. -/
def searchToolName (toolCallId : String) : String :=
  let blocks := messages.flatMap fun m => (blocksOrNil (parseBlocks lib m.content)).getD []
  ((blocks.find? fun b => b.id = toolCallId).map (·.name)).getD ""

def parseMediaContent (b : ClaudeMediaMessage) : Except String (Option (List ClaudeMediaMessage)) :=
  lib.unmarshalBlocks <|
    match b.content with
    | .json v => v
    | .slice parts => lib.mediaJson parts

def toolResultText (b : ClaudeMediaMessage) : String :=
  if b.content.isString then b.content.stringValue
  else lib.marshalBlocks (blocksOrNil (parseMediaContent lib b))

def toolMessage (b : ClaudeMediaMessage) : Message where
  role := "tool"
  name := some (if b.name = "" then searchToolName lib messages b.toolUseId else b.name)
  toolCallId := b.toolUseId
  content := .json (.str (toolResultText lib b))

def toolCallOf (b : ClaudeMediaMessage) : ToolCallRequest where
  id := b.id
  type := "function"
  function := { name := b.name, arguments := lib.marshal b.input }

def textMedia (b : ClaudeMediaMessage) : MediaContent where
  part := .text b.getText
  cacheControl := b.cacheControl

def imageMedia (source : ClaudeMessageSource) : MediaContent where
  part := .imageUrl ("data:" ++ source.mediaType ++ ";base64," ++ lib.sprintS source.data) ""

structure Parts where
  toolMessages : List Message := []
  mediaMessages : List MediaContent := []
  toolCalls : List ToolCallRequest := []

def addBlock (parts : Parts) (b : ClaudeMediaMessage) : Except Failure Parts :=
  match b.type with
  | "text" | "input_text" =>
    .ok { parts with mediaMessages := parts.mediaMessages ++ [textMedia b] }
  | "image" =>
    match b.source with
    | some source =>
      .ok { parts with mediaMessages := parts.mediaMessages ++ [imageMedia lib source] }
    | none => .error (.panic "invalid memory address or nil pointer dereference")
  | "tool_use" => .ok { parts with toolCalls := parts.toolCalls ++ [toolCallOf lib b] }
  | "tool_result" =>
    .ok { parts with toolMessages := parts.toolMessages ++ [toolMessage lib messages b] }
  | _ => .ok parts

/-- A message is dropped if it has neither content nor calls. -/
def unlessEmpty (m : Message) : List Message :=
  if m.parseContent ≠ [] ∨ m.toolCalls.isSome then [m] else []

/-- The message with the calls, or with the rest. -/
def messageOf (role : String) (parts : Parts) : Message where
  role := role
  content :=
    if parts.mediaMessages ≠ [] ∧ parts.toolCalls = [] then .slice parts.mediaMessages
    else .json .null
  toolCalls := if parts.toolCalls = [] then none else some parts.toolCalls

def convertMessage (m : ClaudeMessage) : Except Failure (List Message) :=
  match m.content with
  | .json (.str s) => .ok (unlessEmpty { role := m.role, content := .json (.str s) })
  | content =>
    match parseBlocks lib content with
    | .error message => .error (.error message)
    | .ok blocks => do
      let parts ← (blocks.getD []).foldlM (addBlock lib messages) {}
      pure (parts.toolMessages ++ unlessEmpty (messageOf m.role parts))

end

def claudeMessagesRequestToOpenAIChat (lib : Lib) (claude : ClaudeRequest)
    (info : Option RelayInfo) : Except Failure GeneralOpenAIRequest := do
  let converted ← claude.messages.mapM (convertMessage lib claude.messages)
  pure (applyRelayInfo lib claude info
    { model := claude.model
      temperature := claude.temperature
      maxTokens := claude.maxTokens
      topP := claude.topP
      topK := claude.topK
      stream := claude.stream
      stop := stopOf claude.stopSequences
      tools := (toolsOf lib claude.tools).map toolOfClaude
      messages := systemMessagesOf lib claude info ++ converted.flatten })

end YouBox.ClaudeChat
