import YouBox.ClaudeRequest

/-!
# From chat messages to Claude messages

`OpenAIChatRequestToClaudeMessages`: a first pass merges neighbours of one role,
a second makes Claude messages of what is left. A message is copied before its
empty role is patched, and a merged message is built from the second one only.
-/

namespace YouBox.ClaudeChat

open Responses

/-! ## Tools -/

/-- The tool of a function whose parameters are a map. -/
def claudeToolOf (function : FunctionRequest) (params : JsonMap) : Except Failure Tool := do
  let type ←
    if (fieldOf params "type").isNull then pure []
    else do
      let type ← assertString (fieldOf params "type")
      pure [("type", Json.str type)]
  pure {
    name := function.name
    description := function.description
    inputSchema := type ++ [("properties", fieldOf params "properties"),
        ("required", fieldOf params "required")] ++
      params.filter fun field => field.1 ∉ ["type", "properties", "required"] }

def functionTools : List ToolCallRequest → Except Failure (List Tool)
  | [] => .ok []
  | tool :: rest =>
    match tool.function.parameters with
    | .obj params => do
      let first ← claudeToolOf tool.function params
      let others ← functionTools rest
      pure (first :: others)
    | _ => functionTools rest

def userLocation (lib : Lib) (raw : Json) : ClaudeWebSearchUserLocation :=
  match lib.toMap raw with
  | .ok location =>
    match fieldOf location "approximate" with
    | .obj data =>
      { timezone := stringOr (fieldOf data "timezone") ""
        country := stringOr (fieldOf data "country") ""
        region := stringOr (fieldOf data "region") ""
        city := stringOr (fieldOf data "city") "" }
    | _ => {}
  | .error _ => {}

def webSearchTool (lib : Lib) (options : WebSearchOptions) : ClaudeWebSearchTool where
  userLocation := options.userLocation.map (userLocation lib)
  maxUses :=
    match options.searchContextSize with
    | "low" => 1
    | "medium" => 5
    | "high" => 10
    | _ => 0

def mapOpenAIToolChoice (toolChoice : Json) (parallelToolCalls : Option Bool) :
    Option ClaudeToolChoice :=
  let choice : Option ClaudeToolChoice :=
    match toolChoice with
    | .str "auto" => some { type := "auto" }
    | .str "required" => some { type := "any" }
    | .str "none" => some { type := "none" }
    | .obj choice =>
      match fieldOf choice "function" with
      | .obj function =>
        match fieldOf function "name" with
        | .str name => some { type := "tool", name }
        | _ => none
      | _ => none
    | _ => none
  match parallelToolCalls with
  | none => choice
  | some parallel =>
    let choice := choice.getD { type := "auto" }
    some (if choice.type ≠ "none" then { choice with disableParallelToolUse := !parallel }
      else choice)

/-! ## Model and thinking -/

def effortSuffixes : List String := ["-max", "-xhigh", "-high", "-medium", "-low", "-minimal"]

/-- `strings.TrimSuffix`, of a text that ends so. -/
def cutSuffix (s finish : String) : String :=
  String.ofList (s.toList.take (s.toList.length - finish.toList.length))

/-- `reasoning.TrimEffortSuffix`: the model without the suffix, and the level. -/
def trimEffortSuffix (modelName : String) : Option (String × String) :=
  (effortSuffixes.find? (Strings.hasSuffix modelName)).map fun suffix =>
    (cutSuffix modelName suffix, String.ofList (suffix.toList.drop 1))

def summarizedModel (model : String) : Bool :=
  Strings.hasPrefix model "claude-opus-4-7" || Strings.hasPrefix model "claude-opus-4-8"

def effortConfig (level : String) : Json := .obj [("effort", .str level)]

/-- What the suffix of the model says about thinking. -/
def applyModelSuffix (settings : ClaudeSettings) (model : String) (req : ClaudeRequest) :
    ClaudeRequest :=
  let opus := Strings.hasPrefix model "claude-opus-4-6" || summarizedModel model
  match trimEffortSuffix model, opus with
  | some (baseModel, level), true =>
    let req := { req with model := baseModel, outputConfig := some (effortConfig level) }
    if summarizedModel baseModel then
      { req with
        thinking := some { type := "adaptive", display := "summarized" }
        temperature := none, topP := none, topK := none }
    else
      { req with thinking := some { type := "adaptive" }, topP := none, temperature := some 1 }
  | _, _ =>
    if settings.thinkingAdapterEnabled && Strings.hasSuffix model "-thinking" then
      let trimmedModel := cutSuffix model "-thinking"
      let req :=
        if summarizedModel trimmedModel then
          { req with
            thinking := some { type := "adaptive", display := "summarized" }
            outputConfig := some (effortConfig "high")
            temperature := none, topP := none, topK := none }
        else
          let maxTokens := max (req.maxTokens.getD 0) 1280
          { req with
            maxTokens := some maxTokens
            thinking :=
              some { type := "enabled", budgetTokens := some (settings.thinkingBudget maxTokens) }
            topP := none, temperature := some 1 }
      if settings.shouldPreserveThinkingSuffix model then req
      else { req with model := trimmedModel }
    else req

def enabledThinking (budget : Int) : Thinking := { type := "enabled", budgetTokens := some budget }

def applyReasoningEffort (effort : String) (req : ClaudeRequest) : ClaudeRequest :=
  match effort with
  | "low" => { req with thinking := some (enabledThinking 1280) }
  | "medium" => { req with thinking := some (enabledThinking 2048) }
  | "high" => { req with thinking := some (enabledThinking 4096) }
  | _ => req

def applyReasoning (lib : Lib) (reasoning : Option Json) (req : ClaudeRequest) :
    Except Failure ClaudeRequest :=
  match reasoning with
  | none => .ok req
  | some raw =>
    match lib.unmarshalMaxTokens raw with
    | .error message => .error (.error message)
    | .ok budget =>
      .ok (if 0 < budget then { req with thinking := some (enabledThinking budget) } else req)

def applyStop (stop : Json) (req : ClaudeRequest) : Except Failure ClaudeRequest :=
  match stop with
  | .str s => .ok { req with stopSequences := [s] }
  | .arr items => do
    let stopSequences ← items.mapM assertString
    pure { req with stopSequences }
  | _ => .ok req

/-! ## The merge pass -/

/-- `strings.Trim` of quotes. -/
def trimQuotes (s : String) : String :=
  let isQuote c := decide (c = '"')
  String.ofList ((s.toList.dropWhile isQuote).reverse.dropWhile isQuote).reverse

def joins (last message : Message) : Bool :=
  last.role = message.role && last.role ≠ "tool" &&
    (last.content.isString && message.content.isString)

/-- The copy of a message: the calls of an assistant, the id of a tool, and the
text of the message before it where the two are joined. -/
def formatMessage (last message : Message) : Message :=
  let text := trimQuotes (last.stringContent ++ " " ++ message.stringContent)
  let fmtMessage : Message :=
    { role := message.role
      content := if joins last message then .json (.str text) else message.content
      toolCallId := if message.role = "tool" then message.toolCallId else ""
      toolCalls := if message.role = "assistant" then message.toolCalls else none }
  if fmtMessage.content.isNil || (fmtMessage.content.isString && fmtMessage.stringContent = "")
  then fmtMessage.setStringContent "..."
  else fmtMessage

structure MergeState where
  formatMessages : List Message := []
  lastMessage : Message := { role := "tool" }

/-- `s[:len(s)-1]`. -/
def cutLast {α : Type} (s : List α) : Except Failure (List α) :=
  if s = [] then .error (.panic "slice bounds out of range [:-1]") else .ok s.dropLast

def mergeStep (s : MergeState) (message : Message) : Except Failure MergeState := do
  let fmtMessage := formatMessage s.lastMessage message
  let before ←
    if joins s.lastMessage message then cutLast s.formatMessages else pure s.formatMessages
  pure { formatMessages := before ++ [fmtMessage], lastMessage := fmtMessage }

/-! ## The block pass -/

def textBlock (s : String) : ClaudeMediaMessage := { type := "text", text := some s }

def toolResultBlock (message : Message) : ClaudeMediaMessage where
  type := "tool_result"
  toolUseId := message.toolCallId
  content := message.content

def toolUseBlock (lib : Lib) (call : ToolCallRequest) : ClaudeMediaMessage where
  type := "tool_use"
  id := call.id
  name := call.function.name
  input :=
    if call.function.arguments ≠ "" then lib.unmarshalInput call.function.arguments else .obj []

def textBlocks (s : String) : List ClaudeMediaMessage := if s = "" then [] else [textBlock s]

def systemBlocks (message : Message) : List ClaudeMediaMessage :=
  if message.content.isString then textBlocks message.stringContent
  else message.parseContent.flatMap fun media =>
    match media.part with
    | .text s => textBlocks s
    | _ => []

/-- `GetBase64Data` of the media resolver: the data of a source and its type. -/
abbrev Resolve := FileSource → Except String (String × String)

def mediaBlocks (resolve : Resolve) : List MediaContent → Except Failure (List ClaudeMediaMessage)
  | [] => .ok []
  | media :: rest =>
    match media.part, media.toFileSource with
    | .text s, _ => do
      let others ← mediaBlocks resolve rest
      pure (textBlocks s ++ others)
    | _, none => mediaBlocks resolve rest
    | _, some source =>
      match resolve source with
      | .error message => .error (.error ("get file data failed: " ++ message))
      | .ok (data, mimeType) => do
        let others ← mediaBlocks resolve rest
        pure ({ type := if Strings.hasPrefix mimeType "application/pdf" then "document" else "image"
                source := some { type := "base64", mediaType := mimeType, data := .str data } } ::
          others)

/-- `Content.([]dto.ClaudeMediaMessage)`, once a string has been made a block. -/
def assertBlocks : AnyOf ClaudeMediaMessage → Except Failure (List ClaudeMediaMessage)
  | .json (.str s) => .ok [textBlock s]
  | .slice blocks => .ok blocks
  | .json v => .error (.panic ("interface conversion: interface {} is " ++ goTypeName v ++
      ", not []dto.ClaudeMediaMessage"))

/-- A tool result goes to the last message if that is the user's. -/
def addToolResult (messages : List ClaudeMessage) (message : Message) :
    Except Failure (List ClaudeMessage) :=
  match messages.getLast? with
  | some last =>
    if last.role = "user" then do
      let blocks ← assertBlocks last.content
      pure (messages.dropLast ++
        [{ last with content := .slice (blocks ++ [toolResultBlock message]) }])
    else .ok (messages ++ [{ role := "user", content := .slice [toolResultBlock message] }])
  | none => .ok [{ role := "user", content := .slice [toolResultBlock message] }]

def messageContent (lib : Lib) (resolve : Resolve) (message : Message) :
    Except Failure (AnyOf ClaudeMediaMessage) :=
  if message.content.isString && message.toolCalls.isNone then
    .ok (.json (.str (if message.stringContent = "" then "..." else message.stringContent)))
  else do
    let blocks ← mediaBlocks resolve message.parseContent
    pure (.slice (blocks ++ (message.toolCalls.getD []).map (toolUseBlock lib)))

structure BlockState where
  claudeMessages : List ClaudeMessage := []
  isFirstMessage : Bool := true
  systemMessages : List ClaudeMediaMessage := []

def placeholderMessage : ClaudeMessage := { role := "user", content := .slice [textBlock "..."] }

def blockStep (lib : Lib) (resolve : Resolve) (s : BlockState) (message : Message) :
    Except Failure BlockState :=
  if message.role = "system" then
    .ok { s with systemMessages := s.systemMessages ++ systemBlocks message }
  else do
    let messages :=
      if s.isFirstMessage && message.role ≠ "user" then s.claudeMessages ++ [placeholderMessage]
      else s.claudeMessages
    let claudeMessages ←
      if message.role = "tool" then addToolResult messages message
      else do
        let content ← messageContent lib resolve message
        pure (messages ++ [{ role := message.role, content }])
    pure { s with claudeMessages, isFirstMessage := false }

/-! ## The converter -/

/-- The fields that the request has besides its messages. -/
def requestFields (lib : Lib) (settings : ClaudeSettings) (req : GeneralOpenAIRequest)
    (tools : List Tool) : ClaudeRequest :=
  let maxTokens := req.getMaxTokens
  let fields : ClaudeRequest :=
    { model := req.model
      temperature := req.temperature
      tools := .slice (tools.map .function ++
        (req.webSearchOptions.map fun options => .webSearch (webSearchTool lib options)).toList)
      maxTokens := some (if 0 < maxTokens then maxTokens else settings.defaultMaxTokens req.model)
      topP := req.topP
      topK := req.topK
      stream := if req.stream.getD false then some true else none
      toolChoice := mapOpenAIToolChoice req.toolChoice req.parallelTooCalls }
  applyReasoningEffort req.reasoningEffort (applyModelSuffix settings req.model fields)

def convertFields (lib : Lib) (settings : ClaudeSettings) (req : GeneralOpenAIRequest) :
    Except Failure ClaudeRequest := do
  let tools ← functionTools req.tools
  let fields ← applyReasoning lib req.reasoning (requestFields lib settings req tools)
  applyStop req.stop fields

def convertMessages (lib : Lib) (resolve : Resolve) (messages : List Message) :
    Except Failure BlockState := do
  let merged ← messages.foldlM mergeStep {}
  merged.formatMessages.foldlM (blockStep lib resolve) {}

def openAIChatRequestToClaudeMessages (lib : Lib) (settings : ClaudeSettings) (resolve : Resolve)
    (req : GeneralOpenAIRequest) : Except Failure ClaudeRequest := do
  let claude ← convertFields lib settings req
  let s ← convertMessages lib resolve req.messages
  pure { claude with
    messages := s.claudeMessages
    system := if s.systemMessages = [] then .json .null else .slice s.systemMessages }

end YouBox.ClaudeChat
