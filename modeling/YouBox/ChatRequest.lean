import YouBox.Responses

/-!
# Chat requests and Responses requests

`ChatCompletionsRequestToResponsesRequest` and its way back,
`ResponsesRequestToChatCompletionsRequest`. The first spreads the
messages over instructions and input items, one item for each message
and one for each tool call of an assistant; the second collects the
items again and hangs a tool call on the assistant message before it.

A raw JSON field is the value it parses to, `none` when the field is
absent, and a map is the list of its entries. `JsonLib` is the part of
the standard library that turns values into text. `RequestTrip` proves
what survives the way there and back.
-/

namespace YouBox.Responses

/-- `encoding/json` and `fmt` where they make text of a value. -/
structure JsonLib where
  marshal : Json → String
  formatFloat : String → String
  sprint : Json → String
  unmarshalError : Json → String

/-! ## JSON values -/

abbrev JsonMap := List (String × Json)

/-- `value, ok := m[key]`. -/
def findField (fields : JsonMap) (key : String) : Option Json :=
  (fields.find? fun f => f.1 == key).map (·.2)

def Json.isNull : Json → Bool
  | .null => true
  | _ => false

def JsonLib.interface2String (lib : JsonLib) : Json → String
  | .str s => s
  | .num text => lib.formatFloat text
  | .bool b => if b then "true" else "false"
  | .null => ""
  | v => lib.sprint v

/-- `getJsonType` of a raw message that is a value. -/
def Json.typeName : Json → String
  | .obj _ => "object"
  | .arr _ => "array"
  | .str _ => "string"
  | .bool _ => "boolean"
  | .null => "null"
  | .num _ => "number"

def rawJSONPresent (raw : Option Json) : Bool :=
  match raw with
  | none => false
  | some v => v.typeName != "null"

/-- `Unmarshal` into a map: `null` leaves it empty. -/
def JsonLib.toMap (lib : JsonLib) : Json → Except String JsonMap
  | .obj fields => .ok fields
  | .null => .ok []
  | v => .error (lib.unmarshalError v)

/-- `Unmarshal` into a slice of maps. -/
def JsonLib.toMaps (lib : JsonLib) : Json → Except String (List JsonMap)
  | .arr items => items.mapM lib.toMap
  | v => .error (lib.unmarshalError v)

/-! ## Requests -/

structure ResponseFormat where
  type : String
  jsonSchema : Option Json := none

structure StreamOptions where
  includeUsage : Bool
  includeObfuscation : Bool

/-- `dto.GeneralOpenAIRequest`, without the fields that neither direction
touches. `toolChoice` is `null` when it is not set. -/
structure GeneralOpenAIRequest where
  model : String
  messages : List Message := []
  stream : Option Bool := none
  streamOptions : Option StreamOptions := none
  maxTokens : Option Nat := none
  maxCompletionTokens : Option Nat := none
  reasoningEffort : String := ""
  temperature : Option Rat := none
  topP : Option Rat := none
  n : Option Int := none
  responseFormat : Option ResponseFormat := none
  parallelTooCalls : Option Bool := none
  tools : Option (List ToolCallRequest) := none
  toolChoice : Json := .null
  user : Option Json := none
  serviceTier : Option Json := none
  topLogProbs : Option Int := none
  safetyIdentifier : Option Json := none
  store : Option Json := none
  promptCacheKey : String := ""
  promptCacheRetention : Option Json := none
  metadata : Option Json := none
  enableThinking : Option Json := none

structure Reasoning where
  effort : String
  summary : String

structure OpenAIResponsesRequest where
  model : String
  input : Option Json := none
  conversation : Option Json := none
  contextManagement : Option Json := none
  instructions : Option Json := none
  maxOutputTokens : Option Nat := none
  topLogProbs : Option Int := none
  metadata : Option Json := none
  parallelToolCalls : Option Json := none
  previousResponseId : String := ""
  reasoning : Option Reasoning := none
  serviceTier : String := ""
  store : Option Json := none
  promptCacheKey : Option Json := none
  promptCacheRetention : Option Json := none
  safetyIdentifier : Option Json := none
  stream : Option Bool := none
  streamOptions : Option StreamOptions := none
  temperature : Option Rat := none
  text : Option Json := none
  toolChoice : Option Json := none
  tools : Option Json := none
  topP : Option Rat := none
  user : Option Json := none
  prompt : Option Json := none
  enableThinking : Option Json := none

section

variable (lib : JsonLib)

/-! ## Content parts of the chat format -/

/-- `dto.MediaContent` with its payload marshalled. -/
inductive MediaContent where
  | text (s : String)
  | imageUrl (url detail : String)
  | inputAudio (data format : String)
  | fileId (id : String)
  | fileData (name data : String)
  | videoUrl (url : String)

def stringOr (v : Json) (default : String) : String :=
  match v with
  | .str s => s
  | _ => default

/-- One part of an array content, `none` where it is skipped. -/
def parsePart : Json → Option MediaContent
  | .obj item =>
    match fieldOf item "type" with
    | .str "text" =>
      match fieldOf item "text" with
      | .str text => some (.text text)
      | _ => none
    | .str "image_url" =>
      match fieldOf item "image_url" with
      | .str url => some (.imageUrl url "high")
      | .obj image =>
        some (.imageUrl (stringOr (fieldOf image "url") "")
          (stringOr (fieldOf image "detail") "high"))
      | _ => some (.imageUrl "" "high")
    | .str "input_audio" =>
      match fieldOf item "input_audio" with
      | .obj audio =>
        match fieldOf audio "data", fieldOf audio "format" with
        | .str data, .str format => some (.inputAudio data format)
        | _, _ => none
      | _ => none
    | .str "file" =>
      match fieldOf item "file" with
      | .obj file =>
        match fieldOf file "file_id", fieldOf file "filename", fieldOf file "file_data" with
        | .str id, _, _ => some (.fileId id)
        | _, .str name, .str data => some (.fileData name data)
        | _, _, _ => none
      | _ => none
    | .str "video_url" =>
      match fieldOf item "video_url" with
      | .str url => some (.videoUrl url)
      | _ => none
    | _ => none
  | _ => none

def Message.parseContent (msg : Message) : List MediaContent :=
  match msg.content with
  | .str s => [.text s]
  | .arr items => items.filterMap parsePart
  | _ => []

/-! ## Chat to Responses -/

/-- The entries with `omitempty`. -/
def omitEmpty (key value : String) : JsonMap :=
  if value = "" then [] else [(key, .str value)]

/-- The Responses part of a chat part; an image without an address keeps
its payload. -/
def MediaContent.toResponsesPart (role : String) : MediaContent → Json
  | .text s =>
    .obj
      [("type", .str (if role = "assistant" then "output_text" else "input_text")),
        ("text", .str s)]
  | .imageUrl url detail =>
    .obj
      [("type", .str "input_image"),
        ("image_url",
          if url ≠ "" then .str url
          else .obj ([("url", .str url)] ++ omitEmpty "detail" detail ++
            [("MimeType", .str "")]))]
  | .inputAudio data format =>
    .obj
      [("type", .str "input_audio"),
        ("input_audio", .obj [("data", .str data), ("format", .str format)])]
  | .fileId id => .obj [("type", .str "input_file"), ("file", .obj (omitEmpty "file_id" id))]
  | .fileData name data =>
    .obj
      [("type", .str "input_file"),
        ("file", .obj (omitEmpty "filename" name ++ omitEmpty "file_data" data))]
  | .videoUrl url =>
    .obj [("type", .str "input_video"), ("video_url", .obj [("url", .str url)])]

/-- What a system or developer message adds to the instructions. -/
def Message.instructionsPart (msg : Message) : Option String :=
  let text :=
    match msg.content with
    | .null => ""
    | .str s => s
    | _ =>
      "\n".intercalate (msg.parseContent.filterMap fun part =>
        match part with
        | .text s => if trimSpace s ≠ "" then some s else none
        | _ => none)
  if trimSpace text ≠ "" then some (trimSpace text) else none

def functionCallItem (tc : ToolCallRequest) : Option Json :=
  let name := trimSpace tc.function.name
  if trimSpace tc.id = "" then none
  else if tc.type ≠ "" ∧ tc.type ≠ "function" then none
  else if name = "" then none
  else
    some (.obj
      [("type", .str "function_call"), ("call_id", .str tc.id), ("name", .str name),
        ("arguments", .str tc.function.arguments)])

/-- The output of a tool message. -/
def toolOutputText (content : Json) : String :=
  match content with
  | .null => ""
  | .str s => s
  | v => lib.marshal v

def toolOutputItem (msg : Message) : Json :=
  let callId := trimSpace msg.toolCallId
  let output := toolOutputText lib msg.content
  if callId = "" then
    .obj
      [("role", .str "user"), ("content", .str ("[tool_output_missing_call_id] " ++ output))]
  else
    .obj
      [("type", .str "function_call_output"), ("call_id", .str callId), ("output", .str output)]

/-- The content of the item of any other message. -/
def Message.itemContent (msg : Message) (role : String) : Json :=
  match msg.content with
  | .null => .str ""
  | .str s => .str s
  | _ => .arr (msg.parseContent.map (·.toResponsesPart role))

/-- The input items of one message. -/
def inputItems (msg : Message) : List Json :=
  let role := trimSpace msg.role
  if role = "" then []
  else if role = "tool" ∨ role = "function" then [toolOutputItem lib msg]
  else if role = "system" ∨ role = "developer" then []
  else
    .obj [("role", .str role), ("content", msg.itemContent role)] ::
      if role = "assistant" then msg.toolCalls.filterMap functionCallItem else []

/-- The part of the instructions one message is. -/
def instructionsOf (msg : Message) : Option String :=
  let role := trimSpace msg.role
  if role = "system" ∨ role = "developer" then msg.instructionsPart else none

def FunctionRequest.toMap (f : FunctionRequest) : JsonMap :=
  omitEmpty "description" f.description ++ [("name", .str f.name)] ++
    (if f.parameters.isNull then [] else [("parameters", f.parameters)]) ++
    omitEmpty "arguments" f.arguments

def Raw.toJson? : Raw → Option Json
  | .absent => none
  | .null => some .null
  | .str s => some (.str s)
  | .other v _ => some v

def ToolCallRequest.toMap (tool : ToolCallRequest) : JsonMap :=
  omitEmpty "id" tool.id ++ [("type", .str tool.type), ("function", .obj tool.function.toMap)] ++
    (tool.custom.toJson?.map fun v => ("custom", v)).toList

def toolToResponses (tool : ToolCallRequest) : Json :=
  if tool.type = "function" then
    .obj
      [("type", .str "function"), ("name", .str tool.function.name),
        ("description", .str tool.function.description), ("parameters", tool.function.parameters)]
  else .obj tool.toMap

/-- The flat form of a function choice. -/
def flatChoice (name : String) : Json :=
  .obj [("type", .str "function"), ("name", .str name)]

def nonEmptyString : Json → Option String
  | .str s => if s ≠ "" then some s else none
  | _ => none

def toolChoiceToResponses (toolChoice : Json) : Option Json :=
  match toolChoice with
  | .null => none
  | .obj m =>
    if stringOr (fieldOf m "type") "" = "function" then
      match nonEmptyString (fieldOf m "name"), fieldOf m "function" with
      | some name, _ => some (flatChoice name)
      | none, .obj fn =>
        match nonEmptyString (fieldOf fn "name") with
        | some name => some (flatChoice name)
        | none => some toolChoice
      | none, _ => some toolChoice
    else some toolChoice
  | v => some v

/-- The schema of a response format, one nesting taken away. -/
def formatFields (type : String) (schema : JsonMap) : JsonMap :=
  let format := ("type", .str type) :: schema.filter fun f => f.1 != "type"
  match findField format "json_schema" with
  | some (.obj nested) =>
    (format ++ nested.filter fun f => (findField format f.1).isNone).filter
      fun f => f.1 != "json_schema"
  | _ => format

def convertChatResponseFormatToResponsesText (reqFormat : Option ResponseFormat) : Option Json :=
  match reqFormat with
  | none => none
  | some reqFormat =>
    if trimSpace reqFormat.type = "" then none
    else
      let format : JsonMap :=
        if reqFormat.type = "json_schema" then
          match reqFormat.jsonSchema with
          | none => [("type", .str reqFormat.type)]
          | some (.obj schema) => formatFields reqFormat.type schema
          | some .null => [("type", .str reqFormat.type)]
          | some v => [("type", .str reqFormat.type), ("json_schema", v)]
        else [("type", .str reqFormat.type)]
      some (.obj [("format", .obj format)])

def chatCompletionsRequestToResponsesRequest (req : Option GeneralOpenAIRequest) :
    Except String OpenAIResponsesRequest :=
  match req with
  | none => .error "request is nil"
  | some req =>
    if req.model = "" then .error "model is required"
    else if req.n.getD 1 > 1 then
      .error "n>1 is not supported in responses compatibility mode"
    else
      let instructionsParts := req.messages.filterMap instructionsOf
      .ok
        { model := req.model
          input := some (.arr (req.messages.flatMap (inputItems lib)))
          instructions :=
            if instructionsParts ≠ [] then some (.str ("\n\n".intercalate instructionsParts))
            else none
          stream := req.stream
          temperature := req.temperature
          text := convertChatResponseFormatToResponsesText req.responseFormat
          toolChoice := toolChoiceToResponses req.toolChoice
          tools := req.tools.map fun tools => .arr (tools.map toolToResponses)
          topP := req.topP
          user := req.user
          parallelToolCalls := req.parallelTooCalls.map .bool
          store := req.store
          metadata := req.metadata
          maxOutputTokens :=
            if req.maxTokens.isSome || req.maxCompletionTokens.isSome then
              some (max (req.maxTokens.getD 0) (req.maxCompletionTokens.getD 0))
            else none
          reasoning :=
            if req.reasoningEffort ≠ "" then
              some { effort := req.reasoningEffort, summary := "detailed" }
            else none }

/-! ## Responses to chat -/

def validateResponsesRequestChatUnsupportedFields (req : OpenAIResponsesRequest) :
    Except String Unit :=
  let unsupported : List String :=
    (if rawJSONPresent req.conversation then ["conversation"] else []) ++
    (if trimSpace req.previousResponseId ≠ "" then ["previous_response_id"] else []) ++
    (if rawJSONPresent req.prompt then ["prompt"] else []) ++
    (if rawJSONPresent req.contextManagement then ["context_management"] else [])
  if unsupported ≠ [] then
    .error ("responses to chat conversion does not support stateful fields: " ++
      ", ".intercalate unsupported)
  else .ok ()

/-- A string, or the text of any other value. -/
def responsesJSONString : Json → String
  | .str s => s
  | v => lib.marshal v

def responsesCallId (item : JsonMap) : String :=
  let callId := trimSpace (lib.interface2String (fieldOf item "call_id"))
  if callId ≠ "" then callId else trimSpace (lib.interface2String (fieldOf item "id"))

/-- Arguments and tool outputs: a string, or the text of the value. -/
def responsesArgumentsString : Json → String
  | .null => ""
  | .str s => s
  | v => lib.marshal v

def responsesFunctionCallItemToChatToolCall (item : JsonMap) : Except String ToolCallRequest :=
  let name := trimSpace (lib.interface2String (fieldOf item "name"))
  if name = "" then .error "function_call item is missing name"
  else
    .ok
      { id := responsesCallId lib item
        type := "function"
        function :=
          { name := name, arguments := responsesArgumentsString lib (fieldOf item "arguments") } }

def responsesCustomToolCallItemToChatToolCall (item : JsonMap) : ToolCallRequest where
  id := responsesCallId lib item
  type := "custom"
  custom := .other (.obj item) (lib.marshal (.obj item))
  function :=
    { name := trimSpace (lib.interface2String (fieldOf item "name"))
      arguments := responsesArgumentsString lib (fieldOf item "input") }

def appendToolCallToLastAssistant (messages : List Message) (toolCall : ToolCallRequest) :
    List Message :=
  match messages.getLast? with
  | some last =>
    if last.role = "assistant" then
      messages.dropLast ++ [{ last with toolCalls := last.toolCalls ++ [toolCall] }]
    else messages ++ [{ role := "assistant", toolCalls := [toolCall] }]
  | none => [{ role := "assistant", toolCalls := [toolCall] }]

/-- The entries of `keys` that a part has, the part itself without any. -/
def pickFields (part : JsonMap) (keys : List String) : Json :=
  let picked := keys.filterMap fun key => (findField part key).map fun v => (key, v)
  if picked = [] then .obj part else .obj picked

def responsesPartPayload (part : JsonMap) (key : String) : Json :=
  (findField part key).getD (.obj (part.filter fun f => f.1 != "type"))

def responsesImagePartToChatImageURL (part : JsonMap) : Json :=
  (findField part "image_url").getD (pickFields part ["url", "file_id", "detail"])

def responsesFilePartToChatFile (part : JsonMap) : Json :=
  (findField part "file").getD (pickFields part ["file_id", "file_data", "filename", "file_url"])

def responsesVideoPartToChatVideoURL (part : JsonMap) : Json :=
  match findField part "video_url" with
  | some (.obj video) =>
    let url := lib.interface2String (fieldOf video "url")
    if url ≠ "" then .str url else .obj video
  | some v => v
  | none =>
    let url := lib.interface2String (fieldOf part "url")
    if url ≠ "" then .str url else responsesPartPayload part "video_url"

/-- A content part in the chat format, and its text if it is only that. -/
def responsesPartToChat : Json → Json × Option String
  | .obj part =>
    let partType := trimSpace (lib.interface2String (fieldOf part "type"))
    if partType = "input_text" ∨ partType = "output_text" ∨ partType = "text" then
      let text := lib.interface2String (fieldOf part "text")
      (.obj [("type", .str "text"), ("text", .str text)], some text)
    else if partType = "input_image" then
      (.obj
        [("type", .str "image_url"), ("image_url", responsesImagePartToChatImageURL part)], none)
    else if partType = "input_file" then
      (.obj [("type", .str "file"), ("file", responsesFilePartToChatFile part)], none)
    else if partType = "input_audio" then
      (.obj
        [("type", .str "input_audio"),
          ("input_audio", responsesPartPayload part "input_audio")], none)
    else if partType = "input_video" then
      (.obj
        [("type", .str "video_url"), ("video_url", responsesVideoPartToChatVideoURL lib part)],
        none)
    else (.obj part, none)
  | v => (v, none)

def responsesContentPartsToChatContent (parts : List Json) : Json :=
  let converted := parts.map (responsesPartToChat lib)
  if converted.all fun p => p.2.isSome then .str (String.join (converted.filterMap (·.2)))
  else .arr (converted.map (·.1))

def responsesInputContentToChatContent : Json → Json
  | .null => .str ""
  | .str s => .str s
  | .arr parts => responsesContentPartsToChatContent lib parts
  | v => v

def responsesInputItemToChatMessages (messages : List Message) (item : JsonMap) :
    Except String (List Message) :=
  let itemType := trimSpace (lib.interface2String (fieldOf item "type"))
  if itemType = "function_call" then
    (responsesFunctionCallItemToChatToolCall lib item).map fun toolCall =>
      appendToolCallToLastAssistant messages toolCall
  else if itemType = "custom_tool_call" then
    .ok (appendToolCallToLastAssistant messages
      (responsesCustomToolCallItemToChatToolCall lib item))
  else if itemType = "function_call_output" then
    let callId := trimSpace (lib.interface2String (fieldOf item "call_id"))
    let content := responsesArgumentsString lib (fieldOf item "output")
    .ok (messages ++ [{ role := "tool", toolCallId := callId, content := .str content }])
  else
    let role := trimSpace (lib.interface2String (fieldOf item "role"))
    let role := if role = "" then "user" else role
    let content := responsesInputContentToChatContent lib (fieldOf item "content")
    .ok (messages ++ [{ role := role, content := content }])

/-- The system message the instructions become. -/
def instructionMessages (instructions : Option Json) : List Message :=
  match instructions with
  | none => []
  | some v =>
    if v.isNull then []
    else
      let text := responsesJSONString lib v
      if trimSpace text ≠ "" then [{ role := "system", content := .str text }] else []

def responsesRequestMessagesToChat (req : OpenAIResponsesRequest) :
    Except String (List Message) :=
  let messages := instructionMessages lib req.instructions
  match req.input with
  | none => .ok messages
  | some .null => .ok messages
  | some (.str input) => .ok (messages ++ [{ role := "user", content := .str input }])
  | some (.arr items) =>
    match lib.toMaps (.arr items) with
    | .error e => .error ("invalid input array: " ++ e)
    | .ok items => items.foldlM (responsesInputItemToChatMessages lib) messages
  | some v => .error ("unsupported responses input type \"" ++ v.typeName ++ "\"")

def toolToChat (tool : JsonMap) : ToolCallRequest :=
  let toolType := trimSpace (lib.interface2String (fieldOf tool "type"))
  if toolType = "function" then
    { type := "function"
      function :=
        { name := trimSpace (lib.interface2String (fieldOf tool "name"))
          description := lib.interface2String (fieldOf tool "description")
          parameters := fieldOf tool "parameters" } }
  else { type := toolType, custom := .other (.obj tool) (lib.marshal (.obj tool)) }

def responsesRequestToolsToChat (raw : Option Json) :
    Except String (Option (List ToolCallRequest)) :=
  match raw with
  | none => .ok none
  | some .null => .ok none
  | some v =>
    match lib.toMaps v with
    | .error e => .error ("invalid tools: " ++ e)
    | .ok tools => .ok (some (tools.map (toolToChat lib)))

/-- The choice of a function in the chat format. -/
def functionChoice (name : String) : Json :=
  .obj [("type", .str "function"), ("function", .obj [("name", .str name)])]

def responsesRequestToolChoiceToChat (raw : Option Json) : Except String Json :=
  match raw with
  | none => .ok .null
  | some .null => .ok .null
  | some (.str choice) => .ok (.str choice)
  | some v =>
    match lib.toMap v with
    | .error e => .error ("invalid tool_choice: " ++ e)
    | .ok choice =>
      let name := trimSpace (lib.interface2String (fieldOf choice "name"))
      if lib.interface2String (fieldOf choice "type") = "function" ∧ name ≠ "" then
        .ok (functionChoice name)
      else .ok (.obj choice)

def responsesRequestTextToChatResponseFormat (raw : Option Json) :
    Except String (Option ResponseFormat) :=
  match raw with
  | none => .ok none
  | some .null => .ok none
  | some v =>
    match lib.toMap v with
    | .error e => .error ("invalid text config: " ++ e)
    | .ok textConfig =>
      match fieldOf textConfig "format" with
      | .obj format =>
        let formatType := trimSpace (lib.interface2String (fieldOf format "type"))
        if formatType = "" then .ok none
        else
          .ok (some
            { type := formatType
              jsonSchema := if formatType = "json_schema" then some (.obj format) else none })
      | _ => .ok none

def responsesRequestToChatCompletionsRequest (req : Option OpenAIResponsesRequest) :
    Except String GeneralOpenAIRequest :=
  match req with
  | none => .error "request is nil"
  | some req =>
    if req.model = "" then .error "model is required"
    else do
      validateResponsesRequestChatUnsupportedFields req
      let messages ← responsesRequestMessagesToChat lib req
      let tools ← responsesRequestToolsToChat lib req.tools
      let toolChoice ← responsesRequestToolChoiceToChat lib req.toolChoice
      let responseFormat ← responsesRequestTextToChatResponseFormat lib req.text
      return {
        model := req.model
        messages := messages
        stream := req.stream
        streamOptions := req.streamOptions
        maxCompletionTokens := req.maxOutputTokens
        temperature := req.temperature
        topP := req.topP
        topLogProbs := req.topLogProbs
        responseFormat := responseFormat
        tools := tools
        toolChoice := toolChoice
        user := req.user
        store := req.store
        metadata := req.metadata
        safetyIdentifier := req.safetyIdentifier
        promptCacheRetention := req.promptCacheRetention
        enableThinking := req.enableThinking
        reasoningEffort := (req.reasoning.map (·.effort)).getD ""
        serviceTier := if req.serviceTier ≠ "" then some (.str req.serviceTier) else none
        parallelTooCalls :=
          match req.parallelToolCalls with
          | some (.bool b) => some b
          | _ => none
        promptCacheKey :=
          match req.promptCacheKey with
          | some (.str s) => s
          | _ => "" }

def chatRequestRoundTrip (req : GeneralOpenAIRequest) : Except String GeneralOpenAIRequest := do
  responsesRequestToChatCompletionsRequest lib
    (some (← chatCompletionsRequestToResponsesRequest lib (some req)))

end

end YouBox.Responses
