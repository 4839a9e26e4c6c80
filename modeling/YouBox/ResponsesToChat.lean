import YouBox.ChannelSwitch
import YouBox.ChatResponse

/-!
# From Responses events to chat chunks

`ResponsesStreamEventToChatChunks` turns one event of a Responses stream
at a time into chunks of a chat stream. Text and reasoning are passed on
as they come. The events of a tool call name it by its place in the
output, by the id of its item or by both, and its arguments may come
before it does; the state keeps a table of tools and the maps that lead
into it.

Every function returns the chunks it gives and the state it leaves. A
tool is a pointer into the table in the source: here it is passed along
and `keep` writes it back, which `toolDelta` always does last.
-/

namespace YouBox.Responses

/-! ## Chat chunks -/

structure ToolCallResponse where
  index : Nat
  id : String
  type : String
  name : String
  arguments : String

/-- `dto.ChatCompletionsStreamResponseChoiceDelta`. -/
structure ChunkDelta where
  role : String := ""
  content : Option String := none
  reasoningContent : Option String := none
  toolCalls : List ToolCallResponse := []

structure ChunkChoice where
  delta : ChunkDelta
  finishReason : Option String

/-- A chunk as it is written, where `ChatCompletionsStreamResponse` is
one as it is read. -/
structure ChatChunk where
  id : String
  created : Int
  model : String
  choices : List ChunkChoice
  usage : Option Usage := none

/-! ## The state -/

/-- The key of a tool: a string with one of three prefixes. -/
inductive ToolKey where
  | output (index : Int)
  | item (id : String)
  | call (id : String)
deriving DecidableEq

def ToolKey.text : ToolKey → String
  | .output index => "output:" ++ toString index
  | .item id => "item:" ++ id
  | .call id => "call:" ++ id

/-- The call id of a tool of which only arguments came. -/
def ToolKey.pendingCallId : ToolKey → String
  | .output index => "call_output_" ++ toString index
  | .item id => id
  | .call id => "call:" ++ id

structure ResponsesStreamTool where
  key : ToolKey
  callId : String := ""
  itemId : String := ""
  name : String := ""
  arguments : String := ""
  index : Nat
  sent : Bool := false
  nameSent : Bool := false
  argsSentAt : Nat := 0

abbrev GoMap (κ ν : Type) := AList fun _ : κ => ν

/-- What the events of tools read and write. -/
structure ToolMaps where
  nextToolIndex : Nat := 0
  toolByKey : GoMap ToolKey ResponsesStreamTool := ∅
  outputIndexToKey : GoMap Int ToolKey := ∅
  itemIdToKey : GoMap String ToolKey := ∅
  callIdToKey : GoMap String ToolKey := ∅
  pendingArgsByOutputIndex : GoMap Int String := ∅
  pendingArgsByItemId : GoMap String String := ∅

structure ResponsesToChatStreamState extends ToolMaps where
  id : String := ""
  model : String
  created : Int
  includeUsage : Bool
  usage : Usage := {}
  sentStart : Bool := false
  finalized : Bool := false
  hasSentText : Bool := false
  sawToolCall : Bool := false
  hasSentReasoning : Bool := false
  needsReasoningSummaryBreak : Bool := false
  usageText : String := ""

def newResponsesToChatStreamState (model : String) (includeUsage : Bool) (now : Int) :
    ResponsesToChatStreamState :=
  { model := model, created := now, includeUsage := includeUsage }

/-! ## Strings -/

/-- `len(s)`. -/
def byteLength (s : String) : Nat :=
  (s.toList.map Char.utf8Size).sum

def dropBytes : Nat → List Char → List Char
  | _, [] => []
  | n, c :: cs => if n = 0 then c :: cs else dropBytes (n - c.utf8Size) cs

/-- `s[n:]`, where no character of `s` is cut in two. -/
def sliceFrom (s : String) (n : Nat) : String :=
  String.ofList (dropBytes n s.toList)

/-! ## Identifiers -/

/-- What a field gives once trimmed, if anything. -/
def given (field : String) : Option String :=
  if trimSpace field ≠ "" then some (trimSpace field) else none

def responseStreamEventItemId (event : ResponsesStreamResponse) : String :=
  match event.item.bind fun item => given item.id with
  | some itemId => itemId
  | none => trimSpace event.itemId

def fallbackToolKey (itemId callId : String) (outputIndex : Option Int) : Option ToolKey :=
  match outputIndex with
  | some index => some (.output index)
  | none => (given itemId).map .item <|> (given callId).map .call

def fallbackCallId (event : ResponsesStreamResponse) : String :=
  match given event.itemId, event.outputIndex with
  | some itemId, _ => itemId
  | none, some index => "call_output_" ++ toString index
  | none, none => ""

def keyForEvent (event : ResponsesStreamResponse) : Option ToolKey :=
  match event.outputIndex with
  | some index => some (.output index)
  | none =>
    (event.item.bind fun item => (given item.id).map .item <|> (given item.callId).map .call) <|>
      (given event.itemId).map .item

def ensureIncompleteResponse (resp : Option OpenAIResponsesResponse) : OpenAIResponsesResponse :=
  let resp := resp.getD {}
  match resp.status with
  | .absent => { resp with status := .str "incomplete" }
  | _ => resp

namespace ResponsesToChatStreamState

variable (s : ResponsesToChatStreamState)

/-! ## Chunks -/

def makeChunk (delta : ChunkDelta) (finishReason : Option String) : ChatChunk where
  id := s.id
  created := s.created
  model := s.model
  choices := [{ delta := delta, finishReason := finishReason }]

def applyResponseMetadata (response : Option OpenAIResponsesResponse) :
    ResponsesToChatStreamState :=
  match response with
  | none => s
  | some response =>
    { s with
      id := if response.id ≠ "" ∧ s.id = "" then response.id else s.id
      model := if response.model ≠ "" then response.model else s.model
      created := if response.createdAt ≠ 0 then response.createdAt else s.created
      usage := if response.usage.isSome then usageFromResponsesUsage response.usage else s.usage }

def ensureStart : List ChatChunk × ResponsesToChatStreamState :=
  if s.sentStart then ([], s)
  else
    ([s.makeChunk { role := "assistant", content := some "" } none], { s with sentStart := true })

def textDelta (delta : String) : List ChatChunk × ResponsesToChatStreamState :=
  if delta = "" then ([], s)
  else
    let s := { s with usageText := s.usageText ++ delta, hasSentText := true }
    let (start, s) := s.ensureStart
    (start ++ [s.makeChunk { content := some delta } none], s)

/-- A blank line before the next summary, unless it brings its own. -/
def summaryBreak (delta : String) : String :=
  if ChannelSwitch.hasPrefix delta "\n\n" then delta
  else if ChannelSwitch.hasPrefix delta "\n" then "\n" ++ delta
  else "\n\n" ++ delta

def reasoningDelta (delta : String) : List ChatChunk × ResponsesToChatStreamState :=
  if delta = "" then ([], s)
  else
    let delta := if s.needsReasoningSummaryBreak then summaryBreak delta else delta
    let s := { s with needsReasoningSummaryBreak := false, usageText := s.usageText ++ delta }
    let (start, s) := s.ensureStart
    (start ++ [s.makeChunk { reasoningContent := some delta } none],
      { s with hasSentReasoning := true })

/-! ## Tools -/

def keep (tool : ResponsesStreamTool) : ResponsesToChatStreamState :=
  { s with toolByKey := s.toolByKey.insert tool.key tool }

/-- The part of the arguments that goes out next. -/
def nextArguments (tool : ResponsesStreamTool) (explicitDelta : String) : String :=
  if explicitDelta = "" ∧ tool.argsSentAt < byteLength tool.arguments then
    sliceFrom tool.arguments tool.argsSentAt
  else explicitDelta

def shownCallId (tool : ResponsesStreamTool) : String :=
  if trimSpace tool.callId = "" then tool.key.text else trimSpace tool.callId

def toolDelta (tool : ResponsesStreamTool) (explicitDelta : String) :
    List ChatChunk × ResponsesToChatStreamState :=
  let argsDelta := nextArguments tool explicitDelta
  if tool.sent ∧ argsDelta = "" ∧ (tool.name = "" ∨ tool.nameSent) then ([], s.keep tool)
  else
    let (start, s) := s.ensureStart
    let name := if tool.nameSent then "" else tool.name
    let responseTool : ToolCallResponse :=
      { index := tool.index, id := shownCallId tool, type := "function", name := name
        arguments := argsDelta }
    let tool :=
      { tool with
        nameSent := tool.nameSent || name ≠ ""
        sent := true
        argsSentAt := tool.argsSentAt + byteLength argsDelta }
    let s := { s.keep tool with usageText := s.usageText ++ argsDelta ++ name, sawToolCall := true }
    (start ++ [s.makeChunk { toolCalls := [responseTool] } none], s)

/-- The tool of a key, or a new one with the next index. -/
def toolAt (key : ToolKey) (callId : String) : ResponsesStreamTool × ResponsesToChatStreamState :=
  match s.toolByKey.lookup key with
  | some tool => (tool, s)
  | none =>
    ({ key := key, index := s.nextToolIndex, callId := callId },
      { s with nextToolIndex := s.nextToolIndex + 1 })

/-- Leads an output index to the tool, with the arguments that waited for it. -/
def linkOutputIndex (outputIndex : Option Int) (tool : ResponsesStreamTool) :
    ResponsesStreamTool × ResponsesToChatStreamState :=
  match outputIndex with
  | none => (tool, s)
  | some index =>
    let s := { s with outputIndexToKey := s.outputIndexToKey.insert index tool.key }
    let pending := (s.pendingArgsByOutputIndex.lookup index).getD ""
    if pending ≠ "" then
      ({ tool with arguments := tool.arguments ++ pending },
        { s with pendingArgsByOutputIndex := s.pendingArgsByOutputIndex.erase index })
    else (tool, s)

def linkItemId (itemId : String) (tool : ResponsesStreamTool) :
    ResponsesStreamTool × ResponsesToChatStreamState :=
  if itemId = "" then (tool, s)
  else
    let tool := { tool with itemId := itemId }
    let s := { s with itemIdToKey := s.itemIdToKey.insert itemId tool.key }
    let pending := (s.pendingArgsByItemId.lookup itemId).getD ""
    if pending ≠ "" then
      ({ tool with arguments := tool.arguments ++ pending },
        { s with pendingArgsByItemId := s.pendingArgsByItemId.erase itemId })
    else (tool, s)

/-- The call id and the name that the item gives. -/
def nameTool (item : ResponsesOutput) (tool : ResponsesStreamTool) :
    ResponsesStreamTool × ResponsesToChatStreamState :=
  let callId := trimSpace item.callId
  let name := trimSpace item.name
  ({ tool with
      callId :=
        if callId ≠ "" then callId
        else if tool.callId = "" then trimSpace item.id
        else tool.callId
      name := if name ≠ "" then name else tool.name },
    if callId ≠ "" then { s with callIdToKey := s.callIdToKey.insert callId tool.key } else s)

def ensureToolForEvent (event : ResponsesStreamResponse) :
    Option (ResponsesStreamTool × ResponsesToChatStreamState) :=
  match event.item with
  | none => none
  | some item =>
    match keyForEvent event <|> fallbackToolKey item.id item.callId event.outputIndex with
    | none => none
    | some key =>
      let (tool, s) := s.toolAt key ""
      let (tool, s) := s.linkOutputIndex event.outputIndex tool
      let (tool, s) := s.linkItemId (responseStreamEventItemId event) tool
      some (s.nameTool item tool)

def findToolForEvent (event : ResponsesStreamResponse) : Option ResponsesStreamTool :=
  match event.outputIndex.bind s.outputIndexToKey.lookup with
  | some key => s.toolByKey.lookup key
  | none =>
    match (given event.itemId).bind s.itemIdToKey.lookup with
    | some key => s.toolByKey.lookup key
    | none =>
      match event.item with
      | some _ => (keyForEvent event).bind s.toolByKey.lookup
      | none => none

def ensureFallbackToolForEvent (event : ResponsesStreamResponse) :
    Option (ResponsesStreamTool × ResponsesToChatStreamState) :=
  match fallbackToolKey event.itemId "" event.outputIndex with
  | none => none
  | some key =>
    let (tool, s) := s.toolAt key (fallbackCallId event)
    let (tool, s) := s.linkOutputIndex event.outputIndex tool
    some (s.linkItemId (responseStreamEventItemId event) tool)

def toolItem (event : ResponsesStreamResponse) (item : ResponsesOutput) :
    List ChatChunk × ResponsesToChatStreamState :=
  match s.ensureToolForEvent event with
  | none => ([], s)
  | some (tool, s) =>
    let args := item.argumentsString
    let tool := if args ≠ "" then { tool with arguments := args } else tool
    s.toolDelta tool ""

/-- Arguments of a tool not seen yet wait under the output index, or
under the item id where there is none. -/
def deferArguments (event : ResponsesStreamResponse) : ResponsesToChatStreamState :=
  match event.outputIndex with
  | some index =>
    { s with
      pendingArgsByOutputIndex := s.pendingArgsByOutputIndex.insert index
        ((s.pendingArgsByOutputIndex.lookup index).getD "" ++ event.delta) }
  | none =>
    match given event.itemId with
    | some itemId =>
      { s with
        pendingArgsByItemId := s.pendingArgsByItemId.insert itemId
          ((s.pendingArgsByItemId.lookup itemId).getD "" ++ event.delta) }
    | none => s

def toolArgumentsDelta (event : ResponsesStreamResponse) :
    List ChatChunk × ResponsesToChatStreamState :=
  if event.delta = "" then ([], s)
  else
    match s.findToolForEvent event with
    | none => ([], s.deferArguments event)
    | some tool =>
      s.toolDelta { tool with arguments := tool.arguments ++ event.delta } event.delta

def flushPendingTool (event : ResponsesStreamResponse) :
    List ChatChunk × ResponsesToChatStreamState :=
  match s.findToolForEvent event with
  | some tool => s.toolDelta tool ""
  | none =>
    match s.ensureFallbackToolForEvent event with
    | some (tool, s) => s.toolDelta tool ""
    | none => ([], s)

/-! ## The end -/

def outputText (out : ResponsesOutput) : String :=
  String.join (writtenTexts (fun c => c.type == "output_text") out.content)

def reasoningText (out : ResponsesOutput) : String :=
  String.join (writtenTexts (fun _ => true) out.content)

def terminalItem (out : ResponsesOutput) : List ChatChunk × ResponsesToChatStreamState :=
  if out.type = responsesOutputTypeMessage ∧ !s.hasSentText then s.textDelta (outputText out)
  else if out.type = responsesOutputTypeReasoning ∧ !s.hasSentReasoning then
    s.reasoningDelta (reasoningText out)
  else if isResponsesToolOutputType out.type then
    s.toolItem { type := .other "", item := some out } out
  else ([], s)

def terminalItems :
    List ResponsesOutput → ResponsesToChatStreamState → List ChatChunk × ResponsesToChatStreamState
  | [], s => ([], s)
  | out :: rest, s =>
    let (chunks, s) := s.terminalItem out
    let (more, s) := terminalItems rest s
    (chunks ++ more, s)

def terminalOutputChunks (response : Option OpenAIResponsesResponse) :
    List ChatChunk × ResponsesToChatStreamState :=
  match response with
  | none => ([], s)
  | some response => terminalItems response.output s

/-- The arguments that still wait under a key, taken from the map. -/
def takePending (key : ToolKey) : String × ResponsesToChatStreamState :=
  match key with
  | .output index =>
    ((s.pendingArgsByOutputIndex.lookup index).getD "",
      { s with pendingArgsByOutputIndex := s.pendingArgsByOutputIndex.erase index })
  | .item id =>
    ((s.pendingArgsByItemId.lookup id).getD "",
      { s with pendingArgsByItemId := s.pendingArgsByItemId.erase id })
  | .call _ => ("", s)

def flushKey (key : ToolKey) : List ChatChunk × ResponsesToChatStreamState :=
  let (tool, s) := s.toolAt key key.pendingCallId
  let (pending, s) := s.takePending key
  s.toolDelta { tool with arguments := tool.arguments ++ pending } ""

def flushKeys :
    List ToolKey → ResponsesToChatStreamState → List ChatChunk × ResponsesToChatStreamState
  | [], s => ([], s)
  | key :: rest, s =>
    let (chunks, s) := s.flushKey key
    let (more, s) := flushKeys rest s
    (chunks ++ more, s)

/-- The keys that arguments wait under and no tool has. -/
def unseenKeys : List ToolKey :=
  (s.pendingArgsByOutputIndex.keys.map ToolKey.output ++ s.pendingArgsByItemId.keys.map ToolKey.item).filter
    fun key => key ∉ s.toolByKey.keys

def flushAllPendingTools : List ChatChunk × ResponsesToChatStreamState :=
  flushKeys ((s.toolByKey.keys ++ s.unseenKeys).insertionSort fun a b => a.text ≤ b.text) s

def finishReason (response : Option OpenAIResponsesResponse) : String :=
  match responsesFinishReasonFromStatus response with
  | some mappedReason => mappedReason
  | none => if s.sawToolCall then "tool_calls" else "stop"

def usageChunks : List ChatChunk :=
  if s.includeUsage then
    [{ id := s.id, created := s.created, model := s.model, choices := [], usage := some s.usage }]
  else []

def finalize (response : Option OpenAIResponsesResponse) :
    List ChatChunk × ResponsesToChatStreamState :=
  if s.finalized then ([], s)
  else
    let s := { s with finalized := true }
    let (tools, s) := s.flushAllPendingTools
    let (start, s) := s.ensureStart
    (tools ++ start ++ s.makeChunk {} (some (s.finishReason response)) :: s.usageChunks, s)

def finish (response : Option OpenAIResponsesResponse) :
    List ChatChunk × ResponsesToChatStreamState :=
  let s := s.applyResponseMetadata response
  let (chunks, s) := s.terminalOutputChunks response
  let (more, s) := s.finalize response
  (chunks ++ more, s)

end ResponsesToChatStreamState

open ResponsesToChatStreamState in
def responsesStreamEventToChatChunks (event : ResponsesStreamResponse)
    (s : ResponsesToChatStreamState) :
    Except String (List ChatChunk × ResponsesToChatStreamState) :=
  match event.type with
  | .created => .ok (s.applyResponseMetadata event.response).ensureStart
  | .reasoningSummaryDelta | .reasoningTextDelta => .ok (s.reasoningDelta event.delta)
  | .reasoningSummaryDone | .reasoningTextDone =>
    .ok ([], if s.hasSentReasoning then { s with needsReasoningSummaryBreak := true } else s)
  | .outputTextDelta => .ok (s.textDelta event.delta)
  | .outputItemAdded | .outputItemDone =>
    match event.item with
    | none => .ok ([], s)
    | some item =>
      if isResponsesToolOutputType item.type then .ok (s.toolItem event item) else .ok ([], s)
  | .functionArgsDelta | .customToolInputDelta => .ok (s.toolArgumentsDelta event)
  | .functionArgsDone | .customToolInputDone => .ok (s.flushPendingTool event)
  | .completed | .done => .ok (s.finish event.response)
  | .incomplete => .ok (s.finish (some (ensureIncompleteResponse event.response)))
  | .failed => .error "responses stream error: response.failed"
  | .error => .error "responses stream error: response.error"
  | _ => .ok ([], s)

/-- The events of a stream one after the other. -/
def responsesEventsToChatChunks :
    List ResponsesStreamResponse → ResponsesToChatStreamState →
      Except String (List ChatChunk × ResponsesToChatStreamState)
  | [], s => .ok ([], s)
  | event :: rest, s =>
    match responsesStreamEventToChatChunks event s with
    | .error e => .error e
    | .ok (chunks, s) =>
      match responsesEventsToChatChunks rest s with
      | .error e => .error e
      | .ok (more, s) => .ok (chunks ++ more, s)

end YouBox.Responses
