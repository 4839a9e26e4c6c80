import YouBox.ChatResponse

/-!
# From chat chunks to Responses events

`ChatCompletionsStreamChunkToResponsesEvents` turns one chat chunk at a
time into events of the Responses stream, and
`FinalizeChatCompletionsStreamToResponses` ends it. Text, reasoning and
every tool index are items of their own that share one counter; an item
is closed by the first finish reason or at the end, whichever comes
first.

Every append function returns the events it gives and the state it
leaves. What `appendToolCallDelta` reports as an error is always nil, so
none of the steps can fail. `ChatStreamGrammar` says what the events of
a whole stream look like.
-/

namespace YouBox.Responses

open ClaudeStream (Delta Choice ToolCall)

/-! ## The state -/

structure ChatCompletionsStreamResponse where
  id : String := ""
  model : String := ""
  created : Int := 0
  choices : List Choice := []
  usage : Option Usage := none

inductive OutputRef where
  | message
  | reasoning
  | tool (chatIndex : Int)
deriving DecidableEq

structure ChatToResponsesStreamTool where
  chatIndex : Int
  outputIndex : Int
  id : String
  name : String
  arguments : String
  done : Bool

/-- The map of tools is the list of its values, in the order of their
insertion. -/
structure ChatToResponsesStreamState where
  id : String
  model : String
  created : Int
  usage : Usage := {}
  status : String := "completed"
  incompleteDetails : Option IncompleteDetails := none
  sentCreated : Bool := false
  textOutputIndex : Int := -1
  textStarted : Bool := false
  textDone : Bool := false
  reasoningIndex : Int := -1
  reasoningStarted : Bool := false
  reasoningDone : Bool := false
  finalized : Bool := false
  nextOutputIndex : Int := 0
  toolsByIndex : List ChatToResponsesStreamTool := []
  outputOrder : List OutputRef := []
  text : String := ""
  reasoning : String := ""

def newChatToResponsesStreamState (id model : String) (now : Int) : ChatToResponsesStreamState :=
  { id := id, model := model, created := now }

namespace ChatToResponsesStreamState

variable (s : ChatToResponsesStreamState)

/-! ## Items and responses -/

def outputStatus : String :=
  if s.status = "incomplete" then "incomplete" else "completed"

def messageId : String := s.id ++ "_msg_0"

def reasoningId : String := s.id ++ "_reasoning_0"

def messageOutput (status : String) : ResponsesOutput where
  type := responsesOutputTypeMessage
  id := s.messageId
  status := status
  role := "assistant"
  content := [{ type := "output_text", text := s.text }]

def reasoningOutput (status : String) : ResponsesOutput where
  type := responsesOutputTypeReasoning
  id := s.reasoningId
  status := status
  content := [{ type := "summary_text", text := s.reasoning }]

def toolOutput (tool : ChatToResponsesStreamTool) (status : String) : ResponsesOutput where
  type := responsesOutputTypeFunctionCall
  id := tool.id
  status := status
  callId := tool.id
  name := tool.name
  arguments := chatArgumentsRawMessage tool.arguments

def findTool (chatIndex : Int) : Option ChatToResponsesStreamTool :=
  s.toolsByIndex.find? fun tool => tool.chatIndex = chatIndex

def outputOf (status : String) : OutputRef → Option ResponsesOutput
  | .message => some (s.messageOutput status)
  | .reasoning => some (s.reasoningOutput status)
  | .tool chatIndex => (s.findTool chatIndex).map fun tool => toolOutput tool status

def finalResponse : OpenAIResponsesResponse where
  id := s.id
  createdAt := s.created
  status := .str s.status
  incompleteDetails := s.incompleteDetails
  model := s.model
  output := s.outputOrder.filterMap (s.outputOf s.outputStatus)
  usage := some s.usage

def createdResponse : OpenAIResponsesResponse where
  id := s.id
  createdAt := s.created
  status := .str "in_progress"
  model := s.model

/-! ## Deltas -/

/-- Takes the next index, which is `s.nextOutputIndex`. -/
def nextIndex (ref : OutputRef) : ChatToResponsesStreamState :=
  { s with
    nextOutputIndex := s.nextOutputIndex + 1
    outputOrder := s.outputOrder ++ [ref] }

def appendTextDelta (delta : String) :
    List ResponsesStreamResponse × ChatToResponsesStreamState :=
  let (events, s) : List ResponsesStreamResponse × ChatToResponsesStreamState :=
    if !s.textStarted then
      ([{ type := .outputItemAdded
          outputIndex := some s.nextOutputIndex
          item := some
            { type := responsesOutputTypeMessage, id := s.messageId, status := "in_progress",
              role := "assistant" } }],
        { s.nextIndex .message with textStarted := true, textOutputIndex := s.nextOutputIndex })
    else ([], s)
  let s := { s with text := s.text ++ delta }
  (events ++
    [{ type := .outputTextDelta, outputIndex := some s.textOutputIndex, contentIndex := some 0,
       delta := delta, itemId := s.messageId }], s)

def appendReasoningDelta (delta : String) :
    List ResponsesStreamResponse × ChatToResponsesStreamState :=
  let (events, s) : List ResponsesStreamResponse × ChatToResponsesStreamState :=
    if !s.reasoningStarted then
      ([{ type := .outputItemAdded
          outputIndex := some s.nextOutputIndex
          item := some
            { type := responsesOutputTypeReasoning, id := s.reasoningId,
              status := "in_progress" } }],
        { s.nextIndex .reasoning with
          reasoningStarted := true, reasoningIndex := s.nextOutputIndex })
    else ([], s)
  let s := { s with reasoning := s.reasoning ++ delta }
  (events ++
    [{ type := .reasoningSummaryDelta, outputIndex := some s.reasoningIndex,
       summaryIndex := some 0, delta := delta, itemId := s.reasoningId }], s)

/-- `s.toolsByIndex[chatIndex] = tool` for a new index. -/
def addTool (tool : ChatToResponsesStreamTool) : ChatToResponsesStreamState :=
  { s.nextIndex (.tool tool.chatIndex) with toolsByIndex := s.toolsByIndex ++ [tool] }

/-- The tool made for the first delta of a chat index. -/
def newTool (chatIndex : Int) (toolCall : ToolCall) : ChatToResponsesStreamTool where
  chatIndex := chatIndex
  outputIndex := s.nextOutputIndex
  id := if trimSpace toolCall.id = "" then generatedCallId s.id chatIndex
    else trimSpace toolCall.id
  name := trimSpace toolCall.name
  arguments := ""
  done := false

/-- The tool of a chat index, entered into the map if it is not there. -/
def ensureTool (chatIndex : Int) (toolCall : ToolCall) :
    List ResponsesStreamResponse × ChatToResponsesStreamTool × ChatToResponsesStreamState :=
  match s.findTool chatIndex with
  | some tool => ([], tool, s)
  | none =>
    let tool := s.newTool chatIndex toolCall
    ([{ type := .outputItemAdded
        outputIndex := some tool.outputIndex
        itemId := tool.id
        item := some
          { type := responsesOutputTypeFunctionCall, id := tool.id, status := "in_progress",
            callId := tool.id, name := tool.name, arguments := .str "" } }],
      tool, s.addTool tool)

/-- What a delta overwrites and appends. -/
def updatedTool (tool : ChatToResponsesStreamTool) (toolCall : ToolCall) :
    ChatToResponsesStreamTool :=
  { tool with
    id := if trimSpace toolCall.id ≠ "" then trimSpace toolCall.id else tool.id
    name := if trimSpace toolCall.name ≠ "" then trimSpace toolCall.name else tool.name
    arguments := tool.arguments ++ toolCall.arguments }

/-- Writes through the pointer in the map. -/
def setTool (tool : ChatToResponsesStreamTool) : ChatToResponsesStreamState :=
  { s with
    toolsByIndex := s.toolsByIndex.map fun t => if t.chatIndex = tool.chatIndex then tool else t }

def argumentsDelta (tool : ChatToResponsesStreamTool) (delta : String) :
    List ResponsesStreamResponse :=
  if delta ≠ "" then
    [{ type := .functionArgsDelta, outputIndex := some tool.outputIndex, itemId := tool.id,
       delta := delta }]
  else []

def appendToolCallDelta (toolCall : ToolCall) :
    List ResponsesStreamResponse × ChatToResponsesStreamState :=
  let (events, tool, s) := s.ensureTool (toolCall.index.getD 0) toolCall
  let tool := updatedTool tool toolCall
  (events ++ argumentsDelta tool toolCall.arguments, s.setTool tool)

/-! ## Closing -/

def sortedTools : List ChatToResponsesStreamTool :=
  s.toolsByIndex.mergeSort fun a b => a.chatIndex ≤ b.chatIndex

def textDoneEvents (status : String) : List ResponsesStreamResponse :=
  [{ type := .outputTextDone, outputIndex := some s.textOutputIndex, contentIndex := some 0,
     itemId := s.messageId },
   { type := .outputItemDone, outputIndex := some s.textOutputIndex,
     item := some (s.messageOutput status) }]

def reasoningDoneEvents (status : String) : List ResponsesStreamResponse :=
  [{ type := .reasoningSummaryDone, outputIndex := some s.reasoningIndex, summaryIndex := some 0,
     itemId := s.reasoningId, part := some { type := "summary_text", text := s.reasoning } },
   { type := .outputItemDone, outputIndex := some s.reasoningIndex,
     item := some (s.reasoningOutput status) }]

def toolDoneEvents (tool : ChatToResponsesStreamTool) (status : String) :
    List ResponsesStreamResponse :=
  [{ type := .functionArgsDone, outputIndex := some tool.outputIndex, itemId := tool.id },
   { type := .outputItemDone, outputIndex := some tool.outputIndex,
     item := some (toolOutput tool status) }]

def doneDeltaEvents : List ResponsesStreamResponse × ChatToResponsesStreamState :=
  let status := s.outputStatus
  ((if s.textStarted && !s.textDone then s.textDoneEvents status else []) ++
    (if s.reasoningStarted && !s.reasoningDone then s.reasoningDoneEvents status else []) ++
    (s.sortedTools.filter fun tool => !tool.done).flatMap fun tool => toolDoneEvents tool status,
    { s with
      textDone := s.textDone || s.textStarted
      reasoningDone := s.reasoningDone || s.reasoningStarted
      toolsByIndex := s.toolsByIndex.map fun tool => { tool with done := true } })

def applyFinishReason (finishReason : String) : ChatToResponsesStreamState :=
  let (status, details) := responsesStatusFromChatFinishReason finishReason
  if status ≠ "" then { s with status := status, incompleteDetails := details } else s

/-! ## Chunks -/

/-- Events of one element after the other. -/
def emitAll {α : Type}
    (step : ChatToResponsesStreamState → α →
      List ResponsesStreamResponse × ChatToResponsesStreamState) :
    ChatToResponsesStreamState → List α →
      List ResponsesStreamResponse × ChatToResponsesStreamState
  | s, [] => ([], s)
  | s, x :: rest =>
    let (events, s) := step s x
    let (more, s) := emitAll step s rest
    (events ++ more, s)

/-- `choice.FinishReason` after the two tests on it. -/
def finishReason? (choice : Choice) : Option String :=
  choice.finishReason.filter fun reason => trimSpace reason ≠ ""

def finishEvents (choice : Choice) :
    List ResponsesStreamResponse × ChatToResponsesStreamState :=
  match finishReason? choice with
  | some reason => (s.applyFinishReason reason).doneDeltaEvents
  | none => ([], s)

def choiceEvents (choice : Choice) :
    List ResponsesStreamResponse × ChatToResponsesStreamState :=
  let reasoning := choice.delta.getReasoningContent
  let content := choice.delta.getContentString
  let (reasoningEvents, s) := if reasoning ≠ "" then s.appendReasoningDelta reasoning else ([], s)
  let (textEvents, s) := if content ≠ "" then s.appendTextDelta content else ([], s)
  let (toolEvents, s) := emitAll appendToolCallDelta s choice.delta.toolCalls
  let (doneEvents, s) := s.finishEvents choice
  (reasoningEvents ++ textEvents ++ toolEvents ++ doneEvents, s)

/-- What a chunk says about the response as a whole. -/
def applyChunk (chunk : ChatCompletionsStreamResponse) : ChatToResponsesStreamState :=
  { s with
    id := if s.id = "" then chunk.id else s.id
    model := if s.model = "" then chunk.model else s.model
    created := if s.created = 0 then chunk.created else s.created
    usage := (chunk.usage.map usageFromChatUsage).getD s.usage }

def chunkEvents (chunk : ChatCompletionsStreamResponse) :
    List ResponsesStreamResponse × ChatToResponsesStreamState :=
  let s := s.applyChunk chunk
  let created : List ResponsesStreamResponse :=
    if !s.sentCreated then [{ type := .created, response := some s.createdResponse }] else []
  let (events, s) := emitAll choiceEvents { s with sentCreated := true } chunk.choices
  (created ++ events, s)

def finalize : List ResponsesStreamResponse × ChatToResponsesStreamState :=
  if s.finalized then ([], s)
  else
    let (events, s) := s.doneDeltaEvents
    let s := { s with finalized := true }
    let eventType : EventType := if s.status = "incomplete" then .incomplete else .completed
    (events ++ [{ type := eventType, response := some s.finalResponse }], s)

/-- All chunks of a stream and then the end. -/
def streamEvents (chunks : List ChatCompletionsStreamResponse) :
    List ResponsesStreamResponse × ChatToResponsesStreamState :=
  let (events, s) := emitAll chunkEvents s chunks
  let (last, s) := s.finalize
  (events ++ last, s)

end ChatToResponsesStreamState

end YouBox.Responses
