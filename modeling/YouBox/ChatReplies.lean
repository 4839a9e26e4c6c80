import YouBox.ClaudeRequest

/-!
# Replies in the chat format

A whole completion, the chunks of a streamed one, and what a client has of either:
the content, the reasoning content and the tool calls (`Reply`). A client joins the
texts of the chunks, and the fragments of a tool call by its index.
-/

namespace YouBox.ChatReplies

/-- `dto.FunctionResponse`, the fields of a call. -/
structure FunctionResponse where
  name : String := ""
  arguments : String := ""

structure ToolCallResponse where
  index : Option Int := none
  id : String := ""
  type : String := "function"
  function : FunctionResponse

/-- `dto.ChatCompletionsStreamResponseChoiceDelta`; no tool calls are not an empty
list of them. -/
structure StreamDelta where
  role : String := ""
  content : Option String := none
  reasoningContent : Option String := none
  toolCalls : Option (List ToolCallResponse) := none

structure StreamChoice where
  index : Int := 0
  delta : StreamDelta := {}
  finishReason : Option String := none

/-- `dto.ChatCompletionsStreamResponse`. -/
structure StreamChunk where
  id : String := ""
  object : String := "chat.completion.chunk"
  model : String := ""
  choices : List StreamChoice

structure Choice where
  index : Int := 0
  role : String := "assistant"
  content : String := ""
  reasoningContent : Option String := none
  toolCalls : List ToolCallResponse := []
  finishReason : String

/-- `dto.OpenAITextResponse`. -/
structure TextResponse where
  id : String := ""
  object : String := "chat.completion"
  model : String := ""
  choices : List Choice

/-! ## What a client has of them -/

structure ReplyCall where
  id : String
  name : String
  arguments : String

structure Reply where
  content : String
  reasoning : String
  calls : List ReplyCall

def ToolCallResponse.call (c : ToolCallResponse) : ReplyCall :=
  ⟨c.id, c.function.name, c.function.arguments⟩

def Choice.reply (c : Choice) : Reply where
  content := c.content
  reasoning := c.reasoningContent.getD ""
  calls := c.toolCalls.map ToolCallResponse.call

/-- A fragment goes behind the arguments of its call, or begins a call. -/
def addFragment (calls : List (Option Int × ReplyCall)) (c : ToolCallResponse) :
    List (Option Int × ReplyCall) :=
  if ∃ entry ∈ calls, entry.1 = c.index then
    calls.map fun entry =>
      if entry.1 = c.index then
        (entry.1, { entry.2 with arguments := entry.2.arguments ++ c.function.arguments })
      else entry
  else calls ++ [(c.index, c.call)]

def StreamDelta.fragments (d : StreamDelta) : List ToolCallResponse := d.toolCalls.getD []

/-- What a client has of the deltas of one choice. -/
def replyOf (deltas : List StreamDelta) : Reply where
  content := String.join (deltas.map fun d => d.content.getD "")
  reasoning := String.join (deltas.map fun d => d.reasoningContent.getD "")
  calls := ((deltas.flatMap StreamDelta.fragments).foldl addFragment []).map (·.2)

end YouBox.ChatReplies
