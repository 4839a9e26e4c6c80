import YouBox.Responses

/-!
# A chat response through the Responses format

`ChatCompletionsResponseToResponsesResponse` spreads the first choice of
a chat response over output items, and
`ResponsesResponseToChatCompletionsResponse` collects the items again.
The finish reason travels as the status with its incomplete details.

What comes back is computed in two halves. `chatChoiceOutput_*` say what
each collector reads from the items of one choice, and the theorem puts
them together with the status and the usage. Content, reasoning and the
tool calls return up to the trimming both directions do. The finish
reasons `length` and `content_filter` return as they are; of the others
only whether there is a tool call is left.
-/

namespace YouBox.Responses

/-! ## Chat to Responses -/

structure OpenAITextResponseChoice where
  message : Message
  finishReason : String

/-- `dto.OpenAITextResponse`. The creation time is an integer already. -/
structure OpenAITextResponse where
  id : String
  model : String
  created : Int
  choices : List OpenAITextResponseChoice
  usage : Usage

def chatFinishReasonLength : String := "length"
def chatFinishReasonContentFilter : String := "content_filter"

def responsesStatusFromChatFinishReason (finishReason : String) :
    String × Option IncompleteDetails :=
  if trimSpace finishReason = chatFinishReasonLength then
    ("incomplete", some { reason := responsesIncompleteReasonMaxTokens })
  else if trimSpace finishReason = chatFinishReasonContentFilter then
    ("incomplete", some { reason := responsesIncompleteReasonContentFilter })
  else ("completed", none)

def usageFromChatUsage (src : Usage) : Usage :=
  let inputTokens := if src.promptTokens ≠ 0 then src.promptTokens else 0
  let outputTokens := if src.completionTokens ≠ 0 then src.completionTokens else 0
  let details := src.promptTokensDetails
  let completion := src.completionTokenDetails
  { usageSemantic := src.usageSemantic
    usageSource := src.usageSource
    billingUsage := src.billingUsage <|> newOpenAIBillingUsage "oai_chat" src
    cost := src.cost
    promptTokens := inputTokens
    inputTokens := inputTokens
    completionTokens := outputTokens
    outputTokens := outputTokens
    totalTokens := if src.totalTokens ≠ 0 then src.totalTokens else inputTokens + outputTokens
    inputTokensDetails :=
      if details.cachedTokens ≠ 0 ∨ details.imageTokens ≠ 0 ∨ details.audioTokens ≠ 0 ∨
          details.cachedCreationTokens ≠ 0 ∨ details.cacheWriteTokens ≠ 0 ∨
          details.textTokens ≠ 0 then some details
      else none
    completionTokenDetails :=
      if completion.reasoningTokens ≠ 0 ∨ completion.textTokens ≠ 0 ∨
          completion.audioTokens ≠ 0 ∨ completion.imageTokens ≠ 0 then completion
      else {}
    claudeCacheCreation5mTokens := src.claudeCacheCreation5mTokens
    claudeCacheCreation1hTokens := src.claudeCacheCreation1hTokens }

def responseOutputStatus (resp : OpenAIResponsesResponse) : String :=
  if responseStatusString resp ≠ "incomplete" then "completed" else "incomplete"

/-- `fmt.Sprintf("%s_call_%d", id, index)`. -/
def generatedCallId (id : String) (index : Int) : String :=
  id ++ "_call_" ++ toString index

def chatArgumentsRawMessage (arguments : String) : Raw := .str arguments

def chatToolCallToResponsesOutput (toolCall : ToolCallRequest) (responseId : String) (index : Int)
    (status : String) : ResponsesOutput :=
  let callId := trimSpace toolCall.id
  let callId := if callId = "" then generatedCallId responseId index else callId
  if toolCall.type = "" ∨ toolCall.type = "function" then
    { type := responsesOutputTypeFunctionCall
      id := callId
      status := status
      callId := callId
      name := toolCall.function.name
      arguments := chatArgumentsRawMessage toolCall.function.arguments }
  else
    { type := toolCall.type
      id := callId
      status := status
      callId := callId
      arguments := toolCall.custom }

/-- The items of one choice: its text, its reasoning, its tool calls. -/
def chatChoiceOutput (choice : OpenAITextResponseChoice) (id status : String) :
    List ResponsesOutput :=
  let text := choice.message.stringContent
  let reasoning := choice.message.getReasoningContent
  (if text ≠ "" then
    [{ type := responsesOutputTypeMessage
       id := id ++ "_msg_0"
       status := status
       role := "assistant"
       content := [{ type := "output_text", text := text }] }]
    else []) ++
  (if reasoning ≠ "" then
    [{ type := responsesOutputTypeReasoning
       id := id ++ "_reasoning_0"
       status := status
       content := [{ type := "summary_text", text := reasoning }] }]
    else []) ++
  choice.message.toolCalls.zipIdx.map fun entry =>
    chatToolCallToResponsesOutput entry.1 id entry.2 status

def chatCompletionsResponseToResponsesResponse (resp : Option OpenAITextResponse) (id : String) :
    Except String (OpenAIResponsesResponse × Usage) :=
  match resp with
  | none => .error "response is nil"
  | some resp =>
    let usage := usageFromChatUsage resp.usage
    let out : OpenAIResponsesResponse :=
      { id := id, createdAt := resp.created, status := .str "completed", model := resp.model,
        output := [], usage := some usage }
    match resp.choices with
    | [] => .ok (out, usage)
    | choice :: _ =>
      let (status, details) := responsesStatusFromChatFinishReason choice.finishReason
      let out :=
        if status ≠ "" then { out with status := .str status, incompleteDetails := details }
        else out
      .ok ({ out with output := chatChoiceOutput choice id (responseOutputStatus out) }, usage)

/-! ## Responses to chat -/

/-- The finish reason of an incomplete response. -/
def responsesFinishReasonFromStatus (resp : Option OpenAIResponsesResponse) : Option String :=
  match resp with
  | none => none
  | some resp =>
    if responseStatusString resp ≠ "incomplete" then none
    else
      let reason := (resp.incompleteDetails.map fun d => trimSpace d.reason).getD ""
      if reason = responsesIncompleteReasonContentFilter then some "content_filter"
      else some "length"

def usageFromResponsesUsage (src : Option Usage) : Usage :=
  match src with
  | none => {}
  | some src =>
    let promptTokens := if src.inputTokens ≠ 0 then src.inputTokens else 0
    let completionTokens := if src.outputTokens ≠ 0 then src.outputTokens else 0
    let completion := src.completionTokenDetails
    { usageSemantic := src.usageSemantic
      usageSource := src.usageSource
      billingUsage := src.billingUsage <|> newOpenAIBillingUsage "oai_responses" src
      cost := src.cost
      promptTokens := promptTokens
      inputTokens := promptTokens
      completionTokens := completionTokens
      outputTokens := completionTokens
      totalTokens :=
        if src.totalTokens ≠ 0 then src.totalTokens else promptTokens + completionTokens
      promptTokensDetails :=
        match src.inputTokensDetails with
        | none => {}
        | some details =>
          { cachedTokens := details.cachedTokens
            cachedCreationTokens := details.cachedCreationTokens
            cacheWriteTokens := details.cacheWriteTokens
            textTokens := details.textTokens
            imageTokens := details.imageTokens
            audioTokens := details.audioTokens }
      completionTokenDetails :=
        if completion.reasoningTokens ≠ 0 ∨ completion.textTokens ≠ 0 ∨
            completion.audioTokens ≠ 0 ∨ completion.imageTokens ≠ 0 then completion
        else {}
      claudeCacheCreation5mTokens := src.claudeCacheCreation5mTokens
      claudeCacheCreation1hTokens := src.claudeCacheCreation1hTokens }

/-- The texts a builder is given, empty ones skipped. -/
def writtenTexts (keep : ResponsesOutputContent → Bool) (content : List ResponsesOutputContent) :
    List String :=
  (content.filter fun c => keep c && c.text != "").map (·.text)

/-- The `output_text` parts of an assistant message. -/
def messageTexts (out : ResponsesOutput) : List String :=
  if out.type ≠ "message" then []
  else if out.role ≠ "" ∧ out.role ≠ "assistant" then []
  else writtenTexts (fun c => c.type == "output_text") out.content

/-- Assistant messages are preferred; without their text everything that
any item holds is taken. -/
def extractOutputTextFromResponses (output : List ResponsesOutput) : String :=
  let preferred := String.join (output.flatMap messageTexts)
  if preferred ≠ "" then preferred
  else String.join (output.flatMap fun out => writtenTexts (fun _ => true) out.content)

def reasoningTexts (out : ResponsesOutput) : List String :=
  if out.type ≠ responsesOutputTypeReasoning then []
  else writtenTexts (fun _ => true) out.content

def extractReasoningTextFromResponses (output : List ResponsesOutput) : String :=
  String.join (output.flatMap reasoningTexts)

def responsesOutputToToolCall (out : ResponsesOutput) : Option ToolCallRequest :=
  if !isResponsesToolOutputType out.type then none
  else
    let name := trimSpace out.name
    if name = "" then none
    else
      let callId := trimSpace out.callId
      let callId := if callId = "" then trimSpace out.id else callId
      some
        { id := callId, type := "function",
          function := { name := name, arguments := out.argumentsString } }

def responsesResponseToChatCompletionsResponse (resp : Option OpenAIResponsesResponse)
    (id : String) : Except String (OpenAITextResponse × Usage) :=
  match resp with
  | none => .error "response is nil"
  | some resp =>
    let text := extractOutputTextFromResponses resp.output
    let reasoning := extractReasoningTextFromResponses resp.output
    let usage := usageFromResponsesUsage resp.usage
    let toolCalls := resp.output.filterMap responsesOutputToToolCall
    let finishReason :=
      match responsesFinishReasonFromStatus (some resp) with
      | some mappedReason => mappedReason
      | none => if toolCalls ≠ [] then "tool_calls" else "stop"
    let msg : Message :=
      { role := "assistant"
        content := .str text
        reasoningContent := if reasoning ≠ "" then some reasoning else none
        toolCalls := toolCalls }
    .ok
      ({ id := id, created := resp.createdAt, model := resp.model,
         choices := [{ message := msg, finishReason := finishReason }], usage := usage }, usage)

def chatResponseRoundTrip (resp : OpenAITextResponse) (id chatId : String) :
    Except String OpenAITextResponse :=
  match chatCompletionsResponseToResponsesResponse (some resp) id with
  | .error e => .error e
  | .ok (responses, _) =>
    (responsesResponseToChatCompletionsResponse (some responses) chatId).map (·.1)

/-! ## What comes back of a call -/

def callIdFrom (id : String) (entry : ToolCallRequest × Nat) : String :=
  if trimSpace entry.1.id = "" then generatedCallId id entry.2 else trimSpace entry.1.id

/-- The call that comes back for one of the calls sent, the nameless dropped. -/
def callBack (id : String) (entry : ToolCallRequest × Nat) : Option ToolCallRequest :=
  if trimSpace entry.1.function.name = "" then none
  else
    some
      { id := trimSpace (callIdFrom id entry)
        type := "function"
        function :=
          { name := trimSpace entry.1.function.name, arguments := entry.1.function.arguments } }

/-- A call of a type that the converters know. -/
def isFunctionCall (call : ToolCallRequest) : Prop :=
  call.type = "" ∨ call.type = "function"

/-! ## What the collectors read of one choice -/

section Choice

variable (choice : OpenAITextResponseChoice) (id status : String)

theorem chatToolCallToResponsesOutput_function {call : ToolCallRequest} (index : Nat)
    (hcall : isFunctionCall call) :
    chatToolCallToResponsesOutput call id index status
      = { type := responsesOutputTypeFunctionCall
          id := callIdFrom id (call, index)
          status := status
          callId := callIdFrom id (call, index)
          name := call.function.name
          arguments := .str call.function.arguments } := by
  rcases hcall with hcall | hcall <;>
    simp [chatToolCallToResponsesOutput, callIdFrom, chatArgumentsRawMessage, hcall]

variable {choice}

theorem flatMap_calls (texts : ResponsesOutput → List String)
    (hskip : ∀ out : ResponsesOutput, out.type = responsesOutputTypeFunctionCall →
      out.content = [] → texts out = [])
    (hcalls : ∀ call ∈ choice.message.toolCalls, isFunctionCall call) :
    (choice.message.toolCalls.zipIdx.map fun entry =>
      chatToolCallToResponsesOutput entry.1 id entry.2 status).flatMap texts = [] := by
  rw [List.flatMap_eq_nil_iff]
  intro out hout
  obtain ⟨entry, hentry, rfl⟩ := List.mem_map.1 hout
  have hcall := hcalls entry.1 (List.fst_mem_of_mem_zipIdx hentry)
  rw [chatToolCallToResponsesOutput_function id status entry.2 hcall]
  exact hskip _ rfl rfl

theorem messageTexts_chatChoiceOutput
    (hcalls : ∀ call ∈ choice.message.toolCalls, isFunctionCall call) :
    (chatChoiceOutput choice id status).flatMap messageTexts
      = if choice.message.stringContent ≠ "" then [choice.message.stringContent] else [] := by
  simp only [chatChoiceOutput, List.flatMap_append]
  rw [flatMap_calls id status messageTexts _ hcalls]
  · split <;> split <;> simp_all [messageTexts, writtenTexts, responsesOutputTypeMessage,
      responsesOutputTypeReasoning]
  · intro out htype _
    simp [messageTexts, htype, responsesOutputTypeFunctionCall]

theorem reasoningTexts_chatChoiceOutput
    (hcalls : ∀ call ∈ choice.message.toolCalls, isFunctionCall call) :
    (chatChoiceOutput choice id status).flatMap reasoningTexts
      = if choice.message.getReasoningContent ≠ "" then [choice.message.getReasoningContent]
        else [] := by
  simp only [chatChoiceOutput, List.flatMap_append]
  rw [flatMap_calls id status reasoningTexts _ hcalls]
  · split <;> split <;> simp_all [reasoningTexts, writtenTexts, responsesOutputTypeMessage,
      responsesOutputTypeReasoning]
  · intro out htype _
    simp [reasoningTexts, htype, responsesOutputTypeFunctionCall, responsesOutputTypeReasoning]


theorem allTexts_chatChoiceOutput (htext : choice.message.stringContent = "")
    (hreasoning : choice.message.getReasoningContent = "")
    (hcalls : ∀ call ∈ choice.message.toolCalls, isFunctionCall call) :
    (chatChoiceOutput choice id status).flatMap
      (fun out => writtenTexts (fun _ => true) out.content) = [] := by
  simp only [chatChoiceOutput, htext, hreasoning, ne_eq, not_true, if_false, List.nil_append]
  refine flatMap_calls id status _ ?_ hcalls
  intro out _ hcontent
  simp [writtenTexts, hcontent]

theorem extractOutputText_chatChoiceOutput
    (hcontent : choice.message.stringContent ≠ "" ∨ choice.message.getReasoningContent = "")
    (hcalls : ∀ call ∈ choice.message.toolCalls, isFunctionCall call) :
    extractOutputTextFromResponses (chatChoiceOutput choice id status)
      = choice.message.stringContent := by
  simp only [extractOutputTextFromResponses, messageTexts_chatChoiceOutput id status hcalls]
  by_cases htext : choice.message.stringContent = ""
  · have hreasoning := hcontent.resolve_left (not_not.2 htext)
    rw [allTexts_chatChoiceOutput id status htext hreasoning hcalls]
    simp [htext]
  · simp [htext]

theorem extractReasoningText_chatChoiceOutput
    (hcalls : ∀ call ∈ choice.message.toolCalls, isFunctionCall call) :
    extractReasoningTextFromResponses (chatChoiceOutput choice id status)
      = choice.message.getReasoningContent := by
  rw [extractReasoningTextFromResponses, reasoningTexts_chatChoiceOutput id status hcalls]
  by_cases hreasoning : choice.message.getReasoningContent = "" <;> simp [hreasoning]

theorem toToolCall_function {call : ToolCallRequest} (index : Nat) (hcall : isFunctionCall call) :
    responsesOutputToToolCall (chatToolCallToResponsesOutput call id index status)
      = callBack id (call, index) := by
  rw [chatToolCallToResponsesOutput_function id status index hcall]
  simp [responsesOutputToToolCall, callBack, isResponsesToolOutputType,
    ResponsesOutput.argumentsString, jsonRawMessageToString]

theorem toolCalls_chatChoiceOutput
    (hcalls : ∀ call ∈ choice.message.toolCalls, isFunctionCall call) :
    (chatChoiceOutput choice id status).filterMap responsesOutputToToolCall
      = choice.message.toolCalls.zipIdx.filterMap (callBack id) := by
  have hitems : ∀ entry ∈ choice.message.toolCalls.zipIdx,
      responsesOutputToToolCall (chatToolCallToResponsesOutput entry.1 id entry.2 status)
        = callBack id entry := fun entry hentry =>
    toToolCall_function id status entry.2 (hcalls entry.1 (List.fst_mem_of_mem_zipIdx hentry))
  simp only [chatChoiceOutput, List.filterMap_append, List.filterMap_map]
  have htools := List.filterMap_congr hitems
  simp only [Function.comp_def, htools]
  split <;> split <;> simp [responsesOutputToToolCall, isResponsesToolOutputType,
    responsesOutputTypeFunctionCall, responsesOutputTypeCustomToolCall,
    responsesOutputTypeMessage, responsesOutputTypeReasoning]

end Choice

/-! ## The round trip -/

/-- The status tells `length` and `content_filter` apart from the rest
and nothing else. -/
def finishReasonBack (finishReason : String) (toolCalls : List ToolCallRequest) : String :=
  if trimSpace finishReason = "length" then "length"
  else if trimSpace finishReason = "content_filter" then "content_filter"
  else if toolCalls ≠ [] then "tool_calls"
  else "stop"

theorem trimSpace_completed : trimSpace "completed" = "completed" :=
  trimSpace_eq_self (by rintro c ⟨⟩; rfl) (by rintro c ⟨⟩; rfl)

theorem trimSpace_incomplete : trimSpace "incomplete" = "incomplete" :=
  trimSpace_eq_self (by rintro c ⟨⟩; rfl) (by rintro c ⟨⟩; rfl)

theorem trimSpace_maxTokens : trimSpace "max_output_tokens" = "max_output_tokens" :=
  trimSpace_eq_self (by rintro c ⟨⟩; rfl) (by rintro c ⟨⟩; rfl)

theorem trimSpace_contentFilter : trimSpace "content_filter" = "content_filter" :=
  trimSpace_eq_self (by rintro c ⟨⟩; rfl) (by rintro c ⟨⟩; rfl)

theorem finishReason_of_status (finishReason : String) (out : OpenAIResponsesResponse)
    (hstatus : out.status = .str (responsesStatusFromChatFinishReason finishReason).1)
    (hdetails : out.incompleteDetails = (responsesStatusFromChatFinishReason finishReason).2) :
    responsesFinishReasonFromStatus (some out)
      = if trimSpace finishReason = "length" then some "length"
        else if trimSpace finishReason = "content_filter" then some "content_filter"
        else none := by
  simp only [responsesFinishReasonFromStatus, responseStatusString, hstatus, hdetails,
    Raw.stringValue, responsesStatusFromChatFinishReason, chatFinishReasonLength,
    chatFinishReasonContentFilter]
  by_cases hlength : trimSpace finishReason = "length"
  · simp [hlength, trimSpace_incomplete, trimSpace_maxTokens, responsesIncompleteReasonMaxTokens,
      responsesIncompleteReasonContentFilter]
  · by_cases hfilter : trimSpace finishReason = "content_filter"
    · simp [hfilter, trimSpace_incomplete, trimSpace_contentFilter,
        responsesIncompleteReasonContentFilter]
    · simp [hlength, hfilter, trimSpace_completed]

theorem usage_back (u : Usage) :
    (usageFromResponsesUsage (some (usageFromChatUsage u))).promptTokens = u.promptTokens ∧
    (usageFromResponsesUsage (some (usageFromChatUsage u))).completionTokens
      = u.completionTokens ∧
    (usageFromResponsesUsage (some (usageFromChatUsage u))).totalTokens
      = if u.totalTokens ≠ 0 then u.totalTokens else u.promptTokens + u.completionTokens := by
  simp only [usageFromResponsesUsage, usageFromChatUsage]
  refine ⟨?_, ?_, ?_⟩ <;> split_ifs <;> omega

theorem toResponses_one {resp : OpenAITextResponse} {choice : OpenAITextResponseChoice}
    (id : String) (hchoices : resp.choices = [choice]) :
    ∃ out, chatCompletionsResponseToResponsesResponse (some resp) id
        = .ok (out, usageFromChatUsage resp.usage) ∧
      out.status = .str (responsesStatusFromChatFinishReason choice.finishReason).1 ∧
      out.incompleteDetails = (responsesStatusFromChatFinishReason choice.finishReason).2 ∧
      (∃ status, out.output = chatChoiceOutput choice id status) ∧
      out.usage = some (usageFromChatUsage resp.usage) := by
  have hstatus : (responsesStatusFromChatFinishReason choice.finishReason).1 ≠ "" := by
    unfold responsesStatusFromChatFinishReason
    split_ifs <;> decide
  simp only [chatCompletionsResponseToResponsesResponse, hchoices, if_pos hstatus]
  exact ⟨_, rfl, rfl, rfl, ⟨_, rfl⟩, rfl⟩

theorem getReasoningContent_of_set {m : Message} {s : String}
    (hset : m.reasoningContent = if s ≠ "" then some s else none) (hnone : m.reasoning = none) :
    m.getReasoningContent = s := by
  by_cases hs : s = "" <;> simp [Message.getReasoningContent, hset, hnone, hs]

theorem chat_response_survives (resp : OpenAITextResponse) (choice : OpenAITextResponseChoice)
    (id chatId : String) (hchoices : resp.choices = [choice])
    (hcalls : ∀ call ∈ choice.message.toolCalls, isFunctionCall call) :
    ∃ chat back, chatResponseRoundTrip resp id chatId = .ok chat ∧ chat.choices = [back] ∧
      (choice.message.stringContent ≠ "" ∨ choice.message.getReasoningContent = "" →
        back.message.content = .str choice.message.stringContent) ∧
      back.message.getReasoningContent = choice.message.getReasoningContent ∧
      back.message.toolCalls = choice.message.toolCalls.zipIdx.filterMap (callBack id) ∧
      back.finishReason = finishReasonBack choice.finishReason back.message.toolCalls ∧
      chat.usage.promptTokens = resp.usage.promptTokens ∧
      chat.usage.completionTokens = resp.usage.completionTokens ∧
      chat.usage.totalTokens =
        if resp.usage.totalTokens ≠ 0 then resp.usage.totalTokens
        else resp.usage.promptTokens + resp.usage.completionTokens := by
  obtain ⟨out, hout, hstatus, hdetails, ⟨status, houtput⟩, husage⟩ := toResponses_one id hchoices
  have hfinish := finishReason_of_status choice.finishReason out hstatus hdetails
  have htext := fun hcontent => extractOutputText_chatChoiceOutput id status hcontent hcalls
  have hreasoning := extractReasoningText_chatChoiceOutput id status hcalls
  have htools := toolCalls_chatChoiceOutput id status hcalls
  simp only [chatResponseRoundTrip, hout, responsesResponseToChatCompletionsResponse, Except.map,
    houtput, husage, hfinish, hreasoning, htools]
  refine ⟨_, _, rfl, rfl, ?_, getReasoningContent_of_set rfl rfl, rfl, ?_, usage_back resp.usage⟩
  · intro hcontent
    exact congrArg Json.str (htext hcontent)
  · dsimp only
    unfold finishReasonBack
    by_cases hlength : trimSpace choice.finishReason = "length"
    · simp [hlength]
    · by_cases hfilter : trimSpace choice.finishReason = "content_filter" <;>
        simp [hlength, hfilter]

/-- An answer cut off by the length limit in the middle of a tool call. -/
def cutOffChoice : OpenAITextResponseChoice where
  message :=
    { role := "assistant", content := .str "on it", reasoning := some "hm"
      toolCalls :=
        [{ id := " call_1", type := "function", function := { name := "ls", arguments := "\x7b" } }] }
  finishReason := "length"

def cutOff : OpenAITextResponse where
  id := "chatcmpl"
  model := "m"
  created := 1
  choices := [cutOffChoice]
  usage := { promptTokens := 2, completionTokens := 3 }

theorem cutOff_survives :
    ∃ chat back, chatResponseRoundTrip cutOff "resp" "chat" = .ok chat ∧
      chat.choices = [back] ∧ back.message.content = .str "on it" ∧
      back.finishReason = "length" ∧ chat.usage.totalTokens = 5 := by
  obtain ⟨chat, back, hchat, hback, htext, -, -, hfinish, -, -, htotal⟩ :=
    chat_response_survives cutOff cutOffChoice "resp" "chat" rfl (by
      intro call hcall
      obtain rfl : call = _ := by simpa [cutOffChoice] using hcall
      exact .inr rfl)
  refine ⟨chat, back, hchat, hback, htext (.inl (by decide)), ?_, htotal⟩
  rw [hfinish, finishReasonBack, if_pos (by decide)]

def cutOffStopped : OpenAITextResponse :=
  { cutOff with choices := [{ cutOffChoice with finishReason := "stop" }] }

/-- Reasoning and nothing else. -/
def thoughtOnly : OpenAITextResponse :=
  { cutOff with
    choices :=
      [{ message := { role := "assistant", content := .str "", reasoning := some "hm" }
         finishReason := "stop" }] }

/-- `stop` with a call comes back as `tool_calls`, the id trimmed and the
missing total filled in; reasoning without text comes back as both. -/
theorem chat_response_changes :
    (∃ chat, chatResponseRoundTrip cutOffStopped "resp" "chat" = .ok chat ∧
      chat.choices.map (·.finishReason) = ["tool_calls"] ∧
      chat.choices.flatMap (fun c => c.message.toolCalls.map (·.id)) = ["call_1"] ∧
      cutOffStopped.usage.totalTokens = 0 ∧ chat.usage.totalTokens = 5) ∧
    ∃ chat, chatResponseRoundTrip thoughtOnly "resp" "chat" = .ok chat ∧
      chat.choices.map (·.message.stringContent) = ["hm"] := by
  refine ⟨⟨_, rfl, ?_, ?_, rfl, ?_⟩, _, rfl, ?_⟩ <;> decide

end YouBox.Responses
