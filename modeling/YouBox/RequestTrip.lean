import YouBox.ChatRequest
import YouBox.ChatResponse

/-!
# What survives the trip of a chat request

`messageCarried` is what is left of a message on the other side: role,
content, the call a tool message answers and the calls of an assistant.
`inputItems_fold` is the heart. The items of one message, read back
after any messages, add exactly that message; for an assistant the first
item adds the message and each of the others hangs one call on it
(`calls_fold`). The run over the whole list follows by `foldlM_append`,
whatever roles follow each other. The system messages make no items;
their texts come back as one message in front.

A function choice comes back by its name without blanks, so it must have
none to be the same; `chat_request_changes` has one that has.
-/

namespace YouBox.Responses

/-! ## What comes back -/

/-- Without blanks around it, and not empty. -/
def Trimmed (s : String) : Prop := s ≠ "" ∧ trimSpace s = s

def isSystemRole (role : String) : Prop := role = "system" ∨ role = "developer"

def isToolRole (role : String) : Prop := role = "tool" ∨ role = "function"

instance (role : String) : Decidable (isSystemRole role) := inferInstanceAs (Decidable (_ ∨ _))

instance (role : String) : Decidable (isToolRole role) := inferInstanceAs (Decidable (_ ∨ _))

/-- A string or `null`. -/
def PlainContent (content : Json) : Prop := content = .null ∨ ∃ s, content = .str s

structure SystemMessage (msg : Message) : Prop where
  role : isSystemRole msg.role
  content : PlainContent msg.content

structure PlainCall (call : ToolCallRequest) : Prop where
  type : isFunctionCall call
  id : Trimmed call.id
  name : Trimmed call.function.name

structure PlainMessage (msg : Message) : Prop where
  role : Trimmed msg.role
  notSystem : ¬ isSystemRole msg.role
  content : PlainContent msg.content
  toolCallId : isToolRole msg.role → Trimmed msg.toolCallId
  calls : msg.role = "assistant" → ∀ call ∈ msg.toolCalls, PlainCall call

def callCarried (call : ToolCallRequest) : ToolCallRequest where
  id := call.id
  type := "function"
  function := { name := call.function.name, arguments := call.function.arguments }

/-- Role, content, the call a tool message answers, the calls of an
assistant. -/
def messageCarried (msg : Message) : Message :=
  if isToolRole msg.role then
    { role := "tool", content := .str msg.stringContent, toolCallId := msg.toolCallId }
  else
    { role := msg.role
      content := .str msg.stringContent
      toolCalls := if msg.role = "assistant" then msg.toolCalls.map callCarried else [] }

def systemTexts (msgs : List Message) : List String :=
  (msgs.map fun msg => trimSpace msg.stringContent).filter (· ≠ "")

/-- The system messages as one, none if there is no text. -/
def systemCarried (msgs : List Message) : List Message :=
  if systemTexts msgs = [] then []
  else [{ role := "system", content := .str ("\n\n".intercalate (systemTexts msgs)) }]

def toolCarried (tool : ToolCallRequest) : ToolCallRequest where
  type := "function"
  function :=
    { name := tool.function.name, description := tool.function.description,
      parameters := tool.function.parameters }

section

variable (lib : JsonLib)

/-! ## Texts -/

@[simp] theorem interface2String_str (s : String) : lib.interface2String (.str s) = s := rfl

@[simp] theorem interface2String_null : lib.interface2String .null = "" := rfl

variable {calls : List ToolCallRequest} {role s : String} {call : ToolCallRequest}

theorem trimSpace_type
    (hs : s ∈ ["function_call", "custom_tool_call", "function_call_output", "function", ""]) :
    trimSpace s = s := by
  simp only [List.mem_cons, List.not_mem_nil, or_false] at hs
  rcases hs with rfl | rfl | rfl | rfl | rfl <;>
    exact trimSpace_eq_self (by rintro c ⟨⟩ <;> rfl) (by rintro c ⟨⟩ <;> rfl)

variable {msg : Message}

theorem PlainContent.stringContent (h : PlainContent msg.content) :
    msg.itemContent msg.role = .str msg.stringContent ∧
      toolOutputText lib msg.content = msg.stringContent := by
  unfold Message.itemContent Message.stringContent toolOutputText
  rcases h with h | ⟨s, h⟩ <;> rw [h] <;> exact ⟨rfl, rfl⟩

/-! ## Items -/

theorem toMaps_obj (maps : List JsonMap) : lib.toMaps (.arr (maps.map .obj)) = .ok maps := by
  have hmaps : (maps.map Json.obj).mapM lib.toMap = .ok maps := by
    induction maps with
    | nil => rfl
    | cons m rest ih => simp [List.mapM_cons, ih, JsonLib.toMap, bind, Except.bind, pure, Except.pure]
  exact hmaps

theorem messageItem_step (acc : List Message) (hrole : Trimmed role) (text : String) :
    responsesInputItemToChatMessages lib acc [("role", .str role), ("content", .str text)]
      = .ok (acc ++ [{ role := role, content := .str text }]) := by
  have htype : trimSpace "" = "" := trimSpace_type (by simp)
  simp [responsesInputItemToChatMessages, fieldOf, htype, hrole.1, hrole.2,
    responsesInputContentToChatContent]

def callMap (call : ToolCallRequest) : JsonMap :=
  [("type", .str "function_call"), ("call_id", .str call.id),
    ("name", .str call.function.name), ("arguments", .str call.function.arguments)]

theorem functionCallItem_plain (h : PlainCall call) :
    functionCallItem call = some (.obj (callMap call)) := by
  have htype : ¬ (call.type ≠ "" ∧ call.type ≠ "function") := by
    rintro ⟨h₁, h₂⟩
    exact h.type.elim h₁ h₂
  simp only [functionCallItem, h.id.2, h.id.1, h.name.2, h.name.1, if_false, if_neg htype, callMap]

theorem functionCallItems_plain (h : ∀ call ∈ calls, PlainCall call) :
    calls.filterMap functionCallItem = (calls.map callMap).map .obj := by
  have hcalls := List.filterMap_congr fun call hcall => functionCallItem_plain (h call hcall)
  rw [hcalls, List.map_map]
  exact congrFun List.filterMap_eq_map' calls

theorem call_step (acc : List Message) (last : Message) (hlast : last.role = "assistant")
    (h : PlainCall call) :
    responsesInputItemToChatMessages lib (acc ++ [last]) (callMap call)
      = .ok (acc ++ [{ last with toolCalls := last.toolCalls ++ [callCarried call] }]) := by
  have htype : trimSpace "function_call" = "function_call" := trimSpace_type (by simp)
  simp [responsesInputItemToChatMessages, callMap, fieldOf, htype,
    responsesFunctionCallItemToChatToolCall, h.name.1, h.name.2, responsesCallId, h.id.1, h.id.2,
    responsesArgumentsString, Except.map, appendToolCallToLastAssistant, hlast, callCarried]

theorem calls_fold (acc : List Message) (last : Message) (hlast : last.role = "assistant")
    (h : ∀ call ∈ calls, PlainCall call) :
    (calls.map callMap).foldlM (responsesInputItemToChatMessages lib) (acc ++ [last])
      = .ok (acc ++ [{ last with toolCalls := last.toolCalls ++ calls.map callCarried }]) := by
  induction calls generalizing last with
  | nil => simp [pure, Except.pure]
  | cons call rest ih =>
    have hcall := call_step lib acc last hlast (h call List.mem_cons_self)
    have hrest := ih { last with toolCalls := last.toolCalls ++ [callCarried call] } hlast
      fun c hc => h c (List.mem_cons_of_mem _ hc)
    simp only [List.map_cons, List.foldlM_cons, hcall, bind, Except.bind, hrest]
    simp

theorem toolItem_step (acc : List Message) {callId : String} (hcall : Trimmed callId)
    (output : String) :
    responsesInputItemToChatMessages lib acc
        [("type", .str "function_call_output"), ("call_id", .str callId), ("output", .str output)]
      = .ok (acc ++ [{ role := "tool", toolCallId := callId, content := .str output }]) := by
  have htype : trimSpace "function_call_output" = "function_call_output" :=
    trimSpace_type (by simp)
  simp [responsesInputItemToChatMessages, fieldOf, htype, hcall.2, responsesArgumentsString]

theorem inputItems_fold (acc : List Message) (h : PlainMessage msg) :
    ∃ maps : List JsonMap, inputItems lib msg = maps.map .obj ∧
      maps.foldlM (responsesInputItemToChatMessages lib) acc
        = .ok (acc ++ [messageCarried msg]) := by
  obtain ⟨hitem, houtput⟩ := h.content.stringContent lib
  have hsystem : ¬ (msg.role = "system" ∨ msg.role = "developer") := h.notSystem
  by_cases htool : isToolRole msg.role
  · have hcall := h.toolCallId htool
    have hitems : inputItems lib msg = [Json.obj [("type", .str "function_call_output"),
        ("call_id", .str msg.toolCallId), ("output", .str msg.stringContent)]] := by
      have hrole : msg.role = "tool" ∨ msg.role = "function" := htool
      simp only [inputItems, toolOutputItem, h.role.2, h.role.1, hcall.2, hcall.1, houtput,
        if_false, if_pos hrole]
    refine ⟨_, hitems.trans (List.map_singleton (f := Json.obj)).symm, ?_⟩
    rw [List.foldlM_cons, toolItem_step lib acc hcall, messageCarried, if_pos htool]
    rfl
  · have hitems : inputItems lib msg = Json.obj [("role", .str msg.role),
        ("content", .str msg.stringContent)] ::
          if msg.role = "assistant" then msg.toolCalls.filterMap functionCallItem else [] := by
      have hrole : ¬ (msg.role = "tool" ∨ msg.role = "function") := htool
      simp only [inputItems, h.role.2, h.role.1, hitem, if_false, if_neg hrole, if_neg hsystem]
    have hstep := messageItem_step lib acc h.role msg.stringContent
    rw [messageCarried, if_neg htool]
    by_cases hassistant : msg.role = "assistant"
    · rw [if_pos hassistant, functionCallItems_plain (h.calls hassistant)] at hitems
      refine ⟨_ :: msg.toolCalls.map callMap, hitems, ?_⟩
      rw [List.foldlM_cons, hstep, if_pos hassistant]
      exact calls_fold lib acc { role := msg.role, content := .str msg.stringContent } hassistant
        (h.calls hassistant)
    · rw [if_neg hassistant] at hitems
      refine ⟨[_], hitems, ?_⟩
      rw [List.foldlM_cons, hstep, if_neg hassistant]
      rfl

theorem messages_fold (acc : List Message) {msgs : List Message}
    (h : ∀ msg ∈ msgs, PlainMessage msg) :
    ∃ maps : List JsonMap, msgs.flatMap (inputItems lib) = maps.map .obj ∧
      maps.foldlM (responsesInputItemToChatMessages lib) acc
        = .ok (acc ++ msgs.map messageCarried) := by
  induction msgs generalizing acc with
  | nil => exact ⟨[], rfl, by simp [pure, Except.pure]⟩
  | cons msg rest ih =>
    obtain ⟨head, hhead, hfold⟩ := inputItems_fold lib acc (h msg List.mem_cons_self)
    obtain ⟨tail, htail, hrest⟩ := ih (acc ++ [messageCarried msg])
      fun m hm => h m (List.mem_cons_of_mem _ hm)
    refine ⟨head ++ tail, by rw [List.flatMap_cons, hhead, htail, List.map_append], ?_⟩
    rw [List.foldlM_append, hfold]
    simpa [bind, Except.bind] using hrest

/-! ## The system messages -/

theorem trimSpace_system (h : isSystemRole role) : trimSpace role = role := by
  rcases h with rfl | rfl <;>
    exact trimSpace_eq_self (by rintro c ⟨⟩; rfl) (by rintro c ⟨⟩; rfl)

theorem inputItems_system (h : SystemMessage msg) : inputItems lib msg = [] := by
  have hnot : ¬ (msg.role = "tool" ∨ msg.role = "function") := by
    rcases h.role with hr | hr <;> simp [hr]
  have hsystem : msg.role = "system" ∨ msg.role = "developer" := h.role
  simp only [inputItems, trimSpace_system h.role, if_neg hnot, if_pos hsystem, ite_self]

theorem instructionsOf_system (h : SystemMessage msg) :
    instructionsOf msg
      = if trimSpace msg.stringContent ≠ "" then some (trimSpace msg.stringContent) else none := by
  have hsystem : msg.role = "system" ∨ msg.role = "developer" := h.role
  simp only [instructionsOf, trimSpace_system h.role, if_pos hsystem]
  obtain ⟨-, hcontent⟩ := h
  obtain ⟨role, content⟩ := msg
  rcases hcontent with hc | ⟨s, hc⟩ <;> cases hc <;> rfl

theorem instructionsOf_plain (h : PlainMessage msg) : instructionsOf msg = none := by
  have hsystem : ¬ (msg.role = "system" ∨ msg.role = "developer") := h.notSystem
  simp only [instructionsOf, h.role.2, if_neg hsystem]

theorem instructionsParts {front rest : List Message} (hfront : ∀ msg ∈ front, SystemMessage msg)
    (hrest : ∀ msg ∈ rest, PlainMessage msg) :
    (front ++ rest).filterMap instructionsOf = systemTexts front := by
  have hnone : rest.filterMap instructionsOf = [] := by
    rw [List.filterMap_eq_nil_iff]
    exact fun msg hmsg => instructionsOf_plain (hrest msg hmsg)
  rw [List.filterMap_append, hnone, List.append_nil,
    List.filterMap_congr fun msg hmsg => instructionsOf_system (hfront msg hmsg), systemTexts]
  induction front with
  | nil => rfl
  | cons msg more ih =>
    have hmore := ih fun m hm => hfront m (List.mem_cons_of_mem _ hm)
    by_cases htext : trimSpace msg.stringContent = "" <;> simp [htext] <;> simpa using hmore

theorem trimSpace_eq_empty (h : trimSpace s = "") : ∀ c ∈ s.toList, isSpace c := by
  have hlist : ((s.toList.dropWhile isSpace).reverse.dropWhile isSpace).reverse = [] := by
    rw [← String.toList_ofList (l := (_ : List Char).reverse)]
    exact congrArg String.toList h
  rw [List.reverse_eq_nil_iff, List.dropWhile_eq_nil_iff] at hlist
  have hdrop : s.toList.dropWhile isSpace = [] := by
    cases hrest : s.toList.dropWhile isSpace with
    | nil => rfl
    | cons c rest =>
      have hhead := List.head?_dropWhile_not isSpace s.toList
      rw [hrest] at hhead hlist
      have hspace := hlist c (by simp)
      simp [hspace] at hhead
  exact List.dropWhile_eq_nil_iff.1 hdrop

theorem trimSpace_intercalate {parts : List String} (hne : parts ≠ [])
    (hparts : ∀ p ∈ parts, p ≠ "" ∧ trimSpace p = p) :
    trimSpace ("\n\n".intercalate parts) ≠ "" := by
  obtain ⟨p, rest, rfl⟩ := List.exists_cons_of_ne_nil hne
  obtain ⟨hp, htrim⟩ := hparts p List.mem_cons_self
  have hhead : ∃ tail, "\n\n".intercalate (p :: rest) = p ++ tail := by
    by_cases hrest : rest = []
    · exact ⟨"", by simp [hrest]⟩
    · exact ⟨_, (String.intercalate_cons_of_ne_nil hrest).trans String.append_assoc⟩
  obtain ⟨tail, htail⟩ := hhead
  intro hblank
  have hspaces := trimSpace_eq_empty hblank
  have hall : p.toList.dropWhile isSpace = [] := by
    rw [List.dropWhile_eq_nil_iff]
    intro c hc
    exact hspaces c (by rw [htail, String.toList_append]; exact List.mem_append_left _ hc)
  exact hp (htrim.symm.trans (by simp [trimSpace, hall]))

theorem systemTexts_trimmed (msgs : List Message) :
    ∀ p ∈ systemTexts msgs, p ≠ "" ∧ trimSpace p = p := by
  intro p hp
  obtain ⟨hmem, hne⟩ := List.mem_filter.1 hp
  obtain ⟨msg, -, rfl⟩ := List.mem_map.1 hmem
  exact ⟨by simpa using hne, trimSpace_trimSpace _⟩

theorem instructionMessages_system (msgs : List Message) :
    instructionMessages lib (if systemTexts msgs ≠ [] then
      some (.str ("\n\n".intercalate (systemTexts msgs))) else none) = systemCarried msgs := by
  unfold systemCarried
  by_cases hnone : systemTexts msgs = []
  · simp [hnone, instructionMessages]
  · have htext := trimSpace_intercalate hnone (systemTexts_trimmed msgs)
    simp [hnone, instructionMessages, Json.isNull, responsesJSONString, htext]

/-! ## Tools, tool choice, response format -/

/-- The choices that survive: none, a string, a function by its name. -/
def PlainChoice (choice : Json) : Prop :=
  choice = .null ∨ (∃ s, choice = .str s) ∨ ∃ name, Trimmed name ∧ choice = functionChoice name

theorem toolChoice_back {choice : Json} (h : PlainChoice choice) :
    responsesRequestToolChoiceToChat lib (toolChoiceToResponses choice) = .ok choice := by
  rcases h with rfl | ⟨s, rfl⟩ | ⟨name, hname, rfl⟩
  · rfl
  · rfl
  · have hflat : toolChoiceToResponses (functionChoice name) = some (flatChoice name) := by
      simp [toolChoiceToResponses, functionChoice, fieldOf, nonEmptyString, stringOr, hname.1]
    rw [hflat]
    simp [responsesRequestToolChoiceToChat, flatChoice, JsonLib.toMap, fieldOf, hname.1, hname.2]

structure PlainTool (tool : ToolCallRequest) : Prop where
  type : tool.type = "function"
  name : trimSpace tool.function.name = tool.function.name

def toolMap (tool : ToolCallRequest) : JsonMap :=
  [("type", .str "function"), ("name", .str tool.function.name),
    ("description", .str tool.function.description), ("parameters", tool.function.parameters)]

theorem toolToChat_toolMap {tool : ToolCallRequest} (h : PlainTool tool) :
    toolToChat lib (toolMap tool) = toolCarried tool := by
  have htype : trimSpace "function" = "function" := trimSpace_type (by simp)
  simp [toolToChat, toolMap, fieldOf, htype, h.name, toolCarried]

theorem tools_back {tools : Option (List ToolCallRequest)}
    (h : ∀ ts, tools = some ts → ∀ tool ∈ ts, PlainTool tool) :
    responsesRequestToolsToChat lib (tools.map fun ts => .arr (ts.map toolToResponses))
      = .ok (tools.map fun ts => ts.map toolCarried) := by
  cases tools with
  | none => rfl
  | some ts =>
    have hmaps : ts.map toolToResponses = (ts.map toolMap).map .obj := by
      rw [List.map_map]
      refine List.map_congr_left fun tool htool => ?_
      rw [toolToResponses, if_pos (h ts rfl tool htool).type]
      rfl
    have hback : (ts.map toolMap).map (toolToChat lib) = ts.map toolCarried := by
      rw [List.map_map]
      refine List.map_congr_left fun tool htool => ?_
      rw [Function.comp_apply]
      exact toolToChat_toolMap lib (h ts rfl tool htool)
    simp only [Option.map_some, responsesRequestToolsToChat, hmaps, toMaps_obj, hback]

theorem formatObject_back (format : JsonMap) :
    ∃ back, responsesRequestTextToChatResponseFormat lib
      (some (.obj [("format", .obj format)])) = .ok back := by
  have hformat : fieldOf [("format", Json.obj format)] "format" = .obj format := by
    simp [fieldOf]
  simp only [responsesRequestTextToChatResponseFormat, JsonLib.toMap, hformat]
  by_cases htype : trimSpace (lib.interface2String (fieldOf format "type")) = ""
  · exact ⟨none, by rw [if_pos htype]⟩
  · exact ⟨_, by rw [if_neg htype]⟩

theorem responseFormat_back (format : Option ResponseFormat) :
    ∃ back, responsesRequestTextToChatResponseFormat lib
      (convertChatResponseFormatToResponsesText format) = .ok back := by
  cases format with
  | none => exact ⟨none, rfl⟩
  | some format =>
    simp only [convertChatResponseFormatToResponsesText]
    by_cases htype : trimSpace format.type = ""
    · rw [if_pos htype]
      exact ⟨none, rfl⟩
    · rw [if_neg htype]
      exact formatObject_back lib _

/-! ## The round trip -/

theorem validate_of_absent {req : OpenAIResponsesRequest} (hconversation : req.conversation = none)
    (hprevious : req.previousResponseId = "") (hprompt : req.prompt = none)
    (hcontext : req.contextManagement = none) :
    validateResponsesRequestChatUnsupportedFields req = .ok () := by
  have hblank : trimSpace "" = "" := trimSpace_type (by simp)
  simp [validateResponsesRequestChatUnsupportedFields, hconversation, hprevious, hprompt, hcontext,
    rawJSONPresent, hblank]

theorem chat_request_survives (req : GeneralOpenAIRequest) (front rest : List Message)
    (hmodel : req.model ≠ "") (hn : req.n.getD 1 ≤ 1) (hmessages : req.messages = front ++ rest)
    (hfront : ∀ msg ∈ front, SystemMessage msg) (hrest : ∀ msg ∈ rest, PlainMessage msg)
    (htools : ∀ ts, req.tools = some ts → ∀ tool ∈ ts, PlainTool tool)
    (hchoice : PlainChoice req.toolChoice) :
    ∃ back, chatRequestRoundTrip lib req = .ok back ∧
      back.messages = systemCarried front ++ rest.map messageCarried ∧
      back.tools = req.tools.map (fun ts => ts.map toolCarried) ∧
      back.toolChoice = req.toolChoice := by
  have hparts := instructionsParts hfront hrest
  have hsystem : front.flatMap (inputItems lib) = [] := by
    rw [List.flatMap_eq_nil_iff]
    exact fun msg hmsg => inputItems_system lib (hfront msg hmsg)
  obtain ⟨maps, hmaps, hfold⟩ := messages_fold lib (systemCarried front) hrest
  obtain ⟨format, hformat⟩ := responseFormat_back lib req.responseFormat
  have hn' : ¬ req.n.getD 1 > 1 := not_lt.2 hn
  have hinput : req.messages.flatMap (inputItems lib) = maps.map .obj := by
    rw [hmessages, List.flatMap_append, hsystem, List.nil_append, hmaps]
  rw [← hmessages] at hparts
  simp only [chatRequestRoundTrip, chatCompletionsRequestToResponsesRequest, if_neg hmodel,
    if_neg hn', hparts, hinput, bind, Except.bind, responsesRequestToChatCompletionsRequest,
    responsesRequestMessagesToChat, instructionMessages_system, toMaps_obj, hfold,
    tools_back lib htools, toolChoice_back lib hchoice, hformat]
  rw [validate_of_absent rfl rfl rfl rfl]
  exact ⟨_, rfl, rfl, rfl, rfl⟩

end

/-- Texts nobody looks at. -/
def demoLib : JsonLib where
  marshal _ := ""
  formatFloat text := text
  sprint _ := ""
  unmarshalError _ := ""

def demoCall (id name arguments : String) : ToolCallRequest where
  id := id
  type := "function"
  function := { name := name, arguments := arguments }

def demoRules : List Message :=
  [{ role := "system", content := .str " be brief\n" }]

def demoTalk : List Message :=
  [{ role := "user", content := .str "what is here?" },
    { role := "assistant", toolCalls := [demoCall "c1" "ls" "{}", demoCall "c2" "pwd" "{}"] },
    { role := "tool", content := .str "a b", toolCallId := "c1" },
    { role := "assistant", content := .str "two files" }]

def demoRequest : GeneralOpenAIRequest where
  model := "m"
  messages := demoRules ++ demoTalk
  tools := some [{ type := "function", function := { name := "ls", description := "list" } }]
  toolChoice := functionChoice "ls"

theorem demoRequest_survives :
    ∃ back, chatRequestRoundTrip demoLib demoRequest = .ok back ∧
      back.messages = systemCarried demoRules ++ demoTalk.map messageCarried ∧
      back.tools = demoRequest.tools.map (fun ts => ts.map toolCarried) ∧
      back.toolChoice = demoRequest.toolChoice := by
  have htrim : ∀ s ∈ ["user", "assistant", "tool", "c1", "c2", "ls", "pwd"], Trimmed s := by
    intro s hs
    simp only [List.mem_cons, List.not_mem_nil, or_false] at hs
    rcases hs with rfl | rfl | rfl | rfl | rfl | rfl | rfl <;> exact ⟨by decide, by decide⟩
  refine chat_request_survives demoLib demoRequest demoRules demoTalk (by decide) (by decide) rfl
    ?_ ?_ ?_ (.inr (.inr ⟨"ls", htrim "ls" (by simp), rfl⟩))
  · intro msg hmsg
    obtain rfl := List.mem_singleton.1 hmsg
    exact ⟨.inl rfl, .inr ⟨_, rfl⟩⟩
  · intro msg hmsg
    simp only [demoTalk, List.mem_cons, List.not_mem_nil, or_false] at hmsg
    rcases hmsg with rfl | rfl | rfl | rfl
    · exact ⟨htrim _ (by simp), by decide, .inr ⟨_, rfl⟩, fun h => absurd h (by decide),
        fun h => absurd h (by decide)⟩
    · refine ⟨htrim _ (by simp), by decide, .inl rfl, fun h => absurd h (by decide), ?_⟩
      intro _ call hcall
      simp only [List.mem_cons, List.not_mem_nil, or_false] at hcall
      rcases hcall with rfl | rfl <;>
        exact ⟨.inr rfl, htrim _ (by simp [demoCall]), htrim _ (by simp [demoCall])⟩
    · exact ⟨htrim _ (by simp), by decide, .inr ⟨_, rfl⟩, fun _ => htrim _ (by simp),
        fun h => absurd h (by decide)⟩
    · exact ⟨htrim _ (by simp), by decide, .inr ⟨_, rfl⟩, fun h => absurd h (by decide),
        fun _ call hcall => absurd hcall List.not_mem_nil⟩
  · rintro ts hts tool htool
    obtain rfl := Option.some.inj hts
    obtain rfl := List.mem_singleton.1 htool
    exact ⟨rfl, (htrim "ls" (by simp)).2⟩

/-- A blank in the name of the chosen function is lost, and a developer
message comes back as a system message. -/
theorem chat_request_changes :
    (∃ back, chatRequestRoundTrip demoLib { demoRequest with toolChoice := functionChoice " ls" }
        = .ok back ∧ back.toolChoice = functionChoice "ls" ∧
      functionChoice " ls" ≠ functionChoice "ls") ∧
    ∃ back, chatRequestRoundTrip demoLib
        { demoRequest with messages := [{ role := "developer", content := .str "be brief" }] }
        = .ok back ∧ back.messages.map (·.role) = ["system"] := by
  refine ⟨⟨_, rfl, ?_, ?_⟩, _, rfl, ?_⟩
  · rfl
  · simp [functionChoice]
  · rfl

end YouBox.Responses
