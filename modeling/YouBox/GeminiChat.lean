import YouBox.ChatRequest

/-!
# Gemini requests in the chat format

`GeminiGenerateContentRequestToOpenAIChat`. Gemini has no ids for function
calls, so the converter makes them up: a call gets the number it has within
its entry of `contents`, a response the number of calls before it in its own
entry. The message with the calls of an entry is written behind the tool
messages of that entry.

`Linked` is what the upstream needs: ids that are told apart, every tool
message behind the call it names, and no text lost. A response never meets
this (`no_responses_of_linked`), and neither do two entries with calls;
`linked_iff` says exactly which requests do.
-/

namespace YouBox.GeminiChat

open Responses

/-! ## Gemini requests -/

structure GeminiInlineData where
  mimeType : String
  data : String

structure GeminiFileData where
  mimeType : String
  fileUri : String

structure FunctionCall where
  functionName : String
  arguments : Json

structure GeminiFunctionResponse where
  name : String
  response : Json

structure GeminiPart where
  text : String := ""
  inlineData : Option GeminiInlineData := none
  fileData : Option GeminiFileData := none
  functionCall : Option FunctionCall := none
  functionResponse : Option GeminiFunctionResponse := none

structure GeminiChatContent where
  role : String
  parts : List GeminiPart

structure GeminiChatGenerationConfig where
  temperature : Option Rat := none
  topP : Option Rat := none
  topK : Option Rat := none
  maxOutputTokens : Option Nat := none
  candidateCount : Option Int := none
  stopSequences : List String := []

/-- `dto.GeminiChatRequest`; `tools` are the function declarations of the tools
that `GetTools` returns. -/
structure GeminiChatRequest where
  contents : List GeminiChatContent
  generationConfig : GeminiChatGenerationConfig := {}
  tools : List Json := []
  systemInstructions : Option GeminiChatContent := none

/-- `relaycommon.RelayInfo`, with the upstream model of its channel. -/
structure RelayInfo where
  isStream : Bool
  upstreamModelName : Option String

/-- `dto.GeneralOpenAIRequest` with the two fields that only this converter
sets. -/
structure OpenAIRequest extends Responses.GeneralOpenAIRequest where
  topK : Option Int := none
  stop : Option (List String) := none

/-- `encoding/json`, and reading function declarations with it. -/
structure GeminiLib extends JsonLib where
  functionRequests : Json → Option (List FunctionRequest)

/-! ## The conversion -/

/-- What the converter takes a part for: the first field that is set. -/
inductive PartKind where
  | text (s : String)
  | image (url mimeType : String)
  | call (c : FunctionCall)
  | response (r : GeminiFunctionResponse)
  | other

def GeminiPart.kind (part : GeminiPart) : PartKind :=
  if part.text ≠ "" then .text part.text
  else
    match part.inlineData, part.fileData, part.functionCall, part.functionResponse with
    | some d, _, _, _ => .image ("data:" ++ d.mimeType ++ ";base64," ++ d.data) d.mimeType
    | none, some f, _, _ => .image f.fileUri f.mimeType
    | none, none, some c, _ => .call c
    | none, none, none, some r => .response r
    | none, none, none, none => .other

/-- `dto.MediaContent`, the two kinds that are built here. -/
inductive Media where
  | text (s : String)
  | image (url mimeType : String)

def Media.toJson : Media → Json
  | .text s => .obj [("type", .str contentTypeText), ("text", .str s)]
  | .image url mimeType =>
    .obj [("type", .str "image_url"), ("image_url",
      .obj [("url", .str url), ("detail", .str "auto"), ("MimeType", .str mimeType)])]

/-- `fmt.Sprintf("call_%d", n)` -/
def callId (n : Nat) : String := "call_" ++ toString n

/-- The variables of the loop over the parts of one entry. -/
structure Turn where
  messages : List Message
  mediaContents : List Media
  toolCalls : List ToolCallRequest

def convertGeminiRoleToOpenAI (geminiRole : String) : String :=
  if geminiRole = "user" then "user"
  else if geminiRole = "model" then "assistant"
  else if geminiRole = "function" then "function"
  else "user"

def extractTextFromGeminiParts (parts : List GeminiPart) : String :=
  "\n".intercalate ((parts.map GeminiPart.text).filter (· ≠ ""))

section

variable (lib : GeminiLib)

def toolCallOf (n : Nat) (c : FunctionCall) : ToolCallRequest where
  id := callId n
  type := "function"
  function := { name := c.functionName, arguments := lib.marshal c.arguments }

def toolMessageOf (n : Nat) (r : GeminiFunctionResponse) : Message where
  role := "tool"
  toolCallId := callId n
  content := .str (lib.marshal r.response)

def addPart (turn : Turn) (part : GeminiPart) : Turn :=
  match part.kind with
  | .text s => { turn with mediaContents := turn.mediaContents ++ [.text s] }
  | .image url mimeType =>
    { turn with mediaContents := turn.mediaContents ++ [.image url mimeType] }
  | .call c =>
    { turn with toolCalls := turn.toolCalls ++ [toolCallOf lib (turn.toolCalls.length + 1) c] }
  | .response r =>
    { turn with messages := turn.messages ++ [toolMessageOf lib turn.toolCalls.length r] }
  | .other => turn

/-- The message of an entry, once its parts are through. -/
def turnMessage (role : String) (media : List Media) (toolCalls : List ToolCallRequest) :
    Message :=
  let message : Message := { role := convertGeminiRoleToOpenAI role }
  if 0 < toolCalls.length then { message with toolCalls := toolCalls }
  else
    match media with
    | [] => message
    | [.text s] => { message with content := .str s }
    | media => { message with content := .arr (media.map Media.toJson) }

def addContent (messages : List Message) (content : GeminiChatContent) : List Message :=
  let turn := content.parts.foldl (addPart lib) ⟨messages, [], []⟩
  let message := turnMessage content.role turn.mediaContents turn.toolCalls
  if 0 < message.parseContent.length ∨ 0 < message.toolCalls.length then
    turn.messages ++ [message]
  else turn.messages

def openAITools (declarations : List Json) : List ToolCallRequest :=
  declarations.flatMap (fun d =>
    if d.isNull then []
    else ((lib.functionRequests d).getD []).map (fun f =>
      { type := "function"
        function := { name := f.name, description := f.description, parameters := f.parameters } }))

def geminiGenerateContentRequestToOpenAIChat (req : GeminiChatRequest) (info : Option RelayInfo) :
    OpenAIRequest :=
  let messages := req.contents.foldl (addContent lib) []
  let config := req.generationConfig
  let tools := openAITools lib req.tools
  { model := (info.bind RelayInfo.upstreamModelName).getD ""
    stream := some ((info.map RelayInfo.isStream).getD false)
    temperature := config.temperature
    topP := config.topP.filter (0 < ·)
    topK := (config.topK.filter (0 < ·)).map Rat.floor
    maxTokens := config.maxOutputTokens.filter (0 < ·)
    stop := if 0 < config.stopSequences.length then some (config.stopSequences.take 4) else none
    n := config.candidateCount.filter (0 < ·)
    tools := if 0 < tools.length then some tools else none
    messages :=
      match req.systemInstructions with
      | some s =>
        { role := "system", content := .str (extractTextFromGeminiParts s.parts) } :: messages
      | none => messages }

end

/-! ## What the upstream needs -/

def GeminiPart.text? (part : GeminiPart) : Option String :=
  match part.kind with
  | .text s => some s
  | _ => none

def GeminiPart.call? (part : GeminiPart) : Option FunctionCall :=
  match part.kind with
  | .call c => some c
  | _ => none

def GeminiPart.response? (part : GeminiPart) : Option GeminiFunctionResponse :=
  match part.kind with
  | .response r => some r
  | _ => none

namespace GeminiChatContent

def texts (content : GeminiChatContent) : List String := content.parts.filterMap GeminiPart.text?

def calls (content : GeminiChatContent) : List FunctionCall :=
  content.parts.filterMap GeminiPart.call?

def responses (content : GeminiChatContent) : List GeminiFunctionResponse :=
  content.parts.filterMap GeminiPart.response?

end GeminiChatContent

/-- Every response follows a call of its name; `called` are the names so far. -/
def FollowsCalls : List String → List GeminiPart → Prop
  | _, [] => True
  | called, part :: parts =>
    match part.kind with
    | .call c => FollowsCalls (c.functionName :: called) parts
    | .response r => r.name ∈ called ∧ FollowsCalls called parts
    | _ => FollowsCalls called parts

/-- The text parts a message shows of the conversation. -/
def shownTexts (m : Message) : List String :=
  if m.role = "tool" ∨ m.role = "system" then []
  else
    match m.content with
    | .str s => [s]
    | .arr items => (items.map textPart).filter (· ≠ "")
    | _ => []

/-- The tool messages, each with the calls before it. -/
def toolTurns : List ToolCallRequest → List Message → List (Message × List ToolCallRequest)
  | _, [] => []
  | before, m :: ms =>
    if m.role = "tool" then (m, before) :: toolTurns (before ++ m.toolCalls) ms
    else toolTurns (before ++ m.toolCalls) ms

/-- A tool message carries the id of an earlier call of the name it answers. -/
def Answers (name : String) (turn : Message × List ToolCallRequest) : Prop :=
  ∃ call ∈ turn.2, call.id = turn.1.toolCallId ∧ call.function.name = name

/-- The converted conversation is linked: the ids of its calls are distinct,
every response is a tool message behind a call of its name and with that call's
id, responses that can each have a call of their own have distinct ids, and
every text is there. -/
structure Linked (contents : List GeminiChatContent) (messages : List Message) : Prop where
  distinct : ((messages.flatMap Message.toolCalls).map ToolCallRequest.id).Nodup
  answered : List.Forall₂ Answers
    ((contents.flatMap GeminiChatContent.responses).map GeminiFunctionResponse.name)
    (toolTurns [] messages)
  apart : (∀ name : String,
      (contents.flatMap GeminiChatContent.responses).countP (·.name = name)
        ≤ (contents.flatMap GeminiChatContent.calls).countP (·.functionName = name)) →
    ((toolTurns [] messages).map (·.1.toolCallId)).Nodup
  texts : (contents.flatMap GeminiChatContent.texts).Sublist (messages.flatMap shownTexts)

/-- At most one entry calls functions, and that entry says nothing else. -/
structure OneQuietCaller (contents : List GeminiChatContent) : Prop where
  single : contents.Pairwise (fun c d => c.calls = [] ∨ d.calls = [])
  quiet : ∀ c ∈ contents, c.calls ≠ [] → c.texts = []
  unanswered : ∀ c ∈ contents, c.responses = []

/-! ## One entry -/

variable {system : List Message} {n : Nat}

theorem callId_injective {m : Nat} (h : callId m = callId n) : m = n := by
  have hdigits : Nat.toDigits 10 m = Nat.toDigits 10 n := by
    simpa only [callId, toString, String.toList_append, List.append_cancel_left_eq,
      Nat.toList_repr] using congrArg String.toList h
  rw [← Nat.ofDigitChars_ten_toDigits (n := m), hdigits, Nat.ofDigitChars_ten_toDigits]

section

variable (lib : GeminiLib)

/-- Calls with the numbers from `n + 1` on. -/
def numbered : Nat → List FunctionCall → List ToolCallRequest
  | _, [] => []
  | n, c :: cs => toolCallOf lib (n + 1) c :: numbered (n + 1) cs

/-- The tool messages of parts, behind `n` calls. -/
def toolMessages : Nat → List GeminiPart → List Message
  | _, [] => []
  | n, part :: parts =>
    match part.kind with
    | .call _ => toolMessages (n + 1) parts
    | .response r => toolMessageOf lib n r :: toolMessages n parts
    | _ => toolMessages n parts

def mediaOf (parts : List GeminiPart) : List Media :=
  parts.filterMap (fun part =>
    match part.kind with
    | .text s => some (.text s)
    | .image url mimeType => some (.image url mimeType)
    | _ => none)

/-- The message of an entry, if it has one. -/
def ownMessage (content : GeminiChatContent) : List Message :=
  let message := turnMessage content.role (mediaOf content.parts) (numbered lib 0 content.calls)
  if 0 < message.parseContent.length ∨ 0 < message.toolCalls.length then [message] else []

def contentMessages (content : GeminiChatContent) : List Message :=
  toolMessages lib 0 content.parts ++ ownMessage lib content

theorem foldl_addPart (parts : List GeminiPart) (turn : Turn) :
    parts.foldl (addPart lib) turn =
      ⟨turn.messages ++ toolMessages lib turn.toolCalls.length parts,
        turn.mediaContents ++ mediaOf parts,
        turn.toolCalls ++ numbered lib turn.toolCalls.length
          (parts.filterMap GeminiPart.call?)⟩ := by
  induction parts generalizing turn with
  | nil => simp only [List.foldl_nil, toolMessages, mediaOf, List.filterMap_nil, numbered,
      List.append_nil]
  | cons part parts ih =>
    rw [List.foldl_cons, ih, addPart]
    cases hk : part.kind <;>
      simp only [toolMessages, mediaOf, List.filterMap_cons, GeminiPart.call?, hk, numbered,
        List.append_assoc, List.cons_append, List.nil_append, List.length_append,
        List.length_cons, List.length_nil]

theorem addContent_eq (messages : List Message) (content : GeminiChatContent) :
    addContent lib messages content = messages ++ contentMessages lib content := by
  have hturn : content.parts.foldl (addPart lib) ⟨messages, [], []⟩
      = ⟨messages ++ toolMessages lib 0 content.parts, mediaOf content.parts,
          numbered lib 0 content.calls⟩ := foldl_addPart lib content.parts _
  simp only [addContent, hturn, contentMessages, ownMessage]
  split
  · rw [List.append_assoc]
  · rw [List.append_nil]

theorem foldl_addContent (contents : List GeminiChatContent) (messages : List Message) :
    contents.foldl (addContent lib) messages
      = messages ++ contents.flatMap (contentMessages lib) := by
  induction contents generalizing messages with
  | nil => simp
  | cons c cs ih => rw [List.foldl_cons, ih, addContent_eq, List.flatMap_cons, List.append_assoc]

/-! ### Ids -/

variable {cs : List FunctionCall} {contents : List GeminiChatContent} {parts : List GeminiPart}
  {s : String}

theorem mem_numbered_id {k : Nat} :
    callId k ∈ (numbered lib n cs).map ToolCallRequest.id ↔ n < k ∧ k ≤ n + cs.length := by
  induction cs generalizing n with
  | nil => exact ⟨nofun, fun h => absurd h.2 (Nat.not_le_of_lt h.1)⟩
  | cons c cs ih =>
    simp only [numbered, List.map_cons, List.mem_cons, ih, toolCallOf, List.length_cons]
    constructor
    · rintro (hk | hk)
      · have := callId_injective hk
        omega
      · omega
    · intro hk
      rcases Nat.eq_or_lt_of_le hk.1 with heq | hlt
      · exact .inl (by rw [← heq])
      · exact .inr (by omega)

theorem numbered_id {call : ToolCallRequest} (h : call ∈ numbered lib n cs) :
    ∃ k, call.id = callId (k + 1) := by
  induction cs generalizing n with
  | nil => cases h
  | cons c cs ih =>
    rcases List.mem_cons.mp h with rfl | hrest
    · exact ⟨n, rfl⟩
    · exact ih hrest

theorem numbered_nodup (n : Nat) (cs : List FunctionCall) :
    ((numbered lib n cs).map ToolCallRequest.id).Nodup := by
  induction cs generalizing n with
  | nil => exact .nil
  | cons c cs ih =>
    refine List.nodup_cons.mpr ⟨?_, ih (n + 1)⟩
    intro hmem
    have := (mem_numbered_id lib).mp hmem
    omega

/-! ### Messages -/

theorem toolMessages_spec {m : Message} (h : m ∈ toolMessages lib n parts) :
    m.role = "tool" ∧ m.toolCalls = [] ∧
      ∃ k, k ≤ n + (parts.filterMap GeminiPart.call?).length ∧ m.toolCallId = callId k := by
  induction parts generalizing n with
  | nil => cases h
  | cons part parts ih =>
    cases hk : part.kind with
    | call c =>
      simp only [toolMessages, hk] at h
      obtain ⟨hrole, hcalls, k, hle, hid⟩ := ih h
      refine ⟨hrole, hcalls, k, ?_, hid⟩
      simp only [List.filterMap_cons, GeminiPart.call?, hk, List.length_cons] at hle ⊢
      omega
    | response r =>
      simp only [toolMessages, hk, List.mem_cons] at h
      simp only [List.filterMap_cons, GeminiPart.call?, hk]
      rcases h with rfl | h
      · exact ⟨rfl, rfl, n, Nat.le_add_right _ _, rfl⟩
      · exact ih h
    | text s =>
      simp only [toolMessages, hk] at h
      simpa only [List.filterMap_cons, GeminiPart.call?, hk] using ih h
    | image url mimeType =>
      simp only [toolMessages, hk] at h
      simpa only [List.filterMap_cons, GeminiPart.call?, hk] using ih h
    | other =>
      simp only [toolMessages, hk] at h
      simpa only [List.filterMap_cons, GeminiPart.call?, hk] using ih h

theorem toolMessages_length (n : Nat) (parts : List GeminiPart) :
    (toolMessages lib n parts).length = (parts.filterMap GeminiPart.response?).length := by
  induction parts generalizing n with
  | nil => rfl
  | cons part parts ih =>
    cases hk : part.kind <;>
      simp only [toolMessages, List.filterMap_cons, GeminiPart.response?, hk, List.length_cons, ih]

theorem convertGeminiRole_ne (role : String) :
    convertGeminiRoleToOpenAI role ≠ "tool" ∧ convertGeminiRoleToOpenAI role ≠ "system" := by
  unfold convertGeminiRoleToOpenAI
  split
  · exact ⟨nofun, nofun⟩
  · split
    · exact ⟨nofun, nofun⟩
    · split
      · exact ⟨nofun, nofun⟩
      · exact ⟨nofun, nofun⟩

theorem turnMessage_role (role : String) (media : List Media) (calls : List ToolCallRequest) :
    (turnMessage role media calls).role = convertGeminiRoleToOpenAI role := by
  unfold turnMessage
  split
  · rfl
  · split <;> rfl

theorem turnMessage_toolCalls (role : String) (media : List Media)
    (calls : List ToolCallRequest) : (turnMessage role media calls).toolCalls = calls := by
  unfold turnMessage
  split
  · rfl
  · rename_i hnone
    rw [List.eq_nil_of_length_eq_zero (Nat.eq_zero_of_not_pos hnone)]
    split <;> rfl

theorem ownMessage_toolCalls (content : GeminiChatContent) :
    (ownMessage lib content).flatMap Message.toolCalls = numbered lib 0 content.calls := by
  simp only [ownMessage]
  split
  · rw [List.flatMap_cons, List.flatMap_nil, List.append_nil, turnMessage_toolCalls]
  · rename_i hnone
    rw [turnMessage_toolCalls, not_or] at hnone
    rw [List.eq_nil_of_length_eq_zero (Nat.eq_zero_of_not_pos hnone.2), List.flatMap_nil]

theorem contentMessages_toolCalls (content : GeminiChatContent) :
    (contentMessages lib content).flatMap Message.toolCalls = numbered lib 0 content.calls := by
  rw [contentMessages, List.flatMap_append, ownMessage_toolCalls]
  have htools : (toolMessages lib 0 content.parts).flatMap Message.toolCalls = [] :=
    List.flatMap_eq_nil_iff.mpr (fun m hm => (toolMessages_spec lib hm).2.1)
  rw [htools, List.nil_append]

theorem toolTurns_contentMessages (content : GeminiChatContent) (before : List ToolCallRequest)
    (rest : List Message) :
    toolTurns before (contentMessages lib content ++ rest)
      = (toolMessages lib 0 content.parts).map (fun m => (m, before))
        ++ toolTurns (before ++ numbered lib 0 content.calls) rest := by
  have htools : ∀ (tools ms : List Message), (∀ m ∈ tools, m.role = "tool" ∧ m.toolCalls = []) →
      toolTurns before (tools ++ ms) = tools.map (fun m => (m, before)) ++ toolTurns before ms := by
    intro tools ms hall
    induction tools with
    | nil => rfl
    | cons m tools ih =>
      obtain ⟨hrole, hcalls⟩ := hall m List.mem_cons_self
      rw [List.cons_append, toolTurns, if_pos hrole, hcalls, List.append_nil,
        ih (fun x hx => hall x (List.mem_cons_of_mem _ hx))]
      rfl
  rw [contentMessages, List.append_assoc, htools _ _ (fun m hm =>
    ⟨(toolMessages_spec lib hm).1, (toolMessages_spec lib hm).2.1⟩)]
  congr 1
  rw [← ownMessage_toolCalls]
  simp only [ownMessage]
  split
  · rw [List.cons_append, List.nil_append, toolTurns, turnMessage_role,
      if_neg (convertGeminiRole_ne _).1, List.flatMap_cons, List.flatMap_nil, List.append_nil]
  · rw [List.flatMap_nil, List.append_nil, List.nil_append]

/-! ### Texts -/

theorem textPart_toJson (m : Media) :
    textPart m.toJson = match m with
      | .text s => s
      | .image _ _ => "" := by
  cases m <;> simp [Media.toJson, textPart, fieldOf, contentTypeText]

theorem kind_text_ne {part : GeminiPart} (h : part.kind = .text s) : s ≠ "" := by
  unfold GeminiPart.kind at h
  split at h
  · rename_i hne
    cases h
    exact hne
  · split at h <;> cases h

theorem mediaOf_texts (parts : List GeminiPart) :
    ((mediaOf parts).map (fun m => textPart m.toJson)).filter (· ≠ "")
      = parts.filterMap GeminiPart.text? := by
  induction parts with
  | nil => rfl
  | cons part parts ih =>
    cases hk : part.kind with
    | text s =>
      have hm : mediaOf (part :: parts) = .text s :: mediaOf parts := by
        simp only [mediaOf, List.filterMap_cons, hk]
      have ht : GeminiPart.text? part = some s := by simp only [GeminiPart.text?, hk]
      rw [hm, List.filterMap_cons_some ht, List.map_cons, textPart_toJson,
        List.filter_cons_of_pos (by simpa using kind_text_ne hk), ih]
    | image url mimeType =>
      have hm : mediaOf (part :: parts) = .image url mimeType :: mediaOf parts := by
        simp only [mediaOf, List.filterMap_cons, hk]
      have ht : GeminiPart.text? part = none := by simp only [GeminiPart.text?, hk]
      rw [hm, List.filterMap_cons_none ht, List.map_cons, textPart_toJson,
        List.filter_cons_of_neg (by simp), ih]
    | call c => simpa only [mediaOf, List.filterMap_cons, hk, GeminiPart.text?] using ih
    | response r => simpa only [mediaOf, List.filterMap_cons, hk, GeminiPart.text?] using ih
    | other => simpa only [mediaOf, List.filterMap_cons, hk, GeminiPart.text?] using ih

theorem mem_mediaOf_text (h : .text s ∈ mediaOf parts) : s ≠ "" := by
  obtain ⟨part, -, hpart⟩ := List.mem_filterMap.mp h
  split at hpart
  · rename_i hk
    cases hpart
    exact kind_text_ne hk
  · cases hpart
  · cases hpart

theorem parsePart_toJson (m : Media) : (parsePart m.toJson).isSome = true := by
  cases m <;> simp [Media.toJson, parsePart, fieldOf, contentTypeText]

theorem turnMessage_media {media : List Media} (role : String) (hne : media ≠ []) :
    (∃ s, media = [.text s] ∧ (turnMessage role media []).content = .str s) ∨
      (turnMessage role media []).content = .arr (media.map Media.toJson) := by
  match media with
  | [] => exact absurd rfl hne
  | [.text s] => exact .inl ⟨s, rfl, rfl⟩
  | [.image url mimeType] => exact .inr rfl
  | .text s :: m :: ms => exact .inr rfl
  | .image url mimeType :: m :: ms => exact .inr rfl

theorem contentMessages_texts (content : GeminiChatContent) :
    (contentMessages lib content).flatMap shownTexts
      = if content.calls = [] then content.texts else [] := by
  have htools : (toolMessages lib 0 content.parts).flatMap shownTexts = [] := by
    refine List.flatMap_eq_nil_iff.mpr (fun m hm => ?_)
    rw [shownTexts, if_pos (.inl (toolMessages_spec lib hm).1)]
  rw [contentMessages, List.flatMap_append, htools, List.nil_append]
  have hrole : ∀ (media : List Media) (calls : List ToolCallRequest),
      ¬ ((turnMessage content.role media calls).role = "tool" ∨
        (turnMessage content.role media calls).role = "system") := by
    intro media calls
    rw [turnMessage_role, not_or]
    exact convertGeminiRole_ne _
  simp only [ownMessage]
  cases hcalls : content.calls with
  | cons c cs =>
    rw [if_neg (List.cons_ne_nil c cs)]
    split
    · rw [List.flatMap_cons, List.flatMap_nil, List.append_nil, shownTexts, if_neg (hrole _ _)]
      rfl
    · rfl
  | nil =>
    rw [if_pos rfl, GeminiChatContent.texts, ← mediaOf_texts, numbered]
    by_cases hmedia : mediaOf content.parts = []
    · rw [hmedia, if_neg (by rintro (h | h) <;> exact absurd h (Nat.lt_irrefl 0))]
      rfl
    · rcases turnMessage_media content.role hmedia with ⟨s, hs, hcontent⟩ | hcontent
      · have hne : s ≠ "" := mem_mediaOf_text (by rw [hs]; exact List.mem_singleton_self _)
        rw [if_pos (.inl (by rw [Message.parseContent, hcontent]; exact Nat.one_pos)),
          List.flatMap_cons, List.flatMap_nil, List.append_nil, shownTexts, if_neg (hrole _ _),
          hcontent, hs]
        simp [textPart_toJson, hne]
      · have hparsed : 0 < (turnMessage content.role (mediaOf content.parts)
            []).parseContent.length := by
          rw [Message.parseContent, hcontent]
          obtain ⟨m, hm⟩ := List.exists_mem_of_ne_nil _ hmedia
          obtain ⟨x, hx⟩ := Option.isSome_iff_exists.mp (parsePart_toJson m)
          exact List.length_pos_of_mem
            (List.mem_filterMap.mpr ⟨_, List.mem_map_of_mem hm, hx⟩)
        rw [if_pos (.inl hparsed), List.flatMap_cons, List.flatMap_nil, List.append_nil,
          shownTexts, if_neg (hrole _ _), hcontent]
        simp only [List.map_map]
        rfl

/-! ## Whole conversations -/

theorem ids_nodup_iff (contents : List GeminiChatContent) :
    (((contents.flatMap (contentMessages lib)).flatMap Message.toolCalls).map
        ToolCallRequest.id).Nodup ↔
      contents.Pairwise (fun c d => c.calls = [] ∨ d.calls = []) := by
  rw [List.flatMap_assoc, List.map_flatMap, List.nodup_flatMap]
  simp only [contentMessages_toolCalls]
  have hdisjoint : ∀ c d : GeminiChatContent,
      List.Disjoint ((numbered lib 0 c.calls).map ToolCallRequest.id)
        ((numbered lib 0 d.calls).map ToolCallRequest.id) ↔ c.calls = [] ∨ d.calls = [] := by
    intro c d
    constructor
    · intro h
      by_contra hboth
      rw [not_or, ← ne_eq, ← ne_eq, ← List.length_pos_iff, ← List.length_pos_iff] at hboth
      exact h ((mem_numbered_id lib (k := 1)).mpr ⟨Nat.one_pos, by omega⟩)
        ((mem_numbered_id lib (k := 1)).mpr ⟨Nat.one_pos, by omega⟩)
    · rintro (h | h)
      · intro x hx
        rw [h] at hx
        cases hx
      · intro x _ hx
        rw [h] at hx
        cases hx
  constructor
  · rintro ⟨-, h⟩
    exact h.imp (fun {c d} hcd => (hdisjoint c d).mp hcd)
  · intro h
    exact ⟨fun c _ => numbered_nodup lib 0 c.calls, h.imp (fun {c d} hcd => (hdisjoint c d).mpr hcd)⟩

/-- A response is never behind the call whose id it carries: the calls of its own
entry come later, and an entry before it with the same id makes two of them. -/
theorem no_responses_of_linked (before : List ToolCallRequest)
    (hbefore : ∀ call ∈ before, ∃ k, call.id = callId (k + 1))
    (hnodup : ((before ++ (contents.flatMap (contentMessages lib)).flatMap
      Message.toolCalls).map ToolCallRequest.id).Nodup)
    (hids : ∀ turn ∈ toolTurns before (contents.flatMap (contentMessages lib)),
      ∃ call ∈ turn.2, call.id = turn.1.toolCallId) : ∀ c ∈ contents, c.responses = [] := by
  induction contents generalizing before with
  | nil => nofun
  | cons c cs ih =>
    rw [List.flatMap_cons] at hnodup hids
    rw [toolTurns_contentMessages] at hids
    rw [List.flatMap_append, contentMessages_toolCalls] at hnodup
    have hfirst : c.responses = [] := by
      rw [← List.length_eq_zero_iff, GeminiChatContent.responses,
        ← toolMessages_length lib 0]
      refine Nat.eq_zero_of_not_pos (fun hpos => ?_)
      obtain ⟨m, hm⟩ := List.exists_mem_of_length_pos hpos
      obtain ⟨call, hcall, hid⟩ := hids (m, before)
        (List.mem_append_left _ (List.mem_map_of_mem hm))
      obtain ⟨-, -, n, hn, hm'⟩ := toolMessages_spec lib hm
      obtain ⟨k, hk⟩ := hbefore call hcall
      have hkn : k + 1 = n := callId_injective (hk.symm.trans (hid.trans hm'))
      -- the entry has a call with that number itself
      have hown : callId (k + 1) ∈ (numbered lib 0 c.calls).map ToolCallRequest.id :=
        (mem_numbered_id lib).mpr ⟨Nat.succ_pos k, by
          rw [GeminiChatContent.calls]; omega⟩
      rw [List.map_append, List.map_append] at hnodup
      exact List.disjoint_of_nodup_append hnodup (List.mem_map.mpr ⟨call, hcall, hk⟩)
        (List.mem_append_left _ hown)
    have hrest := ih (before ++ numbered lib 0 c.calls)
      (fun call hcall => by
        rcases List.mem_append.mp hcall with h | h
        · exact hbefore call h
        · exact numbered_id lib h)
      (by rwa [List.append_assoc])
      (fun turn hturn => hids turn (List.mem_append_right _ hturn))
    intro d hd
    rcases List.mem_cons.mp hd with rfl | hd
    · exact hfirst
    · exact hrest d hd

theorem toolTurns_of_no_responses (h : ∀ c ∈ contents, c.responses = [])
    (before : List ToolCallRequest) :
    toolTurns before (contents.flatMap (contentMessages lib)) = [] := by
  induction contents generalizing before with
  | nil => rfl
  | cons c cs ih =>
    have hnone : toolMessages lib 0 c.parts = [] := by
      rw [← List.length_eq_zero_iff, toolMessages_length, List.length_eq_zero_iff]
      exact h c List.mem_cons_self
    rw [List.flatMap_cons, toolTurns_contentMessages, hnone, List.map_nil, List.nil_append]
    exact ih (fun d hd => h d (List.mem_cons_of_mem _ hd)) _

end

theorem answered_of_mem {names : List String} {turns : List (Message × List ToolCallRequest)}
    (h : List.Forall₂ Answers names turns) : ∀ turn ∈ turns, ∃ name, Answers name turn := by
  induction h with
  | nil => nofun
  | @cons name turn names turns hfirst _ ih =>
    intro t ht
    rcases List.mem_cons.mp ht with rfl | ht
    · exact ⟨name, hfirst⟩
    · exact ih t ht

/-- Where `g` gives at most what `f` gives, and as much in total, it gives as much
everywhere. -/
theorem length_eq_of_flatMap {α β : Type} {f g : α → List β}
    (hle : ∀ x, (g x).length ≤ (f x).length) {l : List α}
    (h : (l.flatMap f).length ≤ (l.flatMap g).length) :
    ∀ x ∈ l, (g x).length = (f x).length := by
  have htotal : ∀ l : List α, (l.flatMap g).length ≤ (l.flatMap f).length := by
    intro l
    induction l with
    | nil => exact Nat.le_refl _
    | cons x l ih =>
      have := hle x
      simp only [List.flatMap_cons, List.length_append]
      omega
  induction l with
  | nil => nofun
  | cons y l ih =>
    have hy := hle y
    have hl := htotal l
    simp only [List.flatMap_cons, List.length_append] at h
    intro x hx
    rcases List.mem_cons.mp hx with rfl | hx
    · omega
    · exact ih (by omega) x hx

/-- What stands before the conversation: no call, and no part of it. -/
def IsSystem (system : List Message) : Prop := ∀ m ∈ system, m.role = "system" ∧ m.toolCalls = []

theorem converted_messages (lib : GeminiLib) (req : GeminiChatRequest) (info : Option RelayInfo) :
    ∃ system, IsSystem system ∧
      (geminiGenerateContentRequestToOpenAIChat lib req info).messages
        = system ++ req.contents.flatMap (contentMessages lib) := by
  simp only [geminiGenerateContentRequestToOpenAIChat, foldl_addContent, List.nil_append]
  split
  · exact ⟨[_], fun m hm => by rw [List.mem_singleton.mp hm]; exact ⟨rfl, rfl⟩, rfl⟩
  · exact ⟨[], nofun, rfl⟩

theorem toolTurns_system (h : IsSystem system) (ms : List Message) :
    toolTurns [] (system ++ ms) = toolTurns [] ms := by
  induction system with
  | nil => rfl
  | cons m system ih =>
    obtain ⟨hrole, hnone⟩ := h m List.mem_cons_self
    rw [List.cons_append, toolTurns, hrole, hnone, if_neg (by decide), List.append_nil]
    exact ih (fun x hx => h x (List.mem_cons_of_mem _ hx))

theorem linked_conversation_iff (lib : GeminiLib) (h : IsSystem system)
    (contents : List GeminiChatContent) :
    Linked contents (system ++ contents.flatMap (contentMessages lib)) ↔
      OneQuietCaller contents := by
  have hcalls : system.flatMap Message.toolCalls = [] :=
    List.flatMap_eq_nil_iff.mpr (fun m hm => (h m hm).2)
  have hids : ((system ++ contents.flatMap (contentMessages lib)).flatMap
      Message.toolCalls).map ToolCallRequest.id
      = ((contents.flatMap (contentMessages lib)).flatMap Message.toolCalls).map
        ToolCallRequest.id := by
    rw [List.flatMap_append, hcalls, List.nil_append]
  have htexts : system.flatMap shownTexts = [] :=
    List.flatMap_eq_nil_iff.mpr (fun m hm => by rw [shownTexts, if_pos (.inr (h m hm).1)])
  have hshown : (system ++ contents.flatMap (contentMessages lib)).flatMap shownTexts
      = contents.flatMap (fun c => if c.calls = [] then c.texts else []) := by
    rw [List.flatMap_append, htexts, List.nil_append, List.flatMap_assoc]
    simp only [contentMessages_texts]
  constructor
  · rintro ⟨hdistinct, hanswered, -, hsub⟩
    rw [hids] at hdistinct
    rw [toolTurns_system h] at hanswered
    refine ⟨(ids_nodup_iff lib _).mp hdistinct, ?_, ?_⟩
    · rw [hshown] at hsub
      have hle : ∀ c : GeminiChatContent,
          (if c.calls = [] then c.texts else []).length ≤ c.texts.length := by
        intro c
        split
        · exact Nat.le_refl _
        · exact Nat.zero_le _
      intro c hc hcaller
      have hlen := length_eq_of_flatMap hle hsub.length_le c hc
      rw [if_neg hcaller] at hlen
      exact List.eq_nil_of_length_eq_zero hlen.symm
    · refine no_responses_of_linked lib [] nofun hdistinct ?_
      intro turn hturn
      obtain ⟨name, call, hcall, hid, -⟩ := answered_of_mem hanswered turn hturn
      exact ⟨call, hcall, hid⟩
  · rintro ⟨hsingle, hquiet, hunanswered⟩
    have hresponses : contents.flatMap GeminiChatContent.responses = [] :=
      List.flatMap_eq_nil_iff.mpr hunanswered
    have hnone : toolTurns [] (system ++ contents.flatMap (contentMessages lib)) = [] := by
      rw [toolTurns_system h]
      exact toolTurns_of_no_responses lib hunanswered []
    refine ⟨?_, ?_, fun _ => ?_, ?_⟩
    · rw [hids]
      exact (ids_nodup_iff lib _).mpr hsingle
    · rw [hresponses, hnone]
      exact .nil
    · rw [hnone]
      exact .nil
    · rw [hshown]
      have hsame : contents.flatMap GeminiChatContent.texts
          = contents.flatMap (fun c => if c.calls = [] then c.texts else []) := by
        refine List.flatMap_congr (fun c hc => ?_)
        split
        · rfl
        · rename_i hcaller
          exact hquiet c hc hcaller
      rw [hsame]

/-- **Tool results are linked to their calls** exactly when at most one entry calls
functions, that entry has no text, and nothing is answered. -/
theorem linked_iff (lib : GeminiLib) (req : GeminiChatRequest) (info : Option RelayInfo) :
    Linked req.contents (geminiGenerateContentRequestToOpenAIChat lib req info).messages ↔
      OneQuietCaller req.contents := by
  obtain ⟨system, hsystem, hmessages⟩ := converted_messages lib req info
  rw [hmessages]
  exact linked_conversation_iff lib hsystem req.contents

/-! ## The usual exchange -/

/-- A question, the call it leads to, and the function's response. -/
def weatherContents : List GeminiChatContent :=
  [⟨"user", [{ text := "weather?" }]⟩,
    ⟨"model", [{ functionCall := some ⟨"weather", .obj []⟩ }]⟩,
    ⟨"user", [{ functionResponse := some ⟨"weather", .obj []⟩ }]⟩]

/-- Its tool message carries `call_0`. -/
theorem weather_unlinked :
    ¬ ∀ (lib : GeminiLib) (req : GeminiChatRequest) (info : Option RelayInfo),
      FollowsCalls [] (req.contents.flatMap GeminiChatContent.parts) →
      Linked req.contents (geminiGenerateContentRequestToOpenAIChat lib req info).messages := by
  intro h
  have hfollows : FollowsCalls [] (weatherContents.flatMap GeminiChatContent.parts) :=
    ⟨List.mem_singleton_self _, trivial⟩
  have hlinked := h ⟨⟨fun _ => "{}", id, fun _ => "", fun _ => ""⟩, fun _ => none⟩
    { contents := weatherContents } none hfollows
  obtain ⟨system, hsystem, hmessages⟩ := converted_messages _ { contents := weatherContents } none
  rw [hmessages] at hlinked
  have hnone := ((linked_conversation_iff _ hsystem _).mp hlinked).unanswered _
    (List.mem_cons_of_mem _ (List.mem_cons_of_mem _ List.mem_cons_self))
  cases hnone

end YouBox.GeminiChat
