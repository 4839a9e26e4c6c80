import YouBox.ClaudeConversation
import YouBox.ClaudeToOpenAI

/-!
# A Claude conversation in the chat format

What `ClaudeMessagesRequestToOpenAIChat` keeps of a conversation whose messages
are texts or lists of text, tool use and tool result blocks. The blocks of one
message are sorted by kind, and a text is left out where there is a call, so
`BlocksKept` asks for the results first and for texts or calls, not both.

A message only ever loses texts, and only ever gains the result that a message
in the role of a tool is read as; so all messages together come through exactly
where each of them does (`flatMap_eq_iff`, `claude_kept_iff`).
-/

namespace YouBox.ClaudeChat

open Responses

/-! ## Lists made item by item -/

variable {α : Type}

theorem flatMap_eq_iff_of_length {β : Type} {f g : α → List β} {l : List α}
    (h : ∀ x ∈ l, (f x).length = (g x).length) :
    l.flatMap f = l.flatMap g ↔ ∀ x ∈ l, f x = g x := by
  induction l with
  | nil => exact ⟨fun _ => nofun, fun _ => rfl⟩
  | cons x rest ih =>
    obtain ⟨hx, hrest⟩ := List.forall_mem_cons.mp h
    rw [List.flatMap_cons, List.flatMap_cons, List.forall_mem_cons, ← ih hrest]
    exact ⟨fun heq => List.append_inj heq hx, fun ⟨hhead, htail⟩ => by rw [hhead, htail]⟩

/-- Where one side never has fewer items of a kind and the other never fewer of
the rest, the lists agree only item by item. -/
theorem flatMap_eq_iff {β : Type} {f g : α → List β} {l : List α} (p : β → Bool)
    (hmore : ∀ x ∈ l, (g x).countP p ≤ (f x).countP p)
    (hless : ∀ x ∈ l, (f x).countP (!p ·) ≤ (g x).countP (!p ·)) :
    l.flatMap f = l.flatMap g ↔ ∀ x ∈ l, f x = g x := by
  have hlength : ∀ l : List β, l.length = l.countP p + l.countP (!p ·) := fun l => by
    simpa only [Bool.not_eq_true, Bool.decide_eq_false] using List.length_eq_countP_add_countP p
  constructor
  · intro heq
    have hp : ∀ x ∈ l, (f x).countP p ≤ (g x).countP p := by
      refine le_of_sum_le hmore (le_of_eq ?_)
      have := congrArg (List.countP p) heq
      rwa [List.countP_flatMap, List.countP_flatMap] at this
    have hnot : ∀ x ∈ l, (g x).countP (!p ·) ≤ (f x).countP (!p ·) := by
      refine le_of_sum_le hless (le_of_eq ?_)
      have := congrArg (List.countP (!p ·)) heq.symm
      rwa [List.countP_flatMap, List.countP_flatMap] at this
    refine (flatMap_eq_iff_of_length fun x hx => ?_).mp heq
    have := hmore x hx
    have := hless x hx
    have := hp x hx
    have := hnot x hx
    rw [hlength, hlength]
    omega
  · exact fun h => List.flatMap_congr h

theorem filter_append_filter_iff (p : α → Bool) (l : List α) :
    l = l.filter p ++ l.filter (!p ·) ↔ l.Pairwise fun a b => p b = true → p a = true := by
  constructor
  · intro h
    rw [h, List.pairwise_append]
    refine ⟨?_, ?_, ?_⟩
    · exact List.pairwise_of_forall_mem_list fun a ha b _ _ => (List.mem_filter.mp ha).2
    · refine List.pairwise_of_forall_mem_list fun a _ b hb hp => ?_
      have := (List.mem_filter.mp hb).2
      rw [hp] at this
      cases this
    · exact fun a ha b _ _ => (List.mem_filter.mp ha).2
  · intro h
    induction l with
    | nil => rfl
    | cons a rest ih =>
      obtain ⟨hfirst, hrest⟩ := List.pairwise_cons.mp h
      cases ha : p a with
      | true =>
        rw [List.filter_cons_of_pos ha, List.filter_cons_of_neg (by rw [ha]; exact nofun),
          List.cons_append, ← ih hrest]
      | false =>
        have hnone : ∀ b ∈ rest, ¬ p b = true := fun b hb hp => by
          rw [hfirst b hb hp] at ha
          cases ha
        rw [List.filter_cons_of_neg (by rw [ha]; exact nofun),
          List.filter_eq_nil_iff.mpr hnone, List.nil_append,
          List.filter_eq_self.mpr]
        refine List.forall_mem_cons.mpr ⟨by rw [ha]; rfl, fun b hb => ?_⟩
        rw [Bool.eq_false_iff.mpr (hnone b hb)]
        rfl

/-! ## What is said -/

/-- `content` is what a tool message says, `none` where it has no text. -/
inductive Utterance where
  | text (s : String)
  | call (id name arguments : String)
  | result (callId : String) (content : Option String)

def Utterance.isResult : Utterance → Bool
  | .result _ _ => true
  | _ => false

section

variable (lib : Lib)

/-- The content of a tool result as text: a string, or the JSON of its blocks. -/
def resultContent (b : ClaudeMediaMessage) : Option String :=
  if b.content.isString then some b.content.stringValue
  else
    match parseMediaContent lib b with
    | .ok blocks => some (lib.marshalBlocks blocks)
    | .error _ => none

def blockSays (b : ClaudeMediaMessage) : List Utterance :=
  if b.type = "text" then if b.getText = "" then [] else [.text b.getText]
  else if b.type = "tool_use" then [.call b.id b.name (lib.marshal b.input)]
  else if b.type = "tool_result" then [.result b.toolUseId (resultContent lib b)]
  else []

/-- The blocks of a content that is no string. -/
def ClaudeMessage.parsed (m : ClaudeMessage) : List ClaudeMediaMessage :=
  (blocksOrNil (parseBlocks lib m.content)).getD []

def ClaudeMessage.utterances (m : ClaudeMessage) : List Utterance :=
  if m.content.isString then
    if m.content.stringValue = "" then [] else [.text m.content.stringValue]
  else (m.parsed lib).flatMap (blockSays lib)

def mediaSays (m : MediaContent) : List Utterance :=
  match m.part with
  | .text s => if s = "" then [] else [.text s]
  | _ => []

def AnyOf.text? {α : Type} : AnyOf α → Option String
  | .json (.str s) => some s
  | _ => none

def ToolCallRequest.utterance (call : ToolCallRequest) : Utterance :=
  .call call.id call.function.name call.function.arguments

def Message.utterances (m : Message) : List Utterance :=
  (if m.role = "tool" then [.result m.toolCallId m.content.text?]
    else m.parseContent.flatMap mediaSays) ++ (m.toolCalls.getD []).map ToolCallRequest.utterance

/-- Content that is a string, or a list of these blocks. -/
def Talks (m : ClaudeMessage) : Prop :=
  m.content.isString = true ∨ ∃ blocks, parseBlocks lib m.content = .ok blocks ∧
    ∀ b ∈ blocks.getD [], b.type ∈ ["text", "tool_use", "tool_result"]

/-! ## What is lost -/

def Speaks (b : ClaudeMediaMessage) : Prop :=
  b.type = "tool_use" ∨ b.type = "text" ∧ b.getText ≠ ""

instance (b : ClaudeMediaMessage) : Decidable (Speaks b) :=
  inferInstanceAs (Decidable (b.type = "tool_use" ∨ b.type = "text" ∧ b.getText ≠ ""))

/-- The blocks of a message come through: every result has a content that can be
read and stands before the texts and calls, there are not texts and calls both,
and nothing but results is said in the role of a tool. -/
structure BlocksKept (role : String) (blocks : List ClaudeMediaMessage) : Prop where
  results : ∀ b ∈ blocks, b.type = "tool_result" → (resultContent lib b).isSome = true
  first : blocks.Pairwise fun a b => b.type = "tool_result" → ¬ Speaks a
  apart : (∃ b ∈ blocks, b.type = "tool_use") → ∀ b ∈ blocks, b.type = "text" → b.getText = ""
  role : role = "tool" → ∀ b ∈ blocks, b.type = "tool_result"

instance (role : String) (blocks : List ClaudeMediaMessage) :
    Decidable (BlocksKept lib role blocks) :=
  decidable_of_iff
    ((∀ b ∈ blocks, b.type = "tool_result" → (resultContent lib b).isSome = true) ∧
      blocks.Pairwise (fun a b => b.type = "tool_result" → ¬ Speaks a) ∧
      ((∃ b ∈ blocks, b.type = "tool_use") →
        ∀ b ∈ blocks, b.type = "text" → b.getText = "") ∧
      (role = "tool" → ∀ b ∈ blocks, b.type = "tool_result"))
    ⟨fun ⟨hresults, hfirst, hapart, hrole⟩ => ⟨hresults, hfirst, hapart, hrole⟩,
      fun h => ⟨h.results, h.first, h.apart, h.role⟩⟩

def MessageKept (m : ClaudeMessage) : Prop :=
  if m.content.isString then m.role ≠ "tool" else BlocksKept lib m.role (m.parsed lib)

instance (m : ClaudeMessage) : Decidable (MessageKept lib m) :=
  inferInstanceAs (Decidable
    (if m.content.isString then m.role ≠ "tool" else BlocksKept lib m.role (m.parsed lib)))

/-! ## The blocks of a message -/

/-- The three ways a block can go. -/
def resultPart (messages : List ClaudeMessage) (b : ClaudeMediaMessage) : List Message :=
  if b.type = "tool_result" then [toolMessage lib messages b] else []

def textPartOf (b : ClaudeMediaMessage) : List MediaContent :=
  if b.type = "text" then [textMedia b] else []

def callPart (b : ClaudeMediaMessage) : List ToolCallRequest :=
  if b.type = "tool_use" then [toolCallOf lib b] else []

variable {lib}

variable {b : ClaudeMediaMessage} {blocks : List ClaudeMediaMessage} {u : Utterance}
  {m : ClaudeMessage}

theorem block_cases (hb : b.type ∈ ["text", "tool_use", "tool_result"]) :
    b.type = "text" ∨ b.type = "tool_use" ∨ b.type = "tool_result" := by
  simpa only [List.mem_cons, List.not_mem_nil, or_false] using hb

theorem addBlock_parts (messages : List ClaudeMessage) (parts : Parts)
    (hb : b.type ∈ ["text", "tool_use", "tool_result"]) :
    addBlock lib messages parts b = .ok
      { toolMessages := parts.toolMessages ++ resultPart lib messages b
        mediaMessages := parts.mediaMessages ++ textPartOf b
        toolCalls := parts.toolCalls ++ callPart lib b } := by
  unfold addBlock resultPart textPartOf callPart
  rcases block_cases hb with h | h | h <;> simp [h]

theorem addBlocks_parts (messages : List ClaudeMessage)
    (hblocks : ∀ b ∈ blocks, b.type ∈ ["text", "tool_use", "tool_result"]) (parts : Parts) :
    blocks.foldlM (addBlock lib messages) parts = .ok
      { toolMessages := parts.toolMessages ++ blocks.flatMap (resultPart lib messages)
        mediaMessages := parts.mediaMessages ++ blocks.flatMap textPartOf
        toolCalls := parts.toolCalls ++ blocks.flatMap (callPart lib) } := by
  induction blocks generalizing parts with
  | nil => simp only [List.foldlM_nil, List.flatMap_nil, List.append_nil]; rfl
  | cons b rest ih =>
    obtain ⟨hb, hrest⟩ := List.forall_mem_cons.mp hblocks
    rw [List.foldlM_cons, addBlock_parts messages parts hb]
    refine (ih hrest _).trans ?_
    simp only [List.flatMap_cons, List.append_assoc]

theorem resultContent_of_isSome (h : (resultContent lib b).isSome = true) :
    resultContent lib b = some (toolResultText lib b) := by
  unfold resultContent toolResultText at *
  cases hstring : b.content.isString with
  | true => rw [if_pos rfl, if_pos rfl]
  | false =>
    rw [hstring, if_neg Bool.false_ne_true] at h
    rw [if_neg Bool.false_ne_true, if_neg Bool.false_ne_true]
    cases hparse : parseMediaContent lib b with
    | ok blocks => rfl
    | error e =>
      rw [hparse] at h
      cases h

/-- What a block says, kind by kind; `content` is what a result is read as. -/
def resultSays (content : ClaudeMediaMessage → Option String) (b : ClaudeMediaMessage) :
    List Utterance :=
  if b.type = "tool_result" then [.result b.toolUseId (content b)] else []

def textSays (b : ClaudeMediaMessage) : List Utterance :=
  if b.type = "text" then if b.getText = "" then [] else [.text b.getText] else []

variable (lib) in
def callSays (b : ClaudeMediaMessage) : List Utterance :=
  if b.type = "tool_use" then [.call b.id b.name (lib.marshal b.input)] else []

theorem resultPart_says (messages : List ClaudeMessage) (b : ClaudeMediaMessage) :
    (resultPart lib messages b).flatMap Message.utterances =
      resultSays (fun b => some (toolResultText lib b)) b := by
  unfold resultPart resultSays
  split
  · exact List.flatMap_singleton _ _
  · rfl

theorem textPart_says (b : ClaudeMediaMessage) : (textPartOf b).flatMap mediaSays = textSays b := by
  unfold textPartOf textSays
  split
  · exact List.flatMap_singleton _ _
  · rfl

theorem callPart_says (b : ClaudeMediaMessage) :
    (callPart lib b).map ToolCallRequest.utterance = callSays lib b := by
  unfold callPart callSays
  split <;> rfl

variable {content : ClaudeMediaMessage → Option String} {role : String}

theorem messageOf_says (hrole : role ≠ "tool") (parts : Parts) :
    (unlessEmpty (messageOf role parts)).flatMap Message.utterances =
      (if parts.toolCalls = [] then parts.mediaMessages.flatMap mediaSays else []) ++
        parts.toolCalls.map ToolCallRequest.utterance := by
  unfold unlessEmpty messageOf
  by_cases hcalls : parts.toolCalls = []
  · by_cases hmedia : parts.mediaMessages = []
    · simp [hcalls, hmedia, Message.parseContent]
    · simp [hcalls, hmedia, Message.parseContent, Message.utterances, hrole]
  · simp [hcalls, Message.parseContent, Message.utterances, hrole]

theorem messageOf_tool_says (parts : Parts) :
    (unlessEmpty (messageOf "tool" parts)).flatMap Message.utterances =
      if parts.mediaMessages = [] ∧ parts.toolCalls = [] then []
      else .result "" none :: parts.toolCalls.map ToolCallRequest.utterance := by
  unfold unlessEmpty messageOf
  by_cases hcalls : parts.toolCalls = []
  · by_cases hmedia : parts.mediaMessages = []
    · simp [hcalls, hmedia, Message.parseContent]
    · simp [hcalls, hmedia, Message.parseContent, Message.utterances, AnyOf.text?]
  · simp [hcalls, Message.parseContent, Message.utterances, AnyOf.text?]

theorem blockSays_eq (b : ClaudeMediaMessage) :
    blockSays lib b = resultSays (resultContent lib) b ++ (textSays b ++ callSays lib b) := by
  unfold blockSays resultSays textSays callSays
  by_cases htext : b.type = "text"
  · simp [htext]
  · by_cases hcall : b.type = "tool_use"
    · simp [hcall]
    · by_cases hresult : b.type = "tool_result"
      · simp [hresult]
      · simp [htext, hcall, hresult]

theorem isResult_of_resultSays (h : u ∈ resultSays content b) :
    u.isResult = true ∧ b.type = "tool_result" := by
  unfold resultSays at h
  split at h
  · rename_i htype
    rw [List.mem_singleton.mp h]
    exact ⟨rfl, htype⟩
  · cases h

theorem not_isResult_of_speech (h : u ∈ textSays b ++ callSays lib b) :
    u.isResult = false ∧ Speaks b := by
  unfold textSays callSays at h
  rcases List.mem_append.mp h with h | h
  · split at h
    · rename_i htype
      split at h
      · cases h
      · rename_i hne
        rw [List.mem_singleton.mp h]
        exact ⟨rfl, .inr ⟨htype, hne⟩⟩
    · cases h
  · split at h
    · rename_i htype
      rw [List.mem_singleton.mp h]
      exact ⟨rfl, .inl htype⟩
    · cases h

variable (lib) in
theorem exists_result (h : b.type = "tool_result") :
    ∃ u ∈ blockSays lib b, u.isResult = true := by
  refine ⟨.result b.toolUseId (resultContent lib b), ?_, rfl⟩
  rw [blockSays_eq, resultSays, if_pos h]
  exact List.mem_append_left _ List.mem_cons_self

variable (lib) in
theorem exists_speech (h : Speaks b) :
    ∃ u ∈ blockSays lib b, u.isResult = false := by
  rcases h with hcall | ⟨htext, hne⟩
  · refine ⟨.call b.id b.name (lib.marshal b.input), ?_, rfl⟩
    rw [blockSays_eq, callSays, if_pos hcall]
    exact List.mem_append_right _ (List.mem_append_right _ List.mem_cons_self)
  · refine ⟨.text b.getText, ?_, rfl⟩
    rw [blockSays_eq, textSays, if_pos htext, if_neg hne]
    exact List.mem_append_right _ (List.mem_append_left _ List.mem_cons_self)

variable (lib) in
theorem results_first_iff (blocks : List ClaudeMediaMessage) :
    ((blocks.flatMap (blockSays lib)).Pairwise fun u v => v.isResult = true → u.isResult = true) ↔
      blocks.Pairwise fun a b => b.type = "tool_result" → ¬ Speaks a := by
  have hsingle : ∀ b : ClaudeMediaMessage, (blockSays lib b).Pairwise
      fun u v => v.isResult = true → u.isResult = true := fun b => by
    unfold blockSays
    split_ifs <;> simp
  rw [List.pairwise_flatMap]
  constructor
  · refine fun h => h.2.imp fun {a b} hab htype hspeaks => ?_
    obtain ⟨u, hu, hresult⟩ := exists_result lib htype
    obtain ⟨v, hv, hspeech⟩ := exists_speech lib hspeaks
    rw [hab v hv u hu hresult] at hspeech
    cases hspeech
  · refine fun h => ⟨fun b _ => hsingle b, h.imp fun {a b} hab u hu v hv hresult => ?_⟩
    rw [blockSays_eq] at hu hv
    rcases List.mem_append.mp hu with hu | hu
    · exact (isResult_of_resultSays hu).1
    · rcases List.mem_append.mp hv with hv | hv
      · exact absurd (not_isResult_of_speech hu).2 (hab (isResult_of_resultSays hv).2)
      · rw [(not_isResult_of_speech hv).1] at hresult
        cases hresult

theorem filter_results (blocks : List ClaudeMediaMessage) :
    (blocks.flatMap (blockSays lib)).filter Utterance.isResult =
      blocks.flatMap (resultSays (resultContent lib)) := by
  rw [List.filter_flatMap]
  refine List.flatMap_congr fun b _ => ?_
  rw [blockSays_eq, List.filter_append,
    List.filter_eq_self.mpr fun u hu => (isResult_of_resultSays hu).1,
    List.filter_eq_nil_iff.mpr fun u hu => by
      rw [(not_isResult_of_speech hu).1]
      exact Bool.false_ne_true,
    List.append_nil]

theorem filter_speech (blocks : List ClaudeMediaMessage) :
    (blocks.flatMap (blockSays lib)).filter (!Utterance.isResult ·) =
      blocks.flatMap fun b => textSays b ++ callSays lib b := by
  rw [List.filter_flatMap]
  refine List.flatMap_congr fun b _ => ?_
  rw [blockSays_eq, List.filter_append,
    List.filter_eq_nil_iff.mpr fun u hu => by
      rw [(isResult_of_resultSays hu).1]
      exact Bool.false_ne_true,
    List.filter_eq_self.mpr fun u hu => by
      rw [(not_isResult_of_speech hu).1]
      rfl,
    List.nil_append]

/-! ## One message -/

variable (lib) in
/-- What the message behind the results says. -/
def speechSays (blocks : List ClaudeMediaMessage) : List Utterance :=
  (if blocks.flatMap (callPart lib) = [] then blocks.flatMap textSays else []) ++
    blocks.flatMap (callSays lib)

variable (lib) in
/-- What the chat messages made of the blocks of a message say. -/
def outSays (role : String) (blocks : List ClaudeMediaMessage) : List Utterance :=
  blocks.flatMap (resultSays fun b => some (toolResultText lib b)) ++
    if role = "tool" then
      if blocks.flatMap textPartOf = [] ∧ blocks.flatMap (callPart lib) = [] then []
      else .result "" none :: blocks.flatMap (callSays lib)
    else speechSays lib blocks

theorem results_read_iff (blocks : List ClaudeMediaMessage) :
    blocks.flatMap (resultSays (resultContent lib)) =
        blocks.flatMap (resultSays fun b => some (toolResultText lib b)) ↔
      ∀ b ∈ blocks, b.type = "tool_result" → (resultContent lib b).isSome = true := by
  rw [flatMap_eq_iff_of_length fun b _ => by unfold resultSays; split <;> rfl]
  refine forall₂_congr fun b _ => ?_
  unfold resultSays
  constructor
  · intro h htype
    rw [if_pos htype, if_pos htype] at h
    injection h with h
    injection h with _ h
    rw [h]
    rfl
  · intro h
    split
    · rename_i htype
      rw [resultContent_of_isSome (h htype)]
    · rfl

theorem callPart_nil_iff (blocks : List ClaudeMediaMessage) :
    blocks.flatMap (callPart lib) = [] ↔ ¬ ∃ b ∈ blocks, b.type = "tool_use" := by
  rw [List.flatMap_eq_nil_iff, not_exists]
  refine forall_congr' fun b => ?_
  rw [not_and]
  refine imp_congr_right fun _ => ?_
  unfold callPart
  split
  · rename_i h
    exact ⟨fun hnil => (List.cons_ne_nil _ _ hnil).elim, fun hnot => absurd h hnot⟩
  · rename_i h
    exact ⟨fun _ => h, fun _ => rfl⟩

theorem callSays_nil (h : blocks.flatMap (callPart lib) = []) :
    ∀ b ∈ blocks, callSays lib b = [] := fun b hb => by
  rw [← callPart_says, List.flatMap_eq_nil_iff.mp h b hb]
  rfl

theorem speech_kept_iff (blocks : List ClaudeMediaMessage) :
    (blocks.flatMap fun b => textSays b ++ callSays lib b) = speechSays lib blocks ↔
      ((∃ b ∈ blocks, b.type = "tool_use") → ∀ b ∈ blocks, b.type = "text" → b.getText = "") := by
  unfold speechSays
  by_cases hcalls : blocks.flatMap (callPart lib) = []
  · have hnil := callSays_nil hcalls
    rw [if_pos hcalls, List.flatMap_eq_nil_iff.mpr hnil, List.append_nil]
    refine ⟨fun _ huse => absurd huse ((callPart_nil_iff blocks).mp hcalls), fun _ => ?_⟩
    exact List.flatMap_congr fun b hb => by rw [hnil b hb, List.append_nil]
  · rw [if_neg hcalls, List.nil_append]
    have huse : ∃ b ∈ blocks, b.type = "tool_use" :=
      not_not.mp fun h => hcalls ((callPart_nil_iff blocks).mpr h)
    rw [imp_iff_right huse, flatMap_eq_iff (fun _ => true)]
    · refine forall₂_congr fun b _ => ?_
      rw [List.append_left_eq_self]
      unfold textSays
      split
      · rename_i htype
        split
        · rename_i hempty
          exact ⟨fun _ _ => hempty, fun _ => rfl⟩
        · rename_i hne
          exact ⟨fun h => (List.cons_ne_nil _ _ h).elim, fun h => absurd (h htype) hne⟩
      · rename_i htype
        exact ⟨fun _ h => absurd h htype, fun _ => rfl⟩
    · intro b _
      rw [List.countP_append]
      exact Nat.le_add_left _ _
    · intro b _
      have hzero : (textSays b ++ callSays lib b).countP (fun _ => !true) = 0 :=
        List.countP_eq_zero.mpr fun _ _ => Bool.false_ne_true
      exact hzero.trans_le (Nat.zero_le _)

theorem not_isResult_of_speechSays (h : u ∈ speechSays lib blocks) : u.isResult = false := by
  unfold speechSays at h
  rcases List.mem_append.mp h with h | h
  · split at h
    · obtain ⟨b, -, hu⟩ := List.mem_flatMap.mp h
      exact (not_isResult_of_speech (List.mem_append_left (callSays lib b) hu)).1
    · cases h
  · obtain ⟨b, -, hu⟩ := List.mem_flatMap.mp h
    exact (not_isResult_of_speech (List.mem_append_right (textSays b) hu)).1

theorem isResult_of_results (h : u ∈ blocks.flatMap (resultSays content)) : u.isResult = true := by
  obtain ⟨b, -, hu⟩ := List.mem_flatMap.mp h
  exact (isResult_of_resultSays hu).1

theorem says_eq_iff (hrole : role ≠ "tool") (blocks : List ClaudeMediaMessage) :
    blocks.flatMap (blockSays lib) = outSays lib role blocks ↔ BlocksKept lib role blocks := by
  rw [outSays, if_neg hrole]
  constructor
  · intro h
    have hresults : (blocks.flatMap (blockSays lib)).filter Utterance.isResult =
        blocks.flatMap (resultSays fun b => some (toolResultText lib b)) := by
      rw [h, List.filter_append, List.filter_eq_self.mpr fun u hu => isResult_of_results hu,
        List.filter_eq_nil_iff.mpr fun u hu => by
          rw [not_isResult_of_speechSays hu]
          exact Bool.false_ne_true,
        List.append_nil]
    have hspeech : (blocks.flatMap (blockSays lib)).filter (!Utterance.isResult ·) =
        speechSays lib blocks := by
      rw [h, List.filter_append,
        List.filter_eq_nil_iff.mpr fun u hu => by
          rw [isResult_of_results hu]
          exact Bool.false_ne_true,
        List.filter_eq_self.mpr fun u hu => by
          rw [not_isResult_of_speechSays hu]
          rfl,
        List.nil_append]
    refine ⟨?_, ?_, ?_, fun h => absurd h hrole⟩
    · rw [filter_results] at hresults
      exact (results_read_iff blocks).mp hresults
    · rw [← results_first_iff lib, ← filter_append_filter_iff, hresults, hspeech]
      exact h
    · rw [filter_speech] at hspeech
      exact (speech_kept_iff blocks).mp hspeech
  · intro h
    have hfirst := (results_first_iff lib blocks).mpr h.first
    rw [(filter_append_filter_iff Utterance.isResult _).mpr hfirst, filter_results, filter_speech,
      (results_read_iff blocks).mpr h.results, (speech_kept_iff blocks).mpr h.apart]

theorem count_results (blocks : List ClaudeMediaMessage) :
    (blocks.flatMap (blockSays lib)).countP Utterance.isResult =
      (blocks.flatMap (resultSays fun b => some (toolResultText lib b))).length := by
  rw [List.countP_eq_length_filter, filter_results, List.length_flatMap, List.length_flatMap]
  congr 1
  refine List.map_congr_left fun b _ => ?_
  unfold resultSays
  split <;> rfl

theorem tool_says_eq_iff (htypes : ∀ b ∈ blocks, b.type ∈ ["text", "tool_use", "tool_result"]) :
    blocks.flatMap (blockSays lib) = outSays lib "tool" blocks ↔ BlocksKept lib "tool" blocks := by
  rw [outSays, if_pos rfl]
  by_cases hnil : blocks.flatMap textPartOf = [] ∧ blocks.flatMap (callPart lib) = []
  · have hresults : ∀ b ∈ blocks, b.type = "tool_result" := fun b hb => by
      rcases block_cases (htypes b hb) with htext | hcall | hresult
      · have := List.flatMap_eq_nil_iff.mp hnil.1 b hb
        rw [textPartOf, if_pos htext] at this
        cases this
      · have := List.flatMap_eq_nil_iff.mp hnil.2 b hb
        rw [callPart, if_pos hcall] at this
        cases this
      · exact hresult
    have hsilent : ∀ b ∈ blocks, ¬ Speaks b := fun b hb hspeaks => by
      rcases hspeaks with h | ⟨h, -⟩
      · exact absurd ((hresults b hb).symm.trans h) (by decide)
      · exact absurd ((hresults b hb).symm.trans h) (by decide)
    have hsaid : blocks.flatMap (blockSays lib) =
        blocks.flatMap (resultSays (resultContent lib)) :=
      List.flatMap_congr fun b hb => by
        unfold blockSays resultSays
        simp [hresults b hb]
    rw [if_pos hnil, List.append_nil, hsaid, results_read_iff]
    refine ⟨fun h => ⟨h, ?_, ?_, fun _ => hresults⟩, fun h => h.results⟩
    · exact List.pairwise_of_forall_mem_list fun a ha b _ _ => hsilent a ha
    · rintro ⟨b, hb, hcall⟩
      exact absurd (.inl hcall) (hsilent b hb)
  · rw [if_neg hnil]
    constructor
    · intro h
      have hcount := congrArg (List.countP Utterance.isResult) h
      rw [count_results, List.countP_append,
        List.countP_eq_length.mpr fun u hu => isResult_of_results hu, List.countP_cons] at hcount
      simp only [Utterance.isResult, if_true] at hcount
      omega
    · intro h
      refine absurd ⟨?_, ?_⟩ hnil <;> refine List.flatMap_eq_nil_iff.mpr fun b hb => ?_
      · rw [textPartOf, if_neg]
        rw [h.role rfl b hb]
        decide
      · rw [callPart, if_neg]
        rw [h.role rfl b hb]
        decide

theorem count_results_le (role : String) (blocks : List ClaudeMediaMessage) :
    (blocks.flatMap (blockSays lib)).countP Utterance.isResult ≤
      (outSays lib role blocks).countP Utterance.isResult := by
  rw [count_results, outSays, List.countP_append,
    List.countP_eq_length.mpr fun u hu => isResult_of_results hu]
  exact Nat.le_add_right _ _

theorem count_speech_le (role : String) (blocks : List ClaudeMediaMessage) :
    (outSays lib role blocks).countP (!Utterance.isResult ·) ≤
      (blocks.flatMap (blockSays lib)).countP (!Utterance.isResult ·) := by
  have hcalls : (blocks.flatMap (callSays lib)).length ≤
      (blocks.flatMap fun b => textSays b ++ callSays lib b).length := by
    rw [List.length_flatMap, List.length_flatMap]
    refine List.sum_le_sum fun b _ => ?_
    rw [List.length_append]
    exact Nat.le_add_left _ _
  have hresults : (blocks.flatMap (resultSays fun b => some (toolResultText lib b))).countP
      (!Utterance.isResult ·) = 0 :=
    List.countP_eq_zero.mpr fun u hu => by
      rw [isResult_of_results hu]
      exact Bool.false_ne_true
  rw [outSays, List.countP_append, hresults, Nat.zero_add,
    List.countP_eq_length_filter (l := blocks.flatMap _), filter_speech]
  split
  · split
    · exact Nat.zero_le _
    · rw [List.countP_cons_of_neg Bool.false_ne_true]
      exact List.countP_le_length.trans hcalls
  · refine List.countP_le_length.trans ?_
    unfold speechSays
    split
    · rename_i hnil
      rw [List.flatMap_eq_nil_iff.mpr (callSays_nil hnil), List.append_nil, List.length_flatMap,
        List.length_flatMap]
      refine List.sum_le_sum fun b _ => ?_
      rw [List.length_append]
      exact Nat.le_add_right _ _
    · exact hcalls

theorem convertMessage_string (messages : List ClaudeMessage) {s : String}
    (hs : m.content = .json (.str s)) :
    convertMessage lib messages m = .ok [{ role := m.role, content := .json (.str s) }] := by
  unfold convertMessage
  rw [hs]
  exact congrArg Except.ok (if_pos (.inl (List.cons_ne_nil _ _)))

theorem convertMessage_blocks (messages : List ClaudeMessage) (hstring : m.content.isString = false)
    {blocks : Option (List ClaudeMediaMessage)} (hparse : parseBlocks lib m.content = .ok blocks)
    (htypes : ∀ b ∈ blocks.getD [], b.type ∈ ["text", "tool_use", "tool_result"]) :
    ∃ out, convertMessage lib messages m = .ok out ∧
      out.flatMap Message.utterances = outSays lib m.role (blocks.getD []) := by
  unfold convertMessage
  split
  · rename_i s hs
    rw [hs] at hstring
    cases hstring
  · rw [hparse]
    simp only [addBlocks_parts messages htypes {}, List.nil_append]
    generalize blocks.getD [] = bs
    refine ⟨_, rfl, ?_⟩
    have hcalls : (bs.flatMap (callPart lib)).map ToolCallRequest.utterance =
        bs.flatMap (callSays lib) := by
      rw [List.map_flatMap]
      exact List.flatMap_congr fun b _ => callPart_says b
    have htexts : (bs.flatMap textPartOf).flatMap mediaSays = bs.flatMap textSays := by
      rw [List.flatMap_assoc]
      exact List.flatMap_congr fun b _ => textPart_says b
    rw [List.flatMap_append, List.flatMap_assoc, outSays,
      List.flatMap_congr fun b _ => resultPart_says messages b]
    congr 1
    by_cases hrole : m.role = "tool"
    · rw [if_pos hrole, hrole, messageOf_tool_says, hcalls]
    · rw [if_neg hrole, messageOf_says hrole, hcalls, htexts, speechSays]

theorem convertMessage_spec (messages : List ClaudeMessage) (hm : Talks lib m) :
    ∃ out, convertMessage lib messages m = .ok out ∧
      (m.utterances lib = out.flatMap Message.utterances ↔ MessageKept lib m) ∧
      (m.utterances lib).countP Utterance.isResult ≤
        (out.flatMap Message.utterances).countP Utterance.isResult ∧
      (out.flatMap Message.utterances).countP (!Utterance.isResult ·) ≤
        (m.utterances lib).countP (!Utterance.isResult ·) := by
  unfold ClaudeMessage.utterances MessageKept
  cases hstring : m.content.isString with
  | true =>
    obtain ⟨s, hs⟩ := AnyOf.eq_str hstring
    refine ⟨_, convertMessage_string messages hs, ?_⟩
    rw [if_pos rfl, if_pos rfl, hs, List.flatMap_singleton, Message.utterances]
    show ((if s = "" then [] else [Utterance.text s]) = _ ↔ _) ∧ _
    by_cases hrole : m.role = "tool"
    · rw [if_pos hrole]
      refine ⟨⟨fun h => ?_, fun h => absurd hrole h⟩, ?_, ?_⟩
      · split at h <;> cases h
      · refine (List.countP_eq_zero.mpr fun u hu => ?_).trans_le (Nat.zero_le _)
        change u ∈ (if s = "" then [] else [Utterance.text s]) at hu
        split at hu
        · cases hu
        · rw [List.mem_singleton.mp hu]
          exact Bool.false_ne_true
      · exact Nat.zero_le _
    · rw [if_neg hrole]
      show (_ = (if s = "" then [] else [Utterance.text s]) ++ [] ++ [] ↔ _) ∧ _ ≤
        List.countP _ ((if s = "" then [] else [Utterance.text s]) ++ [] ++ []) ∧
        List.countP _ ((if s = "" then [] else [Utterance.text s]) ++ [] ++ []) ≤ _
      rw [List.append_nil, List.append_nil]
      exact ⟨⟨fun _ => hrole, fun _ => rfl⟩, le_rfl, le_rfl⟩
  | false =>
    obtain ⟨blocks, hparse, htypes⟩ := hm.resolve_left (by rw [hstring]; exact nofun)
    have hparsed : m.parsed lib = blocks.getD [] := by
      rw [ClaudeMessage.parsed, hparse]
      rfl
    obtain ⟨out, hout, hsaid⟩ := convertMessage_blocks messages hstring hparse htypes
    rw [if_neg Bool.false_ne_true, if_neg Bool.false_ne_true, hparsed]
    refine ⟨out, hout, ?_, ?_, ?_⟩
    · rw [hsaid]
      by_cases hrole : m.role = "tool"
      · rw [hrole]
        exact tool_says_eq_iff htypes
      · exact says_eq_iff hrole _
    · rw [hsaid]
      exact count_results_le m.role _
    · rw [hsaid]
      exact count_speech_le m.role _

end

/-! ## All messages -/

theorem convertMessages_spec (lib : Lib) (all : List ClaudeMessage) {messages : List ClaudeMessage}
    (hmessages : ∀ m ∈ messages, Talks lib m) :
    ∃ outs : ClaudeMessage → List Message,
      messages.mapM (convertMessage lib all) = .ok (messages.map outs) ∧
      ∀ m ∈ messages,
        (m.utterances lib = (outs m).flatMap Message.utterances ↔ MessageKept lib m) ∧
        (m.utterances lib).countP Utterance.isResult ≤
          ((outs m).flatMap Message.utterances).countP Utterance.isResult ∧
        ((outs m).flatMap Message.utterances).countP (!Utterance.isResult ·) ≤
          (m.utterances lib).countP (!Utterance.isResult ·) := by
  choose! outs hout hspec using fun m (hm : m ∈ messages) =>
    convertMessage_spec all (hmessages m hm)
  refine ⟨outs, ?_, hspec⟩
  clear hmessages hspec
  induction messages with
  | nil => rfl
  | cons m rest ih =>
    obtain ⟨hm, hrest⟩ := List.forall_mem_cons.mp hout
    rw [List.mapM_cons, hm, ih hrest]
    rfl

/-- The chat messages behind the system's say what the Claude messages say, in
their order. -/
def KeepsClaude (lib : Lib) (claude : ClaudeRequest) (info : Option RelayInfo)
    (req : GeneralOpenAIRequest) : Prop :=
  ∃ rest, req.messages = systemMessagesOf lib claude info ++ rest ∧
    claude.messages.flatMap (ClaudeMessage.utterances lib) = rest.flatMap Message.utterances

theorem applyRelayInfo_messages (lib : Lib) (claude : ClaudeRequest) (info : Option RelayInfo)
    (req : GeneralOpenAIRequest) :
    (applyRelayInfo lib claude info req).messages = req.messages := by
  unfold applyRelayInfo
  split
  · rfl
  · split
    · split <;> rfl
    · rfl

/-- A conversation comes through exactly where every message of it does. -/
theorem claude_kept_iff (lib : Lib) (claude : ClaudeRequest) (info : Option RelayInfo)
    (hmessages : ∀ m ∈ claude.messages, Talks lib m) :
    ∃ req, claudeMessagesRequestToOpenAIChat lib claude info = .ok req ∧
      (KeepsClaude lib claude info req ↔ ∀ m ∈ claude.messages, MessageKept lib m) := by
  obtain ⟨outs, houts, hspec⟩ := convertMessages_spec lib claude.messages hmessages
  refine ⟨_, by rw [claudeMessagesRequestToOpenAIChat, houts]; rfl, ?_⟩
  rw [KeepsClaude, applyRelayInfo_messages]
  have hrest : (∃ rest, systemMessagesOf lib claude info ++ (claude.messages.map outs).flatten =
        systemMessagesOf lib claude info ++ rest ∧
        claude.messages.flatMap (ClaudeMessage.utterances lib) = rest.flatMap Message.utterances) ↔
      claude.messages.flatMap (ClaudeMessage.utterances lib) =
        claude.messages.flatMap fun m => (outs m).flatMap Message.utterances := by
    rw [← List.flatMap_assoc, ← List.flatMap_def]
    constructor
    · rintro ⟨rest, heq, hsaid⟩
      rwa [List.append_cancel_left heq]
    · exact fun h => ⟨_, rfl, h⟩
  refine hrest.trans (Iff.trans ?_ (forall₂_congr fun m hm => (hspec m hm).1))
  constructor
  · exact (flatMap_eq_iff (!Utterance.isResult ·) (fun m hm => (hspec m hm).2.2)
      fun m hm => by simpa only [Bool.not_not] using (hspec m hm).2.1).mp
  · exact fun h => List.flatMap_congr h

/-! ## An agent at work -/

def decodeBlock : Json → Except String ClaudeMediaMessage
  | .obj fields => .ok
      { type := stringOr (fieldOf fields "type") ""
        text := (findField fields "text").map fun v => stringOr v ""
        id := stringOr (fieldOf fields "id") ""
        name := stringOr (fieldOf fields "name") ""
        input := fieldOf fields "input"
        content := .json (fieldOf fields "content")
        toolUseId := stringOr (fieldOf fields "tool_use_id") "" }
  | .null => .ok {}
  | _ => .error "json: cannot unmarshal into ClaudeMediaMessage"

/-- `plainLib` that can read blocks. -/
def blockLib : Lib :=
  { plainLib with
    unmarshalBlocks := fun v =>
      match v with
      | .arr items => (items.mapM decodeBlock).map some
      | .null => .ok none
      | _ => .error "json: cannot unmarshal into []ClaudeMediaMessage" }

def textJson (s : String) : Json := .obj [("type", .str "text"), ("text", .str s)]

def useJson : Json :=
  .obj [("type", .str "tool_use"), ("id", .str "t1"), ("name", .str "ls"), ("input", .obj [])]

def resultJson : Json :=
  .obj [("type", .str "tool_result"), ("tool_use_id", .str "t1"), ("content", .str "a.txt")]

/-- A question, what the assistant says to it, and the answer to its call. -/
def agentTalk (reply : List Json) : ClaudeRequest where
  model := "gpt-4o"
  messages :=
    [{ role := "user", content := .json (.str "list") },
      { role := "assistant", content := .json (.arr reply) },
      { role := "user", content := .json (.arr [resultJson, textJson "thanks"]) }]

theorem agentTalk_talks {reply : List Json} (hreply : ∃ blocks,
    blockLib.unmarshalBlocks (.arr reply) = .ok blocks ∧
      ∀ b ∈ blocks.getD [], b.type ∈ ["text", "tool_use", "tool_result"]) :
    ∀ m ∈ (agentTalk reply).messages, Talks blockLib m := by
  refine List.forall_mem_cons.mpr ⟨.inl rfl, List.forall_mem_cons.mpr ⟨.inr hreply, ?_⟩⟩
  exact List.forall_mem_singleton.mpr (.inr ⟨_, rfl, by decide⟩)

theorem agent_talk_kept :
    ∃ req, claudeMessagesRequestToOpenAIChat blockLib (agentTalk [useJson]) none = .ok req ∧
      KeepsClaude blockLib (agentTalk [useJson]) none req := by
  obtain ⟨req, hreq, hkeeps⟩ := claude_kept_iff blockLib (agentTalk [useJson]) none
    (agentTalk_talks ⟨_, rfl, by decide⟩)
  exact ⟨req, hreq, hkeeps.mpr (by decide)⟩

/-- What the assistant says next to its call is lost. -/
theorem text_lost :
    ¬ ∀ (lib : Lib) (claude : ClaudeRequest) (info : Option RelayInfo),
      (∀ m ∈ claude.messages, Talks lib m) →
      ∃ req, claudeMessagesRequestToOpenAIChat lib claude info = .ok req ∧
        KeepsClaude lib claude info req := by
  intro h
  obtain ⟨req, hreq, rest, hrest, hsaid⟩ := h blockLib (agentTalk [textJson "look", useJson]) none
    (agentTalk_talks ⟨_, rfl, by decide⟩)
  have hmessages : req.messages = rest := hrest
  have hlength : (req.messages.flatMap Message.utterances).length = 4 := by
    injection hreq with hreq
    rw [← hreq]
    rfl
  rw [hmessages, ← hsaid] at hlength
  exact absurd hlength (by decide)

end YouBox.ClaudeChat
