import YouBox.ChatReplies

/-!
# Claude replies, streamed or not

`StreamResponseClaude2OpenAI` turns one event of a Claude stream into a chunk,
`ResponseClaude2OpenAI` a whole message into a completion. The second assigns
where the first appends: of several text blocks it keeps the last, and of several
thinking blocks one.

`streamed_reply` says what a client has of the chunks, `whole_reply` what it has
of the completion, and `replies_agree_iff` when the two are the same.
-/

namespace YouBox.ClaudeReplies

open Responses (Json JsonLib)
open ChatReplies

/-! ## Claude messages and events -/

/-- `dto.ClaudeMediaMessage`: a block, a delta, or the message of a `message_start`. -/
structure ClaudeMediaMessage where
  type : String := ""
  id : String := ""
  name : String := ""
  model : String := ""
  input : Json := .null
  text : Option String := none
  thinking : Option String := none
  partialJson : Option String := none
  stopReason : Option String := none

def ClaudeMediaMessage.getText (m : ClaudeMediaMessage) : String := m.text.getD ""

/-- `dto.ClaudeResponse`: a message, or an event of a stream. -/
structure ClaudeResponse where
  id : String := ""
  type : String
  model : String := ""
  stopReason : String := ""
  content : List ClaudeMediaMessage := []
  index : Option Int := none
  contentBlock : Option ClaudeMediaMessage := none
  delta : Option ClaudeMediaMessage := none
  message : Option ClaudeMediaMessage := none

/-! ## The conversions -/

def stopReasonClaudeToOpenAI (stopReason : String) : String :=
  match stopReason.toLower with
  | "stop_sequence" => "stop"
  | "end_turn" => "stop"
  | "max_tokens" => "length"
  | "tool_use" => "tool_calls"
  | "refusal" => "content_filter"
  | _ => stopReason

/-- What an event gives: the choice with its tools apart and the identity of the
response, or no chunk. -/
def eventChoice (response : ClaudeResponse) :
    Except ClaudeChat.Failure (Option (StreamChunk × StreamChoice × List ToolCallResponse)) :=
  let chunk : StreamChunk := { model := response.model, choices := [] }
  let fcIdx := response.index.getD 0
  match response.type with
  | "message_start" =>
    let chunk := match response.message with
      | some m => { chunk with id := m.id, model := m.model }
      | none => chunk
    .ok (some (chunk, { delta := { role := "assistant", content := some "" } }, []))
  | "content_block_start" =>
    match response.contentBlock with
    | none => .ok none
    | some block =>
      let content := if block.type = "text" then block.text else none
      let tools := if block.type = "tool_use" then
          [{ index := some fcIdx, id := block.id, function := { name := block.name } }]
        else []
      .ok (some (chunk, { delta := { content } }, tools))
  | "content_block_delta" =>
    match response.delta with
    | none => .ok (some (chunk, {}, []))
    | some delta =>
      match delta.type with
      | "input_json_delta" =>
        match delta.partialJson with
        | none => .error (.panic "invalid memory address or nil pointer dereference")
        | some arguments =>
          .ok (some (chunk, { delta := { content := delta.text } },
            [{ index := some fcIdx, function := { arguments } }]))
      | "signature_delta" =>
        .ok (some (chunk,
          { delta := { content := delta.text, reasoningContent := some "\n" } }, []))
      | "thinking_delta" =>
        .ok (some (chunk,
          { delta := { content := delta.text, reasoningContent := delta.thinking } }, []))
      | _ => .ok (some (chunk, { delta := { content := delta.text } }, []))
  | "message_delta" =>
    let finishReason := (response.delta.bind (·.stopReason)).map stopReasonClaudeToOpenAI
    .ok (some (chunk, { finishReason := finishReason.filter (· ≠ "null") }, []))
  | _ => .ok none

def streamResponseClaude2OpenAI (response : ClaudeResponse) :
    Except ClaudeChat.Failure (Option StreamChunk) := do
  match ← eventChoice response with
  | none => .ok none
  | some (chunk, choice, tools) =>
    let choice := if tools = [] then choice
      else { choice with delta := { choice.delta with content := none, toolCalls := some tools } }
    .ok (some { chunk with choices := [choice] })

/-- The variables of the loop over the blocks. -/
structure Scan where
  responseText : String
  thinkingContent : String := ""
  tools : List ToolCallResponse := []

def scanBlock (lib : JsonLib) (s : Scan) (block : ClaudeMediaMessage) : Scan :=
  match block.type with
  | "tool_use" =>
    { s with tools := s.tools ++ [{
        id := block.id
        function := { name := block.name, arguments := lib.marshal block.input } }] }
  | "thinking" =>
    match block.thinking with
    | some thinking => { s with thinkingContent := thinking }
    | none => s
  | "text" => { s with responseText := block.getText }
  | _ => s

def responseClaude2OpenAI (lib : JsonLib) (response : ClaudeResponse) : TextResponse :=
  let first := response.content.head?
  let responseThinking := (first.bind (·.thinking)).getD ""
  let s := response.content.foldl (scanBlock lib)
    { responseText := (first.map (·.getText)).getD "" }
  { id := response.id
    model := response.model
    choices := [{
      content := s.responseText
      reasoningContent := if s.thinkingContent ≠ "" then some s.thinkingContent
        else if responseThinking ≠ "" then some responseThinking else none
      toolCalls := s.tools
      finishReason := stopReasonClaudeToOpenAI response.stopReason }] }

/-! ## A message and its streams -/

inductive Block where
  | text (s : String)
  | thinking (s : String)
  | toolUse (id name : String) (input : Json)

def Block.media : Block → ClaudeMediaMessage
  | .text s => { type := "text", text := some s }
  | .thinking s => { type := "thinking", thinking := some s }
  | .toolUse id name input => { type := "tool_use", id, name, input }

/-- A block as it is started, empty. -/
def Block.opened : Block → ClaudeMediaMessage
  | .text _ => { type := "text", text := some "" }
  | .thinking _ => { type := "thinking", thinking := some "" }
  | .toolUse id name _ => { type := "tool_use", id, name, input := .obj [] }

def Block.delta (piece : String) : Block → ClaudeMediaMessage
  | .text _ => { type := "text_delta", text := some piece }
  | .thinking _ => { type := "thinking_delta", thinking := some piece }
  | .toolUse _ _ _ => { type := "input_json_delta", partialJson := some piece }

/-- What the deltas of a block make up. -/
def Block.body (lib : JsonLib) : Block → String
  | .text s => s
  | .thinking s => s
  | .toolUse _ _ input => lib.marshal input

structure Message where
  id : String
  model : String
  stopReason : String
  blocks : List Block

/-- The whole message. -/
def Message.whole (m : Message) : ClaudeResponse where
  id := m.id
  type := "message"
  model := m.model
  stopReason := m.stopReason
  content := m.blocks.map Block.media

def blockEvents (i : Nat) (b : Block) (pieces : List String) : List ClaudeResponse :=
  { type := "content_block_start", index := some i, contentBlock := some b.opened } ::
    (pieces.map fun s =>
      { type := "content_block_delta", index := some i, delta := some (b.delta s) }) ++
    [{ type := "content_block_stop", index := some i }]

/-- The events of blocks from the index `n` on, each with the pieces it comes in. -/
def blocksEvents : Nat → List (Block × List String) → List ClaudeResponse
  | _, [] => []
  | n, (b, pieces) :: rest => blockEvents n b pieces ++ blocksEvents (n + 1) rest

def Message.events (m : Message) (pieces : List (List String)) : List ClaudeResponse :=
  { type := "message_start", message := some { type := "message", id := m.id, model := m.model } }
    :: blocksEvents 0 (m.blocks.zip pieces) ++
    [{ type := "message_delta", delta := some { stopReason := some m.stopReason } },
      { type := "message_stop" }]

/-- A stream of a message: its events, with pings anywhere. -/
def IsStream (lib : JsonLib) (m : Message) (events : List ClaudeResponse) : Prop :=
  ∃ pieces : List (List String),
    List.Forall₂ (fun b ps => String.join ps = b.body lib) m.blocks pieces ∧
    events.filter (fun e => e.type ≠ "ping") = m.events pieces

/-- The chunks of a stream. -/
def streamed : List ClaudeResponse → Except ClaudeChat.Failure (List StreamChunk)
  | [] => .ok []
  | event :: rest => do
    let chunk ← streamResponseClaude2OpenAI event
    let chunks ← streamed rest
    .ok (chunk.toList ++ chunks)

def chunkDeltas (chunks : List StreamChunk) : List StreamDelta :=
  chunks.flatMap fun chunk => chunk.choices.map (·.delta)

def Block.text? : Block → Option String
  | .text s => some s
  | _ => none

def Block.thinking? : Block → Option String
  | .thinking s => some s
  | _ => none

def Block.call? (lib : JsonLib) : Block → Option ReplyCall
  | .toolUse id name input => some ⟨id, name, lib.marshal input⟩
  | _ => none

/-! ## The stream -/

/-- The chunks of the events have these deltas. -/
def Gives (events : List ClaudeResponse) (deltas : List StreamDelta) : Prop :=
  ∃ chunks, streamed events = .ok chunks ∧ chunkDeltas chunks = deltas

theorem Gives.cons {event : ClaudeResponse} {chunk : Option StreamChunk}
    (hevent : streamResponseClaude2OpenAI event = .ok chunk) {events : List ClaudeResponse}
    {deltas : List StreamDelta} (h : Gives events deltas) :
    Gives (event :: events) (chunkDeltas chunk.toList ++ deltas) := by
  obtain ⟨chunks, hchunks, rfl⟩ := h
  refine ⟨chunk.toList ++ chunks, ?_, List.flatMap_append⟩
  rw [streamed, hevent, hchunks]
  rfl

variable {event : ClaudeResponse} {lib : JsonLib} {calls : List (Option Int × ReplyCall)}
  {blocks : List Block} {deltas : List StreamDelta}

theorem Gives.uncons {events : List ClaudeResponse} (h : Gives (event :: events) deltas) :
    ∃ chunk rest, streamResponseClaude2OpenAI event = .ok chunk ∧ Gives events rest ∧
      deltas = chunkDeltas chunk.toList ++ rest := by
  obtain ⟨chunks, hchunks, rfl⟩ := h
  cases hevent : streamResponseClaude2OpenAI event with
  | error e =>
    rw [streamed, hevent] at hchunks
    cases hchunks
  | ok chunk =>
    cases hrest : streamed events with
    | error e =>
      rw [streamed, hevent, hrest] at hchunks
      cases hchunks
    | ok rest =>
      rw [streamed, hevent, hrest] at hchunks
      cases hchunks
      exact ⟨chunk, chunkDeltas rest, rfl, ⟨rest, hrest, rfl⟩, List.flatMap_append⟩

theorem Gives.append {events events' : List ClaudeResponse} {deltas' : List StreamDelta}
    (h : Gives events deltas) (h' : Gives events' deltas') :
    Gives (events ++ events') (deltas ++ deltas') := by
  induction events generalizing deltas with
  | nil =>
    obtain ⟨_, hchunks, rfl⟩ := h
    cases hchunks
    exact h'
  | cons event events ih =>
    obtain ⟨chunk, rest, hevent, hrest, rfl⟩ := h.uncons
    rw [List.append_assoc]
    exact (ih hrest).cons hevent

theorem ping_event (h : event.type = "ping") : streamResponseClaude2OpenAI event = .ok none := by
  rw [streamResponseClaude2OpenAI, eventChoice, h]
  rfl

theorem gives_of_filter {events : List ClaudeResponse}
    (h : Gives (events.filter fun e => e.type ≠ "ping") deltas) : Gives events deltas := by
  induction events generalizing deltas with
  | nil => exact h
  | cons event events ih =>
    rw [List.filter_cons] at h
    by_cases hping : event.type = "ping"
    · rw [if_neg (by rw [decide_eq_true_eq]; exact not_not.mpr hping)] at h
      exact (ih h).cons (ping_event hping)
    · rw [if_pos (decide_eq_true hping)] at h
      obtain ⟨chunk, rest, hevent, hrest, rfl⟩ := h.uncons
      exact (ih hrest).cons hevent

def openedDelta (i : Nat) : Block → StreamDelta
  | .text _ => { content := some "" }
  | .thinking _ => {}
  | .toolUse id name _ => { toolCalls := some [{ index := some i, id, function := { name } }] }

def pieceDelta (i : Nat) (piece : String) : Block → StreamDelta
  | .text _ => { content := some piece }
  | .thinking _ => { reasoningContent := some piece }
  | .toolUse _ _ _ =>
    { toolCalls := some [{ index := some i, function := { arguments := piece } }] }

def blocksDeltas : Nat → List (Block × List String) → List StreamDelta
  | _, [] => []
  | n, (b, pieces) :: rest =>
    openedDelta n b :: pieces.map (pieceDelta n · b) ++ blocksDeltas (n + 1) rest

theorem Gives.nil : Gives [] [] := ⟨[], rfl, rfl⟩

theorem Gives.cons_one {delta : StreamDelta}
    (h : ∃ chunk, streamResponseClaude2OpenAI event = .ok chunk ∧
      chunkDeltas chunk.toList = [delta]) {events : List ClaudeResponse}
    (hrest : Gives events deltas) : Gives (event :: events) (delta :: deltas) := by
  obtain ⟨chunk, hevent, hdelta⟩ := h
  have hcons := hrest.cons hevent
  rwa [hdelta] at hcons

theorem gives_block (i : Nat) (pieces : List String) (b : Block) :
    Gives (blockEvents i b pieces) (openedDelta i b :: pieces.map (pieceDelta i · b)) := by
  have hstop : Gives [{ type := "content_block_stop", index := some (i : Int) }] [] :=
    ⟨[], rfl, rfl⟩
  have hpieces : Gives (pieces.map fun s =>
      { type := "content_block_delta", index := some (i : Int), delta := some (b.delta s) })
      (pieces.map (pieceDelta i · b)) := by
    induction pieces with
    | nil => exact Gives.nil
    | cons s pieces ih =>
      refine Gives.cons_one ?_ ih
      cases b <;> exact ⟨_, rfl, rfl⟩
  have hbody := hpieces.append hstop
  rw [List.append_nil] at hbody
  refine Gives.cons_one ?_ hbody
  cases b <;> exact ⟨_, rfl, rfl⟩

theorem gives_blocks (n : Nat) (blocks : List (Block × List String)) :
    Gives (blocksEvents n blocks) (blocksDeltas n blocks) := by
  induction blocks generalizing n with
  | nil => exact Gives.nil
  | cons entry rest ih =>
    obtain ⟨b, pieces⟩ := entry
    exact (gives_block n pieces b).append (ih (n + 1))

variable {pieces : List (List String)} {n : Nat}

variable {ts : List String} {m : Message} {call : ReplyCall}

theorem gives_stream {events : List ClaudeResponse} (h : IsStream lib m events) :
    ∃ pieces : List (List String),
      List.Forall₂ (fun b ps => String.join ps = b.body lib) m.blocks pieces ∧
      Gives events ({ role := "assistant", content := some "" } ::
        blocksDeltas 0 (m.blocks.zip pieces) ++ [({} : StreamDelta)]) := by
  obtain ⟨pieces, hpieces, hevents⟩ := h
  refine ⟨pieces, hpieces, gives_of_filter ?_⟩
  rw [hevents]
  have hstop : Gives [{ type := "message_stop" }] [] := ⟨[], rfl, rfl⟩
  have hend : Gives [{ type := "message_delta", delta := some { stopReason := some m.stopReason } },
      { type := "message_stop" }] [({} : StreamDelta)] := Gives.cons_one ⟨_, rfl, rfl⟩ hstop
  exact Gives.cons_one ⟨_, rfl, rfl⟩ ((gives_blocks 0 _).append hend)

/-! ## What a client has of the stream -/

theorem addFragment_new {c : ToolCallResponse} (h : ∀ entry ∈ calls, entry.1 ≠ c.index) :
    addFragment calls c = calls ++ [(c.index, c.call)] := by
  rw [addFragment, if_neg]
  rintro ⟨entry, hentry, heq⟩
  exact h entry hentry heq

theorem addFragment_last {i : Option Int} (h : ∀ entry ∈ calls, entry.1 ≠ i) (arguments : String) :
    addFragment (calls ++ [(i, call)]) { index := i, function := { arguments } } =
      calls ++ [(i, { call with arguments := call.arguments ++ arguments })] := by
  rw [addFragment, if_pos ⟨(i, call), List.mem_append_right _ List.mem_cons_self, rfl⟩,
    List.map_append, List.map_singleton, if_pos rfl]
  congr 1
  refine (List.map_congr_left fun entry hentry => ?_).trans (List.map_id calls)
  rw [if_neg (h entry hentry)]
  rfl

theorem foldl_pieces {i : Nat} (h : ∀ entry ∈ calls, entry.1 ≠ some (i : Int)) (id name : String)
    (input : Json) (pieces : List String) :
    ((pieces.map (pieceDelta i · (.toolUse id name input))).flatMap
        StreamDelta.fragments).foldl addFragment (calls ++ [(some (i : Int), call)]) =
      calls ++ [(some (i : Int),
        { call with arguments := call.arguments ++ String.join pieces })] := by
  induction pieces generalizing call with
  | nil =>
    rw [String.join_nil, String.append_empty]
    rfl
  | cons s pieces ih =>
    rw [List.map_cons, List.flatMap_cons, List.foldl_append]
    have hstep : (pieceDelta i s (.toolUse id name input)).fragments.foldl addFragment
        (calls ++ [(some (i : Int), call)]) =
        calls ++ [(some (i : Int), { call with arguments := call.arguments ++ s })] :=
      addFragment_last h s
    rw [hstep, ih, String.join_cons, String.append_assoc]

/-- The calls of the blocks with the indices they come under. -/
def indexedCalls (lib : JsonLib) : Nat → List Block → List (Option Int × ReplyCall)
  | _, [] => []
  | n, b :: rest =>
    ((b.call? lib).map (some (n : Int), ·)).toList ++ indexedCalls lib (n + 1) rest

theorem indexedCalls_map (lib : JsonLib) (n : Nat) (blocks : List Block) :
    (indexedCalls lib n blocks).map (·.2) = blocks.filterMap (Block.call? lib) := by
  induction blocks generalizing n with
  | nil => rfl
  | cons b rest ih =>
    rw [indexedCalls, List.map_append, ih, List.filterMap_cons]
    cases b.call? lib <;> rfl

theorem fragments_plain {pieces : List String} {delta : String → StreamDelta}
    (h : ∀ s, (delta s).fragments = []) :
    (pieces.map delta).flatMap StreamDelta.fragments = [] := by
  rw [List.flatMap_eq_nil_iff]
  rintro d hd
  obtain ⟨s, _, rfl⟩ := List.mem_map.mp hd
  exact h s

theorem foldl_block {b : Block} {pieces : List String} (hbody : String.join pieces = b.body lib)
    (h : ∀ entry ∈ calls, entry.1 ≠ some (n : Int)) :
    ((openedDelta n b :: pieces.map (pieceDelta n · b)).flatMap
        StreamDelta.fragments).foldl addFragment calls =
      calls ++ ((b.call? lib).map (some (n : Int), ·)).toList := by
  rw [List.flatMap_cons, List.foldl_append]
  cases b with
  | text s =>
    rw [fragments_plain fun _ => rfl]
    exact (List.append_nil calls).symm
  | thinking s =>
    rw [fragments_plain fun _ => rfl]
    exact (List.append_nil calls).symm
  | toolUse id name input =>
    have hopened : (openedDelta n (.toolUse id name input)).fragments.foldl addFragment calls =
        calls ++ [(some (n : Int), ⟨id, name, ""⟩)] := addFragment_new h
    rw [hopened, foldl_pieces h, hbody, String.empty_append]
    rfl

theorem foldl_blocks {lib : JsonLib} {n : Nat} {blocks : List Block} {pieces : List (List String)}
    (hpieces : List.Forall₂ (fun b ps => String.join ps = b.body lib) blocks pieces)
    {calls : List (Option Int × ReplyCall)}
    (h : ∀ entry ∈ calls, ∃ i : Nat, entry.1 = some (i : Int) ∧ i < n) :
    ((blocksDeltas n (blocks.zip pieces)).flatMap StreamDelta.fragments).foldl addFragment calls =
      calls ++ indexedCalls lib n blocks := by
  induction hpieces generalizing n calls with
  | nil => exact (List.append_nil calls).symm
  | @cons b ps blocks pieces hbody hrest ih =>
    have hnew : ∀ entry ∈ calls, entry.1 ≠ some (n : Int) := by
      intro entry hentry heq
      obtain ⟨i, hi, hlt⟩ := h entry hentry
      rw [hi] at heq
      injection heq with heq
      omega
    rw [List.zip_cons_cons, blocksDeltas, List.flatMap_append, List.foldl_append, indexedCalls,
      foldl_block hbody hnew, ih, List.append_assoc]
    intro entry hentry
    rcases List.mem_append.mp hentry with hin | hin
    · obtain ⟨i, hi, hlt⟩ := h entry hin
      exact ⟨i, hi, Nat.lt_succ_of_lt hlt⟩
    · obtain ⟨call, _, rfl⟩ := Option.map_eq_some_iff.mp (Option.mem_toList.mp hin)
      exact ⟨n, rfl, Nat.lt_succ_self n⟩

/-- A field of the deltas, joined over the blocks: a kind of block has its pieces there,
the others nothing. -/
theorem join_blocks {field : StreamDelta → String} {own : Block → Option String}
    (hopened : ∀ n b, field (openedDelta n b) = "")
    (hpiece : ∀ n s b, field (pieceDelta n s b) = if (own b).isSome then s else "")
    (hown : ∀ b, ∀ s ∈ own b, s = b.body lib)
    (hpieces : List.Forall₂ (fun b ps => String.join ps = b.body lib) blocks pieces) :
    String.join ((blocksDeltas n (blocks.zip pieces)).map field) =
      String.join (blocks.filterMap own) := by
  induction hpieces generalizing n with
  | nil => rfl
  | @cons b ps blocks pieces hbody hrest ih =>
    have hblock : String.join ((ps.map (pieceDelta n · b)).map field) = (own b).getD "" := by
      have hmap : (ps.map (pieceDelta n · b)).map field =
          ps.map fun s => if (own b).isSome then s else "" := by
        rw [List.map_map]
        exact List.map_congr_left fun s _ => hpiece n s b
      rw [hmap]
      cases hb : own b with
      | none =>
        rw [Option.getD_none]
        clear hbody hmap
        induction ps with
        | nil => rfl
        | cons s ps ih =>
          rw [List.map_cons, String.join_cons, ih]
          exact String.empty_append
      | some s =>
        rw [Option.getD_some, hown b s hb, ← hbody]
        exact congrArg String.join (List.map_id ps)
    rw [List.zip_cons_cons, blocksDeltas, List.map_append, List.map_cons, String.join_append,
      String.join_cons, hopened, String.empty_append, hblock, ih, List.filterMap_cons]
    cases own b with
    | none => rw [Option.getD_none, String.empty_append]
    | some s => rw [Option.getD_some, String.join_cons]

theorem join_content
    (hpieces : List.Forall₂ (fun b ps => String.join ps = b.body lib) blocks pieces) :
    String.join ((blocksDeltas n (blocks.zip pieces)).map fun d => d.content.getD "") =
      String.join (blocks.filterMap Block.text?) := by
  refine join_blocks (fun n b => ?_) (fun n s b => ?_) (fun b s hs => ?_) hpieces
  · cases b <;> rfl
  · cases b <;> rfl
  · cases b <;> cases hs
    rfl

theorem join_reasoning
    (hpieces : List.Forall₂ (fun b ps => String.join ps = b.body lib) blocks pieces) :
    String.join ((blocksDeltas n (blocks.zip pieces)).map fun d => d.reasoningContent.getD "") =
      String.join (blocks.filterMap Block.thinking?) := by
  refine join_blocks (fun n b => ?_) (fun n s b => ?_) (fun b s hs => ?_) hpieces
  · cases b <;> rfl
  · cases b <;> rfl
  · cases b <;> cases hs
    rfl

/-- What the blocks of a message come to, joined. -/
def Message.reply (lib : JsonLib) (m : Message) : Reply where
  content := String.join (m.blocks.filterMap Block.text?)
  reasoning := String.join (m.blocks.filterMap Block.thinking?)
  calls := m.blocks.filterMap (Block.call? lib)

theorem streamed_reply {events : List ClaudeResponse} (h : IsStream lib m events) :
    ∃ chunks, streamed events = .ok chunks ∧ replyOf (chunkDeltas chunks) = m.reply lib := by
  obtain ⟨pieces, hpieces, chunks, hchunks, hdeltas⟩ := gives_stream h
  refine ⟨chunks, hchunks, ?_⟩
  have hcontent := join_content (n := 0) hpieces
  have hreasoning := join_reasoning (n := 0) hpieces
  have hcalls := @foldl_blocks lib 0 m.blocks pieces hpieces [] nofun
  rw [hdeltas, replyOf, Message.reply]
  congr 1
  · rw [List.map_append, List.map_cons, String.join_append, String.join_cons, hcontent]
    exact (String.append_empty).trans String.empty_append
  · rw [List.map_append, List.map_cons, String.join_append, String.join_cons, hreasoning]
    exact (String.append_empty).trans String.empty_append
  · rw [List.flatMap_append, List.flatMap_cons]
    have hempty : ({} : StreamDelta).fragments = [] := rfl
    have hstart : ({ role := "assistant", content := some "" } : StreamDelta).fragments = [] := rfl
    rw [List.flatMap_singleton, hempty, hstart, List.append_nil, List.nil_append, hcalls,
      List.nil_append, indexedCalls_map]

/-! ## What a client has of the completion -/

/-- The last of some texts. -/
def lastOf (ts : List String) : String := ts.getLast?.getD ""

/-- The text of a block that a message begins with, where it is of the given kind. -/
def firstOf (own : Block → Option String) (blocks : List Block) : String :=
  (blocks.head?.bind own).getD ""

theorem lastOf_cons (t : String) (ts : List String) :
    lastOf (t :: ts) = ts.getLast?.getD t := by
  rw [lastOf, List.getLast?_cons]
  rfl

theorem foldl_scanBlock (lib : JsonLib) (blocks : List Block) (s : Scan) :
    (blocks.map Block.media).foldl (scanBlock lib) s =
      { responseText := (blocks.filterMap Block.text?).getLast?.getD s.responseText
        thinkingContent := (blocks.filterMap Block.thinking?).getLast?.getD s.thinkingContent
        tools := s.tools ++ (blocks.filterMap (Block.call? lib)).map fun c =>
          { id := c.id, function := { name := c.name, arguments := c.arguments } } } := by
  induction blocks generalizing s with
  | nil =>
    have hnil : s.tools ++ ([] : List ReplyCall).map (fun c => ({
        id := c.id, function := { name := c.name, arguments := c.arguments } } :
          ToolCallResponse)) = s.tools := List.append_nil _
    rw [List.filterMap_nil, List.filterMap_nil, List.filterMap_nil, hnil]
    rfl
  | cons b rest ih =>
    rw [List.map_cons, List.foldl_cons, ih]
    cases b with
    | text t =>
      have htexts : (Block.text t :: rest).filterMap Block.text? =
          t :: rest.filterMap Block.text? := rfl
      rw [htexts, List.getLast?_cons]
      rfl
    | thinking t =>
      have hthoughts : (Block.thinking t :: rest).filterMap Block.thinking? =
          t :: rest.filterMap Block.thinking? := rfl
      rw [hthoughts, List.getLast?_cons]
      rfl
    | toolUse id name input =>
      have htools : (scanBlock lib s (Block.toolUse id name input).media).tools =
          s.tools ++ [{ id, function := { name, arguments := lib.marshal input } }] := rfl
      rw [htools, List.append_assoc]
      rfl

/-- The last text; the last thinking, or the one that the message begins with. -/
def Message.wholeReply (lib : JsonLib) (m : Message) : Reply where
  content := lastOf (m.blocks.filterMap Block.text?)
  reasoning :=
    if lastOf (m.blocks.filterMap Block.thinking?) ≠ "" then
      lastOf (m.blocks.filterMap Block.thinking?)
    else firstOf Block.thinking? m.blocks
  calls := m.blocks.filterMap (Block.call? lib)

theorem whole_reply (lib : JsonLib) (m : Message) :
    (responseClaude2OpenAI lib m.whole).choices.map Choice.reply = [m.wholeReply lib] := by
  have hfirst : ((m.blocks.map Block.media).head?.bind (·.thinking)).getD "" =
      firstOf Block.thinking? m.blocks := by
    cases hb : m.blocks with
    | nil => rfl
    | cons b rest => cases b <;> rfl
  have htext : (m.blocks.filterMap Block.text?).getLast?.getD
      (((m.blocks.map Block.media).head?.map (·.getText)).getD "") =
      lastOf (m.blocks.filterMap Block.text?) := by
    cases hb : m.blocks with
    | nil => rfl
    | cons b rest =>
      cases b with
      | text t =>
        have htexts : (Block.text t :: rest).filterMap Block.text? =
            t :: rest.filterMap Block.text? := rfl
        rw [htexts, lastOf, List.getLast?_cons]
        rfl
      | thinking t => rfl
      | toolUse id name input => rfl
  have hcalls : ∀ calls : List ReplyCall, (calls.map fun c => ({
      id := c.id, function := { name := c.name, arguments := c.arguments } } :
        ToolCallResponse)).map ToolCallResponse.call = calls := by
    intro calls
    rw [List.map_map]
    exact List.map_id calls
  rw [responseClaude2OpenAI]
  simp only [Message.whole, foldl_scanBlock, List.map_cons, List.map_nil, Choice.reply,
    List.nil_append, hcalls, htext, hfirst, Message.wholeReply]
  congr 2
  rw [← lastOf]
  by_cases hlast : lastOf (m.blocks.filterMap Block.thinking?) ≠ ""
  · rw [if_pos hlast, if_pos hlast, Option.getD_some]
  · rw [if_neg hlast, if_neg hlast]
    split
    · rw [Option.getD_some]
    · rename_i h
      rw [Option.getD_none, not_not.mp h]

/-! ## The two replies -/

/-- All texts but the last are empty. -/
def LastOnly (ts : List String) : Prop := ∀ t ∈ ts.dropLast, t = ""

/-- A thinking block is the first of all, and the later ones are empty. -/
def FirstOnly (blocks : List Block) : Prop :=
  (∃ s, blocks.head? = some (.thinking s)) ∧
    ∀ t ∈ (blocks.filterMap Block.thinking?).tail, t = ""

theorem join_eq_empty : String.join ts = "" ↔ ∀ t ∈ ts, t = "" := by
  induction ts with
  | nil => exact iff_of_true rfl nofun
  | cons t ts ih => rw [String.join_cons, String.append_eq_empty_iff, ih, List.forall_mem_cons]

theorem join_eq_lastOf : String.join ts = lastOf ts ↔ LastOnly ts := by
  rcases List.eq_nil_or_concat ts with rfl | ⟨init, last, rfl⟩
  · exact iff_of_true rfl nofun
  · rw [List.concat_eq_append, lastOf, LastOnly, List.getLast?_concat, List.dropLast_concat,
      String.join_append, Option.getD_some, String.join_cons, String.join_nil, String.append_empty,
      String.append_eq_right_iff, join_eq_empty]

theorem reasoning_eq_iff (lib : JsonLib) (m : Message) :
    String.join (m.blocks.filterMap Block.thinking?) = (m.wholeReply lib).reasoning ↔
      LastOnly (m.blocks.filterMap Block.thinking?) ∨ FirstOnly m.blocks := by
  rw [Message.wholeReply]
  dsimp only
  rw [← join_eq_lastOf]
  by_cases hlast : lastOf (m.blocks.filterMap Block.thinking?) = ""
  · rw [if_neg (not_not.mpr hlast), hlast, firstOf, FirstOnly]
    cases hb : m.blocks with
    | nil => exact iff_of_true rfl (Or.inl rfl)
    | cons b rest =>
      have hnone : (∀ s, b ≠ .thinking s) → (b.thinking?).getD "" = "" := by
        intro h
        cases b with
        | thinking s => exact absurd rfl (h s)
        | text s => rfl
        | toolUse id name input => rfl
      by_cases hthinking : ∃ s, b = .thinking s
      · obtain ⟨s, rfl⟩ := hthinking
        have hthoughts : (Block.thinking s :: rest).filterMap Block.thinking? =
            s :: rest.filterMap Block.thinking? := rfl
        have hhead : ((Block.thinking s :: rest).head?.bind Block.thinking?).getD "" = s := rfl
        rw [hthoughts, hhead, String.join_cons, List.tail_cons, String.append_eq_left_iff,
          join_eq_empty]
        constructor
        · exact fun h => Or.inr ⟨⟨s, rfl⟩, h⟩
        · rintro (h | ⟨-, h⟩)
          · exact join_eq_empty.mp (String.append_eq_empty_iff.mp h).2
          · exact h
      · have hhead : ((b :: rest).head?.bind Block.thinking?).getD "" = "" :=
          hnone fun s hs => hthinking ⟨s, hs⟩
        rw [hhead, or_iff_left]
        rintro ⟨⟨s, hs⟩, -⟩
        exact hthinking ⟨s, Option.some.inj hs⟩
  · rw [if_pos hlast, or_iff_left_of_imp]
    rintro ⟨⟨s, hs⟩, htail⟩
    cases hb : m.blocks with
    | nil =>
      rw [hb] at hs
      cases hs
    | cons b rest =>
      rw [hb] at hs hlast htail
      cases hs
      have hthoughts : (Block.thinking s :: rest).filterMap Block.thinking? =
          s :: rest.filterMap Block.thinking? := rfl
      rw [hthoughts] at hlast htail ⊢
      rw [List.tail_cons] at htail
      rw [lastOf_cons] at hlast ⊢
      rcases List.eq_nil_or_concat (rest.filterMap Block.thinking?) with
        hnil | ⟨init, last, hlist⟩
      · rw [hnil, String.join_cons, String.join_nil, String.append_empty]
        rfl
      · rw [hlist, List.concat_eq_append, List.getLast?_concat] at hlast
        refine absurd (htail last ?_) hlast
        rw [hlist, List.concat_eq_append]
        exact List.mem_append_right _ List.mem_cons_self

/-- A client has the same of a stream as of the whole message if and only if every text block
but the last is empty, and every thinking block but the last, or but one that the message
begins with. -/
theorem replies_agree_iff (lib : JsonLib) (m : Message) (events : List ClaudeResponse)
    (h : IsStream lib m events) :
    (∃ chunks, streamed events = .ok chunks ∧
        (responseClaude2OpenAI lib m.whole).choices.map Choice.reply =
          [replyOf (chunkDeltas chunks)]) ↔
      LastOnly (m.blocks.filterMap Block.text?) ∧
        (LastOnly (m.blocks.filterMap Block.thinking?) ∨ FirstOnly m.blocks) := by
  obtain ⟨chunks, hchunks, hreply⟩ := streamed_reply h
  have hiff : m.wholeReply lib = m.reply lib ↔
      LastOnly (m.blocks.filterMap Block.text?) ∧
        (LastOnly (m.blocks.filterMap Block.thinking?) ∨ FirstOnly m.blocks) := by
    rw [← reasoning_eq_iff lib, ← join_eq_lastOf]
    constructor
    · intro heq
      exact ⟨(congrArg Reply.content heq).symm, (congrArg Reply.reasoning heq).symm⟩
    · rintro ⟨hcontent, hreasoning⟩
      have hwhole : m.wholeReply lib = ⟨lastOf (m.blocks.filterMap Block.text?),
        (m.wholeReply lib).reasoning, m.blocks.filterMap (Block.call? lib)⟩ := rfl
      rw [hwhole, ← hcontent, ← hreasoning]
      rfl
  rw [← hiff, whole_reply]
  constructor
  · rintro ⟨chunks', hchunks', heq⟩
    rw [hchunks] at hchunks'
    cases hchunks'
    rw [hreply] at heq
    exact List.singleton_inj.mp heq
  · exact fun heq => ⟨chunks, hchunks, by rw [hreply, heq]⟩

def textLib : JsonLib := ⟨fun _ => "{}", id, fun _ => "", fun _ => ""⟩

def greeting : Message := ⟨"msg_1", "claude", "end_turn", [.thinking "Hm", .text "Hello"]⟩

theorem greeting_agrees :
    (∃ chunks, streamed (greeting.events [["Hm"], ["Hel", "lo"]]) = .ok chunks ∧
        (responseClaude2OpenAI textLib greeting.whole).choices.map Choice.reply =
          [replyOf (chunkDeltas chunks)]) ↔
      LastOnly (greeting.blocks.filterMap Block.text?) ∧
        (LastOnly (greeting.blocks.filterMap Block.thinking?) ∨ FirstOnly greeting.blocks) :=
  replies_agree_iff textLib greeting _
    ⟨[["Hm"], ["Hel", "lo"]], .cons rfl (.cons rfl .nil), rfl⟩

/-- A text, a call and a second text. -/
def lookup : Message :=
  ⟨"msg_1", "claude", "end_turn", [.text "Looking.", .toolUse "t1" "find" (.obj []), .text "Done."]⟩

/-- The stream has both texts, the completion the second. -/
theorem first_text_lost :
    IsStream textLib lookup (lookup.events [["Looking."], ["{}"], ["Done."]]) ∧
      (streamed (lookup.events [["Looking."], ["{}"], ["Done."]])).map
          (fun chunks => replyOf (chunkDeltas chunks)) =
        .ok ⟨"Looking.Done.", "", [⟨"t1", "find", "{}"⟩]⟩ ∧
      (responseClaude2OpenAI textLib lookup.whole).choices.map Choice.reply =
        [⟨"Done.", "", [⟨"t1", "find", "{}"⟩]⟩] := by
  refine ⟨⟨[["Looking."], ["{}"], ["Done."]], ?_, rfl⟩, rfl, rfl⟩
  exact .cons rfl (.cons rfl (.cons rfl .nil))

end YouBox.ClaudeReplies
