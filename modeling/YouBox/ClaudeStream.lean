import Mathlib

/-!
# From OpenAI chunks to Claude events

`StreamResponseOpenAI2Claude` turns one chat chunk at a time into the
events of Anthropic's streaming format. Between two chunks it keeps the
kind of the block it last wrote, the index of that block, the first
index and the highest offset of a run of tool calls, and whether the
message has been stopped.

The format itself is a `Reader`: a machine that takes the events one by
one and refuses the first that does not fit. The converter is related to
it by `Follows`, which says which blocks the reader has open in each
converter state. Text and thinking blocks always fit. Tool blocks are
the exception: their indices come from the upstream, and on leaving a
run of tool calls the converter stops every offset up to the highest it
has seen, whether it started a block there or not. `orderly` is the
condition on the tool calls under which the two agree, and the run
theorem carries it over whole streams.
-/

namespace YouBox.ClaudeStream

/-! ## OpenAI chunks -/

structure ToolCall where
  index : Option Int
  id : String
  name : String
  arguments : String
deriving DecidableEq

structure Delta where
  content : Option String
  reasoningContent : Option String
  reasoning : Option String
  toolCalls : List ToolCall

structure Choice where
  delta : Delta
  finishReason : Option String

structure Chunk (υ : Type) where
  id : String
  model : String
  choices : List Choice
  usage : Option υ

def Delta.getContentString (d : Delta) : String :=
  d.content.getD ""

def Delta.getReasoningContent (d : Delta) : String :=
  match d.reasoningContent, d.reasoning with
  | none, none => ""
  | some s, _ => s
  | none, some s => s

/-- `FinishReason != nil && *FinishReason != ""` -/
def Choice.finished (c : Choice) : Bool :=
  c.finishReason.getD "" != ""

/-- The calls of a chunk with the offset each is filed under: its own
index, or its position. -/
def callOffsets (calls : List ToolCall) : List (Int × ToolCall) :=
  calls.zipIdx.map fun ci => (ci.1.index.getD ci.2, ci.1)

/-! ## Claude events -/

inductive Kind where
  | text
  | thinking
  | tool
deriving DecidableEq

inductive Block where
  | text
  | thinking
  | toolUse (id name : String)

def Block.kind : Block → Kind
  | .text => .text
  | .thinking => .thinking
  | .toolUse _ _ => .tool

inductive Piece where
  | text (s : String)
  | thinking (s : String)
  | inputJson (s : String)

def Piece.kind : Piece → Kind
  | .text _ => .text
  | .thinking _ => .thinking
  | .inputJson _ => .tool

inductive Event (ω : Type) where
  | messageStart (id model : String) (inputTokens : Int)
  | blockStart (index : Int) (block : Block)
  | blockDelta (index : Int) (piece : Piece)
  | blockStop (index : Int)
  | messageDelta (usage : ω) (stopReason : String)
  | messageStop

/-! ## The converter -/

inductive LastMessageType where
  | none
  | text
  | thinking
  | tools
deriving DecidableEq

/-- `ClaudeConvertInfo` with the chunk counter of `RelayInfo`. -/
structure ConvertInfo (υ : Type) where
  lastMessagesType : LastMessageType
  index : Int
  usage : Option υ
  finishReason : String
  done : Bool
  toolCallBaseIndex : Int
  toolCallMaxIndexOffset : Int
  sendResponseCount : Nat

/-- What the converter is given besides the chunks: the prompt token
estimate, the usage conversion and Unicode case mapping. -/
structure Converter (υ ω : Type) where
  estimatePromptTokens : Int
  buildClaudeUsageFromOpenAIUsage : υ → ω
  toLower : String → String

variable {υ ω : Type}

def Converter.stopReasonOpenAI2Claude (cv : Converter υ ω) (finishReason : String) : String :=
  let reason := cv.toLower finishReason
  if reason == "stop" then "end_turn"
  else if reason == "stop_sequence" then "stop_sequence"
  else if reason == "length" || reason == "max_tokens" then "max_tokens"
  else if reason == "content_filter" then "refusal"
  else if reason == "tool_calls" then "tool_use"
  else finishReason

def ConvertInfo.stopOpenBlocks (s : ConvertInfo υ) : List (Event ω) :=
  match s.lastMessagesType with
  | .none => []
  | .text => [.blockStop s.index]
  | .thinking => [.blockStop s.index]
  | .tools =>
    (List.range (s.toolCallMaxIndexOffset + 1).toNat).map fun offset : Nat =>
      .blockStop (s.toolCallBaseIndex + (offset : Int))

/-- The state after `stopOpenBlocksAndAdvance`. -/
def ConvertInfo.advance (s : ConvertInfo υ) : ConvertInfo υ :=
  match s.lastMessagesType with
  | .none => s
  | .tools =>
    { s with
      index := s.toolCallBaseIndex + s.toolCallMaxIndexOffset + 1
      toolCallBaseIndex := 0
      toolCallMaxIndexOffset := 0
      lastMessagesType := .none }
  | _ => { s with index := s.index + 1, lastMessagesType := .none }

/-- `message_delta` when a usage is known, and `message_stop`. -/
def Converter.closing (cv : Converter υ ω) (usage : Option υ) (stopReason : String) :
    List (Event ω) :=
  (match usage with
    | some u => [.messageDelta (cv.buildClaudeUsageFromOpenAIUsage u) stopReason]
    | none => []) ++ [.messageStop]

def callEvents (base : Int) (call : Int × ToolCall) : List (Event ω) :=
  (if call.2.name != "" then [.blockStart (base + call.1) (.toolUse call.2.id call.2.name)]
    else []) ++
  (if call.2.arguments != "" then [.blockDelta (base + call.1) (.inputJson call.2.arguments)]
    else [])

def toolEvents (base : Int) (calls : List (Int × ToolCall)) : List (Event ω) :=
  calls.flatMap (callEvents base)

def maxOffset (offset : Int) (calls : List (Int × ToolCall)) : Int :=
  calls.foldl (fun m call => if m < call.1 then call.1 else m) offset

/-- Text or thinking: a fresh block unless one of the kind is open. -/
def ConvertInfo.write (s : ConvertInfo υ) (type : LastMessageType) (block : Block)
    (piece : Piece) : List (Event ω) × ConvertInfo υ :=
  if s.lastMessagesType != type then
    (s.stopOpenBlocks ++ [.blockStart s.advance.index block, .blockDelta s.advance.index piece],
      { s.advance with lastMessagesType := type })
  else ([.blockDelta s.index piece], s)

def ConvertInfo.writeTools (s : ConvertInfo υ) (calls : List (Int × ToolCall)) :
    List (Event ω) × ConvertInfo υ :=
  let (stops, s) : List (Event ω) × ConvertInfo υ :=
    if s.lastMessagesType != .tools then
      (s.stopOpenBlocks,
        { s.advance with toolCallBaseIndex := s.advance.index, toolCallMaxIndexOffset := 0 })
    else ([], s)
  let max := maxOffset s.toolCallMaxIndexOffset calls
  (stops ++ toolEvents s.toolCallBaseIndex calls,
    { s with
      lastMessagesType := .tools
      toolCallMaxIndexOffset := max
      index := s.toolCallBaseIndex + max })

/-- What a later chunk adds, by its first choice. -/
def ConvertInfo.writeDelta (s : ConvertInfo υ) (d : Delta) : List (Event ω) × ConvertInfo υ :=
  if !d.toolCalls.isEmpty then s.writeTools (callOffsets d.toolCalls)
  else if d.getReasoningContent != "" then
    s.write .thinking .thinking (.thinking d.getReasoningContent)
  else if d.getContentString != "" then s.write .text .text (.text d.getContentString)
  else ([], s)

/-- The tool call of the first chunk: only the first one counts, and it
is block 0 whatever its index. -/
def ConvertInfo.firstTool (s : ConvertInfo υ) (d : Delta) : List (Event ω) × ConvertInfo υ :=
  match d.toolCalls with
  | [] => ([], s)
  | call :: _ =>
    ([.blockStart 0 (.toolUse call.id call.name)] ++
      (if call.arguments != "" then [.blockDelta 0 (.inputJson call.arguments)] else []),
      { s with
        lastMessagesType := .tools
        toolCallBaseIndex := 0
        toolCallMaxIndexOffset := 0 })

/-- The text of the first chunk, which always starts a block. -/
def ConvertInfo.firstText (s : ConvertInfo υ) (d : Delta) : List (Event ω) × ConvertInfo υ :=
  let start (type : LastMessageType) (block : Block) (piece : Piece) :
      List (Event ω) × ConvertInfo υ :=
    let (stops, s) : List (Event ω) × ConvertInfo υ :=
      if s.lastMessagesType != type then (s.stopOpenBlocks, s.advance) else ([], s)
    (stops ++ [.blockStart s.index block, .blockDelta s.index piece],
      { s with lastMessagesType := type })
  if d.getReasoningContent != "" then start .thinking .thinking (.thinking d.getReasoningContent)
  else if d.getContentString != "" then start .text .text (.text d.getContentString)
  else ([], s)

def Converter.firstChunk (cv : Converter υ ω) (chunk : Chunk υ) (s : ConvertInfo υ) :
    List (Event ω) × ConvertInfo υ :=
  let message : Event ω := .messageStart chunk.id chunk.model cv.estimatePromptTokens
  match chunk.choices with
  | [] => ([message], s)
  | choice :: _ =>
    let (tool, s) : List (Event ω) × ConvertInfo υ := s.firstTool choice.delta
    let (text, s) : List (Event ω) × ConvertInfo υ := s.firstText choice.delta
    if choice.finished then
      let reason := choice.finishReason.getD ""
      ([message] ++ tool ++ text ++ s.stopOpenBlocks ++
        cv.closing (chunk.usage.or s.usage) (cv.stopReasonOpenAI2Claude reason),
        { s with finishReason := reason, done := true })
    else ([message] ++ tool ++ text, s)

def Converter.laterChunk (cv : Converter υ ω) (chunk : Chunk υ) (s : ConvertInfo υ) :
    List (Event ω) × ConvertInfo υ :=
  match chunk.choices with
  | [] =>
    -- some upstreams end with a usage-only chunk
    match chunk.usage.or s.usage with
    | none => ([], s)
    | some u =>
      let reason := cv.stopReasonOpenAI2Claude s.finishReason
      (s.stopOpenBlocks ++ cv.closing (some u) (if reason == "" then "end_turn" else reason),
        { s with done := true })
  | choice :: _ =>
    if choice.finished then
      let s := { s with finishReason := choice.finishReason.getD "" }
      match chunk.usage.or s.usage with
      | none => ([], s)  -- closing waits for the usage
      | some u =>
        let (body, s) : List (Event ω) × ConvertInfo υ := s.writeDelta choice.delta
        (body ++ s.stopOpenBlocks ++
          cv.closing (some u) (cv.stopReasonOpenAI2Claude s.finishReason),
          { s with done := true })
    else s.writeDelta choice.delta

def Converter.streamResponseOpenAI2Claude (cv : Converter υ ω) (chunk : Chunk υ)
    (s : ConvertInfo υ) : List (Event ω) × ConvertInfo υ :=
  if s.done then ([], s)
  else if s.sendResponseCount == 1 then cv.firstChunk chunk s
  else cv.laterChunk chunk s

/-! ## A stream of chunks -/

/-- A chunk with the usage its caller records in `RelayInfo` before
converting it: the chunk's own, or the final one. -/
structure Input (υ : Type) where
  chunk : Chunk υ
  recorded : Option υ

def ConvertInfo.prepare (s : ConvertInfo υ) (inp : Input υ) : ConvertInfo υ :=
  { s with sendResponseCount := s.sendResponseCount + 1, usage := inp.recorded.or s.usage }

def newConvertInfo : ConvertInfo υ where
  lastMessagesType := .none
  index := 0
  usage := none
  finishReason := ""
  done := false
  toolCallBaseIndex := 0
  toolCallMaxIndexOffset := 0
  sendResponseCount := 0

def Converter.feed (cv : Converter υ ω) (s : ConvertInfo υ) (inp : Input υ) :
    List (Event ω) × ConvertInfo υ :=
  cv.streamResponseOpenAI2Claude inp.chunk (s.prepare inp)

def Converter.run (cv : Converter υ ω) :
    ConvertInfo υ → List (Input υ) → List (Event ω) × ConvertInfo υ
  | s, [] => ([], s)
  | s, inp :: rest =>
    let (events, s) := cv.feed s inp
    let (later, s) := run cv s rest
    (events ++ later, s)

/-- The whole output for a sequence of chunks. -/
def Converter.output (cv : Converter υ ω) (inputs : List (Input υ)) : List (Event ω) :=
  (cv.run newConvertInfo inputs).1

/-! ## The format -/

/-- A reader of the event stream: the highest block index so far, the
blocks that are open, and how far the message is. -/
structure Reader where
  started : Bool
  last : Int
  opened : List (Int × Kind)
  delta : Bool
  stopped : Bool

def newReader : Reader :=
  { started := false, last := -1, opened := [], delta := false, stopped := false }

/-- Blocks may be open together only if all of them are tool blocks. -/
def Reader.admits (r : Reader) (kind : Kind) : Bool :=
  r.opened.isEmpty || (kind == .tool && r.opened.all (·.2 == .tool))

def Reader.inBlocks (r : Reader) : Bool :=
  r.started && !r.delta && !r.stopped

def Reader.read (r : Reader) : Event ω → Option Reader
  | .messageStart _ _ _ =>
    if r.started then none else some { r with started := true }
  | .blockStart i block =>
    if r.inBlocks && r.last < i && r.admits block.kind then
      some { r with last := i, opened := r.opened ++ [(i, block.kind)] }
    else none
  | .blockDelta i piece =>
    if r.inBlocks && r.opened.contains (i, piece.kind) then some r else none
  | .blockStop i =>
    if r.inBlocks && r.opened.any (·.1 == i) then
      some { r with opened := r.opened.filter (·.1 != i) }
    else none
  | .messageDelta _ _ =>
    if r.inBlocks && r.opened.isEmpty then some { r with delta := true } else none
  | .messageStop =>
    if r.started && !r.stopped && r.opened.isEmpty then some { r with stopped := true } else none

def Reader.readAll : Reader → List (Event ω) → Option Reader
  | r, [] => some r
  | r, e :: rest => (r.read e).bind fun r => r.readAll rest

/-- One `message_start`, then blocks that are all closed again, then the
end of the message. -/
def WellFormed (events : List (Event ω)) : Prop :=
  ∃ r, newReader.readAll events = some r ∧ r.started = true ∧ r.opened = []

theorem readAll_append (r : Reader) (es fs : List (Event ω)) :
    r.readAll (es ++ fs) = (r.readAll es).bind fun r => r.readAll fs := by
  induction es generalizing r with
  | nil => rfl
  | cons e es ih =>
    simp only [List.cons_append, Reader.readAll]
    cases r.read e with
    | none => rfl
    | some r => exact ih r

variable {r : Reader} {s : ConvertInfo υ} {n m : Nat} {inputs : List (Input υ)}

theorem readAll_trans {r₁ r₂ : Reader} {es fs : List (Event ω)} (hes : r.readAll es = some r₁)
    (hfs : r₁.readAll fs = some r₂) :
    r.readAll (es ++ fs) = some r₂ := by
  rw [readAll_append, hes]
  exact hfs

theorem readAll_one {r' : Reader} {e : Event ω} (h : r.read e = some r') :
    r.readAll [e] = some r' := by
  simp [Reader.readAll, h]

theorem read_delta {i : Int} {piece : Piece} (hin : r.inBlocks = true)
    (hmem : (i, piece.kind) ∈ r.opened) :
    r.read (Event.blockDelta i piece : Event ω) = some r := by
  simp [Reader.read, hin, hmem]

/-! ## Orderly tool calls -/

/-- Files the calls of a chunk in a run with `n` announced calls: a name
announces the next offset, arguments belong to an announced one. The
result is the number announced after them. -/
def announce (n : Nat) : List (Int × ToolCall) → Option Nat
  | [] => some n
  | call :: rest =>
    if call.2.name != "" then
      if call.1 == (n : Int) then announce (n + 1) rest else none
    else if call.2.arguments == "" || (0 ≤ call.1 && call.1 < (n : Int)) then announce n rest
    else none

/-- A run of tool calls may be left when every offset up to the highest
seen has been announced. -/
def ConvertInfo.complete (s : ConvertInfo υ) (n : Nat) : Bool :=
  s.lastMessagesType != .tools || s.toolCallMaxIndexOffset + 1 == (n : Int)

/-- The condition on one delta in a run with `n` announced calls, and the
number announced after it. -/
def ConvertInfo.orderlyDelta (s : ConvertInfo υ) (n : Nat) (d : Delta) : Option Nat :=
  if !d.toolCalls.isEmpty then
    announce (if s.lastMessagesType == .tools then n else 0) (callOffsets d.toolCalls)
  else if d.getReasoningContent != "" || d.getContentString != "" then
    if s.complete n then some n else none
  else some n

/-- The condition on the delta of a chunk that also ends the message,
with `m` calls announced after it. -/
def ConvertInfo.completeAfter (s : ConvertInfo υ) (n m : Nat) (d : Delta) : Bool :=
  if !d.toolCalls.isEmpty then
    maxOffset (if s.lastMessagesType == .tools then s.toolCallMaxIndexOffset else 0)
      (callOffsets d.toolCalls) + 1 == (m : Int)
  else d.getReasoningContent != "" || d.getContentString != "" || s.complete n

/-- The condition on one chunk, in the state before it. -/
def ConvertInfo.orderly (s : ConvertInfo υ) (n : Nat) (chunk : Chunk υ) : Option Nat :=
  if s.done then some n
  else if s.sendResponseCount == 1 then some 1
  else
    match chunk.choices with
    | [] => if (chunk.usage.or s.usage).isSome && !s.complete n then none else some n
    | choice :: _ =>
      if choice.finished && (chunk.usage.or s.usage).isNone then some n
      else
        match s.orderlyDelta n choice.delta with
        | none => none
        | some m =>
          if choice.finished && !s.completeAfter n m choice.delta then none else some m

/-- Every chunk of the sequence is orderly in the state it meets. -/
def Converter.orderlyFrom (cv : Converter υ ω) :
    ConvertInfo υ → Nat → List (Input υ) → Bool
  | _, _, [] => true
  | s, n, inp :: rest =>
    match (s.prepare inp).orderly n inp.chunk with
    | none => false
    | some m => orderlyFrom cv (cv.feed s inp).2 m rest

def Converter.orderly (cv : Converter υ ω) (inputs : List (Input υ)) : Bool :=
  cv.orderlyFrom newConvertInfo 0 inputs

/-! ## The converter and its reader -/

def toolBlocks (base : Int) (n : Nat) : List (Int × Kind) :=
  (List.range n).map fun j : Nat => (base + (j : Int), .tool)

/-- The blocks the reader has open in a converter state. -/
def ConvertInfo.Holds (s : ConvertInfo υ) (n : Nat) (r : Reader) : Prop :=
  match s.lastMessagesType with
  | .none => r.opened = [] ∧ r.last < s.index
  | .text => r.opened = [(s.index, .text)] ∧ r.last ≤ s.index
  | .thinking => r.opened = [(s.index, .thinking)] ∧ r.last ≤ s.index
  | .tools => r.opened = toolBlocks s.toolCallBaseIndex n ∧ r.last < s.toolCallBaseIndex + n

/-- Between the first chunk and the end of the message. -/
structure Follows (s : ConvertInfo υ) (n : Nat) (r : Reader) : Prop where
  inBlocks : r.inBlocks = true
  holds : s.Holds n r

theorem readAll_stops {indices : List Int} (hin : r.inBlocks = true)
    (hopen : r.opened = indices.map fun i => (i, Kind.tool)) (hnodup : indices.Nodup) :
    r.readAll (indices.map fun i => (Event.blockStop i : Event ω))
      = some { r with opened := [] } := by
  induction indices generalizing r with
  | nil =>
    rw [List.map_nil] at hopen
    rw [← hopen]
    rfl
  | cons i rest ih =>
    obtain ⟨hi, hrest⟩ := List.nodup_cons.1 hnodup
    have hread : r.read (Event.blockStop i : Event ω)
        = some { r with opened := rest.map fun i => (i, Kind.tool) } := by
      have hfilter : r.opened.filter (·.1 != i) = rest.map fun i => (i, Kind.tool) := by
        rw [hopen, List.map_cons, List.filter_cons_of_neg (by simp), List.filter_eq_self]
        intro b hb
        obtain ⟨j, hj, rfl⟩ := List.mem_map.1 hb
        have hne : j ≠ i := fun heq => hi (heq ▸ hj)
        simpa using hne
      have hany : r.opened.any (·.1 == i) = true := by simp [hopen]
      simp [Reader.read, hin, hany, hfilter]
    rw [List.map_cons, Reader.readAll, hread]
    exact ih hin rfl hrest

theorem toolBlocks_eq_map (base : Int) (n : Nat) :
    toolBlocks base n
      = ((List.range n).map fun j : Nat => base + (j : Int)).map fun i => (i, Kind.tool) := by
  simp [toolBlocks]

/-- Leaving a block, or a complete run of tool calls, closes all that is
open and moves past it. -/
theorem Follows.stop (h : Follows s n r) (hc : s.complete n = true) :
    r.readAll (s.stopOpenBlocks : List (Event ω)) = some { r with opened := [] } ∧
      r.last < s.advance.index ∧ s.advance.lastMessagesType = .none := by
  have hin := h.inBlocks
  have hb := h.holds
  unfold ConvertInfo.Holds at hb
  cases htype : s.lastMessagesType with
  | none =>
    simp only [htype] at hb
    refine ⟨?_, ?_, ?_⟩
    · simp only [ConvertInfo.stopOpenBlocks, htype, Reader.readAll]
      rw [← hb.1]
    · simpa [ConvertInfo.advance, htype] using hb.2
    · simp [ConvertInfo.advance, htype]
  | text =>
    simp only [htype] at hb
    refine ⟨?_, ?_, ?_⟩
    · simp [ConvertInfo.stopOpenBlocks, htype, Reader.readAll, Reader.read, hin, hb.1]
    · simp only [ConvertInfo.advance, htype]
      omega
    · simp [ConvertInfo.advance, htype]
  | thinking =>
    simp only [htype] at hb
    refine ⟨?_, ?_, ?_⟩
    · simp [ConvertInfo.stopOpenBlocks, htype, Reader.readAll, Reader.read, hin, hb.1]
    · simp only [ConvertInfo.advance, htype]
      omega
    · simp [ConvertInfo.advance, htype]
  | tools =>
    simp only [htype] at hb
    have hn : s.toolCallMaxIndexOffset + 1 = n := by simpa [ConvertInfo.complete, htype] using hc
    refine ⟨?_, ?_, ?_⟩
    · simp only [ConvertInfo.stopOpenBlocks, htype, hn, Int.toNat_natCast]
      have hstops := readAll_stops (ω := ω) hin (hb.1.trans (toolBlocks_eq_map _ _))
        (List.nodup_range.map fun a b hab => by simpa using hab)
      rw [List.map_map] at hstops
      exact hstops
    · simp only [ConvertInfo.advance, htype]
      omega
    · simp [ConvertInfo.advance, htype]

/-- The two kinds of block that hold text. -/
inductive Prose : LastMessageType → Kind → Prop where
  | text : Prose .text .text
  | thinking : Prose .thinking .thinking

theorem holds_prose {type : LastMessageType} {kind : Kind} (hp : Prose type kind)
    (htype : s.lastMessagesType = type) (n : Nat) (r : Reader) :
    s.Holds n r ↔ r.opened = [(s.index, kind)] ∧ r.last ≤ s.index := by
  cases hp <;> simp [ConvertInfo.Holds, htype]

theorem readAll_startProse {i : Int} (block : Block) (piece : Piece) (hin : r.inBlocks = true)
    (hopen : r.opened = []) (hlast : r.last < i) (hkind : piece.kind = block.kind) :
    r.readAll [(Event.blockStart i block : Event ω), .blockDelta i piece]
      = some { r with last := i, opened := [(i, block.kind)] } := by
  have hadmits : r.admits block.kind = true := by simp [Reader.admits, hopen]
  have hstart : r.read (Event.blockStart i block : Event ω)
      = some { r with last := i, opened := [(i, block.kind)] } := by
    simp [Reader.read, hin, hlast, hadmits, hopen]
  have hdelta : ({ r with last := i, opened := [(i, block.kind)] } : Reader).read
      (Event.blockDelta i piece : Event ω) = some { r with last := i, opened := [(i, block.kind)] } :=
    read_delta hin (by simp [hkind])
  exact readAll_trans (readAll_one hstart) (readAll_one hdelta)

theorem Follows.write {s : ConvertInfo υ} {n : Nat} {r : Reader} (h : Follows s n r)
    (hc : s.complete n = true) {type : LastMessageType} (block : Block) (piece : Piece)
    (hp : Prose type block.kind) (hkind : piece.kind = block.kind) :
    ∃ r', r.readAll (s.write type block piece : List (Event ω) × _).1 = some r' ∧
      Follows (s.write (ω := ω) type block piece).2 n r' := by
  unfold ConvertInfo.write
  by_cases htype : s.lastMessagesType = type
  · -- the open block takes the piece
    obtain ⟨hopen, hlast⟩ := (holds_prose hp htype n r).1 h.holds
    have hdelta : r.read (Event.blockDelta s.index piece : Event ω) = some r :=
      read_delta h.inBlocks (by simp [hopen, hkind])
    refine ⟨r, ?_, ?_⟩
    · simpa [htype] using readAll_one hdelta
    · simpa [htype] using h
  · obtain ⟨hstop, hlast, -⟩ := h.stop (ω := ω) hc
    have hstart := readAll_startProse (ω := ω) (r := { r with opened := [] }) block piece
      h.inBlocks rfl hlast hkind
    have hne : (s.lastMessagesType != type) = true := by simpa using htype
    simp only [hne, if_true]
    exact ⟨_, readAll_trans hstop hstart, h.inBlocks, (holds_prose hp rfl n _).2 ⟨rfl, le_rfl⟩⟩

/-! ## Runs of tool calls -/

theorem toolBlocks_succ (base : Int) (n : Nat) :
    toolBlocks base (n + 1) = toolBlocks base n ++ [(base + n, .tool)] := by
  simp [toolBlocks, List.range_succ]

theorem mem_toolBlocks (base : Int) {offset : Int} (hlow : 0 ≤ offset) (hhigh : offset < n) :
    (base + offset, Kind.tool) ∈ toolBlocks base n := by
  refine List.mem_map.2 ⟨offset.toNat, List.mem_range.2 (by omega), ?_⟩
  rw [Int.toNat_of_nonneg hlow]

theorem all_toolBlocks (base : Int) (n : Nat) :
    (toolBlocks base n).all (·.2 == .tool) = true := by
  simp [toolBlocks]

variable {base : Int} {calls : List (Int × ToolCall)}

theorem readAll_callEvents {call : Int × ToolCall} {rest : List (Int × ToolCall)}
    (hin : r.inBlocks = true) (hopen : r.opened = toolBlocks base n) (hlast : r.last < base + n)
    (hann : announce n (call :: rest) = some m) :
    ∃ k last, announce k rest = some m ∧
      r.readAll (callEvents base call : List (Event ω))
        = some { r with last, opened := toolBlocks base k } ∧ last < base + k := by
  obtain ⟨offset, call⟩ := call
  have hsame : ({ r with opened := toolBlocks base n } : Reader) = r := by rw [← hopen]
  unfold announce at hann
  by_cases hname : call.name = ""
  · -- no block is started
    simp only [hname, bne_self_eq_false, Bool.false_eq_true, if_false] at hann
    split at hann
    · rename_i hargs
      refine ⟨n, r.last, hann, ?_, hlast⟩
      rw [show ({ r with last := r.last, opened := toolBlocks base n } : Reader) = r from hsame]
      by_cases harg : call.arguments = ""
      · simp [callEvents, hname, harg, Reader.readAll]
      · have hrange : 0 ≤ offset ∧ offset < n := by simpa [harg] using hargs
        have hmem := mem_toolBlocks base hrange.1 hrange.2
        have hdelta : r.read (Event.blockDelta (base + offset) (.inputJson call.arguments) :
            Event ω) = some r := read_delta hin (by simpa [hopen, Piece.kind] using hmem)
        simpa [callEvents, hname, harg] using readAll_one hdelta
    · cases hann
  · simp only [bne_iff_ne, ne_eq, hname, not_false_eq_true, if_true] at hann
    split at hann
    · rename_i hoff
      obtain rfl : offset = n := by simpa using hoff
      refine ⟨n + 1, base + n, hann, ?_, by omega⟩
      have hstart : r.read (Event.blockStart (base + n) (.toolUse call.id call.name) : Event ω)
          = some { r with last := base + n, opened := toolBlocks base (n + 1) } := by
        have hadmits : r.admits .tool = true := by
          simp [Reader.admits, hopen, all_toolBlocks]
        simp [Reader.read, hin, hlast, Block.kind, hadmits, hopen, toolBlocks_succ]
      by_cases harg : call.arguments = ""
      · simpa [callEvents, hname, harg] using readAll_one hstart
      · have hdelta : ({ r with last := base + n, opened := toolBlocks base (n + 1) } : Reader).read
            (Event.blockDelta (base + n) (.inputJson call.arguments) : Event ω)
            = some { r with last := base + n, opened := toolBlocks base (n + 1) } :=
          read_delta hin (mem_toolBlocks base (by omega) (by omega))
        simpa [callEvents, hname, harg] using readAll_trans (readAll_one hstart) (readAll_one hdelta)
    · cases hann

theorem readAll_toolEvents (hin : r.inBlocks = true) (hopen : r.opened = toolBlocks base n)
    (hlast : r.last < base + n) (hann : announce n calls = some m) :
    ∃ last, r.readAll (toolEvents base calls : List (Event ω))
        = some { r with last, opened := toolBlocks base m } ∧ last < base + m := by
  induction calls generalizing r n with
  | nil =>
    obtain rfl : n = m := by simpa [announce] using hann
    refine ⟨r.last, ?_, hlast⟩
    rw [← hopen]
    rfl
  | cons call rest ih =>
    obtain ⟨k, last, hrest, hread, hlast'⟩ := readAll_callEvents (ω := ω) hin hopen hlast hann
    obtain ⟨last', hread', hlt⟩ := ih (r := { r with last, opened := toolBlocks base k })
      hin rfl hlast' hrest
    refine ⟨last', ?_, hlt⟩
    rw [toolEvents, List.flatMap_cons]
    exact readAll_trans hread hread'

theorem Follows.writeTools (h : Follows s n r)
    (hann : announce (if s.lastMessagesType == .tools then n else 0) calls = some m) :
    ∃ r', r.readAll (s.writeTools calls : List (Event ω) × _).1 = some r' ∧
      Follows (s.writeTools (ω := ω) calls).2 m r' := by
  unfold ConvertInfo.writeTools
  by_cases htype : s.lastMessagesType = .tools
  · obtain ⟨hopen, hlast⟩ : r.opened = toolBlocks s.toolCallBaseIndex n ∧
        r.last < s.toolCallBaseIndex + n := by
      simpa [ConvertInfo.Holds, htype] using h.holds
    simp only [htype, beq_self_eq_true, if_true] at hann
    obtain ⟨last, hread, hlt⟩ := readAll_toolEvents (ω := ω) h.inBlocks hopen hlast hann
    simp only [htype, bne_self_eq_false, Bool.false_eq_true, if_false, List.nil_append]
    exact ⟨_, hread, h.inBlocks, rfl, hlt⟩
  · have hc : s.complete n = true := by simp [ConvertInfo.complete, htype]
    obtain ⟨hstop, hlast, -⟩ := h.stop (ω := ω) hc
    have hne : (s.lastMessagesType != .tools) = true := by simpa using htype
    have hbeq : (s.lastMessagesType == .tools) = false := by simpa using htype
    simp only [hbeq, Bool.false_eq_true, if_false] at hann
    obtain ⟨last, hread, hlt⟩ := readAll_toolEvents (ω := ω) (r := { r with opened := [] })
      h.inBlocks rfl (show r.last < s.advance.index + (0 : Nat) by simpa using hlast) hann
    simp only [hne, if_true]
    exact ⟨_, readAll_trans hstop hread, h.inBlocks, rfl, hlt⟩

/-! ## One chunk -/

theorem Follows.writeDelta (h : Follows s n r) {d : Delta} (hord : s.orderlyDelta n d = some m) :
    ∃ r', r.readAll (s.writeDelta d : List (Event ω) × _).1 = some r' ∧
      Follows (s.writeDelta (ω := ω) d).2 m r' := by
  unfold ConvertInfo.orderlyDelta at hord
  unfold ConvertInfo.writeDelta
  by_cases htools : d.toolCalls = []
  · simp only [htools, List.isEmpty_nil, Bool.not_true, Bool.false_eq_true, if_false] at hord ⊢
    by_cases hreason : d.getReasoningContent = ""
    · by_cases htext : d.getContentString = ""
      · simp only [hreason, htext, bne_self_eq_false, Bool.or_self, Bool.false_eq_true,
          if_false, Option.some.injEq] at hord ⊢
        exact ⟨r, rfl, hord ▸ h⟩
      · simp only [hreason, bne_self_eq_false, Bool.false_or, bne_iff_ne, ne_eq, htext,
          not_false_eq_true, if_true, Bool.false_eq_true, if_false] at hord ⊢
        split at hord
        · cases hord
          exact h.write ‹_› _ _ .text rfl
        · cases hord
    · simp only [bne_iff_ne, ne_eq, hreason, not_false_eq_true, if_true, Bool.or_eq_true,
        true_or] at hord ⊢
      split at hord
      · cases hord
        exact h.write ‹_› _ _ .thinking rfl
      · cases hord
  · have hne : (!d.toolCalls.isEmpty) = true := by simpa using htools
    simp only [hne, if_true] at hord ⊢
    exact h.writeTools hord

theorem complete_writeDelta {d : Delta} (hord : s.orderlyDelta n d = some m)
    (hafter : s.completeAfter n m d = true) :
    (s.writeDelta (ω := ω) d).2.complete m = true := by
  unfold ConvertInfo.orderlyDelta at hord
  unfold ConvertInfo.completeAfter at hafter
  unfold ConvertInfo.writeDelta
  by_cases htools : d.toolCalls = []
  · simp only [htools, List.isEmpty_nil, Bool.not_true, Bool.false_eq_true, if_false] at hord hafter ⊢
    by_cases hreason : d.getReasoningContent = ""
    · by_cases htext : d.getContentString = ""
      · simp only [hreason, htext, bne_self_eq_false, Bool.or_self, Bool.false_eq_true,
          if_false, Option.some.injEq, Bool.false_or] at hord hafter ⊢
        exact hord ▸ hafter
      · by_cases htype : s.lastMessagesType = .text <;>
          simp [hreason, htext, ConvertInfo.write, htype, ConvertInfo.complete]
    · by_cases htype : s.lastMessagesType = .thinking <;>
        simp [hreason, ConvertInfo.write, htype, ConvertInfo.complete]
  · have hne : (!d.toolCalls.isEmpty) = true := by simpa using htools
    simp only [hne, if_true] at hafter ⊢
    by_cases htype : s.lastMessagesType = .tools <;>
      simpa [ConvertInfo.writeTools, htype, ConvertInfo.complete] using hafter

theorem readAll_closing (cv : Converter υ ω) (hin : r.inBlocks = true) (hopen : r.opened = [])
    (usage : Option υ) (reason : String) :
    ∃ r', r.readAll (cv.closing usage reason) = some r' ∧ r'.started = true ∧ r'.opened = [] := by
  simp only [Reader.inBlocks, Bool.and_eq_true, Bool.not_eq_true'] at hin
  obtain ⟨⟨hstarted, hdelta⟩, hstopped⟩ := hin
  cases usage with
  | none =>
    exact ⟨{ r with stopped := true },
      by simp [Converter.closing, Reader.readAll, Reader.read, hstarted, hstopped, hopen],
      hstarted, hopen⟩
  | some u =>
    exact ⟨{ r with delta := true, stopped := true },
      by simp [Converter.closing, Reader.readAll, Reader.read, Reader.inBlocks, hstarted, hdelta,
        hstopped, hopen], hstarted, hopen⟩

theorem Follows.finish (cv : Converter υ ω) (h : Follows s n r) (hc : s.complete n = true)
    (usage : Option υ) (reason : String) :
    ∃ r', r.readAll (s.stopOpenBlocks ++ cv.closing usage reason) = some r' ∧
      r'.started = true ∧ r'.opened = [] := by
  obtain ⟨hstop, -, -⟩ := h.stop (ω := ω) hc
  obtain ⟨r', hclose, hr⟩ := readAll_closing cv (r := { r with opened := [] }) h.inBlocks rfl
    usage reason
  exact ⟨r', readAll_trans hstop hclose, hr⟩

@[simp] theorem advance_done (s : ConvertInfo υ) : s.advance.done = s.done := by
  unfold ConvertInfo.advance
  split <;> rfl

@[simp] theorem advance_sendResponseCount (s : ConvertInfo υ) :
    s.advance.sendResponseCount = s.sendResponseCount := by
  unfold ConvertInfo.advance
  split <;> rfl

@[simp] theorem advance_usage (s : ConvertInfo υ) : s.advance.usage = s.usage := by
  unfold ConvertInfo.advance
  split <;> rfl

/-- Writing blocks leaves the rest of the state alone. -/
structure SameMessage (s t : ConvertInfo υ) : Prop where
  done : t.done = s.done
  count : t.sendResponseCount = s.sendResponseCount
  usage : t.usage = s.usage

theorem writeDelta_frame (s : ConvertInfo υ) (d : Delta) :
    SameMessage s (s.writeDelta (ω := ω) d).2 := by
  unfold ConvertInfo.writeDelta ConvertInfo.writeTools ConvertInfo.write
  split_ifs <;> constructor <;> simp

/-- What a chunk leaves to track: the message is over, or the reader
follows on. -/
def ConvertInfo.Reads (s : ConvertInfo υ) (n : Nat) (r : Reader) : Prop :=
  if s.done then r.started = true ∧ r.opened = [] else Follows s n r

theorem laterChunk_spec (cv : Converter υ ω) {chunk : Chunk υ} (h : Follows s n r)
    (hdone : s.done = false) (hcount : s.sendResponseCount ≠ 1)
    (hord : s.orderly n chunk = some m) :
    ∃ r', r.readAll (cv.laterChunk chunk s).1 = some r' ∧
      (cv.laterChunk chunk s).2.Reads m r' := by
  have hbeq : (s.sendResponseCount == 1) = false := by simpa using hcount
  simp only [ConvertInfo.orderly, hdone, Bool.false_eq_true, if_false, hbeq] at hord
  unfold Converter.laterChunk
  cases hchoices : chunk.choices with
  | nil =>
    rw [hchoices] at hord
    cases hu : chunk.usage.or s.usage with
    | none =>
      simp only [hu, Option.isSome_none, Bool.false_and, Bool.false_eq_true, if_false,
        Option.some.injEq] at hord
      exact ⟨r, rfl, by simpa [ConvertInfo.Reads, hdone] using hord ▸ h⟩
    | some u =>
      have hc : s.complete n = true := by
        by_contra hno
        simp [hu, hno] at hord
      obtain ⟨r', hread, hr⟩ := h.finish cv hc (some u) _
      exact ⟨r', hread, by simpa [ConvertInfo.Reads] using hr⟩
  | cons choice rest =>
    rw [hchoices] at hord
    by_cases hfin : choice.finished = true
    · simp only [hfin, Bool.true_and, if_true] at hord ⊢
      cases hu : chunk.usage.or s.usage with
      | none =>
        simp only [hu, Option.isNone_none, if_true, Option.some.injEq] at hord
        have hsame : Follows { s with finishReason := choice.finishReason.getD "" } m r :=
          ⟨h.inBlocks, hord ▸ h.holds⟩
        exact ⟨r, rfl, by simpa [ConvertInfo.Reads, hdone] using hsame⟩
      | some u =>
        simp only [hu, Option.isNone_some, Bool.false_eq_true, if_false] at hord
        cases hdelta : s.orderlyDelta n choice.delta with
        | none => simp [hdelta] at hord
        | some k =>
          have hafter : s.completeAfter n k choice.delta = true := by
            by_contra hno
            simp [hdelta, hno] at hord
          have hs : Follows { s with finishReason := choice.finishReason.getD "" } n r :=
            ⟨h.inBlocks, h.holds⟩
          have hord' : ({ s with finishReason := choice.finishReason.getD "" } :
              ConvertInfo υ).orderlyDelta n choice.delta = some k := hdelta
          obtain ⟨r₁, hbody, hr₁⟩ := hs.writeDelta (ω := ω) hord'
          obtain ⟨r', hread, hr⟩ := hr₁.finish cv (complete_writeDelta hord' hafter) (some u)
            (cv.stopReasonOpenAI2Claude ((ConvertInfo.writeDelta (ω := ω)
              { s with finishReason := choice.finishReason.getD "" } choice.delta).2.finishReason))
          refine ⟨r', ?_, by simpa [ConvertInfo.Reads] using hr⟩
          simp only [List.append_assoc]
          exact readAll_trans hbody hread
    · simp only [hfin, Bool.false_and, Bool.false_eq_true, if_false] at hord ⊢
      cases hdelta : s.orderlyDelta n choice.delta with
      | none => simp [hdelta] at hord
      | some k =>
        obtain rfl : k = m := by simpa [hdelta] using hord
        obtain ⟨r', hbody, hr'⟩ := h.writeDelta (ω := ω) hdelta
        refine ⟨r', hbody, ?_⟩
        simpa [ConvertInfo.Reads, (writeDelta_frame s choice.delta).done, hdone] using hr'

theorem firstText_eq (htype : s.lastMessagesType = .none ∨ s.lastMessagesType = .tools)
    (d : Delta) :
    s.firstText (ω := ω) d =
      if d.getReasoningContent != "" then
        s.write .thinking .thinking (.thinking d.getReasoningContent)
      else if d.getContentString != "" then s.write .text .text (.text d.getContentString)
      else ([], s) := by
  unfold ConvertInfo.firstText ConvertInfo.write
  obtain htype | htype := htype <;> simp [htype]

theorem Follows.firstTool (hin : r.inBlocks = true) (hopen : r.opened = []) (hlast : r.last < 0)
    (htype : s.lastMessagesType = .none) (hindex : s.index = 0) (d : Delta) :
    ∃ r', r.readAll (s.firstTool d : List (Event ω) × _).1 = some r' ∧
      Follows (s.firstTool (ω := ω) d).2 1 r' ∧ (s.firstTool (ω := ω) d).2.complete 1 = true ∧
      ((s.firstTool (ω := ω) d).2.lastMessagesType = .none ∨
        (s.firstTool (ω := ω) d).2.lastMessagesType = .tools) := by
  unfold ConvertInfo.firstTool
  cases d.toolCalls with
  | nil =>
    refine ⟨r, rfl, ⟨hin, ?_⟩, by simp [ConvertInfo.complete, htype], Or.inl htype⟩
    simp [ConvertInfo.Holds, htype, hindex, hopen, hlast]
  | cons call rest =>
    have hstart : r.read (Event.blockStart 0 (.toolUse call.id call.name) : Event ω)
        = some { r with last := 0, opened := [(0, .tool)] } := by
      simp [Reader.read, hin, hlast, Reader.admits, hopen, Block.kind]
    have hdelta : ({ r with last := 0, opened := [(0, .tool)] } : Reader).read
        (Event.blockDelta 0 (.inputJson call.arguments) : Event ω)
        = some { r with last := 0, opened := [(0, .tool)] } :=
      read_delta hin (by simp [Piece.kind])
    refine ⟨{ r with last := 0, opened := [(0, .tool)] }, ?_, ⟨hin, ?_⟩,
      by simp [ConvertInfo.complete], Or.inr rfl⟩
    · by_cases harg : call.arguments = ""
      · simpa [harg] using readAll_one hstart
      · simpa [harg] using readAll_trans (readAll_one hstart) (readAll_one hdelta)
    · simp [ConvertInfo.Holds, toolBlocks]

theorem Follows.firstText (h : Follows s 1 r) (hc : s.complete 1 = true)
    (htype : s.lastMessagesType = .none ∨ s.lastMessagesType = .tools) (d : Delta) :
    ∃ r', r.readAll (s.firstText d : List (Event ω) × _).1 = some r' ∧
      Follows (s.firstText (ω := ω) d).2 1 r' ∧ (s.firstText (ω := ω) d).2.complete 1 = true := by
  have hprose : ∀ {type : LastMessageType} {block : Block} {piece : Piece},
      Prose type block.kind → (s.write (ω := ω) type block piece).2.complete 1 = true := by
    intro type block piece hp
    have hwritten : (s.write (ω := ω) type block piece).2.lastMessagesType = type := by
      unfold ConvertInfo.write
      split_ifs with hne
      · rfl
      · simpa using hne
    have hnot : type ≠ .tools := fun heq => by
      subst heq
      cases block <;> cases hp
    simp [ConvertInfo.complete, hwritten, hnot]
  rw [firstText_eq htype]
  split_ifs
  · obtain ⟨r', hread, hr'⟩ := h.write (ω := ω) hc .thinking
      (.thinking d.getReasoningContent) .thinking rfl
    exact ⟨r', hread, hr', hprose .thinking⟩
  · obtain ⟨r', hread, hr'⟩ := h.write (ω := ω) hc .text
      (.text d.getContentString) .text rfl
    exact ⟨r', hread, hr', hprose .text⟩
  · exact ⟨r, rfl, h, hc⟩

theorem firstTool_frame (s : ConvertInfo υ) (d : Delta) :
    SameMessage s (s.firstTool (ω := ω) d).2 := by
  unfold ConvertInfo.firstTool
  cases d.toolCalls <;> exact ⟨rfl, rfl, rfl⟩

theorem firstText_frame (s : ConvertInfo υ) (d : Delta) :
    SameMessage s (s.firstText (ω := ω) d).2 := by
  unfold ConvertInfo.firstText
  split_ifs
  · simp only
    split_ifs <;> constructor <;> simp
  · simp only
    split_ifs <;> constructor <;> simp
  · exact ⟨rfl, rfl, rfl⟩

theorem firstChunk_spec (cv : Converter υ ω) (hdone : s.done = false)
    (htype : s.lastMessagesType = .none) (hindex : s.index = 0) (chunk : Chunk υ) :
    ∃ r', newReader.readAll (cv.firstChunk chunk s).1 = some r' ∧
      (cv.firstChunk chunk s).2.Reads 1 r' := by
  have hmessage : newReader.readAll
      [(Event.messageStart chunk.id chunk.model cv.estimatePromptTokens : Event ω)]
      = some { newReader with started := true } := rfl
  unfold Converter.firstChunk
  cases chunk.choices with
  | nil =>
    refine ⟨_, hmessage, ?_⟩
    simp only [ConvertInfo.Reads, hdone, Bool.false_eq_true, if_false]
    exact ⟨rfl, by simp [ConvertInfo.Holds, htype, hindex, newReader]⟩
  | cons choice rest =>
    obtain ⟨r₁, htool, hr₁, hc₁, htype₁⟩ := Follows.firstTool (ω := ω) (s := s)
      (r := { newReader with started := true }) rfl rfl (by decide) htype hindex choice.delta
    obtain ⟨r₂, htext, hr₂, hc₂⟩ := hr₁.firstText (ω := ω) hc₁ htype₁ choice.delta
    have hbody := readAll_trans (readAll_trans hmessage htool) htext
    simp only
    split_ifs
    · obtain ⟨r', hread, hr⟩ := hr₂.finish cv hc₂
        (chunk.usage.or ((s.firstTool (ω := ω) choice.delta).2.firstText (ω := ω)
          choice.delta).2.usage) (cv.stopReasonOpenAI2Claude (choice.finishReason.getD ""))
      refine ⟨r', ?_, by simpa [ConvertInfo.Reads] using hr⟩
      rw [List.append_assoc _ _ (cv.closing _ _)]
      exact readAll_trans hbody hread
    · refine ⟨r₂, hbody, ?_⟩
      have hopen : ((s.firstTool (ω := ω) choice.delta).2.firstText (ω := ω) choice.delta).2.done
          = false :=
        (firstText_frame _ _).done.trans ((firstTool_frame _ _).done.trans hdone)
      simpa [ConvertInfo.Reads, hopen] using hr₂

/-- The chunk ends the message: the first one by its finish reason, a
later one when the usage is known by then. -/
def Chunk.ends (chunk : Chunk υ) (first : Bool) (usage : Option υ) : Bool :=
  match chunk.choices with
  | [] => !first && (chunk.usage.or usage).isSome
  | choice :: _ => choice.finished && (first || (chunk.usage.or usage).isSome)

theorem firstChunk_frame (cv : Converter υ ω) (chunk : Chunk υ) (hdone : s.done = false) :
    (cv.firstChunk chunk s).2.done = chunk.ends true s.usage ∧
      (cv.firstChunk chunk s).2.sendResponseCount = s.sendResponseCount ∧
      (cv.firstChunk chunk s).2.usage = s.usage := by
  unfold Converter.firstChunk Chunk.ends
  cases chunk.choices with
  | nil => exact ⟨hdone, rfl, rfl⟩
  | cons choice rest =>
    have htool := firstTool_frame (ω := ω) s choice.delta
    have htext := firstText_frame (ω := ω) (s.firstTool (ω := ω) choice.delta).2 choice.delta
    simp only
    split_ifs with hfin
    · exact ⟨by simp [hfin], htext.count.trans htool.count, htext.usage.trans htool.usage⟩
    · exact ⟨by simp [hfin, htext.done, htool.done, hdone], htext.count.trans htool.count,
        htext.usage.trans htool.usage⟩

theorem laterChunk_frame (cv : Converter υ ω) (chunk : Chunk υ) (hdone : s.done = false) :
    (cv.laterChunk chunk s).2.done = chunk.ends false s.usage ∧
      (cv.laterChunk chunk s).2.sendResponseCount = s.sendResponseCount ∧
      (cv.laterChunk chunk s).2.usage = s.usage := by
  unfold Converter.laterChunk Chunk.ends
  cases chunk.choices with
  | nil => cases chunk.usage.or s.usage <;> simp [hdone]
  | cons choice rest =>
    simp only
    split_ifs with hfin
    · have hframe := writeDelta_frame (ω := ω)
        { s with finishReason := choice.finishReason.getD "" } choice.delta
      cases chunk.usage.or s.usage with
      | none => exact ⟨by simp [hdone], rfl, rfl⟩
      | some u => exact ⟨by simp [hfin], hframe.count, hframe.usage⟩
    · have hframe := writeDelta_frame (ω := ω) s choice.delta
      exact ⟨by simp [hfin, hframe.done, hdone], hframe.count, hframe.usage⟩

theorem feed_frame (cv : Converter υ ω) (s : ConvertInfo υ) (inp : Input υ) :
    (cv.feed s inp).2.done
        = (s.done || inp.chunk.ends (s.sendResponseCount == 0) (inp.recorded.or s.usage)) ∧
      (cv.feed s inp).2.sendResponseCount = s.sendResponseCount + 1 ∧
      (cv.feed s inp).2.usage = inp.recorded.or s.usage := by
  unfold Converter.feed Converter.streamResponseOpenAI2Claude
  split_ifs with hdone hcount
  · have hs : s.done = true := hdone
    exact ⟨by simp [ConvertInfo.prepare, hs], rfl, rfl⟩
  · have hs : s.done = false := by simpa [ConvertInfo.prepare] using hdone
    have hzero : s.sendResponseCount = 0 := by simpa [ConvertInfo.prepare] using hcount
    have hframe := firstChunk_frame cv inp.chunk (s := s.prepare inp) hs
    simp only [hs, hzero, Bool.false_or, beq_self_eq_true]
    exact ⟨hframe.1, hzero ▸ hframe.2.1, hframe.2.2⟩
  · have hs : s.done = false := by simpa [ConvertInfo.prepare] using hdone
    have hzero : s.sendResponseCount ≠ 0 := by simpa [ConvertInfo.prepare] using hcount
    have hframe := laterChunk_frame cv inp.chunk (s := s.prepare inp) hs
    have hbeq : (s.sendResponseCount == 0) = false := by simpa using hzero
    simp only [hs, hbeq, Bool.false_or]
    exact hframe

/-! ## Whole streams -/

theorem feed_later (cv : Converter υ ω) {inp : Input υ} (h : s.Reads n r)
    (hcount : s.sendResponseCount ≠ 0) (hord : (s.prepare inp).orderly n inp.chunk = some m) :
    ∃ r', r.readAll (cv.feed s inp).1 = some r' ∧ (cv.feed s inp).2.Reads m r' := by
  unfold Converter.feed Converter.streamResponseOpenAI2Claude
  by_cases hdone : (s.prepare inp).done = true
  · simp only [hdone, if_true]
    have hs : s.done = true := hdone
    refine ⟨r, rfl, ?_⟩
    simp only [ConvertInfo.Reads, hs, if_true] at h
    simpa only [ConvertInfo.Reads, hdone, if_true] using h
  · have hfalse : (s.prepare inp).done = false := by simpa using hdone
    have hs : s.done = false := hfalse
    have hne : (s.prepare inp).sendResponseCount ≠ 1 := by
      simp [ConvertInfo.prepare, hcount]
    have hbeq : ((s.prepare inp).sendResponseCount == 1) = false := by simpa using hne
    simp only [ConvertInfo.Reads, hs, Bool.false_eq_true, if_false] at h
    have hprep : Follows (s.prepare inp) n r := ⟨h.inBlocks, h.holds⟩
    simp only [hfalse, hbeq, Bool.false_eq_true, if_false]
    exact laterChunk_spec cv hprep hfalse hne hord

theorem run_later (cv : Converter υ ω) (h : s.Reads n r) (hcount : s.sendResponseCount ≠ 0)
    (hord : cv.orderlyFrom s n inputs = true) :
    ∃ m r', r.readAll (cv.run s inputs).1 = some r' ∧ (cv.run s inputs).2.Reads m r' := by
  induction inputs generalizing s n r with
  | nil => exact ⟨n, r, rfl, h⟩
  | cons inp rest ih =>
    unfold Converter.orderlyFrom at hord
    cases hstep : (s.prepare inp).orderly n inp.chunk with
    | none => simp [hstep] at hord
    | some m =>
      simp only [hstep] at hord
      obtain ⟨r₁, hread, hr₁⟩ := feed_later cv h hcount hstep
      have hcount' : (cv.feed s inp).2.sendResponseCount ≠ 0 := by
        rw [(feed_frame cv s inp).2.1]
        omega
      obtain ⟨k, r', hrest, hr'⟩ := ih hr₁ hcount' hord
      exact ⟨k, r', readAll_trans hread hrest, hr'⟩

theorem run_spec (cv : Converter υ ω) (hord : cv.orderly inputs = true) (hne : inputs ≠ []) :
    ∃ m r', newReader.readAll (cv.output inputs) = some r' ∧
      (cv.run newConvertInfo inputs).2.Reads m r' := by
  cases inputs with
  | nil => exact absurd rfl hne
  | cons inp rest =>
    have hfirst : cv.feed newConvertInfo inp
        = cv.firstChunk inp.chunk (newConvertInfo.prepare inp) := rfl
    obtain ⟨r₁, hread, hr₁⟩ := firstChunk_spec cv (s := newConvertInfo.prepare inp) rfl rfl rfl
      inp.chunk
    rw [← hfirst] at hread hr₁
    have hcount : (cv.feed newConvertInfo inp).2.sendResponseCount ≠ 0 := by
      rw [(feed_frame cv newConvertInfo inp).2.1]
      omega
    obtain ⟨m, r', hrest, hr'⟩ := run_later cv hr₁ hcount hord
    exact ⟨m, r', readAll_trans hread hrest, hr'⟩

/-- Some chunk of the sequence ends the message. -/
def finishesFrom (first : Bool) (usage : Option υ) : List (Input υ) → Bool
  | [] => false
  | inp :: rest =>
    inp.chunk.ends first (inp.recorded.or usage)
      || finishesFrom false (inp.recorded.or usage) rest

def finishes (inputs : List (Input υ)) : Bool :=
  finishesFrom true none inputs

theorem run_done (cv : Converter υ ω) (inputs : List (Input υ)) (s : ConvertInfo υ) :
    (cv.run s inputs).2.done
      = (s.done || finishesFrom (s.sendResponseCount == 0) s.usage inputs) := by
  induction inputs generalizing s with
  | nil => simp [Converter.run, finishesFrom]
  | cons inp rest ih =>
    obtain ⟨hdone, hcount, husage⟩ := feed_frame cv s inp
    have hstep := ih (cv.feed s inp).2
    rw [hdone, hcount, husage] at hstep
    simpa [Converter.run, finishesFrom, Bool.or_assoc] using hstep

/-- The chunk writes nothing. -/
def Chunk.silent (chunk : Chunk υ) : Bool :=
  match chunk.choices with
  | [] => true
  | choice :: _ =>
    choice.delta.toolCalls.isEmpty && choice.delta.getReasoningContent == ""
      && choice.delta.getContentString == ""

theorem feed_silent (cv : Converter υ ω) {inp : Input υ} (hs : s.lastMessagesType = .none)
    (hsilent : inp.chunk.silent = true) :
    (cv.feed s inp).2.lastMessagesType = .none := by
  have hp : (s.prepare inp).lastMessagesType = .none := hs
  unfold Converter.feed Converter.streamResponseOpenAI2Claude
  split_ifs
  · exact hp
  · unfold Converter.firstChunk
    cases hchoices : inp.chunk.choices with
    | nil => exact hp
    | cons choice rest =>
      simp only [Chunk.silent, hchoices, Bool.and_eq_true, List.isEmpty_iff, beq_iff_eq] at hsilent
      obtain ⟨⟨htools, hreason⟩, htext⟩ := hsilent
      simp only [ConvertInfo.firstTool, htools, ConvertInfo.firstText, hreason, htext,
        bne_self_eq_false, Bool.false_eq_true, if_false]
      split_ifs <;> exact hp
  · unfold Converter.laterChunk
    cases hchoices : inp.chunk.choices with
    | nil => cases inp.chunk.usage.or (s.prepare inp).usage <;> exact hp
    | cons choice rest =>
      simp only [Chunk.silent, hchoices, Bool.and_eq_true, List.isEmpty_iff, beq_iff_eq] at hsilent
      obtain ⟨⟨htools, hreason⟩, htext⟩ := hsilent
      have hwrite : ∀ t : ConvertInfo υ, t.writeDelta (ω := ω) choice.delta = ([], t) := by
        intro t
        simp [ConvertInfo.writeDelta, htools, hreason, htext]
      simp only [hwrite]
      split_ifs
      · cases inp.chunk.usage.or (s.prepare inp).usage <;> exact hp
      · exact hp

theorem run_silent (cv : Converter υ ω) (hs : s.lastMessagesType = .none)
    (hsilent : ∀ inp ∈ inputs, inp.chunk.silent = true) :
    (cv.run s inputs).2.lastMessagesType = .none := by
  induction inputs generalizing s with
  | nil => exact hs
  | cons inp rest ih =>
    obtain ⟨hhead, hrest⟩ := List.forall_mem_cons.1 hsilent
    exact ih (feed_silent cv hs hhead) hrest

theorem started_of_reads (h : s.Reads n r) :
    r.started = true := by
  unfold ConvertInfo.Reads at h
  split at h
  · exact h.1
  · have hin := h.inBlocks
    simp only [Reader.inBlocks, Bool.and_eq_true] at hin
    exact hin.1.1

theorem orderlyFrom_of_append (cv : Converter υ ω) {pre rest : List (Input υ)}
    (h : cv.orderlyFrom s n (pre ++ rest) = true) :
    cv.orderlyFrom s n pre = true := by
  induction pre generalizing s n with
  | nil => rfl
  | cons inp pre ih =>
    rw [List.cons_append, Converter.orderlyFrom] at h
    rw [Converter.orderlyFrom]
    cases hstep : (s.prepare inp).orderly n inp.chunk with
    | none => simp [hstep] at h
    | some m =>
      simp only [hstep] at h ⊢
      exact ih h

/-- In a stream whose chunks are orderly every prefix of the output is
read without complaint, and the whole is a well-formed message once some
chunk ends it, or if nothing was ever written. -/
theorem orderly_stream_well_formed (cv : Converter υ ω) (inputs : List (Input υ))
    (hord : cv.orderly inputs = true) :
    (∀ pre, pre <+: inputs → ∃ r, newReader.readAll (cv.output pre) = some r) ∧
    (finishes inputs = true ∨ (inputs ≠ [] ∧ ∀ inp ∈ inputs, inp.chunk.silent = true) →
      WellFormed (cv.output inputs)) := by
  constructor
  · rintro pre ⟨rest, rfl⟩
    cases hpre : pre with
    | nil => exact ⟨newReader, rfl⟩
    | cons inp tail =>
      have hpart : cv.orderly pre = true := orderlyFrom_of_append cv hord
      rw [hpre] at hpart
      obtain ⟨-, r, hread, -⟩ := run_spec cv hpart (List.cons_ne_nil _ _)
      exact ⟨r, hread⟩
  · intro hend
    have hne : inputs ≠ [] := by
      rintro rfl
      simp [finishes, finishesFrom] at hend
    obtain ⟨m, r, hread, hr⟩ := run_spec cv hord hne
    refine ⟨r, hread, started_of_reads hr, ?_⟩
    unfold ConvertInfo.Reads at hr
    split at hr
    · exact hr.2
    · rename_i hopen
      obtain hfin | ⟨-, hsilent⟩ := hend
      · have hdone := run_done cv inputs newConvertInfo
        have hnew : finishesFrom (newConvertInfo (υ := υ).sendResponseCount == 0)
            newConvertInfo.usage inputs = finishes inputs := rfl
        rw [hnew, hfin, Bool.or_true] at hdone
        exact absurd hdone hopen
      · have hnone := run_silent cv (s := newConvertInfo) rfl hsilent
        have hholds := hr.holds
        simp only [ConvertInfo.Holds, hnone] at hholds
        exact hholds.1

/-! ## A stream that fits and one that does not -/

/-- A converter with token counts for usages and ASCII case mapping. -/
def plainConverter : Converter Nat Nat where
  estimatePromptTokens := 7
  buildClaudeUsageFromOpenAIUsage := id
  toLower := fun s => String.ofList (s.toList.map Char.toLower)

def deltaInput (content : Option String) (toolCalls : List ToolCall) : Input Nat where
  chunk :=
    { id := "chatcmpl-1", model := "gpt-4o"
      choices := [{ delta := { content, reasoningContent := none, reasoning := none, toolCalls }
                    finishReason := none }]
      usage := none }
  recorded := none

def finishInput (reason : String) : Input Nat where
  chunk :=
    { id := "chatcmpl-1", model := "gpt-4o"
      choices := [{ delta := { content := none, reasoningContent := none, reasoning := none
                               toolCalls := [] }
                    finishReason := some reason }]
      usage := some 10 }
  recorded := some 10

/-- Text, then two calls announced one after the other. -/
theorem announced_calls_well_formed :
    WellFormed (plainConverter.output
      [deltaInput (some "hello") [],
        deltaInput none [⟨some 0, "call_1", "lookup", "\x7b"⟩, ⟨some 1, "call_2", "fetch", ""⟩],
        deltaInput none [⟨some 0, "", "", "\x7d"⟩],
        finishInput "tool_calls"]) :=
  (orderly_stream_well_formed plainConverter _ (by decide)).2 (Or.inl (by decide))

/-- Two calls in the first chunk: the second is never started, and its
arguments arrive for a block that is not open. -/
theorem parallel_calls_in_first_chunk :
    ¬ ∀ inputs : List (Input Nat), finishes inputs = true →
      WellFormed (plainConverter.output inputs) := by
  intro hclaim
  obtain ⟨r, hread, -⟩ := hclaim
    [deltaInput none [⟨some 0, "call_1", "lookup", ""⟩, ⟨some 1, "call_2", "fetch", ""⟩],
      deltaInput none [⟨some 1, "", "", "\x7b\x7d"⟩],
      finishInput "tool_calls"] (by decide)
  have hrefused : newReader.readAll (plainConverter.output
      [deltaInput none [⟨some 0, "call_1", "lookup", ""⟩, ⟨some 1, "call_2", "fetch", ""⟩],
        deltaInput none [⟨some 1, "", "", "\x7b\x7d"⟩],
        finishInput "tool_calls"]) = none := by
    decide
  rw [hrefused] at hread
  cases hread

end YouBox.ClaudeStream
