import YouBox.ClaudeStream

/-!
# What the Claude stream carries

The content side of `StreamResponseOpenAI2Claude`: which text, thinking
and tool arguments of the chunks come out again, and where.

The converter looks at the first choice of a chunk only, picks one of
tool calls, reasoning and text in it, takes a single tool call from the
first chunk, and drops what stands in a finish chunk that waits for its
usage. A tool call is known by its index, a block by its position in the
message; the `Entry` list pairs the two. `fileChunk` says what a chunk
may hold so that none of its content is lost, and `Kept` is what a run
of such chunks preserves.
-/

namespace YouBox.ClaudeStream

variable {υ ω : Type}

/-! ## Content of the chunks -/

def ToolCall.blank (call : ToolCall) : Bool :=
  call.id == "" && call.name == "" && call.arguments == ""

def Delta.blank (d : Delta) : Bool :=
  d.getContentString == "" && d.getReasoningContent == "" && d.toolCalls.all ToolCall.blank

/-- The deltas of all choices, in the order of the stream. -/
def Chunk.deltas (chunk : Chunk υ) : List Delta :=
  chunk.choices.map Choice.delta

def deltasIn (inputs : List (Input υ)) : List Delta :=
  inputs.flatMap fun inp => inp.chunk.deltas

def textIn (ds : List Delta) : String :=
  String.join (ds.map Delta.getContentString)

def reasoningIn (ds : List Delta) : String :=
  String.join (ds.map Delta.getReasoningContent)

def callsIn (ds : List Delta) : List (Int × ToolCall) :=
  ds.flatMap fun d => callOffsets d.toolCalls

/-- The fragments of the tool call with index `key`. -/
def fragments (key : Int) (calls : List (Int × ToolCall)) : List ToolCall :=
  (calls.filter (·.1 == key)).map (·.2)

def argumentsOf (key : Int) (calls : List (Int × ToolCall)) : String :=
  String.join ((fragments key calls).map ToolCall.arguments)

/-! ## Content of the events -/

def Event.textPiece : Event ω → Option String
  | .blockDelta _ (.text s) => some s
  | _ => none

def Event.thinkingPiece : Event ω → Option String
  | .blockDelta _ (.thinking s) => some s
  | _ => none

def Event.jsonPiece (block : Int) : Event ω → Option String
  | .blockDelta i (.inputJson s) => if i == block then some s else none
  | _ => none

def Event.toolStart (block : Int) : Event ω → Option (String × String)
  | .blockStart i (.toolUse id name) => if i == block then some (id, name) else none
  | _ => none

def textOut (events : List (Event ω)) : String :=
  String.join (events.filterMap Event.textPiece)

def thinkingOut (events : List (Event ω)) : String :=
  String.join (events.filterMap Event.thinkingPiece)

def jsonAt (block : Int) (events : List (Event ω)) : String :=
  String.join (events.filterMap (Event.jsonPiece block))

def toolStartsAt (block : Int) (events : List (Event ω)) : List (String × String) :=
  events.filterMap (Event.toolStart block)

/-- The tool call with index `key` is carried by `block`: one start with
its id and name, and its arguments whole. -/
structure Carried (key block : Int) (calls : List (Int × ToolCall)) (events : List (Event ω)) :
    Prop where
  start : ∃ call ∈ fragments key calls,
    toolStartsAt block events = [(call.id, call.name)] ∧
      ∀ other ∈ fragments key calls,
        (other.id = "" ∨ other.id = call.id) ∧ (other.name = "" ∨ other.name = call.name)
  json : jsonAt block events = argumentsOf key calls

/-- No content is lost between the deltas and the events. -/
structure Lossless (ds : List Delta) (events : List (Event ω)) : Prop where
  text : textOut events = textIn ds
  thinking : thinkingOut events = reasoningIn ds
  tools : ∃ blockOf : Int → Int,
    (∀ key, (∃ call ∈ fragments key (callsIn ds), call.blank = false) →
      Carried key (blockOf key) (callsIn ds) events) ∧
    (∀ key key', (∃ call ∈ fragments key (callsIn ds), call.blank = false) →
      (∃ call ∈ fragments key' (callsIn ds), call.blank = false) →
      blockOf key = blockOf key' → key = key')

/-! ## Chunks that lose nothing -/

/-- A tool call that has been started, and the block it went to. -/
structure Entry where
  key : Int
  block : Int
  call : ToolCall
deriving DecidableEq

/-- Files a call of a run that starts at block `base`: its first fragment
has the name and meets an unused block, the others go to the same one. -/
def fileCall (base : Int) (filed : List Entry) (call : Int × ToolCall) : Option (List Entry) :=
  if call.2.blank then some filed
  else
    match filed.find? (·.key == call.1) with
    | none =>
      if call.2.name != "" && filed.all (·.block != base + call.1) then
        some (filed ++ [⟨call.1, base + call.1, call.2⟩])
      else none
    | some entry =>
      if call.2.name == "" && (call.2.id == "" || call.2.id == entry.call.id)
          && entry.block == base + call.1 then some filed
      else none

def fileCalls (base : Int) : List Entry → List (Int × ToolCall) → Option (List Entry)
  | filed, [] => some filed
  | filed, call :: rest => (fileCall base filed call).bind fun filed => fileCalls base filed rest

/-- At most one of reasoning and text. -/
def Delta.oneProse (d : Delta) : Bool :=
  d.getReasoningContent == "" || d.getContentString == ""

/-- The first chunk takes one tool call, which has to name itself. -/
def fileFirst (filed : List Entry) (d : Delta) : Option (List Entry) :=
  if !d.oneProse then none
  else
    match callOffsets d.toolCalls with
    | [] => some filed
    | call :: rest =>
      if call.2.name != "" && rest.all (·.2.blank) then fileCall (-call.1) filed call else none

/-- A later chunk takes tool calls, or reasoning, or text. -/
def ConvertInfo.fileDelta (s : ConvertInfo υ) (filed : List Entry) (d : Delta) :
    Option (List Entry) :=
  if d.toolCalls.isEmpty then if d.oneProse then some filed else none
  else if d.getReasoningContent == "" && d.getContentString == "" then
    fileCalls (if s.lastMessagesType == .tools then s.toolCallBaseIndex else s.advance.index)
      filed (callOffsets d.toolCalls)
  else none

/-- The chunk is converted to nothing but the end of the message. -/
def ConvertInfo.ignores (s : ConvertInfo υ) (chunk : Chunk υ) (choice : Choice) : Bool :=
  s.done || (s.sendResponseCount != 1 && choice.finished && (chunk.usage.or s.usage).isNone)

def ConvertInfo.fileChunk (s : ConvertInfo υ) (filed : List Entry) (chunk : Chunk υ) :
    Option (List Entry) :=
  match chunk.choices with
  | [] => some filed
  | choice :: rest =>
    if !rest.all (·.delta.blank) then none
    else if s.ignores chunk choice then if choice.delta.blank then some filed else none
    else if s.sendResponseCount == 1 then fileFirst filed choice.delta
    else s.fileDelta filed choice.delta

/-- Every chunk keeps its content in the state it meets. -/
def Converter.keepsFrom (cv : Converter υ ω) : ConvertInfo υ → List Entry → List (Input υ) → Bool
  | _, _, [] => true
  | s, filed, inp :: rest =>
    match (s.prepare inp).fileChunk filed inp.chunk with
    | none => false
    | some filed => keepsFrom cv (cv.feed s inp).2 filed rest

def Converter.keeps (cv : Converter υ ω) (inputs : List (Input υ)) : Bool :=
  cv.keepsFrom newConvertInfo [] inputs

/-! ## Projections of a call -/

theorem textOut_append (es fs : List (Event ω)) : textOut (es ++ fs) = textOut es ++ textOut fs := by
  simp [textOut]

theorem thinkingOut_append (es fs : List (Event ω)) :
    thinkingOut (es ++ fs) = thinkingOut es ++ thinkingOut fs := by
  simp [thinkingOut]

theorem jsonAt_append (block : Int) (es fs : List (Event ω)) :
    jsonAt block (es ++ fs) = jsonAt block es ++ jsonAt block fs := by
  simp [jsonAt]

theorem toolStartsAt_append (block : Int) (es fs : List (Event ω)) :
    toolStartsAt block (es ++ fs) = toolStartsAt block es ++ toolStartsAt block fs := by
  simp [toolStartsAt]

theorem fragments_append (key : Int) (calls more : List (Int × ToolCall)) :
    fragments key (calls ++ more) = fragments key calls ++ fragments key more := by
  simp [fragments]

theorem argumentsOf_append (key : Int) (calls more : List (Int × ToolCall)) :
    argumentsOf key (calls ++ more) = argumentsOf key calls ++ argumentsOf key more := by
  simp [argumentsOf, fragments_append]

theorem fragments_self (call : Int × ToolCall) : fragments call.1 [call] = [call.2] := by
  simp [fragments]

variable {key : Int} {call : Int × ToolCall} {calls : List (Int × ToolCall)}
  {events : List (Event ω)} {base : Int} {filed filed' : List Entry} {text thinking : String}
  {fs : List (Event ω)} {ds : List Delta} {d : Delta} {s : ConvertInfo υ} {chunk : Chunk υ}
  {choice : Choice} {rest : List Choice}

theorem fragments_other (hkey : key ≠ call.1) :
    fragments key [call] = [] := by
  simp [fragments, Ne.symm hkey]

theorem blank_iff {call : ToolCall} :
    call.blank = true ↔ call.id = "" ∧ call.name = "" ∧ call.arguments = "" := by
  simp [ToolCall.blank, and_assoc]

theorem argumentsOf_of_blank (hblank : ∀ call ∈ fragments key calls, call.blank = true) :
    argumentsOf key calls = "" := by
  have hall : ∀ cs : List ToolCall, (∀ call ∈ cs, call.blank = true) →
      String.join (cs.map ToolCall.arguments) = "" := by
    intro cs hcs
    induction cs with
    | nil => rfl
    | cons call cs ih =>
      obtain ⟨hcall, hrest⟩ := List.forall_mem_cons.1 hcs
      simp [(blank_iff.1 hcall).2.2, ih hrest]
  exact hall _ hblank

theorem toolStartsAt_callEvents (block base : Int) (call : Int × ToolCall) :
    toolStartsAt block (callEvents base call : List (Event ω))
      = if block = base + call.1 ∧ call.2.name ≠ "" then [(call.2.id, call.2.name)] else [] := by
  unfold toolStartsAt callEvents
  simp only [eq_comm (a := block)]
  by_cases hname : call.2.name = "" <;> by_cases hargs : call.2.arguments = "" <;>
    by_cases hblock : base + call.1 = block <;>
    simp [hname, hargs, hblock, Event.toolStart]

theorem jsonAt_callEvents (block base : Int) (call : Int × ToolCall) :
    jsonAt block (callEvents base call : List (Event ω))
      = if block = base + call.1 then call.2.arguments else "" := by
  unfold jsonAt callEvents
  simp only [eq_comm (a := block)]
  by_cases hname : call.2.name = "" <;> by_cases hargs : call.2.arguments = "" <;>
    by_cases hblock : base + call.1 = block <;>
    simp [hname, hargs, hblock, List.filterMap_cons, Event.jsonPiece]

theorem callEvents_of_blank (base : Int) (hblank : call.2.blank = true) :
    (callEvents base call : List (Event ω)) = [] := by
  obtain ⟨-, hname, hargs⟩ := blank_iff.1 hblank
  simp [callEvents, hname, hargs]

/-! ## The filed calls -/

/-- What is known of a filed call after some calls and events. -/
structure Entry.Holds (e : Entry) (calls : List (Int × ToolCall)) (events : List (Event ω)) :
    Prop where
  mem : e.call ∈ fragments e.key calls
  start : toolStartsAt e.block events = [(e.call.id, e.call.name)]
  same : ∀ other ∈ fragments e.key calls,
    (other.id = "" ∨ other.id = e.call.id) ∧ (other.name = "" ∨ other.name = e.call.name)
  json : jsonAt e.block events = argumentsOf e.key calls

structure Filed (filed : List Entry) (calls : List (Int × ToolCall)) (events : List (Event ω)) :
    Prop where
  entry : ∀ e ∈ filed, e.Holds calls events
  distinct : ∀ e ∈ filed, ∀ e' ∈ filed, e.key = e'.key ∨ e.block = e'.block → e = e'
  unfiled : ∀ key, (∀ e ∈ filed, e.key ≠ key) → ∀ call ∈ fragments key calls, call.blank = true
  unused : ∀ block, (∀ e ∈ filed, e.block ≠ block) →
    toolStartsAt block events = [] ∧ jsonAt block events = ""

theorem Entry.Holds.other {e : Entry} (h : e.Holds calls events) (hkey : e.key ≠ call.1)
    (hblock : e.block ≠ base + call.1) :
    e.Holds (calls ++ [call]) (events ++ callEvents base call) where
  mem := by simpa [fragments_append, fragments_other hkey] using h.mem
  start := by
    rw [toolStartsAt_append, toolStartsAt_callEvents, h.start]
    simp [hblock]
  same := by simpa [fragments_append, fragments_other hkey] using h.same
  json := by
    rw [jsonAt_append, jsonAt_callEvents, argumentsOf_append, h.json]
    simp [hblock, argumentsOf, fragments_other hkey]

theorem Filed.unfiled_other (h : Filed filed calls events) (hkey : key ≠ call.1)
    (hno : ∀ e ∈ filed, e.key ≠ key) :
    ∀ c ∈ fragments key (calls ++ [call]), c.blank = true := by
  simpa [fragments_append, fragments_other hkey] using h.unfiled key hno

theorem Filed.unused_other (h : Filed filed calls events) {block : Int}
    (hblock : block ≠ base + call.1) (hno : ∀ e ∈ filed, e.block ≠ block) :
    toolStartsAt block (events ++ callEvents base call) = [] ∧
      jsonAt block (events ++ callEvents base call) = "" := by
  obtain ⟨hstart, hjson⟩ := h.unused block hno
  rw [toolStartsAt_append, toolStartsAt_callEvents, jsonAt_append, jsonAt_callEvents, hstart, hjson]
  simp [hblock]

theorem Filed.blank {more : List (Int × ToolCall)} (h : Filed filed calls events)
    (hblank : ∀ call ∈ more, call.2.blank = true) : Filed filed (calls ++ more) events := by
  have hmore : ∀ key, ∀ call ∈ fragments key more, call.blank = true := by
    intro key call hcall
    obtain ⟨c, hc, rfl⟩ := List.mem_map.1 hcall
    exact hblank c (List.mem_filter.1 hc).1
  refine ⟨fun e he => ?_, h.distinct, fun key hno call hcall => ?_, h.unused⟩
  · obtain ⟨hmem, hstart, hsame, hjson⟩ := h.entry e he
    refine ⟨?_, hstart, ?_, ?_⟩
    · rw [fragments_append]
      exact List.mem_append_left _ hmem
    · intro other hother
      rw [fragments_append] at hother
      obtain hold | hnew := List.mem_append.1 hother
      · exact hsame other hold
      · obtain ⟨hid, hname, -⟩ := blank_iff.1 (hmore _ other hnew)
        exact ⟨Or.inl hid, Or.inl hname⟩
    · rw [argumentsOf_append, argumentsOf_of_blank (hmore e.key), hjson]
      simp
  · rw [fragments_append] at hcall
    obtain hold | hnew := List.mem_append.1 hcall
    · exact h.unfiled key hno call hold
    · exact hmore key call hnew

theorem Filed.fresh (h : Filed filed calls events) (hkey : ∀ e ∈ filed, e.key ≠ call.1)
    (hblock : ∀ e ∈ filed, e.block ≠ base + call.1) (hname : call.2.name ≠ "") :
    Filed (filed ++ [⟨call.1, base + call.1, call.2⟩]) (calls ++ [call])
      (events ++ callEvents base call) := by
  have hnew : Entry.Holds ⟨call.1, base + call.1, call.2⟩ (calls ++ [call])
      (events ++ callEvents base call) := by
    have hblank := h.unfiled call.1 hkey
    obtain ⟨hstart, hjson⟩ := h.unused _ hblock
    refine ⟨?_, ?_, ?_, ?_⟩
    · simp [fragments_append, fragments_self]
    · simp [toolStartsAt_append, toolStartsAt_callEvents, hstart, hname]
    · intro other hother
      rw [fragments_append, fragments_self] at hother
      obtain hold | hself := List.mem_append.1 hother
      · obtain ⟨hid, hname', -⟩ := blank_iff.1 (hblank other hold)
        exact ⟨Or.inl hid, Or.inl hname'⟩
      · obtain rfl := List.mem_singleton.1 hself
        exact ⟨Or.inr rfl, Or.inr rfl⟩
    · rw [jsonAt_append, jsonAt_callEvents, argumentsOf_append, argumentsOf_of_blank hblank, hjson]
      simp [argumentsOf, fragments_self]
  refine ⟨?_, ?_, ?_, ?_⟩
  · intro e he
    obtain hold | hself := List.mem_append.1 he
    · exact (h.entry e hold).other (hkey e hold) (hblock e hold)
    · obtain rfl := List.mem_singleton.1 hself
      exact hnew
  · intro e he e' he' heq
    obtain hold | hself := List.mem_append.1 he <;> obtain hold' | hself' := List.mem_append.1 he'
    · exact h.distinct e hold e' hold' heq
    · obtain rfl := List.mem_singleton.1 hself'
      exact absurd heq (not_or.2 ⟨hkey e hold, hblock e hold⟩)
    · obtain rfl := List.mem_singleton.1 hself
      exact absurd heq (not_or.2 ⟨(hkey e' hold').symm, (hblock e' hold').symm⟩)
    · rw [List.mem_singleton.1 hself, List.mem_singleton.1 hself']
  · intro key hno
    obtain ⟨hold, hself⟩ := List.forall_mem_append.1 hno
    exact h.unfiled_other (fun heq => hself _ (List.mem_singleton.2 rfl) heq.symm) hold
  · intro block hno
    obtain ⟨hold, hself⟩ := List.forall_mem_append.1 hno
    exact h.unused_other (fun heq => hself _ (List.mem_singleton.2 rfl) heq.symm) hold

theorem Filed.again (h : Filed filed calls events) {entry : Entry} (hmem : entry ∈ filed)
    (hkey : entry.key = call.1) (hblock : entry.block = base + call.1) (hname : call.2.name = "")
    (hid : call.2.id = "" ∨ call.2.id = entry.call.id) :
    Filed filed (calls ++ [call]) (events ++ callEvents base call) := by
  refine ⟨?_, h.distinct, ?_, ?_⟩
  · intro e he
    by_cases heq : e = entry
    · subst heq
      obtain ⟨hin, hstart, hsame, hjson⟩ := h.entry e he
      refine ⟨?_, ?_, ?_, ?_⟩
      · rw [fragments_append]
        exact List.mem_append_left _ hin
      · rw [toolStartsAt_append, toolStartsAt_callEvents, hstart]
        simp [hname]
      · intro other hother
        rw [fragments_append, hkey, fragments_self, ← hkey] at hother
        obtain hold | hself := List.mem_append.1 hother
        · exact hsame other hold
        · obtain rfl := List.mem_singleton.1 hself
          exact ⟨hid, Or.inl hname⟩
      · rw [jsonAt_append, jsonAt_callEvents, argumentsOf_append, hjson]
        simp [hblock, hkey, argumentsOf, fragments_self]
    · -- the other calls have other keys and other blocks
      have hne := mt (h.distinct e he entry hmem) heq
      rw [hkey, hblock] at hne
      exact (h.entry e he).other (not_or.1 hne).1 (not_or.1 hne).2
  · intro key hno
    exact h.unfiled_other (fun heq => hno entry hmem (hkey.trans heq.symm)) hno
  · intro block hno
    exact h.unused_other (fun heq => hno entry hmem (hblock.trans heq.symm)) hno

theorem Filed.fileCall (h : Filed filed calls events)
    (hfile : fileCall base filed call = some filed') :
    Filed filed' (calls ++ [call]) (events ++ callEvents base call) := by
  unfold ClaudeStream.fileCall at hfile
  by_cases hblank : call.2.blank = true
  · rw [if_pos hblank] at hfile
    cases hfile
    rw [callEvents_of_blank base hblank, List.append_nil]
    exact h.blank (by simpa using hblank)
  · rw [if_neg hblank] at hfile
    cases hfind : filed.find? (·.key == call.1) with
    | none =>
      simp only [hfind] at hfile
      split_ifs at hfile with hok
      cases hfile
      simp only [Bool.and_eq_true, bne_iff_ne, List.all_eq_true] at hok
      have hkey : ∀ e ∈ filed, e.key ≠ call.1 := by simpa using hfind
      exact h.fresh hkey hok.2 hok.1
    | some entry =>
      simp only [hfind] at hfile
      split_ifs at hfile with hok
      cases hfile
      simp only [Bool.and_eq_true, Bool.or_eq_true, beq_iff_eq] at hok
      have hkey : entry.key = call.1 := by simpa using List.find?_some hfind
      exact h.again (List.mem_of_find?_eq_some hfind) hkey hok.2 hok.1.1 hok.1.2

theorem Filed.fileCalls {more : List (Int × ToolCall)} (h : Filed filed calls events)
    (hfile : fileCalls base filed more = some filed') :
    Filed filed' (calls ++ more) (events ++ toolEvents base more) := by
  induction more generalizing filed calls events with
  | nil =>
    cases hfile
    simpa [toolEvents] using h
  | cons call rest ih =>
    rw [ClaudeStream.fileCalls] at hfile
    obtain ⟨next, hcall, hrest⟩ := Option.bind_eq_some_iff.1 hfile
    simpa [toolEvents] using ih (h.fileCall hcall) hrest

theorem Filed.nil : Filed [] [] ([] : List (Event ω)) := by
  refine ⟨?_, ?_, ?_, ?_⟩
  · simp
  · simp
  · simp [fragments]
  · exact fun _ _ => ⟨rfl, rfl⟩

/-! ## Events without tool calls -/

/-- The events tell `text` and `thinking`, and nothing about tool calls. -/
structure Tells (text thinking : String) (events : List (Event ω)) : Prop where
  text : textOut events = text
  thinking : thinkingOut events = thinking
  starts : ∀ block, toolStartsAt block events = []
  json : ∀ block, jsonAt block events = ""

theorem Tells.nil : Tells "" "" ([] : List (Event ω)) :=
  ⟨rfl, rfl, fun _ => rfl, fun _ => rfl⟩

theorem Tells.append {text' thinking' : String} {es : List (Event ω)} (h : Tells text thinking es)
    (h' : Tells text' thinking' fs) :
    Tells (text ++ text') (thinking ++ thinking') (es ++ fs) where
  text := by rw [textOut_append, h.text, h'.text]
  thinking := by rw [thinkingOut_append, h.thinking, h'.thinking]
  starts := fun block => by rw [toolStartsAt_append, h.starts, h'.starts, List.append_nil]
  json := fun block => by rw [jsonAt_append, h.json, h'.json, String.append_empty]

/-- Events that are neither pieces nor starts of a tool block. -/
def Event.quiet : Event ω → Bool
  | .blockDelta _ _ => false
  | .blockStart _ (.toolUse _ _) => false
  | _ => true

theorem Tells.of_quiet (h : ∀ e ∈ events, e.quiet = true) :
    Tells "" "" events := by
  induction events with
  | nil => exact Tells.nil
  | cons e rest ih =>
    obtain ⟨he, hrest⟩ := List.forall_mem_cons.1 h
    have hone : Tells "" "" [e] := by
      rcases e with _ | ⟨i, _ | _ | _⟩ | _ | _ | _ | _
      all_goals first | exact ⟨rfl, rfl, fun _ => rfl, fun _ => rfl⟩ | cases he
    exact hone.append (ih hrest)

theorem stopOpenBlocks_tells (s : ConvertInfo υ) :
    Tells "" "" (s.stopOpenBlocks : List (Event ω)) := by
  apply Tells.of_quiet
  intro e he
  unfold ConvertInfo.stopOpenBlocks at he
  cases htype : s.lastMessagesType with
  | none => simp [htype] at he
  | text =>
    simp only [htype, List.mem_singleton] at he
    exact he ▸ rfl
  | thinking =>
    simp only [htype, List.mem_singleton] at he
    exact he ▸ rfl
  | tools =>
    simp only [htype, List.mem_map] at he
    obtain ⟨offset, -, rfl⟩ := he
    rfl

theorem closing_tells (cv : Converter υ ω) (usage : Option υ) (stopReason : String) :
    Tells "" "" (cv.closing usage stopReason) := by
  apply Tells.of_quiet
  intro e he
  cases usage with
  | none =>
    obtain rfl := List.mem_singleton.1 he
    rfl
  | some u =>
    simp only [Converter.closing, List.cons_append, List.nil_append, List.mem_cons,
      List.not_mem_nil, or_false] at he
    obtain rfl | rfl := he <;> rfl

/-! ## Deltas that are kept -/

structure Kept (filed : List Entry) (ds : List Delta) (events : List (Event ω)) : Prop where
  text : textOut events = textIn ds
  thinking : thinkingOut events = reasoningIn ds
  tools : Filed filed (callsIn ds) events

theorem Filed.tells (h : Filed filed calls events) (hfs : Tells text thinking fs) :
    Filed filed calls (events ++ fs) := by
  have hstart : ∀ block, toolStartsAt block (events ++ fs) = toolStartsAt block events := by
    intro block
    rw [toolStartsAt_append, hfs.starts, List.append_nil]
  have hjson : ∀ block, jsonAt block (events ++ fs) = jsonAt block events := by
    intro block
    rw [jsonAt_append, hfs.json, String.append_empty]
  refine ⟨fun e he => ?_, h.distinct, h.unfiled, fun block hno => ?_⟩
  · obtain ⟨hmem, hs, hsame, hj⟩ := h.entry e he
    exact ⟨hmem, (hstart e.block).trans hs, hsame, (hjson e.block).trans hj⟩
  · rw [hstart, hjson]
    exact h.unused block hno

theorem Kept.tells (h : Kept filed ds events) (hfs : Tells "" "" fs) :
    Kept filed ds (events ++ fs) where
  text := by rw [textOut_append, hfs.text, String.append_empty, h.text]
  thinking := by rw [thinkingOut_append, hfs.thinking, String.append_empty, h.thinking]
  tools := h.tools.tells hfs

theorem Kept.add (h : Kept filed ds events) (htext : textOut fs = d.getContentString)
    (hthinking : thinkingOut fs = d.getReasoningContent)
    (htools : Filed filed' (callsIn ds ++ callOffsets d.toolCalls) (events ++ fs)) :
    Kept filed' (ds ++ [d]) (events ++ fs) where
  text := by simp [textOut_append, h.text, htext, textIn]
  thinking := by simp [thinkingOut_append, h.thinking, hthinking, reasoningIn]
  tools := by simpa [callsIn] using htools

theorem blank_of_callOffsets {calls : List ToolCall} (hblank : calls.all ToolCall.blank = true) :
    ∀ call ∈ callOffsets calls, call.2.blank = true := by
  intro call hcall
  obtain ⟨ci, hci, rfl⟩ := List.mem_map.1 hcall
  exact List.all_eq_true.1 hblank ci.1 (List.fst_mem_of_mem_zipIdx hci)

theorem Kept.blank {ks : List Delta} (h : Kept filed ds events)
    (hblank : ∀ d ∈ ks, d.blank = true) :
    Kept filed (ds ++ ks) events := by
  induction ks generalizing ds with
  | nil => simpa using h
  | cons d ks ih =>
    obtain ⟨hd, hks⟩ := List.forall_mem_cons.1 hblank
    simp only [Delta.blank, Bool.and_eq_true, beq_iff_eq] at hd
    have hstep : Kept filed (ds ++ [d]) (events ++ []) :=
      h.add (by simp [hd.1.1, textOut]) (by simp [hd.1.2, thinkingOut])
        (by simpa using h.tools.blank (blank_of_callOffsets hd.2))
    rw [List.append_nil] at hstep
    rw [List.append_cons]
    exact ih hstep hks

theorem textPiece_tells (i : Int) (text : String) :
    Tells text "" [(.blockDelta i (.text text) : Event ω)] :=
  ⟨by simp [textOut, Event.textPiece], rfl, fun _ => rfl, fun _ => rfl⟩

theorem thinkingPiece_tells (i : Int) (thinking : String) :
    Tells "" thinking [(.blockDelta i (.thinking thinking) : Event ω)] :=
  ⟨rfl, by simp [thinkingOut, Event.thinkingPiece], fun _ => rfl, fun _ => rfl⟩

theorem write_tells (s : ConvertInfo υ) (type : LastMessageType) {block : Block} {piece : Piece}
    (hblock : ∀ i, Tells "" "" [(.blockStart i block : Event ω)])
    (hpiece : ∀ i, Tells text thinking [(.blockDelta i piece : Event ω)]) :
    Tells text thinking (s.write type block piece : List (Event ω) × _).1 := by
  unfold ConvertInfo.write
  split_ifs
  · simpa using (stopOpenBlocks_tells s).append ((hblock s.advance.index).append (hpiece _))
  · exact hpiece _

theorem blockStart_tells {block : Block} (hblock : block = .text ∨ block = .thinking) (i : Int) :
    Tells "" "" [(.blockStart i block : Event ω)] := by
  obtain rfl | rfl := hblock <;> exact ⟨rfl, rfl, fun _ => rfl, fun _ => rfl⟩

theorem prose_tells (s : ConvertInfo υ) (hone : d.oneProse = true) :
    Tells d.getContentString d.getReasoningContent
      (if d.getReasoningContent != "" then
        s.write .thinking .thinking (.thinking d.getReasoningContent)
      else if d.getContentString != "" then s.write .text .text (.text d.getContentString)
      else ([], s) : List (Event ω) × _).1 := by
  simp only [Delta.oneProse, Bool.or_eq_true, beq_iff_eq] at hone
  by_cases hreason : d.getReasoningContent = ""
  · by_cases htext : d.getContentString = ""
    · simpa [hreason, htext] using Tells.nil
    · simpa [hreason, htext] using write_tells s .text (blockStart_tells (Or.inl rfl))
        (textPiece_tells · d.getContentString)
  · have htext : d.getContentString = "" := hone.resolve_left hreason
    simpa [hreason, htext] using write_tells s .thinking (blockStart_tells (Or.inr rfl))
      (thinkingPiece_tells · d.getReasoningContent)

theorem callEvents_prose (base : Int) (call : Int × ToolCall) :
    textOut (callEvents base call : List (Event ω)) = "" ∧
      thinkingOut (callEvents base call : List (Event ω)) = "" := by
  unfold callEvents textOut thinkingOut
  constructor <;> split_ifs <;> rfl

theorem toolEvents_prose (base : Int) (calls : List (Int × ToolCall)) :
    textOut (toolEvents base calls : List (Event ω)) = "" ∧
      thinkingOut (toolEvents base calls : List (Event ω)) = "" := by
  induction calls with
  | nil => exact ⟨rfl, rfl⟩
  | cons call rest ih =>
    have hcall := callEvents_prose (ω := ω) base call
    have hsplit : (toolEvents base (call :: rest) : List (Event ω))
        = callEvents base call ++ toolEvents base rest := rfl
    rw [hsplit, textOut_append, thinkingOut_append, hcall.1, hcall.2, ih.1, ih.2]
    exact ⟨rfl, rfl⟩

theorem Kept.writeTools (h : Kept filed ds events) (hreason : d.getReasoningContent = "")
    (htext : d.getContentString = "") (hfile : fileCalls (if s.lastMessagesType == .tools then
      s.toolCallBaseIndex else s.advance.index) filed (callOffsets d.toolCalls) = some filed') :
    Kept filed' (ds ++ [d]) (events ++ (s.writeTools (callOffsets d.toolCalls)).1) := by
  unfold ConvertInfo.writeTools
  by_cases htype : s.lastMessagesType = .tools
  · simp only [htype, beq_self_eq_true, if_true] at hfile
    simp only [htype, bne_self_eq_false, Bool.false_eq_true, if_false, List.nil_append]
    obtain ⟨hout, hthinking⟩ := toolEvents_prose (ω := ω) s.toolCallBaseIndex
      (callOffsets d.toolCalls)
    exact h.add (hout.trans htext.symm) (hthinking.trans hreason.symm) (h.tools.fileCalls hfile)
  · -- another block was open
    have hbeq : (s.lastMessagesType == .tools) = false := by simpa using htype
    have hbne : (s.lastMessagesType != .tools) = true := by simpa using htype
    simp only [hbeq, Bool.false_eq_true, if_false] at hfile
    simp only [hbne, if_true]
    rw [← List.append_assoc]
    obtain ⟨hout, hthinking⟩ := toolEvents_prose (ω := ω) s.advance.index
      (callOffsets d.toolCalls)
    have hstopped := h.tells (stopOpenBlocks_tells s)
    exact hstopped.add (hout.trans htext.symm) (hthinking.trans hreason.symm)
      (hstopped.tools.fileCalls hfile)

theorem Kept.writeDelta (h : Kept filed ds events) (hfile : s.fileDelta filed d = some filed') :
    Kept filed' (ds ++ [d]) (events ++ (s.writeDelta d).1) := by
  unfold ConvertInfo.fileDelta at hfile
  unfold ConvertInfo.writeDelta
  by_cases hcalls : d.toolCalls = []
  · simp only [hcalls, List.isEmpty_nil, if_true] at hfile
    split_ifs at hfile with hone
    cases hfile
    have htells := prose_tells (ω := ω) s hone
    simp only [hcalls, List.isEmpty_nil, Bool.not_true, Bool.false_eq_true, if_false]
    refine h.add htells.text htells.thinking ?_
    simpa [hcalls, callOffsets] using h.tools.tells htells
  · have hsome : d.toolCalls.isEmpty = false := by simpa using hcalls
    simp only [hsome, Bool.false_eq_true, if_false] at hfile
    simp only [hsome, Bool.not_false, if_true]
    by_cases hprose : (d.getReasoningContent == "" && d.getContentString == "") = true
    · rw [if_pos hprose] at hfile
      simp only [Bool.and_eq_true, beq_iff_eq] at hprose
      exact h.writeTools hprose.1 hprose.2 hfile
    · rw [if_neg hprose] at hfile
      cases hfile

/-! ## The first chunk -/

theorem callOffsets_cons (call : ToolCall) (calls : List ToolCall) :
    ∃ rest, callOffsets (call :: calls) = (call.index.getD 0, call) :: rest := by
  exact ⟨_, rfl⟩

theorem firstTool_events (s : ConvertInfo υ) {rest : List (Int × ToolCall)}
    (hcalls : callOffsets d.toolCalls = call :: rest) (hname : call.2.name ≠ "") :
    (s.firstTool d : List (Event ω) × _).1 = callEvents (-call.1) call := by
  unfold ConvertInfo.firstTool
  cases htools : d.toolCalls with
  | nil => simp [htools, callOffsets] at hcalls
  | cons c cs =>
    obtain ⟨rest', hcons⟩ := callOffsets_cons c cs
    rw [htools, hcons] at hcalls
    obtain ⟨rfl, -⟩ := List.cons.inj hcalls
    simp only at hname
    simp [callEvents, hname]

theorem Kept.first (h : Kept filed ds events) (htype : s.lastMessagesType = .none)
    (hfile : fileFirst filed d = some filed') :
    Kept filed' (ds ++ [d])
      (events ++ ((s.firstTool d).1 ++ ((s.firstTool (ω := ω) d).2.firstText d).1)) := by
  have hafter : (s.firstTool (ω := ω) d).2.lastMessagesType = .none ∨
      (s.firstTool (ω := ω) d).2.lastMessagesType = .tools := by
    unfold ConvertInfo.firstTool
    cases d.toolCalls with
    | nil => exact Or.inl htype
    | cons call calls => exact Or.inr rfl
  unfold fileFirst at hfile
  by_cases hone : d.oneProse = true
  · simp only [hone, Bool.not_true, Bool.false_eq_true, if_false] at hfile
    have htells := prose_tells (ω := ω) (s.firstTool (ω := ω) d).2 hone
    rw [← firstText_eq hafter] at htells
    cases hcalls : callOffsets d.toolCalls with
    | nil =>
      have htools : d.toolCalls = [] := by simpa [callOffsets] using hcalls
      simp only [hcalls, Option.some.injEq] at hfile
      subst hfile
      have hnone : (s.firstTool d : List (Event ω) × _).1 = [] := by
        simp [ConvertInfo.firstTool, htools]
      rw [hnone, List.nil_append]
      refine h.add htells.text htells.thinking ?_
      simpa [hcalls] using h.tools.tells htells
    | cons call rest =>
      simp only [hcalls] at hfile
      split_ifs at hfile with hok
      simp only [Bool.and_eq_true, bne_iff_ne, List.all_eq_true] at hok
      obtain ⟨hout, hthinking⟩ := callEvents_prose (ω := ω) (-call.1) call
      rw [firstTool_events s hcalls hok.1]
      refine h.add ?_ ?_ ?_
      · rw [textOut_append, hout, htells.text, String.empty_append]
      · rw [thinkingOut_append, hthinking, htells.thinking, String.empty_append]
      · rw [hcalls, ← List.append_assoc, List.append_cons]
        exact ((h.tools.fileCall hfile).tells htells).blank hok.2
  · simp [hone] at hfile

theorem messageStart_tells (id model : String) (tokens : Int) :
    Tells "" "" [(.messageStart id model tokens : Event ω)] :=
  ⟨rfl, rfl, fun _ => rfl, fun _ => rfl⟩

theorem Kept.firstChunk (cv : Converter υ ω) (h : Kept filed ds events)
    (htype : s.lastMessagesType = .none) (hchoices : chunk.choices = choice :: rest)
    (hfile : fileFirst filed choice.delta = some filed') :
    Kept filed' (ds ++ [choice.delta]) (events ++ (cv.firstChunk chunk s).1) := by
  have hstarted := h.tells (messageStart_tells chunk.id chunk.model cv.estimatePromptTokens)
  have hbody := hstarted.first htype hfile
  simp only [← List.append_assoc] at hbody
  simp only [Converter.firstChunk, hchoices]
  split_ifs
  · simp only [← List.append_assoc]
    exact (hbody.tells (stopOpenBlocks_tells _)).tells (closing_tells cv _ _)
  · simp only [← List.append_assoc]
    exact hbody

/-! ## Later chunks -/

theorem fileDelta_finishReason (s : ConvertInfo υ) (reason : String) (filed : List Entry)
    (d : Delta) :
    ConvertInfo.fileDelta { s with finishReason := reason } filed d = s.fileDelta filed d := by
  unfold ConvertInfo.fileDelta ConvertInfo.advance
  cases s.lastMessagesType <;> rfl

theorem Kept.laterChunk (cv : Converter υ ω) (h : Kept filed ds events)
    (hchoices : chunk.choices = choice :: rest)
    (htaken : choice.finished = true → (chunk.usage.or s.usage).isSome = true)
    (hfile : s.fileDelta filed choice.delta = some filed') :
    Kept filed' (ds ++ [choice.delta]) (events ++ (cv.laterChunk chunk s).1) := by
  simp only [Converter.laterChunk, hchoices]
  split_ifs with hfin
  · obtain ⟨u, hu⟩ := Option.isSome_iff_exists.1 (htaken hfin)
    rw [← fileDelta_finishReason s (choice.finishReason.getD "")] at hfile
    simp only [hu, ← List.append_assoc]
    exact ((h.writeDelta hfile).tells (stopOpenBlocks_tells _)).tells (closing_tells cv _ _)
  · exact h.writeDelta hfile

theorem laterChunk_waiting (cv : Converter υ ω) (hchoices : chunk.choices = choice :: rest)
    (hfin : choice.finished = true) (hnone : chunk.usage.or s.usage = none) :
    (cv.laterChunk chunk s).1 = [] := by
  simp [Converter.laterChunk, hchoices, hfin, hnone]

theorem noChoices_tells (cv : Converter υ ω) (hchoices : chunk.choices = []) :
    Tells "" "" (cv.streamResponseOpenAI2Claude chunk s).1 := by
  unfold Converter.streamResponseOpenAI2Claude
  split_ifs
  · exact Tells.nil
  · simpa [Converter.firstChunk, hchoices] using messageStart_tells _ _ _
  · simp only [Converter.laterChunk, hchoices]
    cases chunk.usage.or s.usage with
    | none => exact Tells.nil
    | some u => exact (stopOpenBlocks_tells s).append (closing_tells cv _ _)

theorem Kept.head (cv : Converter υ ω) (h : Kept filed ds events)
    (hfirst : s.sendResponseCount = 1 → s.lastMessagesType = .none)
    (hchoices : chunk.choices = choice :: rest) (hfile : s.fileChunk filed chunk = some filed') :
    Kept filed' (ds ++ [choice.delta])
      (events ++ (cv.streamResponseOpenAI2Claude chunk s).1) := by
  simp only [ConvertInfo.fileChunk, hchoices] at hfile
  rw [if_neg (by intro hrest; simp [hrest] at hfile)] at hfile
  by_cases hignored : s.ignores chunk choice = true
  · rw [if_pos hignored] at hfile
    split_ifs at hfile with hblank
    cases hfile
    have hnothing : (cv.streamResponseOpenAI2Claude chunk s).1 = [] := by
      unfold Converter.streamResponseOpenAI2Claude
      simp only [ConvertInfo.ignores, Bool.or_eq_true, Bool.and_eq_true, bne_iff_ne] at hignored
      obtain hdone | ⟨⟨hcount, hfin⟩, hnone⟩ := hignored
      · simp [hdone]
      · have hbeq : (s.sendResponseCount == 1) = false := by simpa using hcount
        simp only [hbeq, Bool.false_eq_true, if_false]
        split_ifs
        · rfl
        · exact laterChunk_waiting cv hchoices hfin (Option.isNone_iff_eq_none.1 hnone)
    rw [hnothing, List.append_nil]
    exact h.blank (by simpa using hblank)
  · rw [if_neg hignored] at hfile
    simp only [ConvertInfo.ignores, Bool.or_eq_true, not_or, Bool.not_eq_true] at hignored
    obtain ⟨hopen, hwaiting⟩ := hignored
    unfold Converter.streamResponseOpenAI2Claude
    simp only [hopen, Bool.false_eq_true, if_false]
    by_cases hcount : s.sendResponseCount = 1
    · have hbeq : (s.sendResponseCount == 1) = true := by simpa using hcount
      simp only [hbeq, if_true] at hfile ⊢
      exact h.firstChunk cv (hfirst hcount) hchoices hfile
    · have hbeq : (s.sendResponseCount == 1) = false := by simpa using hcount
      simp only [hbeq, Bool.false_eq_true, if_false] at hfile ⊢
      refine h.laterChunk cv hchoices (fun hfin => ?_) hfile
      have hne : (s.sendResponseCount != 1) = true := by simpa using hcount
      rw [hne, hfin, Bool.true_and, Bool.true_and] at hwaiting
      rwa [← Option.not_isSome, Bool.not_eq_false'] at hwaiting

theorem Kept.feed (cv : Converter υ ω) (h : Kept filed ds events)
    (hfirst : s.sendResponseCount = 0 → s.lastMessagesType = .none) {inp : Input υ}
    (hfile : (s.prepare inp).fileChunk filed inp.chunk = some filed') :
    Kept filed' (ds ++ inp.chunk.deltas) (events ++ (cv.feed s inp).1) := by
  unfold Converter.feed
  cases hchoices : inp.chunk.choices with
  | nil =>
    simp only [ConvertInfo.fileChunk, hchoices, Option.some.injEq] at hfile
    subst hfile
    simpa [Chunk.deltas, hchoices] using h.tells (noChoices_tells cv hchoices)
  | cons choice rest =>
    have hhead := h.head cv (s := s.prepare inp)
      (fun hcount => hfirst (by simpa [ConvertInfo.prepare] using hcount)) hchoices hfile
    have hrest : rest.all (·.delta.blank) = true := by
      rw [List.all_eq_true]
      simp only [ConvertInfo.fileChunk, hchoices, Option.ite_none_left_eq_some, Bool.not_eq_true',
        Bool.not_eq_false, List.all_eq_true] at hfile
      exact hfile.1
    have hblank : ∀ d ∈ rest.map Choice.delta, d.blank = true := by
      intro d hd
      obtain ⟨c, hc, rfl⟩ := List.mem_map.1 hd
      exact List.all_eq_true.1 hrest c hc
    simpa [Chunk.deltas, hchoices] using hhead.blank hblank

/-! ## Whole streams -/

def thinkingInput (reasoning : String) (content : Option String) : Input Nat where
  chunk :=
    { id := "chatcmpl-1", model := "gpt-4o"
      choices := [{ delta := { content, reasoningContent := some reasoning, reasoning := none
                               toolCalls := [] }
                    finishReason := none }]
      usage := none }
  recorded := none

theorem Kept.run (cv : Converter υ ω) {inputs : List (Input υ)} (h : Kept filed ds events)
    (hfirst : s.sendResponseCount = 0 → s.lastMessagesType = .none)
    (hkeeps : cv.keepsFrom s filed inputs = true) :
    ∃ filed', Kept filed' (ds ++ deltasIn inputs) (events ++ (cv.run s inputs).1) := by
  induction inputs generalizing s filed ds events with
  | nil => exact ⟨filed, by simpa [deltasIn, Converter.run] using h⟩
  | cons inp rest ih =>
    unfold Converter.keepsFrom at hkeeps
    cases hstep : (s.prepare inp).fileChunk filed inp.chunk with
    | none => simp [hstep] at hkeeps
    | some next =>
      simp only [hstep] at hkeeps
      have hcount : (cv.feed s inp).2.sendResponseCount ≠ 0 := by
        rw [(feed_frame cv s inp).2.1]
        omega
      obtain ⟨filed', hrest⟩ := ih (h.feed cv hfirst hstep) (fun hzero => absurd hzero hcount)
        hkeeps
      exact ⟨filed', by simpa [deltasIn, Converter.run] using hrest⟩

theorem keepsFrom_of_append (cv : Converter υ ω) {pre rest : List (Input υ)}
    (h : cv.keepsFrom s filed (pre ++ rest) = true) :
    cv.keepsFrom s filed pre = true := by
  induction pre generalizing s filed with
  | nil => rfl
  | cons inp pre ih =>
    rw [List.cons_append, Converter.keepsFrom] at h
    rw [Converter.keepsFrom]
    cases hstep : (s.prepare inp).fileChunk filed inp.chunk with
    | none => simp [hstep] at h
    | some next =>
      simp only [hstep] at h ⊢
      exact ih h

/-- The block of a filed call. -/
def blockIn (filed : List Entry) (key : Int) : Int :=
  match filed.find? (·.key == key) with
  | some e => e.block
  | none => 0

theorem Filed.find (h : Filed filed calls events)
    (hused : ∃ call ∈ fragments key calls, call.blank = false) :
    ∃ e ∈ filed, e.key = key ∧ blockIn filed key = e.block := by
  cases hfind : filed.find? (·.key == key) with
  | none =>
    obtain ⟨call, hmem, hcall⟩ := hused
    have hno : ∀ e ∈ filed, e.key ≠ key := by simpa using hfind
    rw [h.unfiled key hno call hmem] at hcall
    cases hcall
  | some e =>
    refine ⟨e, List.mem_of_find?_eq_some hfind, ?_, by simp [blockIn, hfind]⟩
    simpa using List.find?_some hfind

theorem Kept.lossless (h : Kept filed ds events) : Lossless ds events := by
  refine ⟨h.text, h.thinking, blockIn filed, ?_, ?_⟩
  · intro key hused
    obtain ⟨e, he, rfl, hblock⟩ := h.tools.find hused
    obtain ⟨hmem, hstart, hsame, hjson⟩ := h.tools.entry e he
    rw [hblock]
    exact ⟨⟨e.call, hmem, hstart, hsame⟩, hjson⟩
  · intro key key' hused hused' heq
    obtain ⟨e, he, rfl, hblock⟩ := h.tools.find hused
    obtain ⟨e', he', rfl, hblock'⟩ := h.tools.find hused'
    rw [hblock, hblock'] at heq
    rw [h.tools.distinct e he e' he' (Or.inr heq)]

/-- In a stream whose chunks all keep their content, nothing is lost at
any point. -/
theorem kept_stream_lossless (cv : Converter υ ω) (inputs : List (Input υ))
    (hkeeps : cv.keeps inputs = true) :
    ∀ pre, pre <+: inputs → Lossless (deltasIn pre) (cv.output pre) := by
  rintro pre ⟨rest, rfl⟩
  have hnew : Kept [] [] ([] : List (Event ω)) := ⟨rfl, rfl, Filed.nil⟩
  obtain ⟨filed, hkept⟩ := hnew.run cv (s := newConvertInfo) (fun _ => rfl)
    (keepsFrom_of_append cv hkeeps)
  exact hkept.lossless

/-- Reasoning, then text, then a call in two fragments and another one
announced between them. -/
theorem announced_calls_lossless :
    Lossless
      (deltasIn [thinkingInput "hm" none, deltaInput (some "hello") [],
        deltaInput none [⟨some 0, "call_1", "lookup", "\x7b"⟩, ⟨some 1, "call_2", "fetch", ""⟩],
        deltaInput none [⟨some 0, "", "", "\x7d"⟩],
        finishInput "tool_calls"])
      (plainConverter.output [thinkingInput "hm" none, deltaInput (some "hello") [],
        deltaInput none [⟨some 0, "call_1", "lookup", "\x7b"⟩, ⟨some 1, "call_2", "fetch", ""⟩],
        deltaInput none [⟨some 0, "", "", "\x7d"⟩],
        finishInput "tool_calls"]) :=
  kept_stream_lossless plainConverter _ (by decide) _ (List.prefix_refl _)

/-- A chunk with reasoning and text: the text is dropped. -/
theorem text_beside_reasoning_lost :
    ¬ ∀ inputs : List (Input Nat),
      (∃ inp ∈ inputs.getLast?, inp.chunk.choices.any Choice.finished = true) →
      Lossless (deltasIn inputs) (plainConverter.output inputs) := by
  intro hclaim
  have hlossless := hclaim [thinkingInput "hm" (some "hello"), finishInput "stop"]
    ⟨finishInput "stop", rfl, by decide⟩
  have htext := hlossless.text
  revert htext
  decide

end YouBox.ClaudeStream
