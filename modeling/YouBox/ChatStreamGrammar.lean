import YouBox.ChatToResponses
import YouBox.Interleave

/-!
# The grammar of the Responses stream

A client of the stream reads every event about an item as a mark under
an output index (`markOf`). The marks of a whole stream are those of an
interleaving whose writes are the deltas of the chunks: reasoning, text,
then the tool calls of each choice.

`Tracks` relates the converter to the writes so far: what the state
holds for a key, its slot, is the number, the text and whether it is
closed. `Writes` says what one append does to the slots, and each of the
three appends is one. `Written` adds the events and goes through tools,
choices and chunks; the one thing it asks of the chunks is `quiet`, that
nothing is written after a finish reason. An item whose last delta is in
the chunk that finishes is closed there, one that is still open at the
end is closed by `finalize`, and a second closing finds nothing to do.
-/

namespace YouBox.Responses

open ClaudeStream (Choice ToolCall)
open Interleave

/-! ## What a client reads -/

inductive ItemKind where
  | message
  | reasoning
  | tool

def OutputRef.kind : OutputRef → ItemKind
  | .message => .message
  | .reasoning => .reasoning
  | .tool _ => .tool

def ResponsesOutput.kind? (out : ResponsesOutput) : Option ItemKind :=
  if out.type = responsesOutputTypeMessage then some .message
  else if out.type = responsesOutputTypeReasoning then some .reasoning
  else if out.type = responsesOutputTypeFunctionCall then some .tool
  else none

/-- The text an item carries: its arguments, or its content. -/
def ResponsesOutput.body (out : ResponsesOutput) : String :=
  out.argumentsString ++ String.join (out.content.map (·.text))

/-- What an event says about its item. -/
def itemMark (event : ResponsesStreamResponse) : Option (Mark ItemKind) :=
  match event.type, event.item with
  | .outputItemAdded, some item => item.kind?.map .opened
  | .outputItemDone, some item => item.kind?.map fun kind => .closed kind item.body
  | .outputTextDelta, none => some (.wrote .message event.delta)
  | .outputTextDone, none => some (.finished .message)
  | .reasoningSummaryDelta, none => some (.wrote .reasoning event.delta)
  | .reasoningSummaryDone, none => some (.finished .reasoning)
  | .functionArgsDelta, none => some (.wrote .tool event.delta)
  | .functionArgsDone, none => some (.finished .tool)
  | _, _ => none

/-- The mark of an event under the output index it names. -/
def markOf (event : ResponsesStreamResponse) : Option (Int × Mark ItemKind) :=
  event.outputIndex.bind fun index => (itemMark event).map fun mark => (index, mark)

/-- The marks of an interleaving the way events show them. -/
def shown (ms : List (Nat × Mark OutputRef)) : List (Option (Int × Mark ItemKind)) :=
  ms.map fun m => some ((m.1 : Int), m.2.map OutputRef.kind)

attribute [local irreducible] trimSpace

theorem shown_append (ms more : List (Nat × Mark OutputRef)) :
    shown (ms ++ more) = shown ms ++ shown more := by
  simp [shown]

/-- The writes of one choice: reasoning, text, tool calls. -/
def choiceWrites (choice : Choice) : List (OutputRef × String) :=
  (if choice.delta.getReasoningContent ≠ "" then
    [(.reasoning, choice.delta.getReasoningContent)] else []) ++
  (if choice.delta.getContentString ≠ "" then
    [(.message, choice.delta.getContentString)] else []) ++
  choice.delta.toolCalls.map fun call => (.tool (call.index.getD 0), call.arguments)

def streamWrites (chunks : List ChatCompletionsStreamResponse) : List (OutputRef × String) :=
  (chunks.flatMap (·.choices)).flatMap choiceWrites

/-! ## The state tracks the writes -/

structure Slot where
  index : Int
  text : String
  done : Bool

namespace ChatToResponsesStreamState

def slot (s : ChatToResponsesStreamState) : OutputRef → Option Slot
  | .message => if s.textStarted then some ⟨s.textOutputIndex, s.text, s.textDone⟩ else none
  | .reasoning =>
    if s.reasoningStarted then some ⟨s.reasoningIndex, s.reasoning, s.reasoningDone⟩ else none
  | .tool chatIndex =>
    (s.findTool chatIndex).map fun tool => ⟨tool.outputIndex, tool.arguments, tool.done⟩

/-- Nothing is held for an item that is not open, and no chat index has
two tools. -/
structure Kept (s : ChatToResponsesStreamState) : Prop where
  text : s.textStarted = false → s.text = "" ∧ s.textDone = false
  reasoning : s.reasoningStarted = false → s.reasoning = "" ∧ s.reasoningDone = false
  chatIndices : (s.toolsByIndex.map (·.chatIndex)).Nodup

structure Tracks (s : ChatToResponsesStreamState) (ws : List (OutputRef × String)) (done : Bool) :
    Prop where
  kept : s.Kept
  outputOrder : s.outputOrder = order [] ws
  nextOutputIndex : s.nextOutputIndex = (order [] ws).length
  slots : ∀ ref, s.slot ref =
    if ref ∈ order [] ws then some ⟨(order [] ws).idxOf ref, textOf ref ws, done⟩ else none

/-! ### One write -/

def slotAfter (s : ChatToResponsesStreamState) (ref : OutputRef) (piece : String) : Slot :=
  match s.slot ref with
  | some slot => { slot with text := slot.text ++ piece }
  | none => ⟨s.nextOutputIndex, piece, false⟩

/-- What one append does to the slots, and the events it gives. -/
structure Writes (s : ChatToResponsesStreamState) (ref : OutputRef) (piece : String)
    (result : List ResponsesStreamResponse × ChatToResponsesStreamState) : Prop where
  kept : result.2.Kept
  flags : result.2.sentCreated = s.sentCreated ∧ result.2.finalized = s.finalized
  outputOrder : result.2.outputOrder
    = if (s.slot ref).isSome then s.outputOrder else s.outputOrder ++ [ref]
  nextOutputIndex : result.2.nextOutputIndex
    = if (s.slot ref).isSome then s.nextOutputIndex else s.nextOutputIndex + 1
  self : result.2.slot ref = some (s.slotAfter ref piece)
  others : ∀ r, r ≠ ref → result.2.slot r = s.slot r
  events : result.1.map markOf
    = (if (s.slot ref).isSome then [] else [some (s.nextOutputIndex, .opened ref.kind)]) ++
      if piece = "" then [] else [some ((s.slotAfter ref piece).index, .wrote ref.kind piece)]

section Write

variable {s : ChatToResponsesStreamState} {ws : List (OutputRef × String)} {ref : OutputRef}
  {piece : String} {result : List ResponsesStreamResponse × ChatToResponsesStreamState}

theorem order_snoc (ws : List (OutputRef × String)) (ref : OutputRef) (piece : String) :
    order [] (ws ++ [(ref, piece)]) = note (order [] ws) ref := by
  rw [order_append]
  rfl

theorem Tracks.isSome_slot {done : Bool} (h : s.Tracks ws done) (ref : OutputRef) :
    (s.slot ref).isSome = decide (ref ∈ order [] ws) := by
  rw [h.slots ref]
  by_cases hmem : ref ∈ order [] ws <;> simp only [hmem, if_true, if_false] <;> rfl

theorem Tracks.slotAfter (h : s.Tracks ws false) (ref : OutputRef) (piece : String) :
    s.slotAfter ref piece
      = ⟨(note (order [] ws) ref).idxOf ref, textOf ref (ws ++ [(ref, piece)]), false⟩ := by
  rw [ChatToResponsesStreamState.slotAfter, h.slots ref, textOf_append, textOf_single_self]
  by_cases hmem : ref ∈ order [] ws
  · simp [hmem, note]
  · have hnone : ref ∉ ws.map (·.1) := fun hws => hmem (mem_order.2 (.inr hws))
    rw [if_neg hmem, idxOf_note_self hmem, textOf_of_notMem hnone]
    simp [h.nextOutputIndex]

theorem Tracks.write (h : s.Tracks ws false) (hw : s.Writes ref piece result) :
    result.2.Tracks (ws ++ [(ref, piece)]) false := by
  refine ⟨hw.kept, ?_, ?_, fun r => ?_⟩
  · rw [hw.outputOrder, h.isSome_slot, h.outputOrder, order_snoc, note]
    simp only [decide_eq_true_eq]
  · rw [hw.nextOutputIndex, h.isSome_slot, h.nextOutputIndex, order_snoc, note]
    by_cases hmem : ref ∈ order [] ws <;> simp [hmem]
  · rw [order_snoc]
    by_cases hr : r = ref
    · subst hr
      rw [hw.self, h.slotAfter, if_pos (mem_note.2 (.inr rfl))]
    · rw [hw.others r hr, h.slots r, textOf_append, textOf_single_of_ne piece hr]
      by_cases hmem : r ∈ order [] ws
      · rw [if_pos hmem, if_pos (mem_note.2 (.inl hmem)), ← order_snoc ws ref piece, order_append,
          idxOf_order _ hmem]
        simp
      · rw [if_neg hmem, if_neg (by simp [mem_note, hmem, hr])]

theorem Tracks.marks_write (h : s.Tracks ws false) (hw : s.Writes ref piece result) :
    result.1.map markOf = shown (marks (order [] ws) [(ref, piece)]) := by
  rw [hw.events, h.isSome_slot, h.nextOutputIndex, h.slotAfter, marks, marks, openMarks,
    pieceMarks]
  by_cases hmem : ref ∈ order [] ws <;> by_cases hpiece : piece = "" <;>
    simp [hmem, hpiece, shown, Mark.map]

end Write

/-! ### The three appends are writes -/

variable {s : ChatToResponsesStreamState} {delta : String}

theorem appendTextDelta_writes (h : s.Kept) (hdelta : delta ≠ "") :
    s.Writes .message delta (s.appendTextDelta delta) := by
  have hkept : ∀ s' : ChatToResponsesStreamState, s'.textStarted = true →
      s'.reasoningStarted = s.reasoningStarted → s'.reasoning = s.reasoning →
      s'.reasoningDone = s.reasoningDone → s'.toolsByIndex = s.toolsByIndex → s'.Kept := by
    rintro s' hs' h₁ h₂ h₃ h₄
    exact ⟨by simp [hs'], h₁ ▸ h₂ ▸ h₃ ▸ h.reasoning, h₄ ▸ h.chatIndices⟩
  unfold appendTextDelta
  cases hstarted : s.textStarted with
  | true =>
    refine
      { kept := hkept _ hstarted rfl rfl rfl rfl
        flags := ⟨rfl, rfl⟩
        outputOrder := by simp [slot, hstarted]
        nextOutputIndex := by simp [slot, hstarted]
        self := by simp [slot, slotAfter, hstarted]
        others := fun r hr => ?_
        events := by
          simp [slot, slotAfter, hstarted, hdelta, markOf, itemMark, OutputRef.kind] }
    cases r <;> first | exact absurd rfl hr | rfl
  | false =>
    have htext := h.text hstarted
    refine
      { kept := hkept _ rfl rfl rfl rfl rfl
        flags := ⟨rfl, rfl⟩
        outputOrder := by simp [slot, hstarted, nextIndex]
        nextOutputIndex := by simp [slot, hstarted, nextIndex]
        self := by simp [slot, slotAfter, hstarted, nextIndex, htext]
        others := fun r hr => ?_
        events := by
          simp [slot, slotAfter, hstarted, hdelta, markOf, itemMark, OutputRef.kind,
            ResponsesOutput.kind?] }
    cases r <;> first | exact absurd rfl hr | rfl

theorem appendReasoningDelta_writes (h : s.Kept) (hdelta : delta ≠ "") :
    s.Writes .reasoning delta (s.appendReasoningDelta delta) := by
  have hkept : ∀ s' : ChatToResponsesStreamState, s'.reasoningStarted = true →
      s'.textStarted = s.textStarted → s'.text = s.text → s'.textDone = s.textDone →
      s'.toolsByIndex = s.toolsByIndex → s'.Kept := by
    rintro s' hs' h₁ h₂ h₃ h₄
    exact ⟨h₁ ▸ h₂ ▸ h₃ ▸ h.text, by simp [hs'], h₄ ▸ h.chatIndices⟩
  unfold appendReasoningDelta
  cases hstarted : s.reasoningStarted with
  | true =>
    refine
      { kept := hkept _ hstarted rfl rfl rfl rfl
        flags := ⟨rfl, rfl⟩
        outputOrder := by simp [slot, hstarted]
        nextOutputIndex := by simp [slot, hstarted]
        self := by simp [slot, slotAfter, hstarted]
        others := fun r hr => ?_
        events := by
          simp [slot, slotAfter, hstarted, hdelta, markOf, itemMark, OutputRef.kind] }
    cases r <;> first | exact absurd rfl hr | rfl
  | false =>
    have hreasoning := h.reasoning hstarted
    refine
      { kept := hkept _ rfl rfl rfl rfl rfl
        flags := ⟨rfl, rfl⟩
        outputOrder := by simp [slot, hstarted, nextIndex]
        nextOutputIndex := by simp [slot, hstarted, nextIndex]
        self := by simp [slot, slotAfter, hstarted, nextIndex, hreasoning]
        others := fun r hr => ?_
        events := by
          simp [slot, slotAfter, hstarted, hdelta, markOf, itemMark, OutputRef.kind,
            ResponsesOutput.kind?, responsesOutputTypeReasoning, responsesOutputTypeMessage] }
    cases r <;> first | exact absurd rfl hr | rfl

theorem findTool_setTool (s : ChatToResponsesStreamState) (tool : ChatToResponsesStreamTool)
    (chatIndex : Int) :
    (s.setTool tool).findTool chatIndex
      = if chatIndex = tool.chatIndex then (s.findTool chatIndex).map fun _ => tool
        else s.findTool chatIndex := by
  simp only [findTool, setTool]
  induction s.toolsByIndex with
  | nil => simp
  | cons t rest ih =>
    simp only [List.map_cons, List.find?_cons]
    by_cases ht : t.chatIndex = tool.chatIndex
    · by_cases hi : tool.chatIndex = chatIndex
      · simp [ht, hi]
      · simp only [ht, if_true, hi, decide_false]
        exact ih
    · by_cases hi : t.chatIndex = chatIndex
      · have hne : chatIndex ≠ tool.chatIndex := fun h => ht (hi.trans h)
        simp [hi, hne]
      · simp only [ht, if_false, hi, decide_false]
        exact ih

theorem chatIndices_setTool (s : ChatToResponsesStreamState) (tool : ChatToResponsesStreamTool) :
    (s.setTool tool).toolsByIndex.map (·.chatIndex) = s.toolsByIndex.map (·.chatIndex) := by
  simp only [setTool, List.map_map]
  refine List.map_congr_left fun t _ => ?_
  by_cases ht : t.chatIndex = tool.chatIndex <;> simp [ht]

theorem chatIndex_of_findTool {chatIndex : Int} {tool : ChatToResponsesStreamTool}
    (h : s.findTool chatIndex = some tool) : tool.chatIndex = chatIndex := by
  simpa using List.find?_some h

section Tool

variable {s : ChatToResponsesStreamState} {tool : ChatToResponsesStreamTool}

theorem slot_setTool_self (hfound : (s.findTool tool.chatIndex).isSome) :
    (s.setTool tool).slot (.tool tool.chatIndex)
      = some ⟨tool.outputIndex, tool.arguments, tool.done⟩ := by
  obtain ⟨old, hold⟩ := Option.isSome_iff_exists.1 hfound
  simp [slot, findTool_setTool, hold]

variable {r : OutputRef}

theorem slot_setTool_other (hr : r ≠ .tool tool.chatIndex) :
    (s.setTool tool).slot r = s.slot r := by
  cases r with
  | tool chatIndex =>
    have hne : chatIndex ≠ tool.chatIndex := fun h => hr (h ▸ rfl)
    simp [slot, findTool_setTool, hne]
  | _ => rfl

theorem findTool_addTool (hfresh : s.findTool tool.chatIndex = none) (chatIndex : Int) :
    (s.addTool tool).findTool chatIndex
      = if chatIndex = tool.chatIndex then some tool else s.findTool chatIndex := by
  simp only [findTool, addTool, List.find?_append] at hfresh ⊢
  by_cases hi : chatIndex = tool.chatIndex
  · subst hi
    simp [hfresh]
  · simp [hi, Ne.symm hi]

theorem slot_addTool_other (hfresh : s.findTool tool.chatIndex = none)
    (hr : r ≠ .tool tool.chatIndex) : (s.addTool tool).slot r = s.slot r := by
  cases r with
  | tool chatIndex =>
    have hne : chatIndex ≠ tool.chatIndex := fun h => hr (h ▸ rfl)
    simp [slot, findTool_addTool hfresh, hne]
  | _ => rfl

theorem chatIndices_addTool (h : s.Kept) (hfresh : s.findTool tool.chatIndex = none) :
    ((s.addTool tool).toolsByIndex.map (·.chatIndex)).Nodup := by
  simp only [addTool, List.map_append, List.map_cons, List.map_nil]
  refine List.nodup_append.2 ⟨h.chatIndices, List.nodup_singleton _, ?_⟩
  rintro i hi j hj rfl
  obtain ⟨t, ht, rfl⟩ := List.mem_map.1 hi
  have hnone := List.find?_eq_none.1 hfresh t ht
  exact hnone (by simpa using List.mem_singleton.1 hj)

end Tool

theorem appendToolCallDelta_writes (h : s.Kept) (call : ToolCall) :
    s.Writes (.tool (call.index.getD 0)) call.arguments (s.appendToolCallDelta call) := by
  rw [appendToolCallDelta, ensureTool]
  generalize call.index.getD 0 = chatIndex
  cases hfound : s.findTool chatIndex with
  | some tool =>
    obtain rfl := chatIndex_of_findTool hfound
    have hslot : s.slot (.tool tool.chatIndex)
        = some ⟨tool.outputIndex, tool.arguments, tool.done⟩ := by
      simp [slot, hfound]
    have hfound' : (s.findTool (updatedTool tool call).chatIndex).isSome := by
      rw [updatedTool, hfound]
      rfl
    exact
      { kept := ⟨h.text, h.reasoning, by rw [chatIndices_setTool]; exact h.chatIndices⟩
        flags := ⟨rfl, rfl⟩
        outputOrder := by simp [hslot, setTool]
        nextOutputIndex := by simp [hslot, setTool]
        self := by
          rw [slotAfter, hslot]
          exact slot_setTool_self hfound'
        others := fun r hr => slot_setTool_other hr
        events := by
          rw [slotAfter, hslot]
          by_cases hargs : call.arguments = "" <;>
            simp [hargs, argumentsDelta, markOf, itemMark, OutputRef.kind, updatedTool] }
  | none =>
    have hslot : s.slot (.tool chatIndex) = none := by
      simp [slot, hfound]
    have hfresh : s.findTool (s.newTool chatIndex call).chatIndex = none := hfound
    have hfound' : ((s.addTool (s.newTool chatIndex call)).findTool
        (updatedTool (s.newTool chatIndex call) call).chatIndex).isSome := by
      rw [findTool_addTool hfresh]
      simp [updatedTool]
    exact
      { kept := ⟨h.text, h.reasoning, by
          rw [chatIndices_setTool]; exact chatIndices_addTool h hfresh⟩
        flags := ⟨rfl, rfl⟩
        outputOrder := by simp [hslot, setTool, addTool, nextIndex, newTool]
        nextOutputIndex := by simp [hslot, setTool, addTool, nextIndex]
        self := by
          rw [slotAfter, hslot]
          refine (slot_setTool_self hfound').trans ?_
          simp [updatedTool, newTool]
        others := fun r hr => (slot_setTool_other hr).trans (slot_addTool_other hfresh hr)
        events := by
          rw [slotAfter, hslot]
          by_cases hargs : call.arguments = "" <;>
            simp [hargs, argumentsDelta, markOf, itemMark, OutputRef.kind, updatedTool, newTool,
              ResponsesOutput.kind?, responsesOutputTypeFunctionCall,
              responsesOutputTypeMessage, responsesOutputTypeReasoning] }

/-! ### Closing -/

section Closing

variable {s : ChatToResponsesStreamState} {ws : List (OutputRef × String)} {done : Bool}

theorem findTool_of_mem (h : s.Kept) {tool : ChatToResponsesStreamTool}
    (htool : tool ∈ s.toolsByIndex) : s.findTool tool.chatIndex = some tool := by
  have hnodup := h.chatIndices
  unfold findTool
  generalize s.toolsByIndex = tools at htool hnodup ⊢
  induction tools with
  | nil => cases htool
  | cons t rest ih =>
    obtain ⟨hhead, htail⟩ := List.nodup_cons.1 hnodup
    rcases List.mem_cons.1 htool with rfl | hrest
    · simp
    · have hne : t.chatIndex ≠ tool.chatIndex := fun heq =>
        hhead (List.mem_map.2 ⟨tool, hrest, heq.symm⟩)
      rw [List.find?_cons_of_neg (by simpa using hne)]
      exact ih hrest htail

/-- The open items in the order in which `doneDeltaEvents` closes them. -/
def closingKeys (s : ChatToResponsesStreamState) : List OutputRef :=
  (if s.textStarted then [.message] else []) ++
  (if s.reasoningStarted then [.reasoning] else []) ++
  s.sortedTools.map fun tool => .tool tool.chatIndex

theorem mem_sortedTools {tool : ChatToResponsesStreamTool} :
    tool ∈ s.sortedTools ↔ tool ∈ s.toolsByIndex :=
  (List.mergeSort_perm _ _).mem_iff

theorem closingKeys_nodup (h : s.Kept) : s.closingKeys.Nodup := by
  have htools : (s.sortedTools.map fun tool => OutputRef.tool tool.chatIndex).Nodup := by
    have hperm := (List.mergeSort_perm s.toolsByIndex fun a b => a.chatIndex ≤ b.chatIndex).map
      fun tool => tool.chatIndex
    have hnodup := hperm.nodup_iff.2 h.chatIndices
    rw [show (fun tool : ChatToResponsesStreamTool => OutputRef.tool tool.chatIndex)
      = OutputRef.tool ∘ fun tool => tool.chatIndex from rfl, ← List.map_map]
    exact hnodup.map fun a b hab => OutputRef.tool.inj hab
  unfold closingKeys
  cases s.textStarted <;> cases s.reasoningStarted <;> simp [htools]

theorem mem_closingKeys (h : s.Tracks ws done) (ref : OutputRef) :
    ref ∈ s.closingKeys ↔ ref ∈ order [] ws := by
  rw [← decide_eq_true_eq (p := ref ∈ order [] ws), ← h.isSome_slot ref]
  cases ref with
  | message => cases hs : s.textStarted <;> simp [closingKeys, slot, hs]
  | reasoning => cases hs : s.reasoningStarted <;> simp [closingKeys, slot, hs]
  | tool chatIndex =>
    simp only [closingKeys, slot, Option.isSome_map, findTool, List.find?_isSome]
    cases s.textStarted <;> cases s.reasoningStarted <;> simp [mem_sortedTools]

theorem Tracks.slot_eq (h : s.Tracks ws done) (ref : OutputRef) {slot : Slot}
    (hslot : s.slot ref = some slot) :
    slot = ⟨(order [] ws).idxOf ref, textOf ref ws, done⟩ := by
  rw [h.slots ref] at hslot
  split at hslot
  · exact (Option.some.inj hslot).symm
  · cases hslot

theorem Tracks.message (h : s.Tracks ws done) (hstarted : s.textStarted = true) :
    s.textOutputIndex = (order [] ws).idxOf .message ∧ s.text = textOf .message ws ∧
      s.textDone = done := by
  have hslot := h.slot_eq .message (by rw [slot, if_pos hstarted])
  injection hslot with hindex htext hdone
  exact ⟨hindex, htext, hdone⟩

theorem Tracks.reasoning (h : s.Tracks ws done) (hstarted : s.reasoningStarted = true) :
    s.reasoningIndex = (order [] ws).idxOf .reasoning ∧ s.reasoning = textOf .reasoning ws ∧
      s.reasoningDone = done := by
  have hslot := h.slot_eq .reasoning (by rw [slot, if_pos hstarted])
  injection hslot with hindex htext hdone
  exact ⟨hindex, htext, hdone⟩

theorem Tracks.tool (h : s.Tracks ws done) {tool : ChatToResponsesStreamTool}
    (htool : tool ∈ s.toolsByIndex) :
    tool.outputIndex = (order [] ws).idxOf (.tool tool.chatIndex) ∧
      tool.arguments = textOf (.tool tool.chatIndex) ws ∧ tool.done = done := by
  have hslot := h.slot_eq (.tool tool.chatIndex)
    (by rw [slot, findTool_of_mem h.kept htool]; rfl)
  injection hslot with hindex htext hdone
  exact ⟨hindex, htext, hdone⟩

/-- The two events that close an item. -/
def closes (ws : List (OutputRef × String)) (ref : OutputRef) : List (Nat × Mark OutputRef) :=
  [((order [] ws).idxOf ref, .finished ref), ((order [] ws).idxOf ref, .closed ref (textOf ref ws))]

theorem textDoneEvents_marks (h : s.Tracks ws done) (hstarted : s.textStarted = true)
    (status : String) :
    (s.textDoneEvents status).map markOf = shown (closes ws .message) := by
  obtain ⟨hindex, htext, -⟩ := h.message hstarted
  simp [textDoneEvents, markOf, itemMark, messageOutput, ResponsesOutput.kind?,
    ResponsesOutput.body, ResponsesOutput.argumentsString, jsonRawMessageToString, shown, closes,
    Mark.map, OutputRef.kind, hindex, htext]

theorem reasoningDoneEvents_marks (h : s.Tracks ws done) (hstarted : s.reasoningStarted = true)
    (status : String) :
    (s.reasoningDoneEvents status).map markOf = shown (closes ws .reasoning) := by
  obtain ⟨hindex, htext, -⟩ := h.reasoning hstarted
  simp [reasoningDoneEvents, markOf, itemMark, reasoningOutput, ResponsesOutput.kind?,
    responsesOutputTypeReasoning, responsesOutputTypeMessage,
    ResponsesOutput.body, ResponsesOutput.argumentsString, jsonRawMessageToString, shown, closes,
    Mark.map, OutputRef.kind, hindex, htext]

theorem toolDoneEvents_marks (h : s.Tracks ws done) {tool : ChatToResponsesStreamTool}
    (htool : tool ∈ s.toolsByIndex) (status : String) :
    (toolDoneEvents tool status).map markOf = shown (closes ws (.tool tool.chatIndex)) := by
  obtain ⟨hindex, htext, -⟩ := h.tool htool
  simp [toolDoneEvents, markOf, itemMark, toolOutput, chatArgumentsRawMessage,
    ResponsesOutput.kind?, responsesOutputTypeReasoning, responsesOutputTypeMessage,
    responsesOutputTypeFunctionCall, ResponsesOutput.body, ResponsesOutput.argumentsString,
    jsonRawMessageToString, shown, closes, Mark.map, OutputRef.kind, hindex, htext]

theorem flatMap_shown {α : Type} (xs : List α) (events : α → List ResponsesStreamResponse)
    (ms : α → List (Nat × Mark OutputRef)) (h : ∀ x ∈ xs, (events x).map markOf = shown (ms x)) :
    (xs.flatMap events).map markOf = shown (xs.flatMap ms) := by
  induction xs with
  | nil => rfl
  | cons x rest ih =>
    rw [List.flatMap_cons, List.flatMap_cons, List.map_append, shown_append,
      h x List.mem_cons_self, ih fun y hy => h y (List.mem_cons_of_mem _ hy)]

theorem doneDeltaEvents_marks (h : s.Tracks ws false) :
    s.doneDeltaEvents.1.map markOf
      = shown (closing (order [] ws) (fun ref => textOf ref ws) s.closingKeys) := by
  have htext : (if s.textStarted && !s.textDone then s.textDoneEvents s.outputStatus
      else []).map markOf = shown ((if s.textStarted then [OutputRef.message] else []).flatMap
        (closes ws)) := by
    cases hstarted : s.textStarted with
    | false => rfl
    | true =>
      simp [(h.message hstarted).2.2, textDoneEvents_marks h hstarted]
  have hreasoning : (if s.reasoningStarted && !s.reasoningDone then
      s.reasoningDoneEvents s.outputStatus else []).map markOf
        = shown ((if s.reasoningStarted then [OutputRef.reasoning] else []).flatMap
        (closes ws)) := by
    cases hstarted : s.reasoningStarted with
    | false => rfl
    | true =>
      simp [(h.reasoning hstarted).2.2, reasoningDoneEvents_marks h hstarted]
  have hopen : s.sortedTools.filter (fun tool => !tool.done) = s.sortedTools := by
    rw [List.filter_eq_self]
    intro tool htool
    rw [(h.tool (mem_sortedTools.1 htool)).2.2]
    rfl
  have htools := flatMap_shown s.sortedTools (fun tool => toolDoneEvents tool s.outputStatus)
    (fun tool => closes ws (.tool tool.chatIndex))
    fun tool htool => toolDoneEvents_marks h (mem_sortedTools.1 htool) s.outputStatus
  rw [doneDeltaEvents, List.map_append, List.map_append, htext, hreasoning, hopen, htools,
    ← shown_append, ← shown_append, closing, closingKeys, List.flatMap_append,
    List.flatMap_append, List.flatMap_map]
  rfl

theorem doneDeltaEvents_closed (h : s.Tracks ws true) : s.doneDeltaEvents.1 = [] := by
  have htext : (s.textStarted && !s.textDone) = false := by
    cases hstarted : s.textStarted with
    | false => rfl
    | true =>
      simp [(h.message hstarted).2.2]
  have hreasoning : (s.reasoningStarted && !s.reasoningDone) = false := by
    cases hstarted : s.reasoningStarted with
    | false => rfl
    | true =>
      simp [(h.reasoning hstarted).2.2]
  have htools : s.sortedTools.filter (fun tool => !tool.done) = [] := by
    rw [List.filter_eq_nil_iff]
    intro tool htool
    simp [(h.tool (mem_sortedTools.1 htool)).2.2]
  simp [doneDeltaEvents, htext, hreasoning, htools]

theorem Tracks.close (h : s.Tracks ws done) : s.doneDeltaEvents.2.Tracks ws true := by
  refine ⟨⟨?_, ?_, ?_⟩, h.outputOrder, h.nextOutputIndex, fun ref => ?_⟩
  · intro hstarted
    have hkept := h.kept.text hstarted
    exact ⟨hkept.1, by simpa [doneDeltaEvents, hkept.2] using hstarted⟩
  · intro hstarted
    have hkept := h.kept.reasoning hstarted
    exact ⟨hkept.1, by simpa [doneDeltaEvents, hkept.2] using hstarted⟩
  · simpa [doneDeltaEvents, Function.comp_def] using h.kept.chatIndices
  · have hslot : s.doneDeltaEvents.2.slot ref
        = (s.slot ref).map fun slot => { slot with done := true } := by
      cases ref with
      | message => cases hs : s.textStarted <;> simp [doneDeltaEvents, slot, hs]
      | reasoning => cases hs : s.reasoningStarted <;> simp [doneDeltaEvents, slot, hs]
      | tool chatIndex =>
        simp [doneDeltaEvents, slot, findTool, List.find?_map, Function.comp_def]
    rw [hslot, h.slots ref]
    split <;> rfl

end Closing

/-! ## Whole streams -/

/-- The events so far: the writes, and the closing if it has happened. -/
structure Written (s : ChatToResponsesStreamState) (ws : List (OutputRef × String)) (done : Bool)
    (events : List ResponsesStreamResponse) : Prop where
  tracks : s.Tracks ws done
  flags : s.sentCreated = true ∧ s.finalized = false
  marks : if done then
      ∃ keys : List OutputRef, keys.Nodup ∧ (∀ key, key ∈ keys ↔ key ∈ order [] ws) ∧
        events.map markOf
          = shown (marks [] ws ++ closing (order [] ws) (fun ref => textOf ref ws) keys)
    else events.map markOf = shown (marks [] ws)

section Run

variable {s : ChatToResponsesStreamState} {ws : List (OutputRef × String)} {done : Bool}
  {events : List ResponsesStreamResponse}

theorem Written.write {ref : OutputRef} {piece : String}
    {result : List ResponsesStreamResponse × ChatToResponsesStreamState}
    (h : s.Written ws false events) (hw : s.Writes ref piece result) :
    result.2.Written (ws ++ [(ref, piece)]) false (events ++ result.1) := by
  refine ⟨h.tracks.write hw, ?_, ?_⟩
  · rw [hw.flags.1, hw.flags.2]
    exact h.flags
  have hmarks : events.map markOf = shown (Interleave.marks [] ws) := h.marks
  simp only [Bool.false_eq_true, if_false]
  rw [List.map_append, hmarks, h.tracks.marks_write hw, marks_append, shown_append]

theorem Written.close (h : s.Written ws done events) :
    s.doneDeltaEvents.2.Written ws true (events ++ s.doneDeltaEvents.1) := by
  refine ⟨h.tracks.close, h.flags, ?_⟩
  cases done with
  | true =>
    rw [doneDeltaEvents_closed h.tracks, List.append_nil]
    exact h.marks
  | false =>
    have hmarks : events.map markOf = shown (Interleave.marks [] ws) := h.marks
    refine ⟨s.closingKeys, closingKeys_nodup h.tracks.kept, mem_closingKeys h.tracks, ?_⟩
    rw [List.map_append, hmarks, doneDeltaEvents_marks h.tracks, shown_append]

theorem Tracks.withFields (h : s.Tracks ws done) (id model : String) (created : Int)
    (usage : Usage) (status : String) (details : Option IncompleteDetails)
    (sentCreated finalized : Bool) :
    Tracks { s with
      id := id, model := model, created := created, usage := usage, status := status,
      incompleteDetails := details, sentCreated := sentCreated, finalized := finalized } ws done :=
  ⟨⟨h.kept.text, h.kept.reasoning, h.kept.chatIndices⟩, h.outputOrder, h.nextOutputIndex,
    fun ref => by
      rw [← h.slots ref]
      cases ref <;> rfl⟩

theorem Written.tools (h : s.Written ws false events) (calls : List ToolCall) :
    (emitAll appendToolCallDelta s calls).2.Written
      (ws ++ calls.map fun call => (.tool (call.index.getD 0), call.arguments)) false
      (events ++ (emitAll appendToolCallDelta s calls).1) := by
  induction calls generalizing s ws events with
  | nil => simpa [emitAll] using h
  | cons call rest ih =>
    have hcall := h.write (appendToolCallDelta_writes h.tracks.kept call)
    simpa [emitAll, List.append_assoc] using ih hcall

def silent (choice : Choice) : Bool :=
  choice.delta.getContentString = "" && choice.delta.getReasoningContent = "" &&
    choice.delta.toolCalls.isEmpty

theorem Written.reasoningDelta (h : s.Written ws false events) (delta : String) :
    (if delta ≠ "" then s.appendReasoningDelta delta else ([], s)).2.Written
      (ws ++ if delta ≠ "" then [(.reasoning, delta)] else []) false
      (events ++ (if delta ≠ "" then s.appendReasoningDelta delta else ([], s)).1) := by
  by_cases hdelta : delta = ""
  · simpa [hdelta] using h
  · simpa [hdelta] using h.write (appendReasoningDelta_writes h.tracks.kept hdelta)

theorem Written.textDelta (h : s.Written ws false events) (delta : String) :
    (if delta ≠ "" then s.appendTextDelta delta else ([], s)).2.Written
      (ws ++ if delta ≠ "" then [(.message, delta)] else []) false
      (events ++ (if delta ≠ "" then s.appendTextDelta delta else ([], s)).1) := by
  by_cases hdelta : delta = ""
  · simpa [hdelta] using h
  · simpa [hdelta] using h.write (appendTextDelta_writes h.tracks.kept hdelta)

theorem Written.applyFinishReason (h : s.Written ws done events) (finishReason : String) :
    (s.applyFinishReason finishReason).Written ws done events := by
  unfold ChatToResponsesStreamState.applyFinishReason
  dsimp only
  split
  · exact ⟨h.tracks.withFields s.id s.model s.created s.usage _ _ s.sentCreated s.finalized,
      h.flags, h.marks⟩
  · exact h

theorem Written.finish (h : s.Written ws done events) (choice : Choice) :
    (s.finishEvents choice).2.Written ws (done || (finishReason? choice).isSome)
      (events ++ (s.finishEvents choice).1) := by
  unfold finishEvents
  cases finishReason? choice with
  | none => simpa using h
  | some reason => simpa using (h.applyFinishReason reason).close

theorem choiceEvents_silent (s : ChatToResponsesStreamState) {choice : Choice}
    (hsilent : silent choice = true) :
    s.choiceEvents choice = s.finishEvents choice ∧ choiceWrites choice = [] := by
  simp only [silent, Bool.and_eq_true, decide_eq_true_eq, List.isEmpty_iff] at hsilent
  obtain ⟨⟨htext, hreasoning⟩, htools⟩ := hsilent
  simp [choiceEvents, choiceWrites, finishEvents, htext, hreasoning, htools, emitAll]

theorem Written.choice (h : s.Written ws done events) (choice : Choice)
    (hquiet : done = true → silent choice = true) :
    (s.choiceEvents choice).2.Written (ws ++ choiceWrites choice)
      (done || (finishReason? choice).isSome) (events ++ (s.choiceEvents choice).1) := by
  cases done with
  | true =>
    obtain ⟨hevents, hwrites⟩ := choiceEvents_silent s (hquiet rfl)
    rw [hevents, hwrites, List.append_nil]
    exact h.finish choice
  | false =>
    have hdeltas := ((h.reasoningDelta choice.delta.getReasoningContent).textDelta
      choice.delta.getContentString).tools choice.delta.toolCalls
    have hfinish := hdeltas.finish choice
    simp only [List.append_assoc] at hfinish
    simp only [choiceEvents, choiceWrites, List.append_assoc]
    exact hfinish

/-- Nothing is written after the first finish reason. -/
def quiet : Bool → List Choice → Bool
  | _, [] => true
  | done, choice :: rest =>
    (!done || silent choice) && quiet (done || (finishReason? choice).isSome) rest

def doneAfter (done : Bool) (choices : List Choice) : Bool :=
  done || choices.any fun choice => (finishReason? choice).isSome

theorem quiet_append (done : Bool) (choices more : List Choice) :
    quiet done (choices ++ more) = (quiet done choices && quiet (doneAfter done choices) more) := by
  induction choices generalizing done with
  | nil => simp [quiet, doneAfter]
  | cons choice rest ih => simp [quiet, ih, doneAfter, Bool.and_assoc, Bool.or_assoc]

theorem Written.choices (h : s.Written ws done events) (choices : List Choice)
    (hquiet : quiet done choices = true) :
    (emitAll choiceEvents s choices).2.Written (ws ++ choices.flatMap choiceWrites)
      (doneAfter done choices) (events ++ (emitAll choiceEvents s choices).1) := by
  induction choices generalizing s ws done events with
  | nil => simpa [emitAll, doneAfter] using h
  | cons choice rest ih =>
    simp only [quiet, Bool.and_eq_true, Bool.or_eq_true, Bool.not_eq_true'] at hquiet
    have hhead := h.choice choice fun hdone =>
      hquiet.1.resolve_left (by simp [hdone])
    have hrest := ih hhead hquiet.2
    simpa [emitAll, doneAfter, List.append_assoc, Bool.or_assoc] using hrest

theorem Written.applyChunk (h : s.Written ws done events) (chunk : ChatCompletionsStreamResponse) :
    (s.applyChunk chunk).Written ws done events :=
  ⟨h.tracks.withFields _ _ _ _ s.status s.incompleteDetails s.sentCreated s.finalized, h.flags,
    h.marks⟩

theorem streamWrites_cons (chunk : ChatCompletionsStreamResponse)
    (rest : List ChatCompletionsStreamResponse) :
    streamWrites (chunk :: rest) = chunk.choices.flatMap choiceWrites ++ streamWrites rest := by
  simp [streamWrites]

theorem setCreated_of_created (hcreated : s.sentCreated = true) :
    { s with sentCreated := true } = s := by
  cases s
  cases hcreated
  rfl

theorem Written.chunk (h : s.Written ws done events) (chunk : ChatCompletionsStreamResponse)
    (hquiet : quiet done chunk.choices = true) :
    (s.chunkEvents chunk).2.Written (ws ++ chunk.choices.flatMap choiceWrites)
      (doneAfter done chunk.choices) (events ++ (s.chunkEvents chunk).1) := by
  have happlied := h.applyChunk chunk
  have hevents : s.chunkEvents chunk = emitAll choiceEvents (s.applyChunk chunk) chunk.choices := by
    rw [chunkEvents, setCreated_of_created happlied.flags.1, happlied.flags.1]
    rfl
  rw [hevents]
  exact happlied.choices chunk.choices hquiet

theorem Written.chunks (h : s.Written ws done events)
    (chunks : List ChatCompletionsStreamResponse)
    (hquiet : quiet done (chunks.flatMap (·.choices)) = true) :
    (emitAll chunkEvents s chunks).2.Written (ws ++ streamWrites chunks)
      (doneAfter done (chunks.flatMap (·.choices)))
      (events ++ (emitAll chunkEvents s chunks).1) := by
  induction chunks generalizing s ws done events with
  | nil => simpa [emitAll, streamWrites, doneAfter] using h
  | cons chunk rest ih =>
    rw [List.flatMap_cons, quiet_append, Bool.and_eq_true] at hquiet
    have hrest := ih (h.chunk chunk hquiet.1) hquiet.2
    rw [streamWrites_cons]
    simpa [emitAll, List.append_assoc, doneAfter, Bool.or_assoc] using hrest

theorem Tracks.finalOutput (h : s.Tracks ws done) :
    s.finalResponse.output.map (fun out => (out.kind?, out.body))
      = (order [] ws).map fun ref => (some ref.kind, textOf ref ws) := by
  have hitem : ∀ ref ∈ order [] ws,
      (s.outputOf s.outputStatus ref).map (fun out => (out.kind?, out.body))
        = some (some ref.kind, textOf ref ws) := by
    intro ref href
    have hslot := h.slots ref
    rw [if_pos href] at hslot
    cases ref with
    | message =>
      have hstarted : s.textStarted = true := by
        by_contra hnot
        simp [slot, hnot] at hslot
      obtain ⟨-, htext, -⟩ := h.message hstarted
      simp [outputOf, messageOutput, ResponsesOutput.kind?, ResponsesOutput.body,
        ResponsesOutput.argumentsString, jsonRawMessageToString, OutputRef.kind, htext]
    | reasoning =>
      have hstarted : s.reasoningStarted = true := by
        by_contra hnot
        simp [slot, hnot] at hslot
      obtain ⟨-, htext, -⟩ := h.reasoning hstarted
      simp [outputOf, reasoningOutput, ResponsesOutput.kind?, ResponsesOutput.body,
        ResponsesOutput.argumentsString, jsonRawMessageToString, OutputRef.kind, htext,
        responsesOutputTypeReasoning, responsesOutputTypeMessage]
    | tool chatIndex =>
      obtain ⟨tool, htool, htext⟩ := Option.map_eq_some_iff.1 hslot
      injection htext with _ htext
      simp [outputOf, htool, toolOutput, chatArgumentsRawMessage, ResponsesOutput.kind?,
        ResponsesOutput.body, ResponsesOutput.argumentsString, jsonRawMessageToString,
        OutputRef.kind, htext, responsesOutputTypeReasoning, responsesOutputTypeMessage,
        responsesOutputTypeFunctionCall]
  simp only [finalResponse, h.outputOrder, List.map_filterMap]
  rw [List.filterMap_congr hitem, List.filterMap_eq_map']

theorem Written.nil (id model : String) (now : Int) (chunk : ChatCompletionsStreamResponse) :
    Written { (newChatToResponsesStreamState id model now).applyChunk chunk with
      sentCreated := true } [] false [] :=
  ⟨⟨⟨fun _ => ⟨rfl, rfl⟩, fun _ => ⟨rfl, rfl⟩, List.nodup_nil⟩, rfl, rfl, fun ref => by
    cases ref <;> rfl⟩, ⟨rfl, rfl⟩, rfl⟩

end Run

/-! ## The grammar of the stream -/

/-- `created`, the events about the items, the end. Item `n` is the `n`th
key to occur, and what the stream says under index `n` is its life. -/
structure WellFormed (ws : List (OutputRef × String)) (first : ResponsesStreamResponse)
    (middle : List ResponsesStreamResponse) (last : ResponsesStreamResponse) : Prop where
  created : first.type = .created
  terminal : last.type = .completed ∨ last.type = .incomplete
  between : ∀ event ∈ middle, event.type ≠ .created ∧ event.type ≠ .completed ∧
    event.type ≠ .incomplete
  numbered : ∀ event ∈ middle, ∃ n < (order [] ws).length, ∃ mark,
    markOf event = some ((n : Int), mark)
  lives : ∀ (n : Nat) ref, (order [] ws)[n]? = some ref →
    ((middle.filterMap markOf).filter (fun m => m.1 = (n : Int))).map (·.2)
      = .opened ref.kind :: (piecesOf ref ws).map (.wrote ref.kind) ++
        [.finished ref.kind, .closed ref.kind (textOf ref ws)]
  output : ∃ resp, last.response = some resp ∧
    resp.output.map (fun out => (out.kind?, out.body))
      = (order [] ws).map fun ref => (some ref.kind, textOf ref ws)

section Grammar

variable {ws : List (OutputRef × String)} {events : List ResponsesStreamResponse}
  {ms : List (Nat × Mark OutputRef)}

theorem filter_shown (h : events.map markOf = shown ms) (n : Nat) :
    ((events.filterMap markOf).filter (fun m => m.1 = (n : Int))).map (·.2)
      = (at_ n ms).map (·.map OutputRef.kind) := by
  have hmarks : events.filterMap markOf
      = ms.map fun m => ((m.1 : Int), m.2.map OutputRef.kind) := by
    have hread : events.filterMap markOf = (events.map markOf).filterMap fun m => m := by
      simp [List.filterMap_map]
    rw [hread, h, shown, List.filterMap_map]
    exact congrFun List.filterMap_eq_map' ms
  rw [hmarks, at_]
  simp [List.filter_map, Function.comp_def]

theorem type_of_markOf {event : ResponsesStreamResponse} (h : (markOf event).isSome) :
    event.type ≠ .created ∧ event.type ≠ .completed ∧ event.type ≠ .incomplete := by
  refine ⟨?_, ?_, ?_⟩ <;> intro htype <;> simp [markOf, itemMark, htype] at h

theorem wellFormed_of_marks {first last : ResponsesStreamResponse} {keys : List OutputRef}
    (hkeys : keys.Nodup) (hmem : ∀ key, key ∈ keys ↔ key ∈ order [] ws)
    (hmarks : events.map markOf
      = shown (marks [] ws ++ closing (order [] ws) (fun ref => textOf ref ws) keys))
    (hcreated : first.type = .created)
    (hterminal : last.type = .completed ∨ last.type = .incomplete)
    (houtput : ∃ resp, last.response = some resp ∧
      resp.output.map (fun out => (out.kind?, out.body))
        = (order [] ws).map fun ref => (some ref.kind, textOf ref ws)) :
    WellFormed ws first events last := by
  have hnumbered : ∀ event ∈ events, ∃ n < (order [] ws).length, ∃ mark,
      markOf event = some ((n : Int), mark) := by
    intro event hevent
    have hmark : markOf event ∈ events.map markOf := List.mem_map_of_mem hevent
    rw [hmarks] at hmark
    obtain ⟨m, hm, hshown⟩ := List.mem_map.1 hmark
    refine ⟨m.1, ?_, _, hshown.symm⟩
    rcases List.mem_append.1 hm with hwrite | hclose
    · exact marks_lt hwrite
    · exact closing_lt (fun key hkey => (hmem key).1 hkey) hclose
  refine ⟨hcreated, hterminal, fun event hevent => ?_, hnumbered, fun n ref hn => ?_, houtput⟩
  · obtain ⟨n, -, mark, hmark⟩ := hnumbered event hevent
    exact type_of_markOf (by simp [hmark])
  · rw [filter_shown hmarks n, at_life hkeys hmem hn]
    simp [Mark.map, Function.comp_def]

end Grammar

/-- The event that ends the stream of a state whose items are closed. -/
def lastEvent (s : ChatToResponsesStreamState) : ResponsesStreamResponse where
  type := if s.status = "incomplete" then .incomplete else .completed
  response := some s.finalResponse

theorem finalize_open (hopen : s.finalized = false) :
    s.finalize = (s.doneDeltaEvents.1 ++
      [{ s.doneDeltaEvents.2 with finalized := true }.lastEvent],
      { s.doneDeltaEvents.2 with finalized := true }) := by
  rw [finalize, hopen]
  rfl

theorem finalize_again (hfinalized : s.finalized = true) : s.finalize = ([], s) := by
  rw [finalize, if_pos hfinalized]

theorem lastEvent_terminal (s : ChatToResponsesStreamState) :
    s.lastEvent.type = .completed ∨ s.lastEvent.type = .incomplete := by
  unfold lastEvent
  by_cases hstatus : s.status = "incomplete" <;> simp [hstatus]

theorem stream_well_formed (id model : String) (now : Int)
    (chunks : List ChatCompletionsStreamResponse) (hne : chunks ≠ [])
    (hquiet : quiet false (chunks.flatMap (·.choices)) = true) :
    ∃ first middle last s,
      (newChatToResponsesStreamState id model now).streamEvents chunks
        = (first :: middle ++ [last], s) ∧
      WellFormed (streamWrites chunks) first middle last ∧ s.finalize.1 = [] := by
  obtain ⟨chunk, rest, rfl⟩ := List.exists_cons_of_ne_nil hne
  rw [List.flatMap_cons, quiet_append, Bool.and_eq_true] at hquiet
  have hchunk := (Written.nil id model now chunk).choices chunk.choices hquiet.1
  have hall := hchunk.chunks rest hquiet.2
  have hclosed := hall.close
  obtain ⟨keys, hkeys, hmem, hmarks⟩ := hclosed.marks
  let announced := (newChatToResponsesStreamState id model now).applyChunk chunk
  let t := (emitAll chunkEvents
    ((newChatToResponsesStreamState id model now).chunkEvents chunk).2 rest).2
  let final := { t.doneDeltaEvents.2 with finalized := true }
  have hfinal : t.finalize = (t.doneDeltaEvents.1 ++ [final.lastEvent], final) :=
    finalize_open hall.flags.2
  have hwrites : [] ++ chunk.choices.flatMap choiceWrites ++ streamWrites rest
      = streamWrites (chunk :: rest) := by
    rw [List.nil_append, streamWrites_cons]
  rw [hwrites] at hmem hmarks hclosed
  refine ⟨{ type := .created, response := some announced.createdResponse }, _, final.lastEvent,
    final, ?_, wellFormed_of_marks hkeys hmem hmarks rfl (lastEvent_terminal final)
      ⟨final.finalResponse, rfl, ?_⟩, by rw [finalize_again rfl]⟩
  · have hstream : (newChatToResponsesStreamState id model now).streamEvents (chunk :: rest)
        = (((newChatToResponsesStreamState id model now).chunkEvents chunk).1 ++
          (emitAll chunkEvents ((newChatToResponsesStreamState id model now).chunkEvents chunk).2
            rest).1 ++ t.finalize.1, t.finalize.2) := rfl
    rw [hstream, hfinal, ← List.append_assoc]
    rfl
  · exact (hclosed.tracks.withFields _ _ _ _ _ _ _ true).finalOutput

/-- Thinking, then text and a tool call in turns, and an end that says so. -/
def demoChunks : List ChatCompletionsStreamResponse :=
  let delta (content reasoning : Option String) (toolCalls : List ToolCall)
      (finishReason : Option String) : ChatCompletionsStreamResponse :=
    { id := "chatcmpl", model := "m", created := 7,
      choices := [⟨⟨content, reasoning, none, toolCalls⟩, finishReason⟩] }
  [delta none (some "hm") [] none,
    delta (some "I ") none [⟨some 0, "call_1", "ls", ""⟩] none,
    delta (some "look") none [⟨some 0, "", "", "{}"⟩] (some "tool_calls"),
    { usage := some { promptTokens := 2 } }]

theorem demoChunks_well_formed :
    ∃ first middle last s,
      (newChatToResponsesStreamState "resp" "m" 7).streamEvents demoChunks
        = (first :: middle ++ [last], s) ∧
      WellFormed (streamWrites demoChunks) first middle last ∧ s.finalize.1 = [] :=
  stream_well_formed "resp" "m" 7 demoChunks (List.cons_ne_nil _ _) (by decide)

end ChatToResponsesStreamState

end YouBox.Responses
