import YouBox.ResponsesTracks

/-!
# The terminal event

The terminal event gives the items it repeats one after the other and
then flushes the table. `Ending` extends the stream's invariant by the
items given so far: text and reasoning are the first there is
(`firstOf`), and every tool item takes a new index, because its key is
made from its id and every key of the stream from an output index.

The flush finds nothing to send of a tool in the table
(`toolDelta_settled`); arguments that still wait without one each make a
tool of their own (`flushKeys_spec`).
-/

namespace YouBox.Responses

open Interleave Parts ResponsesToChatStreamState

/-! ## Items of the terminal event -/

def isToolAt (items : List ResponsesOutput) (n : Nat) : Bool :=
  (items[n]?).any fun item => isResponsesToolOutputType item.type

variable {items : List ResponsesOutput}

theorem isToolAt_iff {n : Nat} : isToolAt items n = true ↔ ∃ item, Tool items n item := by
  simp [isToolAt, Tool, Option.any_eq_true]

/-- The tool items among those given, in the order of their indexes. -/
def givenTools (items : List ResponsesOutput) (done : List Nat) : List Nat :=
  done.filter (isToolAt items)

/-- The reasoning that the terminal event adds. -/
def givenReasoning (items : List ResponsesOutput) (script : List Signal) (done : List Nat) :
    List String :=
  if (brokenUp script).1 ≠ [] then []
  else ((done.map (reasoningAt items)).find? (· ≠ "")).toList

structure ToolsEnd (items : List ResponsesOutput) (script : List Signal) (done : List Nat)
    (m₀ m : ToolMaps) (calls : List ToolCallResponse) : Prop where
  next : m.nextToolIndex = (keyed script).length + (givenTools items done).length
  settled : ∀ key tool, m.toolByKey.lookup key = some tool → tool.key = key ∧ settled tool = tool
  only : ∀ key tool, m.toolByKey.lookup key = some tool →
    (∃ n item, Tool items n item ∧ n ∈ keyed script ∧ key = .output n) ∨
      ∃ n item, Tool items n item ∧ n ∈ done ∧ key = .item item.id
  pending : m.pendingArgsByOutputIndex = m₀.pendingArgsByOutputIndex
  noItems : m.pendingArgsByItemId = ∅
  bounded : ∀ call ∈ calls, call.index < m.nextToolIndex
  spoken : ∀ n item, Tool items n item → n ∈ keyed script →
    Spoken calls ((keyed script).idxOf n) item n script (told n script)
  given : ∀ j n item, (givenTools items done)[j]? = some n → items[n]? = some item →
    SpellsOne (ownCalls ((keyed script).length + j) calls) item

structure Ending (items : List ResponsesOutput) (script : List Signal) (done : List Nat)
    (m₀ : ToolMaps) (s : ResponsesToChatStreamState) (out : List ChatChunk) : Prop where
  opened : Opened false s.sentStart out
  text : String.join (textsOf out)
    = firstOf (String.join ((textWrites script).map (·.2))) (done.map (textAt items))
  sentText : s.hasSentText = decide (String.join (textsOf out) ≠ "")
  reasoning : reasoningsOf out = (brokenUp script).1 ++ givenReasoning items script done
  sentReasoning : s.hasSentReasoning = decide (reasoningsOf out ≠ [])
  due : s.hasSentReasoning = false → s.needsReasoningSummaryBreak = false
  running : s.finalized = false
  tools : ToolsEnd items script done m₀ s.toToolMaps (callsOf out)

theorem settled_settled (tool : ResponsesStreamTool) : settled (settled tool) = settled tool := by
  unfold settled
  simp

theorem due_of_brokenUp (script : List Signal) (h : (brokenUp script).1 = []) :
    (brokenUp script).2 = false := by
  induction script using List.reverseRecOn with
  | nil => rfl
  | append_singleton script signal ih =>
    rw [brokenUp_append] at h ⊢
    cases signal with
    | reasoning n delta =>
      by_cases hdelta : delta = ""
      · simp only [breakUp, hdelta, if_true] at h ⊢
        exact ih h
      · simp [breakUp, hdelta] at h
    | reasoningDone =>
      simp only [breakUp] at h ⊢
      simp [h, ih h]
    | _ => exact ih h

theorem Tracks.ending {script : List Signal} {s : ResponsesToChatStreamState} {out : List ChatChunk}
    (h : Tracks items script s out) (hname : ∀ n item, Tool items n item → item.name ≠ "") :
    Ending items script [] s.toToolMaps s out where
  opened := h.flow.opened
  text := by rw [h.flow.text, List.map_nil, firstOf_nil]
  sentText := by rw [h.flow.sentText, h.flow.text]
  reasoning := by rw [h.flow.reasoning, givenReasoning]; simp
  sentReasoning := by rw [h.flow.sentReasoning, h.flow.reasoning]
  due := by
    intro hsent
    rw [h.flow.sentReasoning] at hsent
    rw [h.flow.due, due_of_brokenUp script (by simpa using hsent)]
  running := h.flow.running
  tools :=
    { next := h.tools.next
      settled := by
        intro key tool hlookup
        obtain ⟨n, item, htool, hmem, rfl⟩ := h.tools.only key tool hlookup
        rw [h.tools.found n item htool, if_pos hmem] at hlookup
        cases hlookup
        refine ⟨rfl, ?_⟩
        have hitem := hname n item htool
        cases hannounced : announced n script <;> simp [settled, toolNow, hannounced, hitem]
      only := fun key tool hlookup => .inl (h.tools.only key tool hlookup)
      pending := rfl
      noItems := h.tools.noItems
      bounded := by rw [h.tools.next]; exact h.tools.bounded
      spoken := h.tools.spoken
      given := fun _ _ _ hget => by simp [givenTools] at hget }

section Terminal

variable {items : List ResponsesOutput} {script : List Signal} {done : List Nat} {m₀ : ToolMaps}
  {s : ResponsesToChatStreamState} {out : List ChatChunk} {calls : List ToolCallResponse} {n : Nat}
  {item : ResponsesOutput}

theorem givenTools_append (items : List ResponsesOutput) (done : List Nat) (n : Nat) :
    givenTools items (done ++ [n])
      = givenTools items done ++ if isToolAt items n then [n] else [] := by
  rw [givenTools, givenTools, List.filter_append, List.filter_singleton]
  cases isToolAt items n <;> rfl

theorem givenReasoning_append (items : List ResponsesOutput) (script : List Signal)
    (done : List Nat) (n : Nat) :
    givenReasoning items script (done ++ [n])
      = if (brokenUp script).1 ++ givenReasoning items script done ≠ [] then
          givenReasoning items script done
        else if reasoningAt items n = "" then [] else [reasoningAt items n] := by
  by_cases hsent : (brokenUp script).1 = []
  · simp only [givenReasoning, hsent, ne_eq, not_true_eq_false, if_false, List.nil_append,
      List.map_append, List.find?_append]
    cases (done.map (reasoningAt items)).find? (fun x => decide (¬ x = "")) with
    | some found => simp
    | none => by_cases htext : reasoningAt items n = "" <;> simp [htext]
  · simp [givenReasoning, hsent]

theorem ToolsEnd.skip (h : ToolsEnd items script done m₀ s.toToolMaps calls)
    (hnot : isToolAt items n = false) :
    ToolsEnd items script (done ++ [n]) m₀ s.toToolMaps calls where
  next := by rw [h.next, givenTools_append, hnot]; simp
  settled := h.settled
  only := by
    intro key tool hlookup
    rcases h.only key tool hlookup with hor | ⟨k, other, hother, hk, hkey⟩
    · exact .inl hor
    · exact .inr ⟨k, other, hother, List.mem_append_left _ hk, hkey⟩
  pending := h.pending
  noItems := h.noItems
  bounded := h.bounded
  spoken := h.spoken
  given := by
    intro j k other hget
    rw [givenTools_append, hnot] at hget
    exact h.given j k other (by simpa using hget)

theorem ToolsEnd.toolItem (h : ToolsEnd items script done m₀ s.toToolMaps calls)
    (htool : Tool items n item) (hnew : n ∉ done)
    (hdistinct : ∀ k other, Tool items k other → other.id = item.id → k = n)
    (htrimmed : Trimmed item.id ∧ Trimmed item.callId ∧ Trimmed item.name) :
    ∃ chunks s' added, s.toolItem { type := .other "", item := some item } item = (chunks, s') ∧
      Emits s.sentStart s'.sentStart chunks "" [] added ∧ s.SameFlow s' ∧
      ToolsEnd items script (done ++ [n]) m₀ s'.toToolMaps (calls ++ added) := by
  obtain ⟨hid, hcall, hname⟩ := htrimmed
  have hfree : s.toolByKey.lookup (ToolKey.item item.id) = none := by
    cases hlookup : s.toolByKey.lookup (ToolKey.item item.id) with
    | none => rfl
    | some tool =>
      rcases h.only _ tool hlookup with ⟨_, _, _, _, hkey⟩ | ⟨k, other, hother, hk, hkey⟩
      · cases hkey
      · obtain rfl := hdistinct k other hother (ToolKey.item.inj hkey).symm
        exact absurd hk hnew
  let tool : ResponsesStreamTool :=
    { key := .item item.id, callId := item.callId, itemId := item.id, name := item.name
      arguments := item.argumentsString, index := s.nextToolIndex }
  let s₁ : ResponsesToChatStreamState :=
    { s with
      nextToolIndex := s.nextToolIndex + 1
      itemIdToKey := s.itemIdToKey.insert item.id (.item item.id)
      callIdToKey := s.callIdToKey.insert item.callId (.item item.id) }
  have hresult : s.toolItem { type := .other "", item := some item } item
      = s₁.toolDelta tool "" := by
    have hkey : (keyForEvent { type := .other "", item := some item } <|>
        fallbackToolKey item.id item.callId none) = some (.item item.id) := by
      simp only [keyForEvent, Option.bind_some, given_trimmed hid]
      rfl
    have heventId :
        responseStreamEventItemId { type := .other "", item := some item } = item.id := by
      simp only [responseStreamEventItemId, Option.bind_some, given_trimmed hid]
    have hensure : s.ensureToolForEvent { type := .other "", item := some item }
        = some ({ tool with arguments := "" }, s₁) := by
      simp only [ensureToolForEvent, hkey, toolAt, hfree, linkOutputIndex, heventId]
      rw [linkItemId_of_empty _ hid.1 (by exact h.noItems)]
      simp [nameTool, hcall.2, hname.2, hcall.1, hname.1, tool, s₁]
    simp only [ResponsesToChatStreamState.toolItem, hensure]
    by_cases hargs : item.argumentsString = "" <;> simp [hargs, tool]
  obtain ⟨chunks, s', added, hrun, hemits, hflow, hadds, hmaps⟩ :=
    s₁.toolDelta_spec tool (String.empty_append.symm : tool.arguments = "" ++ item.argumentsString)
      (rfl : tool.argsSentAt = byteLength "") (.inl (rfl : "" = ""))
  have hlength : s.nextToolIndex = (keyed script).length + (givenTools items done).length := h.next
  have hgiven : givenTools items (done ++ [n]) = givenTools items done ++ [n] := by
    rw [givenTools_append, if_pos (isToolAt_iff.2 ⟨item, htool⟩)]
  have hown : ∀ call ∈ added, call.index = s.nextToolIndex := fun call hmem =>
    (hadds.own call hmem).1
  have hfresh : ownCalls s.nextToolIndex (calls ++ added) = added := by
    rw [ownCalls_append, ownCalls_self hown,
      ownCalls_eq_nil fun call hmem => Nat.ne_of_lt (h.bounded call hmem), List.nil_append]
  refine ⟨chunks, s', added, hresult.trans hrun, hemits, ⟨hflow.finalized, hflow.hasSentText,
    hflow.hasSentReasoning, hflow.due⟩, ?_⟩
  rw [hmaps]
  refine
    { next := ?_, settled := ?_, only := ?_, pending := h.pending, noItems := h.noItems
      bounded := ?_, spoken := ?_, given := ?_ }
  · rw [hgiven, List.length_append, List.length_singleton, ← Nat.add_assoc, ← hlength]
  · intro key other hlookup
    dsimp only at hlookup
    rw [lookup_insert] at hlookup
    split at hlookup
    · rename_i hkey
      cases hlookup
      exact ⟨hkey.symm, settled_settled tool⟩
    · exact h.settled key other hlookup
  · intro key other hlookup
    dsimp only at hlookup
    rw [lookup_insert] at hlookup
    split at hlookup
    · exact .inr ⟨n, item, htool, by simp, ‹_›⟩
    · rcases h.only key other hlookup with hor | ⟨k, known, hknown, hk, hkey⟩
      · exact .inl hor
      · exact .inr ⟨k, known, hknown, List.mem_append_left _ hk, hkey⟩
  · intro call hmem
    rcases List.mem_append.1 hmem with hmem | hmem
    · exact Nat.lt_succ_of_lt (h.bounded call hmem)
    · rw [hown call hmem]
      exact Nat.lt_succ_self _
  · intro k other hother hk
    refine (h.spoken k other hother hk).others fun call hmem => ?_
    have hlt := List.idxOf_lt_length_of_mem hk
    rw [hown call hmem]
    omega
  · intro j k other hget hother
    rw [hgiven] at hget
    rcases Nat.lt_trichotomy j (givenTools items done).length with hj | hj | hj
    · rw [List.getElem?_append_left hj] at hget
      have hkeep : ownCalls ((keyed script).length + j) added = [] :=
        ownCalls_eq_nil fun call hmem => by rw [hown call hmem]; omega
      rw [ownCalls_append, hkeep, List.append_nil]
      exact h.given j k other hget hother
    · subst hj
      rw [List.getElem?_concat_length] at hget
      cases hget
      obtain rfl := htool.unique hother
      rw [← hlength, hfresh]
      have hshown : shownCallId tool = other.callId := shownCallId_of_trimmed hcall
      exact ⟨hadds.heard (.inl rfl), fun call hmem => (hadds.own call hmem).2.trans hshown,
        hadds.name, hadds.arguments⟩
    · rw [List.getElem?_eq_none (by simp; omega)] at hget
      cases hget

variable {text : String}

variable {chunks : List ChatChunk} {added : List ToolCallResponse} {type : String}

theorem Ending.emits {now : Bool} {reasoning : List String} (h : Ending items script done m₀ s out)
    (hemits : Emits s.sentStart now chunks text reasoning added) :
    Emits false now (out ++ chunks) (String.join (textsOf out) ++ text)
      (reasoningsOf out ++ reasoning) (callsOf out ++ added) :=
  Emits.append ⟨h.opened, rfl, rfl, rfl⟩ hemits

theorem firstOf_still {said : String} {texts : List String}
    (h : firstOf said texts ≠ "" ∨ text = "") :
    firstOf said (texts ++ [text]) = firstOf said texts := by
  rw [firstOf_append_single]
  by_cases hsaid : firstOf said texts = ""
  · rw [if_neg (not_not.2 hsaid), hsaid]
    exact h.resolve_left (not_not.2 hsaid)
  · rw [if_pos hsaid]

theorem givenReasoning_still (h : (brokenUp script).1 ++ givenReasoning items script done ≠ [] ∨
    reasoningAt items n = "") :
    givenReasoning items script (done ++ [n]) = givenReasoning items script done := by
  rw [givenReasoning_append]
  split
  · rfl
  · rename_i hempty
    rw [if_pos (h.resolve_left hempty)]
    exact (List.append_eq_nil_iff.1 (not_not.1 hempty)).2.symm

theorem Ending.callsOnly {s' : ResponsesToChatStreamState} (h : Ending items script done m₀ s out)
    (hemits : Emits s.sentStart s'.sentStart chunks "" [] added) (hflow : s.SameFlow s')
    (htext : s.hasSentText = true ∨ textAt items n = "")
    (hreasoning : s.hasSentReasoning = true ∨ reasoningAt items n = "")
    (htools : ToolsEnd items script (done ++ [n]) m₀ s'.toToolMaps (callsOf out ++ added)) :
    Ending items script (done ++ [n]) m₀ s' (out ++ chunks) := by
  have hall := h.emits hemits
  rw [String.append_empty, List.append_nil] at hall
  have hstillText : firstOf (String.join ((textWrites script).map (·.2)))
      ((done ++ [n]).map (textAt items))
      = firstOf (String.join ((textWrites script).map (·.2))) (done.map (textAt items)) := by
    rw [List.map_append]
    refine firstOf_still (htext.imp_left fun hsent => ?_)
    rw [h.sentText, h.text] at hsent
    simpa using hsent
  have hstillReasoning : givenReasoning items script (done ++ [n])
      = givenReasoning items script done := by
    refine givenReasoning_still (hreasoning.imp_left fun hsent => ?_)
    rw [h.sentReasoning, h.reasoning] at hsent
    exact of_decide_eq_true hsent
  constructor
  · exact hall.opened
  · rw [hall.text, h.text, hstillText]
  · rw [hflow.hasSentText, h.sentText, hall.text]
  · rw [hall.reasoning, h.reasoning, hstillReasoning]
  · rw [hflow.hasSentReasoning, h.sentReasoning, hall.reasoning]
  · rw [hflow.hasSentReasoning, hflow.due]; exact h.due
  · rw [hflow.finalized, h.running]
  · rw [hall.calls]; exact htools

theorem kind_of_message (h : type = responsesOutputTypeMessage) :
    type ≠ responsesOutputTypeReasoning ∧ isResponsesToolOutputType type = false := by
  subst h
  exact ⟨by simp [responsesOutputTypeMessage, responsesOutputTypeReasoning], rfl⟩

theorem kind_of_reasoning (h : type = responsesOutputTypeReasoning) :
    type ≠ responsesOutputTypeMessage ∧ isResponsesToolOutputType type = false := by
  subst h
  exact ⟨by simp [responsesOutputTypeMessage, responsesOutputTypeReasoning], rfl⟩

theorem Ending.giveText (h : Ending items script done m₀ s out) (hunsent : s.hasSentText = false)
    (htextAt : textAt items n = text) (hreasoningAt : reasoningAt items n = "")
    (hnotTool : isToolAt items n = false) :
    Ending items script (done ++ [n]) m₀ (s.textDelta text).2 (out ++ (s.textDelta text).1) := by
  obtain ⟨hemits, hmaps, hfinalized, htext, hreasoning, hdue⟩ := s.textDelta_spec text
  have hall := h.emits hemits
  rw [List.append_nil, List.append_nil] at hall
  have hnone : String.join (textsOf out) = "" := by
    rw [h.sentText] at hunsent
    simpa using hunsent
  constructor
  · exact hall.opened
  · rw [hall.text, List.map_append, List.map_singleton, firstOf_append_single, ← h.text, hnone,
      htextAt, if_neg (by simp), String.empty_append]
  · rw [htext, hunsent, hall.text, hnone, String.empty_append, Bool.false_or]
  · rw [hall.reasoning, h.reasoning, givenReasoning_still (.inr hreasoningAt)]
  · rw [hreasoning, h.sentReasoning, hall.reasoning]
  · rw [hreasoning, hdue]; exact h.due
  · rw [hfinalized, h.running]
  · rw [hall.calls, hmaps]
    exact h.tools.skip hnotTool

theorem Ending.giveReasoning (h : Ending items script done m₀ s out)
    (hunsent : s.hasSentReasoning = false) (htextAt : textAt items n = "")
    (hreasoningAt : reasoningAt items n = text) (hnotTool : isToolAt items n = false) :
    Ending items script (done ++ [n]) m₀ (s.reasoningDelta text).2
      (out ++ (s.reasoningDelta text).1) := by
  obtain ⟨hemits, hmaps, hfinalized, htext, hreasoning, hdue⟩ := s.reasoningDelta_spec text
  have hall := h.emits hemits
  rw [String.append_empty, List.append_nil] at hall
  have hnone : reasoningsOf out = [] := by
    rw [h.sentReasoning] at hunsent
    simpa using hunsent
  have hbroken : (brokenUp script).1 = [] :=
    (List.append_eq_nil_iff.1 (h.reasoning.symm.trans hnone)).1
  have hgiven : givenReasoning items script (done ++ [n])
      = fragments s.needsReasoningSummaryBreak text := by
    rw [givenReasoning_append, ← h.reasoning, hnone, hreasoningAt, fragments, h.due hunsent]
    simp
  constructor
  · exact hall.opened
  · rw [hall.text, h.text, List.map_append, List.map_singleton, firstOf_still (.inr htextAt)]
  · rw [htext, h.sentText, hall.text]
  · rw [hall.reasoning, hnone, hbroken, hgiven]
  · rw [hreasoning, hunsent, hall.reasoning, hnone, fragments]
    by_cases hempty : text = "" <;> simp [hempty]
  · intro _
    rw [hdue, h.due hunsent, Bool.false_and]
  · rw [hfinalized, h.running]
  · rw [hall.calls, hmaps]
    exact h.tools.skip hnotTool

theorem Ending.giveItem (h : Ending items script done m₀ s out) (hat : items[n]? = some item)
    (hnew : n ∉ done) (hdistinct : ∀ k l tool other, Tool items k tool → Tool items l other →
      tool.id = other.id → k = l)
    (htrimmed : ∀ k tool, Tool items k tool →
      Trimmed tool.id ∧ Trimmed tool.callId ∧ Trimmed tool.name) :
    ∃ chunks s', s.terminalItem item = (chunks, s') ∧
      Ending items script (done ++ [n]) m₀ s' (out ++ chunks) := by
  have htextAt : textAt items n
      = if item.type = responsesOutputTypeMessage then outputText item else "" := by
    rw [textAt, hat]
  have hreasoningAt : reasoningAt items n
      = if item.type = responsesOutputTypeReasoning then reasoningText item else "" := by
    rw [reasoningAt, hat]
  have hisTool : isToolAt items n = isResponsesToolOutputType item.type := by
    rw [isToolAt, hat]; rfl
  by_cases hmessage : item.type = responsesOutputTypeMessage ∧ !s.hasSentText
  · obtain ⟨hnotReasoning, hnotTool⟩ := kind_of_message hmessage.1
    rw [if_pos hmessage.1] at htextAt
    rw [if_neg hnotReasoning] at hreasoningAt
    exact ⟨_, _, if_pos hmessage, h.giveText (by simpa using hmessage.2) htextAt hreasoningAt
      (hisTool.trans hnotTool)⟩
  by_cases hthought : item.type = responsesOutputTypeReasoning ∧ !s.hasSentReasoning
  · obtain ⟨hnotMessage, hnotTool⟩ := kind_of_reasoning hthought.1
    rw [if_neg hnotMessage] at htextAt
    rw [if_pos hthought.1] at hreasoningAt
    exact ⟨_, _, (if_neg hmessage).trans (if_pos hthought),
      h.giveReasoning (by simpa using hthought.2) htextAt hreasoningAt (hisTool.trans hnotTool)⟩
  have htext : s.hasSentText = true ∨ textAt items n = "" := by
    rw [htextAt]
    by_cases htype : item.type = responsesOutputTypeMessage
    · exact .inl (by simpa [htype] using hmessage)
    · exact .inr (if_neg htype)
  have hreasoning : s.hasSentReasoning = true ∨ reasoningAt items n = "" := by
    rw [hreasoningAt]
    by_cases htype : item.type = responsesOutputTypeReasoning
    · exact .inl (by simpa [htype] using hthought)
    · exact .inr (if_neg htype)
  cases htool : isResponsesToolOutputType item.type with
  | true =>
    have hitem : Tool items n item := ⟨hat, htool⟩
    obtain ⟨chunks, s', added, hrun, hemits, hflow, htools⟩ := h.tools.toolItem hitem hnew
      (fun k other hother heq => hdistinct k n other item hother hitem heq) (htrimmed n item hitem)
    refine ⟨chunks, s', ?_, h.callsOnly hemits hflow htext hreasoning htools⟩
    rw [terminalItem, if_neg hmessage, if_neg hthought, if_pos htool, hrun]
  | false =>
    have hskip := h.tools.skip (hisTool.trans htool)
    rw [← List.append_nil (callsOf out)] at hskip
    refine ⟨[], s, ?_, h.callsOnly (.nothing _) ⟨rfl, rfl, rfl, rfl⟩ htext hreasoning hskip⟩
    rw [terminalItem, if_neg hmessage, if_neg hthought, htool]
    rfl

theorem Ending.giveItems {rest : List Nat} (h : Ending items script done m₀ s out)
    (hrest : ∀ k ∈ rest, k < items.length) (hnodup : (done ++ rest).Nodup)
    (hdistinct : ∀ k l tool other, Tool items k tool → Tool items l other →
      tool.id = other.id → k = l)
    (htrimmed : ∀ k tool, Tool items k tool →
      Trimmed tool.id ∧ Trimmed tool.callId ∧ Trimmed tool.name) :
    ∃ chunks s', terminalItems (rest.filterMap (items[·]?)) s = (chunks, s') ∧
      Ending items script (done ++ rest) m₀ s' (out ++ chunks) := by
  induction rest generalizing done s out with
  | nil => exact ⟨[], s, rfl, by simpa using h⟩
  | cons k rest ih =>
    have hk := hrest k List.mem_cons_self
    have hat : items[k]? = some items[k] := List.getElem?_eq_getElem hk
    have hnew : k ∉ done := fun hmem =>
      (List.nodup_append.1 hnodup).2.2 k hmem k List.mem_cons_self rfl
    obtain ⟨chunks, s', hstep, hnow⟩ := h.giveItem hat hnew hdistinct htrimmed
    rw [List.append_cons] at hnodup ⊢
    obtain ⟨more, s'', hrun, hend⟩ :=
      ih hnow (fun l hl => hrest l (List.mem_cons_of_mem k hl)) hnodup
    refine ⟨chunks ++ more, s'', ?_, by rwa [← List.append_assoc]⟩
    simp only [List.filterMap_cons, hat, terminalItems, hstep, hrun]

end Terminal

/-! ## The flush -/

/-- The arguments that wait under a key. -/
def waitingFor (m : ToolMaps) : ToolKey → String
  | .output index => (m.pendingArgsByOutputIndex.lookup index).getD ""
  | .item itemId => (m.pendingArgsByItemId.lookup itemId).getD ""
  | .call _ => ""

/-- Every tool of the table is sent and nothing waits for it. -/
structure Rested (m : ToolMaps) : Prop where
  settled : ∀ key tool, m.toolByKey.lookup key = some tool → tool.key = key ∧ settled tool = tool
  nothing : ∀ key tool, m.toolByKey.lookup key = some tool → waitingFor m key = ""

/-- The calls take the next `count` indexes, and all of them. -/
structure Fills (start count : Nat) (calls : List ToolCallResponse) : Prop where
  inside : ∀ call ∈ calls, start ≤ call.index ∧ call.index < start + count
  each : ∀ k, start ≤ k → k < start + count → ∃ call ∈ calls, call.index = k

theorem Fills.append {start m n : Nat} {calls more : List ToolCallResponse}
    (h : Fills start m calls) (hmore : Fills (start + m) n more) :
    Fills start (m + n) (calls ++ more) where
  inside := by
    intro call hmem
    rcases List.mem_append.1 hmem with hmem | hmem
    · have := h.inside call hmem
      omega
    · have := hmore.inside call hmem
      omega
  each := by
    intro k hle hlt
    by_cases hk : k < start + m
    · obtain ⟨call, hmem, hindex⟩ := h.each k hle hk
      exact ⟨call, List.mem_append_left _ hmem, hindex⟩
    · obtain ⟨call, hmem, hindex⟩ := hmore.each k (by omega) (by omega)
      exact ⟨call, List.mem_append_right _ hmem, hindex⟩

theorem Fills.none (start : Nat) : Fills start 0 [] :=
  ⟨fun _ hmem => (List.not_mem_nil hmem).elim, fun k hle hlt => by omega⟩

namespace ResponsesToChatStreamState

variable (s : ResponsesToChatStreamState)

theorem takePending_spec (key : ToolKey) :
    ∃ m, s.takePending key = (waitingFor s.toToolMaps key, { s with toToolMaps := m }) ∧
      m.toolByKey = s.toolByKey ∧ m.nextToolIndex = s.nextToolIndex ∧
      ∀ k, waitingFor m k = if k = key then "" else waitingFor s.toToolMaps k := by
  cases key with
  | output index =>
    refine ⟨_, rfl, rfl, rfl, fun k => ?_⟩
    cases k with
    | output i =>
      simp only [waitingFor, lookup_erase, ToolKey.output.injEq]
      split <;> rfl
    | _ => simp [waitingFor]
  | item id =>
    refine ⟨_, rfl, rfl, rfl, fun k => ?_⟩
    cases k with
    | item i =>
      simp only [waitingFor, lookup_erase, ToolKey.item.injEq]
      split <;> rfl
    | _ => simp [waitingFor]
  | call id =>
    refine ⟨s.toToolMaps, rfl, rfl, rfl, fun k => ?_⟩
    split
    · rename_i hk
      rw [hk]
      rfl
    · rfl

variable {tool : ResponsesStreamTool}

theorem toolDelta_settled (h : settled tool = tool) : s.toolDelta tool "" = ([], s.keep tool) := by
  have hsent : tool.sent = true := (congrArg ResponsesStreamTool.sent h).symm
  have hat : tool.argsSentAt = byteLength tool.arguments :=
    (congrArg ResponsesStreamTool.argsSentAt h).symm
  have hname : (tool.nameSent || decide (tool.name ≠ "")) = tool.nameSent :=
    congrArg ResponsesStreamTool.nameSent h
  have hquiet : tool.name = "" ∨ tool.nameSent = true := by
    by_cases hempty : tool.name = ""
    · exact .inl hempty
    · exact .inr (by simpa [hempty] using hname.symm)
  have hargs : nextArguments tool "" = "" := by
    rw [nextArguments, hat, if_neg (by omega)]
  simp only [toolDelta, hargs]
  rw [if_pos ⟨hsent, trivial, hquiet⟩]

/-- What a flushed key leaves: the other keys as they were. -/
structure FlushedKey (key : ToolKey) (s s' : ResponsesToChatStreamState) : Prop where
  flow : s.SameFlow s'
  rested : Rested s'.toToolMaps
  others : ∀ k, k ≠ key → s'.toolByKey.lookup k = s.toolByKey.lookup k

variable {key : ToolKey}

theorem flushKey_known (hrest : Rested s.toToolMaps)
    (hlookup : s.toolByKey.lookup key = some tool) :
    ∃ s', s.flushKey key = ([], s') ∧ s'.sentStart = s.sentStart ∧
      s'.nextToolIndex = s.nextToolIndex ∧ FlushedKey key s s' := by
  obtain ⟨hkey, hsettled⟩ := hrest.settled key tool hlookup
  obtain ⟨m, htake, htable, hnext, hwaiting⟩ := s.takePending_spec key
  have htool : { tool with arguments := tool.arguments ++ waitingFor s.toToolMaps key } = tool := by
    rw [hrest.nothing key tool hlookup, String.append_empty]
  have hrun : s.flushKey key = ([], { s with toToolMaps := m }.keep tool) := by
    simp only [flushKey, toolAt, hlookup, htake, htool, toolDelta_settled _ hsettled]
  have hsame : ∀ k, ({ s with toToolMaps := m }.keep tool).toolByKey.lookup k
      = s.toolByKey.lookup k := by
    intro k
    simp only [keep, htable, hkey]
    rw [lookup_insert]
    split
    · rename_i hk
      rw [hk, hlookup]
    · rfl
  refine ⟨_, hrun, rfl, hnext, ⟨rfl, rfl, rfl, rfl⟩, ⟨?_, ?_⟩, fun k _ => hsame k⟩
  · intro k known hk
    rw [hsame] at hk
    exact hrest.settled k known hk
  · intro k known hk
    rw [hsame] at hk
    have hm : waitingFor ({ s with toToolMaps := m }.keep tool).toToolMaps k = waitingFor m k := by
      cases k <;> rfl
    rw [hm, hwaiting, hrest.nothing k known hk, ite_self]

theorem flushKey_new (hrest : Rested s.toToolMaps) (hlookup : s.toolByKey.lookup key = none) :
    ∃ chunks s' added, s.flushKey key = (chunks, s') ∧
      Emits s.sentStart s'.sentStart chunks "" [] added ∧ Fills s.nextToolIndex 1 added ∧
      s'.nextToolIndex = s.nextToolIndex + 1 ∧ FlushedKey key s s' := by
  obtain ⟨m, htake, htable, hnext, hwaiting⟩ :=
    takePending_spec { s with nextToolIndex := s.nextToolIndex + 1 } key
  let tool : ResponsesStreamTool :=
    { key := key, index := s.nextToolIndex, callId := key.pendingCallId
      arguments := "" ++ waitingFor s.toToolMaps key }
  have hsame : waitingFor { s.toToolMaps with nextToolIndex := s.nextToolIndex + 1 }
      = waitingFor s.toToolMaps := by
    funext k
    cases k <;> rfl
  have hflush : s.flushKey key = { s with toToolMaps := m }.toolDelta tool "" := by
    simp only [flushKey, toolAt, hlookup, htake, hsame]
    rfl
  obtain ⟨chunks, s', added, hrun, hemits, hflow, hadds, hmaps⟩ :=
    { s with toToolMaps := m }.toolDelta_spec tool (rfl : tool.arguments = "" ++ _)
      (rfl : tool.argsSentAt = byteLength "") (.inl (rfl : "" = ""))
  have hown : ∀ call ∈ added, call.index = s.nextToolIndex := fun call hmem =>
    (hadds.own call hmem).1
  obtain ⟨call, hcall⟩ := List.exists_mem_of_ne_nil added (hadds.heard (.inl rfl))
  have hlookups : ∀ k, s'.toolByKey.lookup k
      = if k = key then some (settled tool) else s.toolByKey.lookup k := by
    intro k
    rw [hmaps]
    dsimp only
    rw [lookup_insert, htable]
  refine ⟨chunks, s', added, hflush.trans hrun, hemits, ⟨?_, ?_⟩, ?_, ⟨hflow.finalized,
    hflow.hasSentText, hflow.hasSentReasoning, hflow.due⟩, ⟨?_, ?_⟩, ?_⟩
  · intro c hc
    rw [hown c hc]
    omega
  · intro k hle hlt
    exact ⟨call, hcall, by rw [hown call hcall]; omega⟩
  · rw [hmaps]
    exact hnext
  · intro k known hk
    rw [hlookups] at hk
    split at hk
    · rename_i heq
      cases hk
      exact ⟨heq.symm, settled_settled tool⟩
    · exact hrest.settled k known hk
  · intro k known hk
    have hm : waitingFor s'.toToolMaps k = waitingFor m k := by
      rw [hmaps]
      cases k <;> rfl
    rw [hm, hwaiting]
    rw [hlookups] at hk
    split at hk
    · rw [if_pos ‹_›]
    · rename_i hne
      rw [if_neg hne, hsame]
      exact hrest.nothing k known hk
  · intro k hne
    rw [hlookups, if_neg hne]

/-- The keys that no tool has. -/
def countNew (keys : List ToolKey) : Nat :=
  keys.countP fun key => (s.toolByKey.lookup key).isNone

theorem flushKeys_spec {keys : List ToolKey} (hnodup : keys.Nodup)
    (s : ResponsesToChatStreamState) (hrest : Rested s.toToolMaps) :
    ∃ chunks s' added, flushKeys keys s = (chunks, s') ∧
      Emits s.sentStart s'.sentStart chunks "" [] added ∧ s.SameFlow s' ∧
      Fills s.nextToolIndex (s.countNew keys) added := by
  induction keys generalizing s with
  | nil => exact ⟨[], s, [], rfl, .nothing _, ⟨rfl, rfl, rfl, rfl⟩, .none _⟩
  | cons key rest ih =>
    obtain ⟨hnot, hnodup⟩ := List.nodup_cons.1 hnodup
    have hcount : ∀ {s' : ResponsesToChatStreamState}, FlushedKey key s s' →
        s'.countNew rest = s.countNew rest := by
      intro s' hflushed
      refine List.countP_congr fun k hk => ?_
      rw [hflushed.others k fun heq => hnot (heq ▸ hk)]
    cases hlookup : s.toolByKey.lookup key with
    | some tool =>
      obtain ⟨s', hrun, hstart, hnext, hflushed⟩ := s.flushKey_known hrest hlookup
      obtain ⟨chunks, s'', added, hrest', hemits, hflow, hfills⟩ := ih hnodup s' hflushed.rested
      refine ⟨chunks, s'', added, ?_, hstart ▸ hemits, ?_, ?_⟩
      · simp only [flushKeys, hrun, hrest', List.nil_append]
      · exact ⟨hflow.finalized.trans hflushed.flow.finalized,
          hflow.hasSentText.trans hflushed.flow.hasSentText,
          hflow.hasSentReasoning.trans hflushed.flow.hasSentReasoning,
          hflow.due.trans hflushed.flow.due⟩
      · have hsame : s.countNew (key :: rest) = s.countNew rest := by
          simp [countNew, hlookup]
        rw [hsame, ← hcount hflushed, ← hnext]
        exact hfills
    | none =>
      obtain ⟨first, s', own, hrun, hfirst, hfills₁, hnext, hflushed⟩ := s.flushKey_new hrest hlookup
      obtain ⟨chunks, s'', added, hrest', hemits, hflow, hfills⟩ := ih hnodup s' hflushed.rested
      refine ⟨first ++ chunks, s'', own ++ added, ?_, ?_, ?_, ?_⟩
      · simp only [flushKeys, hrun, hrest']
      · exact hfirst.append hemits
      · exact ⟨hflow.finalized.trans hflushed.flow.finalized,
          hflow.hasSentText.trans hflushed.flow.hasSentText,
          hflow.hasSentReasoning.trans hflushed.flow.hasSentReasoning,
          hflow.due.trans hflushed.flow.due⟩
      · have hmore : s.countNew (key :: rest) = 1 + s.countNew rest := by
          simp [countNew, hlookup, Nat.add_comm]
        rw [hmore, ← hcount hflushed]
        exact hfills₁.append (hnext ▸ hfills)

theorem mem_unseenKeys (h : key ∈ s.unseenKeys) : key ∉ s.toolByKey.keys := by
  have hnot := (List.mem_filter.1 h).2
  simpa using hnot

theorem unseenKeys_nodup : s.unseenKeys.Nodup := by
  refine List.Nodup.filter _ (List.nodup_append.2 ⟨?_, ?_, ?_⟩)
  · exact s.pendingArgsByOutputIndex.keys_nodup.map fun _ _ h => ToolKey.output.inj h
  · exact s.pendingArgsByItemId.keys_nodup.map fun _ _ h => ToolKey.item.inj h
  · intro key hkey other hother
    obtain ⟨index, -, rfl⟩ := List.mem_map.1 hkey
    obtain ⟨id, -, rfl⟩ := List.mem_map.1 hother
    exact fun h => by cases h

theorem flushAllPendingTools_spec (hrest : Rested s.toToolMaps) :
    ∃ chunks s' added, s.flushAllPendingTools = (chunks, s') ∧
      Emits s.sentStart s'.sentStart chunks "" [] added ∧ s.SameFlow s' ∧
      Fills s.nextToolIndex s.unseenKeys.length added := by
  have hperm := List.perm_insertionSort (fun a b : ToolKey => a.text ≤ b.text)
    (s.toolByKey.keys ++ s.unseenKeys)
  have hnodup : (s.toolByKey.keys ++ s.unseenKeys).Nodup := by
    refine List.nodup_append.2 ⟨s.toolByKey.keys_nodup, s.unseenKeys_nodup, ?_⟩
    rintro key hkey other hother rfl
    exact s.mem_unseenKeys hother hkey
  have hcount : s.countNew ((s.toolByKey.keys ++ s.unseenKeys).insertionSort
      fun a b => a.text ≤ b.text) = s.unseenKeys.length := by
    rw [countNew, hperm.countP_eq, List.countP_append]
    have hknown : (s.toolByKey.keys.countP fun key => (s.toolByKey.lookup key).isNone) = 0 := by
      refine List.countP_eq_zero.2 fun key hkey => ?_
      have hsome := AList.lookup_isSome.2 (AList.mem_keys.2 hkey)
      simp [Option.isSome_iff_ne_none.1 hsome]
    have hunseen : (s.unseenKeys.countP fun key => (s.toolByKey.lookup key).isNone)
        = s.unseenKeys.length := by
      refine List.countP_eq_length.2 fun key hkey => ?_
      rw [AList.lookup_eq_none.2 fun hmem => s.mem_unseenKeys hkey (AList.mem_keys.1 hmem)]
      rfl
    rw [hknown, hunseen, Nat.zero_add]
  obtain ⟨chunks, s', added, hrun, hemits, hflow, hfills⟩ :=
    flushKeys_spec (hperm.nodup_iff.2 hnodup) s hrest
  exact ⟨chunks, s', added, hrun, hemits, hflow, hcount ▸ hfills⟩

theorem finalize_spec (response : Option OpenAIResponsesResponse) (hrunning : s.finalized = false)
    (hrest : Rested s.toToolMaps) :
    ∃ flushed finish usage s' added, s.finalize response = (flushed ++ finish :: usage, s') ∧
      Emits s.sentStart true flushed "" [] added ∧ IsFinish finish ∧
      (∀ chunk ∈ usage, chunk.choices = []) ∧
      Fills s.nextToolIndex s.unseenKeys.length added := by
  obtain ⟨tools, s', added, hrun, hemits, -, hfills⟩ :=
    { s with finalized := true }.flushAllPendingTools_spec hrest
  have hstart := hemits.append s'.ensureStart_emits
  rw [List.append_nil, List.append_nil] at hstart
  have hshape : s.finalize response = (tools ++ s'.ensureStart.1 ++
      s'.ensureStart.2.makeChunk {} (some (s'.ensureStart.2.finishReason response)) ::
        s'.ensureStart.2.usageChunks, s'.ensureStart.2) := by
    simp only [finalize, hrunning, hrun, Bool.false_eq_true, if_false]
  refine ⟨_, _, _, _, added, hshape, hstart, ⟨_, rfl⟩, ?_, hfills⟩
  intro chunk hmem
  unfold usageChunks at hmem
  split at hmem
  · rw [List.mem_singleton.1 hmem]
  · cases hmem

end ResponsesToChatStreamState

end YouBox.Responses
