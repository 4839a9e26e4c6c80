import YouBox.ResponsesScript

/-!
# Sending chunks

What one step of the converter says is the text, the reasoning fragments
and the calls of its chunks, and whether the stream has started after it
(`Emits`). Steps compose by `Emits.append`, so nothing above this file
looks at a chunk.

`toolDelta_spec` is the only place that looks into the sending of a tool:
it sends what the tool knows more than was sent, and leaves it `settled`.
-/

namespace YouBox.Responses

/-! ## Chunks put together -/

def Opened (was now : Bool) (chunks : List ChatChunk) : Prop :=
  chunks = [] ∧ now = was ∨
    now = true ∧ ∃ start body, chunks = (if was then [] else [start]) ++ body ∧ IsStart start ∧
      ∀ chunk ∈ body, IsContent chunk

attribute [local irreducible] trimSpace

variable {mid now was : Bool} {chunks more : List ChatChunk}

theorem Opened.append (h : Opened was mid chunks) (hmore : Opened mid now more) :
    Opened was now (chunks ++ more) := by
  rcases h with ⟨rfl, rfl⟩ | ⟨rfl, start, body, rfl, hstart, hbody⟩
  · exact hmore
  · rcases hmore with ⟨rfl, rfl⟩ | ⟨rfl, _, body', hmore, -, hbody'⟩
    · exact .inr ⟨rfl, start, body, by simp, hstart, hbody⟩
    · refine .inr ⟨rfl, start, body ++ body', by simp [hmore], hstart, ?_⟩
      intro chunk hchunk
      rcases List.mem_append.1 hchunk with hchunk | hchunk
      · exact hbody chunk hchunk
      · exact hbody' chunk hchunk

/-- What a step sends, and whether the stream has started after it. -/
structure Emits (was now : Bool) (chunks : List ChatChunk) (text : String)
    (reasoning : List String) (calls : List ToolCallResponse) : Prop where
  opened : Opened was now chunks
  text : String.join (textsOf chunks) = text
  reasoning : reasoningsOf chunks = reasoning
  calls : callsOf chunks = calls

theorem Emits.nothing (was : Bool) : Emits was was [] "" [] [] :=
  ⟨.inl ⟨rfl, rfl⟩, rfl, rfl, rfl⟩

theorem Emits.append {text text' : String} {reasoning reasoning' : List String}
    {calls calls' : List ToolCallResponse} (h : Emits was mid chunks text reasoning calls)
    (hmore : Emits mid now more text' reasoning' calls') :
    Emits was now (chunks ++ more) (text ++ text') (reasoning ++ reasoning') (calls ++ calls') where
  opened := h.opened.append hmore.opened
  text := by rw [textsOf, List.flatMap_append, String.join_append, ← h.text, ← hmore.text]; rfl
  reasoning := by rw [reasoningsOf, List.flatMap_append, ← h.reasoning, ← hmore.reasoning]; rfl
  calls := by rw [callsOf, List.flatMap_append, ← h.calls, ← hmore.calls]; rfl

namespace ResponsesToChatStreamState

variable (s : ResponsesToChatStreamState)

theorem ensureStart_snd : s.ensureStart.2 = { s with sentStart := true } := by
  unfold ensureStart
  split
  · rename_i hsent
    rw [← hsent]
  · rfl

theorem ensureStart_emits : Emits s.sentStart true s.ensureStart.1 "" [] [] := by
  unfold ensureStart
  split
  · rename_i hsent
    rw [hsent]
    exact .nothing true
  · rename_i hsent
    refine ⟨.inr ⟨rfl, s.makeChunk { role := "assistant", content := some "" } none, [], ?_, rfl,
      by simp⟩, rfl, rfl, rfl⟩
    simp [hsent]

theorem start_emits (s' : ResponsesToChatStreamState) (delta : ChunkDelta)
    (hrole : delta.role = "") :
    Emits s.sentStart true (s.ensureStart.1 ++ [s'.makeChunk delta none])
      (delta.content.getD "") delta.reasoningContent.toList delta.toolCalls := by
  have hchunk : Emits true true [s'.makeChunk delta none] (delta.content.getD "")
      delta.reasoningContent.toList delta.toolCalls := by
    refine ⟨.inr ⟨rfl, s'.makeChunk { role := "assistant", content := some "" } none,
      [s'.makeChunk delta none], rfl, rfl, ?_⟩, ?_, ?_, ?_⟩
    · intro chunk hmem
      rw [List.mem_singleton.1 hmem]
      exact ⟨delta, rfl, hrole⟩
    · cases hcontent : delta.content <;> simp [textsOf, makeChunk, hcontent]
    · simp [reasoningsOf, makeChunk]
    · simp [callsOf, makeChunk]
  simpa using s.ensureStart_emits.append hchunk

/-- The parts of the state that the tools leave alone. -/
structure SameFlow (s s' : ResponsesToChatStreamState) : Prop where
  finalized : s'.finalized = s.finalized
  hasSentText : s'.hasSentText = s.hasSentText
  hasSentReasoning : s'.hasSentReasoning = s.hasSentReasoning
  due : s'.needsReasoningSummaryBreak = s.needsReasoningSummaryBreak

theorem textDelta_spec (delta : String) :
    Emits s.sentStart (s.textDelta delta).2.sentStart (s.textDelta delta).1 delta [] [] ∧
    (s.textDelta delta).2.toToolMaps = s.toToolMaps ∧
    (s.textDelta delta).2.finalized = s.finalized ∧
    (s.textDelta delta).2.hasSentText = (s.hasSentText || decide (delta ≠ "")) ∧
    (s.textDelta delta).2.hasSentReasoning = s.hasSentReasoning ∧
    (s.textDelta delta).2.needsReasoningSummaryBreak = s.needsReasoningSummaryBreak := by
  unfold textDelta
  split
  · rename_i hempty
    subst hempty
    exact ⟨.nothing _, rfl, rfl, by simp, rfl, rfl⟩
  · rename_i hdelta
    have hemits := start_emits { s with usageText := s.usageText ++ delta, hasSentText := true }
      { s with usageText := s.usageText ++ delta, hasSentText := true, sentStart := true }
      { content := some delta } rfl
    refine ⟨?_, ?_, ?_, ?_, ?_, ?_⟩
    · simp only [ensureStart_snd]
      exact hemits
    all_goals simp [ensureStart_snd, hdelta]

/-- What a reasoning delta becomes. -/
def fragments (due : Bool) (delta : String) : List String :=
  if delta = "" then [] else [if due then summaryBreak delta else delta]

theorem reasoningDelta_spec (delta : String) :
    Emits s.sentStart (s.reasoningDelta delta).2.sentStart (s.reasoningDelta delta).1 ""
      (fragments s.needsReasoningSummaryBreak delta) [] ∧
    (s.reasoningDelta delta).2.toToolMaps = s.toToolMaps ∧
    (s.reasoningDelta delta).2.finalized = s.finalized ∧
    (s.reasoningDelta delta).2.hasSentText = s.hasSentText ∧
    (s.reasoningDelta delta).2.hasSentReasoning = (s.hasSentReasoning || decide (delta ≠ "")) ∧
    (s.reasoningDelta delta).2.needsReasoningSummaryBreak
      = (s.needsReasoningSummaryBreak && decide (delta = "")) := by
  unfold reasoningDelta fragments
  split
  · rename_i hempty
    subst hempty
    exact ⟨.nothing _, rfl, rfl, rfl, by simp, by simp⟩
  · rename_i hdelta
    generalize (if s.needsReasoningSummaryBreak then summaryBreak delta else delta) = fragment
    have hemits := start_emits
      { s with needsReasoningSummaryBreak := false, usageText := s.usageText ++ fragment }
      { s with
        needsReasoningSummaryBreak := false, usageText := s.usageText ++ fragment
        sentStart := true }
      { reasoningContent := some fragment } rfl
    refine ⟨?_, ?_, ?_, ?_, ?_, ?_⟩
    · simp only [ensureStart_snd]
      exact hemits
    all_goals simp [ensureStart_snd, hdelta]

end ResponsesToChatStreamState

/-! ## Bytes -/

theorem byteLength_append (s t : String) : byteLength (s ++ t) = byteLength s + byteLength t := by
  simp [byteLength]

theorem byteLength_pos {s : String} (hs : s ≠ "") : 0 < byteLength s := by
  have hne : s.toList ≠ [] := fun h => hs (String.toList_inj.1 (h.trans String.toList_empty.symm))
  obtain ⟨c, cs, hcs⟩ := List.exists_cons_of_ne_nil hne
  have hc := Char.utf8Size_pos c
  simp only [byteLength, hcs, List.map_cons, List.sum_cons]
  omega

theorem dropBytes_append (cs ds : List Char) :
    dropBytes (cs.map Char.utf8Size).sum (cs ++ ds) = ds := by
  induction cs with
  | nil => cases ds <;> simp [dropBytes]
  | cons c cs ih =>
    have hc := Char.utf8Size_pos c
    rw [List.map_cons, List.sum_cons, List.cons_append, dropBytes, if_neg (by omega),
      Nat.add_sub_cancel_left, ih]

theorem sliceFrom_append (s t : String) : sliceFrom (s ++ t) (byteLength s) = t := by
  rw [sliceFrom, String.toList_append, byteLength, dropBytes_append, String.ofList_toList]

/-! ## Sending a tool -/

/-- A tool of which everything was sent. -/
def settled (tool : ResponsesStreamTool) : ResponsesStreamTool :=
  { tool with
    sent := true
    nameSent := tool.nameSent || decide (tool.name ≠ "")
    argsSentAt := byteLength tool.arguments }

/-- What is sent of a tool whose arguments have grown by `delta`. -/
structure Adds (tool : ResponsesStreamTool) (delta : String) (added : List ToolCallResponse) :
    Prop where
  own : ∀ call ∈ added, call.index = tool.index ∧
    call.id = ResponsesToChatStreamState.shownCallId tool
  name : String.join (added.map (·.name)) = if tool.nameSent then "" else tool.name
  arguments : String.join (added.map (·.arguments)) = delta
  heard : tool.sent = false ∨ tool.nameSent = false ∧ tool.name ≠ "" → added ≠ []

namespace ResponsesToChatStreamState

variable (s : ResponsesToChatStreamState)

variable {delta explicitDelta sofar : String}

theorem nextArguments_eq {tool : ResponsesStreamTool} (hargs : tool.arguments = sofar ++ delta)
    (hat : tool.argsSentAt = byteLength sofar)
    (hexplicit : explicitDelta = "" ∨ explicitDelta = delta) :
    nextArguments tool explicitDelta = delta := by
  unfold nextArguments
  by_cases hdelta : delta = ""
  · rw [hargs, hdelta, String.append_empty, hat, if_neg (by omega)]
    rcases hexplicit with h | h
    · exact h
    · rw [h, hdelta]
  · rcases hexplicit with rfl | rfl
    · have hpos := byteLength_pos hdelta
      rw [if_pos ⟨rfl, by rw [hat, hargs, byteLength_append]; omega⟩, hargs, hat,
        sliceFrom_append]
    · rw [if_neg fun h => hdelta h.1]

theorem toolDelta_spec (tool : ResponsesStreamTool) (hargs : tool.arguments = sofar ++ delta)
    (hat : tool.argsSentAt = byteLength sofar)
    (hexplicit : explicitDelta = "" ∨ explicitDelta = delta) :
    ∃ chunks s' added, s.toolDelta tool explicitDelta = (chunks, s') ∧
      Emits s.sentStart s'.sentStart chunks "" [] added ∧ SameFlow s s' ∧ Adds tool delta added ∧
      s'.toToolMaps
        = { s.toToolMaps with toolByKey := s.toolByKey.insert tool.key (settled tool) } := by
  have hlength : byteLength tool.arguments = tool.argsSentAt + byteLength delta := by
    rw [hargs, hat, byteLength_append]
  unfold toolDelta
  simp only [nextArguments_eq hargs hat hexplicit, ensureStart_snd]
  split
  · rename_i hquiet
    obtain ⟨hsent, rfl, hname⟩ := hquiet
    have hsettled : settled tool = tool := by
      have hnameSent : (tool.nameSent || decide (tool.name ≠ "")) = tool.nameSent := by
        rcases hname with hname | hname <;> simp [hname]
      have hempty : byteLength "" = 0 := rfl
      rw [settled, hnameSent, hlength, hempty, Nat.add_zero, ← hsent]
    refine ⟨_, _, [], rfl, .nothing _, ⟨rfl, rfl, rfl, rfl⟩, ⟨by simp, ?_, rfl, ?_⟩, ?_⟩
    · rcases hname with hname | hname <;> simp [hname]
    · rintro (h | ⟨h, hne⟩)
      · simp [hsent] at h
      · rcases hname with hname | hname
        · exact absurd hname hne
        · simp [hname] at h
    · rw [hsettled]
      rfl
  · refine ⟨_, _, _, rfl, start_emits s _ _ rfl, ⟨rfl, rfl, rfl, rfl⟩, ⟨?_, ?_, ?_, ?_⟩, ?_⟩
    · intro call hcall
      rw [List.mem_singleton.1 hcall]
      exact ⟨rfl, rfl⟩
    · simp
    · simp
    · simp
    · have hnameSent : (tool.nameSent || decide ((if tool.nameSent then "" else tool.name) ≠ ""))
          = (tool.nameSent || decide (tool.name ≠ "")) := by
        cases tool.nameSent <;> simp
      simp only [keep, settled, hlength, hnameSent]

end ResponsesToChatStreamState

end YouBox.Responses
