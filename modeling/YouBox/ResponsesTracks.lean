import YouBox.ResponsesTools

/-!
# A stream up to its terminal event

`Tracks` adds text and reasoning to the table of tools: both go through
as they come (`Flow`), and the flags say whether anything did. One event
of a valid stream keeps it (`Tracks.step`, a case for each signal), and
so do all of them (`Tracks.run`).
-/

namespace YouBox.Responses

open ResponsesToChatStreamState

structure Flow (script : List Signal) (s : ResponsesToChatStreamState) (out : List ChatChunk) :
    Prop where
  opened : Opened false s.sentStart out
  text : String.join (textsOf out) = String.join ((textWrites script).map (·.2))
  sentText : s.hasSentText = decide (String.join ((textWrites script).map (·.2)) ≠ "")
  reasoning : reasoningsOf out = (brokenUp script).1
  sentReasoning : s.hasSentReasoning = decide ((brokenUp script).1 ≠ [])
  due : s.needsReasoningSummaryBreak = (brokenUp script).2
  running : s.finalized = false

variable {chunks : List ChatChunk} {items : List ResponsesOutput} {script : List Signal}
  {s s' : ResponsesToChatStreamState} {signal : Signal}

variable {rest : List Signal} {calls : List ToolCallResponse}

theorem Flow.emits {now : Bool} {out : List ChatChunk} {text : String} {reasoning : List String}
    (h : Flow script s out) (hemits : Emits s.sentStart now chunks text reasoning calls) :
    Emits false now (out ++ chunks) (String.join ((textWrites script).map (·.2)) ++ text)
      ((brokenUp script).1 ++ reasoning) (callsOf out ++ calls) :=
  Emits.append ⟨h.opened, h.text, h.reasoning, rfl⟩ hemits

theorem Flow.still {out : List ChatChunk} (h : Flow script s out)
    (hemits : Emits s.sentStart s'.sentStart chunks "" [] calls) (hflow : s.SameFlow s')
    (htext : textWrites [signal] = []) (hbreak : brokenUp (script ++ [signal]) = brokenUp script) :
    Flow (script ++ [signal]) s' (out ++ chunks) := by
  have hall := h.emits hemits
  have hwrites : textWrites (script ++ [signal]) = textWrites script := by
    rw [textWrites_append, htext, List.append_nil]
  constructor
  · exact hall.opened
  · rw [hall.text, hwrites, String.append_empty]
  · rw [hflow.hasSentText, h.sentText, hwrites]
  · rw [hall.reasoning, hbreak, List.append_nil]
  · rw [hflow.hasSentReasoning, h.sentReasoning, hbreak]
  · rw [hflow.due, h.due, hbreak]
  · rw [hflow.finalized, h.running]

theorem Flow.textDelta {out : List ChatChunk} (h : Flow script s out) (n : Nat) (delta : String) :
    Flow (script ++ [.text n delta]) (s.textDelta delta).2 (out ++ (s.textDelta delta).1) := by
  obtain ⟨hemits, -, hfinalized, htext, hreasoning, hdue⟩ := s.textDelta_spec delta
  have hall := h.emits hemits
  have hwrites : String.join ((textWrites (script ++ [.text n delta])).map (·.2))
      = String.join ((textWrites script).map (·.2)) ++ delta := by
    rw [textWrites_append, List.map_append, String.join_append]
    simp [textWrites]
  have hbreak : brokenUp (script ++ [.text n delta]) = brokenUp script := brokenUp_append script _
  constructor
  · exact hall.opened
  · rw [hall.text, hwrites]
  · rw [htext, h.sentText, hwrites]
    simp [Bool.decide_or, imp_iff_not_or]
  · rw [hall.reasoning, hbreak, List.append_nil]
  · rw [hreasoning, h.sentReasoning, hbreak]
  · rw [hdue, h.due, hbreak]
  · rw [hfinalized, h.running]

theorem Flow.reasoningDelta {out : List ChatChunk} (h : Flow script s out) (n : Nat)
    (delta : String) :
    Flow (script ++ [.reasoning n delta]) (s.reasoningDelta delta).2
      (out ++ (s.reasoningDelta delta).1) := by
  obtain ⟨hemits, -, hfinalized, htext, hreasoning, hdue⟩ := s.reasoningDelta_spec delta
  have hall := h.emits hemits
  have hwrites : textWrites (script ++ [.reasoning n delta]) = textWrites script := by
    rw [textWrites_append]
    exact List.append_nil _
  have hbreak : brokenUp (script ++ [.reasoning n delta])
      = ((brokenUp script).1 ++ fragments (brokenUp script).2 delta,
          (brokenUp script).2 && decide (delta = "")) := by
    rw [brokenUp_append, breakUp, fragments]
    by_cases hdelta : delta = "" <;> simp [hdelta]
  constructor
  · exact hall.opened
  · rw [hall.text, hwrites, String.append_empty]
  · rw [htext, h.sentText, hwrites]
  · rw [hall.reasoning, hbreak, h.due]
  · rw [hreasoning, h.sentReasoning, hbreak, fragments]
    by_cases hdelta : delta = "" <;> simp [hdelta]
  · rw [hdue, h.due, hbreak]
  · rw [hfinalized, h.running]

theorem Flow.reasoningDone {out : List ChatChunk} (h : Flow script s out) :
    Flow (script ++ [.reasoningDone])
      (if s.hasSentReasoning then { s with needsReasoningSummaryBreak := true } else s) out := by
  have hwrites : textWrites (script ++ [.reasoningDone]) = textWrites script := by
    rw [textWrites_append]
    exact List.append_nil _
  have hbreak : brokenUp (script ++ [.reasoningDone])
      = ((brokenUp script).1, (brokenUp script).2 || s.hasSentReasoning) := by
    rw [brokenUp_append, breakUp, h.sentReasoning]
  cases hsent : s.hasSentReasoning with
  | true =>
    rw [hsent, Bool.or_true] at hbreak
    exact ⟨h.opened, by rw [h.text, hwrites], by rw [hwrites]; exact h.sentText,
      by rw [h.reasoning, hbreak], by rw [hbreak]; exact hsent.symm.trans h.sentReasoning,
      by rw [hbreak]; rfl, h.running⟩
  | false =>
    rw [hsent, Bool.or_false] at hbreak
    exact ⟨h.opened, by rw [h.text, hwrites], by rw [hwrites]; exact h.sentText,
      by rw [h.reasoning, hbreak], by rw [hbreak]; exact h.sentReasoning,
      by rw [hbreak]; exact h.due, h.running⟩

theorem ResponsesToChatStreamState.applyResponseMetadata_spec (s : ResponsesToChatStreamState)
    (response : Option OpenAIResponsesResponse) :
    (s.applyResponseMetadata response).toToolMaps = s.toToolMaps ∧
    (s.applyResponseMetadata response).sentStart = s.sentStart ∧
    s.SameFlow (s.applyResponseMetadata response) := by
  cases response with
  | none => exact ⟨rfl, rfl, rfl, rfl, rfl, rfl⟩
  | some response => exact ⟨rfl, rfl, rfl, rfl, rfl, rfl⟩

structure Tracks (items : List ResponsesOutput) (script : List Signal)
    (s : ResponsesToChatStreamState) (out : List ChatChunk) : Prop where
  flow : Flow script s out
  tools : ToolsTrack items script s.toToolMaps (callsOf out)

theorem Tracks.keepsUp {out : List ChatChunk} {result : List ChatChunk × ResponsesToChatStreamState}
    (h : Tracks items script s out) (hkeeps : KeepsUp items script signal s (callsOf out) result)
    (htext : textWrites [signal] = []) (hbreak : brokenUp (script ++ [signal]) = brokenUp script) :
    Tracks items (script ++ [signal]) result.2 (out ++ result.1) := by
  obtain ⟨added, hemits, hflow, htools⟩ := hkeeps
  have hcalls : callsOf (out ++ result.1) = callsOf out ++ added :=
    (h.flow.emits hemits).calls
  exact ⟨h.flow.still hemits hflow htext hbreak, hcalls ▸ htools⟩

theorem Tracks.leave {out : List ChatChunk} {text : String} {reasoning : List String}
    (h : Tracks items script s out)
    (hemits : Emits s.sentStart s'.sentStart chunks text reasoning [])
    (hmaps : s'.toToolMaps = s.toToolMaps) (hkeyed : keyed (script ++ [signal]) = keyed script)
    (hleaves : ∀ k, Leaves script signal k) :
    ToolsTrack items (script ++ [signal]) s'.toToolMaps (callsOf (out ++ chunks)) := by
  have hcalls := (h.flow.emits hemits).calls
  rw [List.append_nil] at hcalls
  rw [hcalls, hmaps]
  exact h.tools.leave hkeyed fun k _ _ => hleaves k

section Step

variable {items : List ResponsesOutput} {script : List Signal} {again : List Nat}
  {s : ResponsesToChatStreamState} {out : List ChatChunk} {signal : Signal}
  {event : ResponsesStreamResponse}

/-- What validity says where a script has reached `signal`. -/
structure FitsNext (items : List ResponsesOutput) (script : List Signal) (signal : Signal) :
    Prop where
  before : ∀ earlier ∈ script, Fits items earlier
  fits : Fits items signal
  trimmed : ∀ n item, Tool items n item →
    Trimmed item.id ∧ Trimmed item.callId ∧ Trimmed item.name
  distinct : ∀ n k item other, Tool items n item → Tool items k other → item.id = other.id → n = k
  grows : ∀ n out, signal = .item n out → isResponsesToolOutputType out.type = true →
    out.argumentsString = "" ∨ ∃ more, out.argumentsString = told n script ++ more

theorem Tracks.step (h : Tracks items script s out) (hcarries : Carries items signal event)
    (hnext : FitsNext items script signal) :
    ∃ chunks s', responsesStreamEventToChatChunks event s = .ok (chunks, s') ∧
      Tracks items (script ++ [signal]) s' (out ++ chunks) := by
  have hfits := hnext.fits
  cases hcarries with
  | item htype hindex hitem =>
    rename_i n out'
    obtain ⟨item, hat, houtType, hid, hcall, hname⟩ := hfits
    have hrun : responsesStreamEventToChatChunks event s
        = if isResponsesToolOutputType out'.type then .ok (s.toolItem event out')
          else .ok ([], s) := by
      rcases htype with htype | htype <;> simp only [responsesStreamEventToChatChunks, htype, hitem]
    rw [hrun]
    cases htool : isResponsesToolOutputType out'.type with
    | true =>
      have hitemTool : Tool items n item := ⟨hat, houtType ▸ htool⟩
      have hkeeps := h.tools.toolItem hitemTool hnext.before (hnext.trimmed n item hitemTool) htool
        hindex hitem hid hcall hname (hnext.grows n out' rfl htool)
      exact ⟨_, _, rfl, h.keepsUp hkeeps rfl (brokenUp_append script _)⟩
    | false =>
      have hkeeps : KeepsUp items script (.item n out') s (callsOf out) ([], s) := by
        refine keepsUp_of_leave h.tools (by simp [keyed_append, Signal.keys, htool]) ?_
        intro k other hother
        have hk : n ≠ k := by
          rintro rfl
          rw [hother.unique hat] at houtType
          simp [houtType, hother.2] at htool
        exact ⟨by simp [told_append, tell, hk], by simp [announced_append, Signal.announces, hk],
          by simp [early_append]⟩
      exact ⟨_, _, rfl, h.keepsUp hkeeps rfl (brokenUp_append script _)⟩
  | argsDelta htype hindex hitem hid hnone hdelta =>
    rename_i n item delta
    obtain ⟨tool, htool⟩ := hfits
    obtain rfl := htool.unique hitem
    have hrun : responsesStreamEventToChatChunks event s = .ok (s.toolArgumentsDelta event) := by
      rcases htype with htype | htype <;> simp only [responsesStreamEventToChatChunks, htype]
    have hkeeps := h.tools.toolArgumentsDelta
      (fun k other hother heq => hnext.distinct k n other item hother htool heq) htool hnext.before
      (hnext.trimmed n item htool) hindex hid hnone hdelta
    exact ⟨_, _, hrun, h.keepsUp hkeeps rfl (brokenUp_append script _)⟩
  | argsDone htype hindex hitem hid hnone =>
    rename_i n item
    obtain ⟨tool, htool⟩ := hfits
    obtain rfl := htool.unique hitem
    have hrun : responsesStreamEventToChatChunks event s = .ok (s.flushPendingTool event) := by
      rcases htype with htype | htype <;> simp only [responsesStreamEventToChatChunks, htype]
    have hkeeps := h.tools.flushPendingTool
      (fun k other hother heq => hnext.distinct k n other item hother htool heq) htool hnext.before
      (hnext.trimmed n item htool) hindex hid hnone
    exact ⟨_, _, hrun, h.keepsUp hkeeps rfl (brokenUp_append script _)⟩
  | text htype hindex hdelta =>
    rename_i n delta
    have hrun : responsesStreamEventToChatChunks event s = .ok (s.textDelta delta) := by
      simp only [responsesStreamEventToChatChunks, htype, hdelta]
    obtain ⟨hemits, hmaps, -⟩ := s.textDelta_spec delta
    exact ⟨_, _, hrun, h.flow.textDelta n delta, h.leave hemits hmaps (keyed_append script _)
      fun k => ⟨told_append k script _, by simp [announced_append, Signal.announces],
        by simp [early_append]⟩⟩
  | reasoning htype hindex hdelta =>
    rename_i n delta
    have hrun : responsesStreamEventToChatChunks event s = .ok (s.reasoningDelta delta) := by
      rcases htype with htype | htype <;>
        simp only [responsesStreamEventToChatChunks, htype, hdelta]
    obtain ⟨hemits, hmaps, -⟩ := s.reasoningDelta_spec delta
    exact ⟨_, _, hrun, h.flow.reasoningDelta n delta, h.leave hemits hmaps (keyed_append script _)
      fun k => ⟨told_append k script _, by simp [announced_append, Signal.announces],
        by simp [early_append]⟩⟩
  | reasoningDone htype =>
    have hrun : responsesStreamEventToChatChunks event s
        = .ok ([], if s.hasSentReasoning then { s with needsReasoningSummaryBreak := true }
          else s) := by
      rcases htype with htype | htype <;> simp only [responsesStreamEventToChatChunks, htype]
    have hemits : Emits s.sentStart (if s.hasSentReasoning then
        { s with needsReasoningSummaryBreak := true } else s).sentStart [] "" [] [] := by
      split <;> exact .nothing _
    refine ⟨_, _, hrun, ?_, h.leave hemits ?_ (keyed_append script _) fun k =>
      ⟨told_append k script _, by simp [announced_append, Signal.announces],
        by simp [early_append]⟩⟩
    · rw [List.append_nil]
      exact h.flow.reasoningDone
    · split <;> rfl
  | other htype =>
    have hkeyed : keyed (script ++ [.other]) = keyed script := keyed_append script _
    have hleaves : ∀ k, Leaves script .other k := fun k =>
      ⟨told_append k script _, by simp [announced_append, Signal.announces],
        by simp [early_append]⟩
    rcases htype with htype | htype
    · have hrun : responsesStreamEventToChatChunks event s
          = .ok (s.applyResponseMetadata event.response).ensureStart := by
        simp only [responsesStreamEventToChatChunks, htype]
      obtain ⟨hmaps, hstart, hflow⟩ := s.applyResponseMetadata_spec event.response
      have hemits := (s.applyResponseMetadata event.response).ensureStart_emits
      have hafter := (s.applyResponseMetadata event.response).ensureStart_snd
      have hkeeps : KeepsUp items script .other s (callsOf out)
          (s.applyResponseMetadata event.response).ensureStart := by
        refine ⟨[], ?_, ?_, ?_⟩
        · rw [hafter, ← hstart]
          exact hemits
        · rw [hafter]
          exact ⟨hflow.finalized, hflow.hasSentText, hflow.hasSentReasoning, hflow.due⟩
        · rw [hafter, List.append_nil]
          dsimp only
          rw [hmaps]
          exact h.tools.leave hkeyed fun k _ _ => hleaves k
      exact ⟨_, _, hrun, h.keepsUp hkeeps rfl (brokenUp_append script _)⟩
    · have hrun : responsesStreamEventToChatChunks event s = .ok ([], s) := by
        rcases htype with htype | ⟨type, htype⟩ <;>
          simp only [responsesStreamEventToChatChunks, htype]
      have hkeeps := keepsUp_of_leave h.tools hkeyed fun k _ _ => hleaves k
      exact ⟨_, _, hrun, h.keepsUp hkeeps rfl (brokenUp_append script _)⟩

theorem Valid.next (h : Valid items (script ++ signal :: rest) again) :
    FitsNext items script signal where
  before := fun earlier hmem => h.fits earlier (List.mem_append_left _ hmem)
  fits := h.fits signal (by simp)
  trimmed := h.trimmed
  distinct := h.distinct
  grows := fun n out heq htype => h.grows script n out rest (by rw [heq]) htype

end Step

/-! ## The run -/

theorem Tracks.run {again : List Nat} {before : List Signal} {events : List ResponsesStreamResponse}
    {out : List ChatChunk} (h : Tracks items before s out)
    (hcarried : List.Forall₂ (Carries items) rest events)
    (hvalid : Valid items (before ++ rest) again) :
    ∃ chunks s', responsesEventsToChatChunks events s = .ok (chunks, s') ∧
      Tracks items (before ++ rest) s' (out ++ chunks) := by
  induction hcarried generalizing before s out with
  | nil => exact ⟨[], s, rfl, by simpa using h⟩
  | cons hcarries _ ih =>
    rename_i signal event rest events _
    obtain ⟨chunks, s', hstep, hnow⟩ := h.step hcarries hvalid.next
    rw [List.append_cons] at hvalid ⊢
    obtain ⟨more, s'', hrun, hend⟩ := ih hnow hvalid
    refine ⟨chunks ++ more, s'', ?_, ?_⟩
    · simp only [responsesEventsToChatChunks, hstep, hrun]
    · rwa [← List.append_assoc]

/-- A stream that has sent nothing yet. -/
def fresh (id model : String) (created : Int) (includeUsage : Bool) : ResponsesToChatStreamState :=
  { newResponsesToChatStreamState model includeUsage created with id := id }

theorem tracks_fresh (items : List ResponsesOutput) (id model : String) (created : Int)
    (includeUsage : Bool) : Tracks items [] (fresh id model created includeUsage) [] where
  flow := ⟨.inl ⟨rfl, rfl⟩, rfl, rfl, rfl, rfl, rfl, rfl⟩
  tools :=
    { next := rfl
      found := fun _ _ _ => rfl
      only := fun _ _ hlookup => by cases hlookup
      byIndex := fun _ _ _ => rfl
      byItem := fun _ _ hlookup => by cases hlookup
      pending := fun _ _ _ => rfl
      pendingOnly := fun _ _ hlookup => by cases hlookup
      noItems := rfl
      bounded := fun _ hmem => by cases hmem
      spoken := fun _ _ _ hmem => by cases hmem }

theorem responsesEventsToChatChunks_append (events : List ResponsesStreamResponse)
    (last : ResponsesStreamResponse) {s'' : ResponsesToChatStreamState} {more : List ChatChunk}
    (hrun : responsesEventsToChatChunks events s = .ok (chunks, s'))
    (hlast : responsesStreamEventToChatChunks last s' = .ok (more, s'')) :
    responsesEventsToChatChunks (events ++ [last]) s = .ok (chunks ++ more, s'') := by
  induction events generalizing s chunks with
  | nil =>
    obtain ⟨rfl, rfl⟩ : chunks = [] ∧ s' = s := by
      simpa [responsesEventsToChatChunks, eq_comm] using hrun
    simp only [List.nil_append, responsesEventsToChatChunks, hlast, List.append_nil]
  | cons event rest ih =>
    simp only [responsesEventsToChatChunks] at hrun
    split at hrun
    · cases hrun
    · rename_i first s₁ hfirst
      split at hrun
      · cases hrun
      · rename_i others s₂ hothers
        obtain ⟨rfl, rfl⟩ : first ++ others = chunks ∧ s₂ = s' := by simpa using hrun
        simp only [List.cons_append, responsesEventsToChatChunks, hfirst, ih hothers,
          List.append_assoc]

end YouBox.Responses
