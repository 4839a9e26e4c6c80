import YouBox.ChatReplies
import YouBox.GeminiChat

/-!
# Gemini replies, streamed or not

`ResponseGeminiChat2OpenAI` turns a response into a completion,
`StreamResponseGeminiChat2OpenAI` a response into one chunk. Both walk over the
candidates and their parts. They differ in the thoughts (the last one beside the
content, or everything written as reasoning), in media that are no images, and in
a flag that one of them keeps from candidate to candidate.

A candidate's parts are taken apart by what each writes (`wholePiece`,
`streamPiece`); `responses_agree_iff` says for which responses a client has the
same of both.
-/

namespace YouBox.GeminiReplies

open Responses (Json JsonLib)
open GeminiChat (GeminiInlineData FunctionCall)
open ChatReplies

/-! ## Gemini responses -/

structure GeminiPartExecutableCode where
  language : String
  code : String

structure GeminiPart where
  text : String := ""
  thought : Bool := false
  inlineData : Option GeminiInlineData := none
  functionCall : Option FunctionCall := none
  executableCode : Option GeminiPartExecutableCode := none
  codeExecutionResult : Option String := none

structure GeminiChatCandidate where
  index : Int := 0
  parts : List GeminiPart
  finishReason : Option String := none

structure GeminiChatResponse where
  candidates : List GeminiChatCandidate

/-! ## The conversions -/

/-- The content with the number of pieces written; a piece behind another begins a
line. -/
structure Builder where
  content : String := ""
  appended : Nat := 0

def Builder.write (b : Builder) (piece : String) : Builder where
  content := (if b.appended > 0 then b.content ++ "\n" else b.content) ++ piece
  appended := b.appended + 1

def isImage (d : GeminiInlineData) : Bool := Strings.hasPrefix d.mimeType "image"

def mediaLink (label : String) (d : GeminiInlineData) : String :=
  label ++ "(data:" ++ d.mimeType ++ ";base64," ++ d.data ++ ")"

/-- What a part without data, call and thought writes; code ends in the given fence. -/
def Builder.writeText (b : Builder) (fence : String) (part : GeminiPart) : Builder :=
  match part.executableCode, part.codeExecutionResult with
  | some e, _ => b.write ("```" ++ e.language ++ "\n" ++ e.code ++ fence)
  | none, some output => b.write ("```output\n" ++ output ++ fence)
  | none, none => if part.text ≠ "\n" then b.write part.text else b

def geminiFinishReason (finishReason : String) : String :=
  match finishReason with
  | "STOP" => "stop"
  | "MAX_TOKENS" => "length"
  | _ => "content_filter"

section

variable (lib : JsonLib)

def geminiResponseToolCall (c : FunctionCall) : ToolCallResponse where
  function := { name := c.functionName, arguments := lib.marshal c.arguments }

/-- The variables of the loop over the parts of a candidate. -/
structure Turn where
  content : Builder := {}
  reasoningContent : Option String := none
  toolCalls : List ToolCallResponse := []
  finishReason : String := "stop"

def wholePart (t : Turn) (part : GeminiPart) : Turn :=
  match part.inlineData, part.functionCall with
  | some d, _ =>
    let label := if isImage d then "![image]" else "[media]"
    { t with content := t.content.write (mediaLink label d) }
  | none, some c =>
    { t with
      finishReason := "tool_calls"
      toolCalls := t.toolCalls ++ [geminiResponseToolCall lib c] }
  | none, none =>
    if part.thought then { t with reasoningContent := some part.text }
    else { t with content := t.content.writeText "\n```" part }

/-- A candidate's choice, and whether there has been a tool call up to it. -/
def wholeCandidate (isToolCall : Bool) (candidate : GeminiChatCandidate) : Choice × Bool :=
  let t := candidate.parts.foldl (wholePart lib) {}
  let isToolCall := isToolCall || !t.toolCalls.isEmpty
  let finishReason := (candidate.finishReason.map geminiFinishReason).getD t.finishReason
  ({ index := candidate.index
     content := t.content.content
     reasoningContent := t.reasoningContent
     toolCalls := t.toolCalls
     finishReason := if isToolCall then "tool_calls" else finishReason }, isToolCall)

def wholeCandidates : Bool → List GeminiChatCandidate → List Choice
  | _, [] => []
  | isToolCall, candidate :: rest =>
    (wholeCandidate lib isToolCall candidate).1 ::
      wholeCandidates (wholeCandidate lib isToolCall candidate).2 rest

def responseGeminiChat2OpenAI (id : String) (response : GeminiChatResponse) : TextResponse where
  id := id
  choices := wholeCandidates lib false response.candidates

structure StreamTurn where
  content : Builder := {}
  isTools : Bool := false
  isThought : Bool := false
  toolCalls : List ToolCallResponse := []

def streamPart (t : StreamTurn) (part : GeminiPart) : StreamTurn :=
  match part.inlineData, part.functionCall with
  | some d, _ =>
    if isImage d then { t with content := t.content.write (mediaLink "![image]" d) } else t
  | none, some c =>
    { t with
      isTools := true
      toolCalls := t.toolCalls ++
        [{ geminiResponseToolCall lib c with index := some (t.toolCalls.length : Int) }] }
  | none, none =>
    if part.thought then { t with isThought := true, content := t.content.write part.text }
    else { t with content := t.content.writeText "\n```\n" part }

def streamCandidate (candidate : GeminiChatCandidate) : StreamChoice :=
  let finishReason := candidate.finishReason.filter (· ≠ "STOP")
  let t := candidate.parts.foldl (streamPart lib) {}
  { index := candidate.index
    delta := {
      content := if t.isThought then none else some t.content.content
      reasoningContent := if t.isThought then some t.content.content else none
      toolCalls := if t.toolCalls.isEmpty then none else some t.toolCalls }
    finishReason := if t.isTools then some "tool_calls" else finishReason.map geminiFinishReason }

def streamResponseGeminiChat2OpenAI (response : GeminiChatResponse) : StreamChunk × Bool :=
  ({ choices := response.candidates.map (streamCandidate lib) },
    response.candidates.any fun candidate => candidate.finishReason = some "STOP")

end

/-! ## What a client has of a candidate -/

structure View where
  content : String
  reasoning : String
  calls : List FunctionResponse
  finishedByTools : Bool

def wholeView (c : Choice) : View where
  content := c.content
  reasoning := c.reasoningContent.getD ""
  calls := c.toolCalls.map (·.function)
  finishedByTools := c.finishReason = "tool_calls"

def streamView (c : StreamChoice) : View where
  content := c.delta.content.getD ""
  reasoning := c.delta.reasoningContent.getD ""
  calls := c.delta.fragments.map (·.function)
  finishedByTools := c.finishReason = some "tool_calls"

/-! ## What a part writes -/

def GeminiPart.call? (part : GeminiPart) : Option FunctionCall :=
  if part.inlineData.isNone then part.functionCall else none

def GeminiPart.thought? (part : GeminiPart) : Option String :=
  if part.inlineData.isNone && part.functionCall.isNone && part.thought then some part.text
  else none

/-- Media that are no images. -/
def GeminiPart.media? (part : GeminiPart) : Option GeminiInlineData :=
  part.inlineData.filter fun d => !isImage d

/-- An image or a text, which both write. -/
def GeminiPart.shared? (part : GeminiPart) : Option String :=
  match part.inlineData, part.functionCall with
  | some d, _ => if isImage d then some (mediaLink "![image]" d) else none
  | none, some _ => none
  | none, none => if part.thought || part.text = "\n" then none else some part.text

def GeminiPart.wholePiece (part : GeminiPart) : Option String :=
  part.shared? <|> part.media?.map (mediaLink "[media]")

def GeminiPart.streamPiece (part : GeminiPart) : Option String :=
  part.shared? <|> part.thought?

/-- A part that has no code. -/
def GeminiPart.Plain (part : GeminiPart) : Prop :=
  part.executableCode = none ∧ part.codeExecutionResult = none

/-- Pieces as lines. -/
def lines : List String → String
  | [] => ""
  | piece :: rest => piece ++ String.join (rest.map ("\n" ++ ·))

theorem foldl_write (pieces : List String) :
    (pieces.foldl Builder.write {}).content = lines pieces := by
  have hlater : ∀ (pieces : List String) (b : Builder), 0 < b.appended →
      (pieces.foldl Builder.write b).content =
        b.content ++ String.join (pieces.map ("\n" ++ ·)) := by
    intro pieces
    induction pieces with
    | nil => exact fun _ _ => String.append_empty.symm
    | cons piece rest ih =>
      intro b hb
      rw [List.foldl_cons, ih _ (Nat.succ_pos _), List.map_cons, String.join_cons, Builder.write]
      dsimp only
      rw [if_pos hb]
      simp only [String.append_assoc]
  cases pieces with
  | nil => rfl
  | cons piece rest =>
    rw [List.foldl_cons, hlater rest _ (Nat.succ_pos _)]
    exact congrArg (· ++ _) String.empty_append

/-- The length of the lines with one more each. -/
def total (pieces : List String) : Nat := (pieces.map fun piece => piece.length + 1).sum

theorem total_cons (piece : String) (rest : List String) :
    total (piece :: rest) = piece.length + 1 + total rest := rfl

theorem total_append (ps qs : List String) : total (ps ++ qs) = total ps + total qs := by
  rw [total, List.map_append, List.sum_append]
  rfl

theorem lines_length (pieces : List String) : (lines pieces).length = total pieces - 1 := by
  cases pieces with
  | nil => rfl
  | cons piece rest =>
    have hrest : (String.join (rest.map ("\n" ++ ·))).length = total rest := by
      induction rest with
      | nil => rfl
      | cons next rest ih =>
        have hone : "\n".length = 1 := rfl
        rw [List.map_cons, String.join_cons, String.length_append, ih, String.length_append,
          hone, total_cons, Nat.add_comm 1]
    rw [lines, String.length_append, hrest, total_cons]
    omega

variable {c : GeminiChatCandidate} {α : Type}

theorem filterMap_or_left {β : Type} {f g : α → Option β} {l : List α} (h : l.filterMap g = []) :
    l.filterMap (fun a => f a <|> g a) = l.filterMap f := by
  refine List.filterMap_congr fun a ha => ?_
  rw [List.filterMap_eq_nil_iff.mp h a ha]
  cases f a <;> rfl

theorem filterMap_or_right {β : Type} {f g : α → Option β} {l : List α} (h : l.filterMap f = []) :
    l.filterMap (fun a => f a <|> g a) = l.filterMap g := by
  refine List.filterMap_congr fun a ha => ?_
  rw [List.filterMap_eq_nil_iff.mp h a ha]
  rfl

theorem total_or {f g : α → Option String} (h : ∀ a, f a = none ∨ g a = none) (l : List α) :
    total (l.filterMap fun a => f a <|> g a) =
      total (l.filterMap f) + total (l.filterMap g) := by
  induction l with
  | nil => rfl
  | cons a rest ih =>
    rw [List.filterMap_cons, List.filterMap_cons, List.filterMap_cons]
    rcases h a with hf | hg
    · rw [hf]
      cases hg : g a with
      | none => exact ih
      | some piece =>
        have hor : (none <|> some piece : Option String) = some piece := rfl
        rw [hor]
        dsimp only
        rw [total_cons, ih, total_cons]
        omega
    · rw [hg]
      cases hf : f a with
      | none => exact ih
      | some piece =>
        have hor : (some piece <|> none : Option String) = some piece := rfl
        rw [hor]
        dsimp only
        rw [total_cons, ih, total_cons]
        omega

theorem shared_or_media (part : GeminiPart) :
    part.shared? = none ∨ part.media?.map (mediaLink "[media]") = none := by
  rw [GeminiPart.shared?, GeminiPart.media?]
  cases part.inlineData with
  | none => exact Or.inr rfl
  | some d =>
    by_cases hd : isImage d = true
    · refine Or.inr ?_
      rw [Option.filter_some_neg (by rw [hd]; rfl)]
      rfl
    · exact Or.inl (if_neg hd)

theorem shared_or_thought (part : GeminiPart) : part.shared? = none ∨ part.thought? = none := by
  rw [GeminiPart.shared?, GeminiPart.thought?]
  cases part.inlineData with
  | some d => exact Or.inr rfl
  | none =>
    cases part.functionCall with
    | some c => exact Or.inl rfl
    | none =>
      cases part.thought with
      | true => exact Or.inl rfl
      | false => exact Or.inr rfl

/-! ## The two walks -/

section

variable (lib : JsonLib)

variable {part : GeminiPart}

theorem wholePart_eq (hplain : part.Plain) (t : Turn) :
    wholePart lib t part =
      { content := part.wholePiece.toList.foldl Builder.write t.content
        reasoningContent := part.thought? <|> t.reasoningContent
        toolCalls := t.toolCalls ++ (part.call?.map (geminiResponseToolCall lib)).toList
        finishReason := if part.call?.isSome then "tool_calls" else t.finishReason } := by
  obtain ⟨text, thought, inlineData, functionCall, executableCode, codeExecutionResult⟩ := part
  obtain ⟨rfl, rfl⟩ : executableCode = none ∧ codeExecutionResult = none := hplain
  cases inlineData with
  | some d =>
    cases hd : isImage d <;>
      simp [wholePart, GeminiPart.wholePiece, GeminiPart.shared?, GeminiPart.media?,
        GeminiPart.thought?, GeminiPart.call?, Option.filter, hd]
  | none =>
    cases functionCall with
    | some c =>
      simp [wholePart, GeminiPart.wholePiece, GeminiPart.shared?, GeminiPart.media?,
        GeminiPart.thought?, GeminiPart.call?]
    | none =>
      cases thought with
      | true =>
        simp [wholePart, GeminiPart.wholePiece, GeminiPart.shared?, GeminiPart.media?,
          GeminiPart.thought?, GeminiPart.call?]
      | false =>
        by_cases htext : text = "\n" <;>
          simp [wholePart, GeminiPart.wholePiece, GeminiPart.shared?, GeminiPart.media?,
            GeminiPart.thought?, GeminiPart.call?, Builder.writeText, htext]

theorem streamPart_eq (hplain : part.Plain) (t : StreamTurn) :
    streamPart lib t part =
      { content := part.streamPiece.toList.foldl Builder.write t.content
        isTools := t.isTools || part.call?.isSome
        isThought := t.isThought || part.thought?.isSome
        toolCalls := t.toolCalls ++ (part.call?.map fun c =>
          { geminiResponseToolCall lib c with
            index := some (t.toolCalls.length : Int) }).toList } := by
  obtain ⟨text, thought, inlineData, functionCall, executableCode, codeExecutionResult⟩ := part
  obtain ⟨rfl, rfl⟩ : executableCode = none ∧ codeExecutionResult = none := hplain
  cases inlineData with
  | some d =>
    cases hd : isImage d <;>
      simp [streamPart, GeminiPart.streamPiece, GeminiPart.shared?, GeminiPart.thought?,
        GeminiPart.call?, hd]
  | none =>
    cases functionCall with
    | some c =>
      simp [streamPart, GeminiPart.streamPiece, GeminiPart.shared?, GeminiPart.thought?,
        GeminiPart.call?]
    | none =>
      cases thought with
      | true =>
        simp [streamPart, GeminiPart.streamPiece, GeminiPart.shared?, GeminiPart.thought?,
          GeminiPart.call?]
      | false =>
        by_cases htext : text = "\n" <;>
          simp [streamPart, GeminiPart.streamPiece, GeminiPart.shared?, GeminiPart.thought?,
            GeminiPart.call?, Builder.writeText, htext]

theorem foldl_toList {piece : GeminiPart → Option String} {b : Builder} (parts : List GeminiPart) :
    (parts.filterMap piece).foldl Builder.write ((piece part).toList.foldl Builder.write b) =
      ((part :: parts).filterMap piece).foldl Builder.write b := by
  rw [List.filterMap_cons]
  cases piece part <;> rfl

variable {parts : List GeminiPart}

theorem foldl_wholePart (hplain : ∀ part ∈ parts, part.Plain) (t : Turn) :
    parts.foldl (wholePart lib) t =
      { content := (parts.filterMap GeminiPart.wholePiece).foldl Builder.write t.content
        reasoningContent :=
          (parts.filterMap GeminiPart.thought?).getLast? <|> t.reasoningContent
        toolCalls := t.toolCalls ++
          (parts.filterMap GeminiPart.call?).map (geminiResponseToolCall lib)
        finishReason :=
          if parts.filterMap GeminiPart.call? = [] then t.finishReason else "tool_calls" } := by
  induction parts generalizing t with
  | nil =>
    rw [List.filterMap_nil, List.filterMap_nil, List.filterMap_nil, List.map_nil, List.append_nil]
    rfl
  | cons part rest ih =>
    obtain ⟨hpart, hrest⟩ := List.forall_mem_cons.mp hplain
    rw [List.foldl_cons, ih hrest, wholePart_eq lib hpart, foldl_toList]
    dsimp only
    congr 1
    · rw [List.filterMap_cons]
      cases part.thought? with
      | none => rfl
      | some s =>
        dsimp only
        rw [List.getLast?_cons]
        cases (rest.filterMap GeminiPart.thought?).getLast? <;> rfl
    · rw [List.filterMap_cons, List.append_assoc]
      cases part.call? <;> rfl
    · rw [List.filterMap_cons]
      cases part.call? with
      | none => rfl
      | some c =>
        dsimp only
        rw [if_neg (List.cons_ne_nil _ _), Option.isSome_some, if_pos rfl, ite_self]

theorem foldl_streamPart (hplain : ∀ part ∈ parts, part.Plain) (t : StreamTurn) :
    (parts.foldl (streamPart lib) t).content =
        (parts.filterMap GeminiPart.streamPiece).foldl Builder.write t.content ∧
      (parts.foldl (streamPart lib) t).isTools =
        (t.isTools || !(parts.filterMap GeminiPart.call?).isEmpty) ∧
      (parts.foldl (streamPart lib) t).isThought =
        (t.isThought || !(parts.filterMap GeminiPart.thought?).isEmpty) ∧
      (parts.foldl (streamPart lib) t).toolCalls.map (·.function) =
        t.toolCalls.map (·.function) ++ (parts.filterMap GeminiPart.call?).map
          fun c => (geminiResponseToolCall lib c).function := by
  induction parts generalizing t with
  | nil =>
    refine ⟨rfl, ?_, ?_, ?_⟩
    · exact (Bool.or_false _).symm
    · exact (Bool.or_false _).symm
    · exact (List.append_nil _).symm
  | cons part rest ih =>
    obtain ⟨hpart, hrest⟩ := List.forall_mem_cons.mp hplain
    obtain ⟨hcontent, htools, hthought, hcalls⟩ := ih hrest (streamPart lib t part)
    rw [List.foldl_cons, hcontent, htools, hthought, hcalls, streamPart_eq lib hpart,
      foldl_toList]
    refine ⟨rfl, ?_, ?_, ?_⟩
    · rw [List.filterMap_cons]
      cases part.call? <;> simp
    · rw [List.filterMap_cons]
      cases part.thought? <;> simp
    · rw [List.filterMap_cons]
      cases part.call? with
      | none => rw [Option.map_none, Option.toList_none, List.append_nil]
      | some c =>
        rw [Option.map_some, Option.toList_some, List.map_append, List.append_assoc]
        rfl

end

/-! ## Candidates -/

def GeminiChatCandidate.calls (c : GeminiChatCandidate) : List FunctionCall :=
  c.parts.filterMap GeminiPart.call?

def GeminiChatCandidate.thoughts (c : GeminiChatCandidate) : List String :=
  c.parts.filterMap GeminiPart.thought?

def callFunctions (lib : JsonLib) (c : GeminiChatCandidate) : List FunctionResponse :=
  c.calls.map fun call => (geminiResponseToolCall lib call).function

theorem geminiFinishReason_ne (finishReason : String) :
    geminiFinishReason finishReason ≠ "tool_calls" := by
  unfold geminiFinishReason
  split <;> decide

theorem wholeCandidate_view (lib : JsonLib) (hplain : ∀ part ∈ c.parts, part.Plain)
    (isToolCall : Bool) :
    wholeView (wholeCandidate lib isToolCall c).1 =
        { content := lines (c.parts.filterMap GeminiPart.wholePiece)
          reasoning := c.thoughts.getLast?.getD ""
          calls := callFunctions lib c
          finishedByTools := isToolCall || !c.calls.isEmpty } ∧
      (wholeCandidate lib isToolCall c).2 = (isToolCall || !c.calls.isEmpty) := by
  have hcalls : (c.calls.map (geminiResponseToolCall lib)).isEmpty = c.calls.isEmpty :=
    List.isEmpty_map
  rw [wholeCandidate, foldl_wholePart lib hplain]
  dsimp only
  rw [List.nil_append, ← GeminiChatCandidate.calls, hcalls]
  refine ⟨?_, rfl⟩
  rw [wholeView]
  dsimp only
  congr 1
  · exact foldl_write _
  · rw [← GeminiChatCandidate.thoughts]
    cases c.thoughts.getLast? <;> rfl
  · exact List.map_map ..
  · cases hany : isToolCall || !c.calls.isEmpty with
    | true => rfl
    | false =>
      have hnone : c.calls = [] := by
        have := (Bool.or_eq_false_iff.mp hany).2
        rwa [Bool.not_eq_false', List.isEmpty_iff] at this
      rw [if_neg Bool.false_ne_true, decide_eq_false_iff_not, if_pos hnone]
      cases c.finishReason with
      | none => decide
      | some finishReason => exact geminiFinishReason_ne finishReason

theorem streamCandidate_view (lib : JsonLib) (hplain : ∀ part ∈ c.parts, part.Plain) :
    streamView (streamCandidate lib c) =
      { content := if c.thoughts = [] then lines (c.parts.filterMap GeminiPart.streamPiece) else ""
        reasoning :=
          if c.thoughts = [] then "" else lines (c.parts.filterMap GeminiPart.streamPiece)
        calls := callFunctions lib c
        finishedByTools := !c.calls.isEmpty } := by
  obtain ⟨hcontent, htools, hthought, hcalls⟩ := foldl_streamPart lib hplain {}
  have hcontent : (c.parts.foldl (streamPart lib) {}).content.content =
      lines (c.parts.filterMap GeminiPart.streamPiece) := by
    rw [hcontent]
    exact foldl_write _
  rw [← GeminiChatCandidate.thoughts, Bool.false_or] at hthought
  rw [← GeminiChatCandidate.calls, Bool.false_or] at htools
  rw [streamCandidate, streamView]
  dsimp only
  rw [hcontent, hthought, htools]
  congr 1
  · by_cases h : c.thoughts = []
    · rw [h]
      rfl
    · rw [if_neg h, List.isEmpty_eq_false_iff.mpr h]
      rfl
  · by_cases h : c.thoughts = []
    · rw [h]
      rfl
    · rw [if_neg h, List.isEmpty_eq_false_iff.mpr h]
      rfl
  · have hfragments : (StreamDelta.fragments {
        toolCalls := if (c.parts.foldl (streamPart lib) {}).toolCalls.isEmpty then none
          else some (c.parts.foldl (streamPart lib) {}).toolCalls }) =
        (c.parts.foldl (streamPart lib) {}).toolCalls := by
      cases (c.parts.foldl (streamPart lib) {}).toolCalls <;> rfl
    exact (congrArg (List.map (·.function)) hfragments).trans hcalls
  · cases hany : c.calls.isEmpty with
    | false => rfl
    | true =>
      rw [Bool.not_true, if_neg Bool.false_ne_true, decide_eq_false_iff_not]
      intro h
      obtain ⟨finishReason, _, heq⟩ := Option.map_eq_some_iff.mp h
      exact geminiFinishReason_ne finishReason heq

/-! ## When the two agree -/

/-- No media but images, and no thought, or one with nothing beside it but calls. -/
def GeminiChatCandidate.Agreeable (c : GeminiChatCandidate) : Prop :=
  c.parts.filterMap GeminiPart.media? = [] ∧
    (c.thoughts = [] ∨ ∃ s, c.thoughts = [s] ∧ c.parts.filterMap GeminiPart.shared? = [])

theorem total_media (ds : List GeminiInlineData) :
    total (ds.map (mediaLink "[media]")) ≤ 1 → ds = [] := by
  intro h
  cases ds with
  | nil => rfl
  | cons d rest =>
    have hlabel : "[media]".length = 7 := rfl
    rw [List.map_cons, total_cons, mediaLink] at h
    simp only [String.length_append, hlabel] at h
    omega

theorem total_eq_zero {pieces : List String} (h : total pieces = 0) : pieces = [] := by
  cases pieces with
  | nil => rfl
  | cons piece rest =>
    rw [total_cons] at h
    omega

/-- Content and reasoning are the same of both if and only if the candidate is agreeable. -/
theorem texts_agree_iff (c : GeminiChatCandidate) :
    (lines (c.parts.filterMap GeminiPart.wholePiece) =
        (if c.thoughts = [] then lines (c.parts.filterMap GeminiPart.streamPiece) else "") ∧
      c.thoughts.getLast?.getD "" =
        if c.thoughts = [] then "" else lines (c.parts.filterMap GeminiPart.streamPiece)) ↔
      c.Agreeable := by
  have hwhole : total (c.parts.filterMap GeminiPart.wholePiece) =
      total (c.parts.filterMap GeminiPart.shared?) +
        total ((c.parts.filterMap GeminiPart.media?).map (mediaLink "[media]")) := by
    rw [List.map_filterMap]
    exact total_or shared_or_media c.parts
  have hstream : total (c.parts.filterMap GeminiPart.streamPiece) =
      total (c.parts.filterMap GeminiPart.shared?) + total c.thoughts :=
    total_or shared_or_thought c.parts
  have hlenWhole := lines_length (c.parts.filterMap GeminiPart.wholePiece)
  have hlenStream := lines_length (c.parts.filterMap GeminiPart.streamPiece)
  -- without media the whole pieces are the shared ones
  have hshared : c.parts.filterMap GeminiPart.media? = [] →
      c.parts.filterMap GeminiPart.wholePiece = c.parts.filterMap GeminiPart.shared? := by
    intro h
    refine filterMap_or_left ?_
    rw [← List.map_filterMap, h, List.map_nil]
  rw [GeminiChatCandidate.Agreeable]
  by_cases hthoughts : c.thoughts = []
  · rw [if_pos hthoughts, if_pos hthoughts, hthoughts]
    have hpieces : c.parts.filterMap GeminiPart.streamPiece =
        c.parts.filterMap GeminiPart.shared? := filterMap_or_left hthoughts
    constructor
    · rintro ⟨h, -⟩
      have hlen := congrArg String.length h
      rw [hlenWhole, hlenStream, hwhole, hstream, hthoughts] at hlen
      have hzero : total [] = 0 := rfl
      refine ⟨total_media _ ?_, Or.inl rfl⟩
      omega
    · rintro ⟨hmedia, -⟩
      exact ⟨by rw [hshared hmedia, hpieces], rfl⟩
  · rw [if_neg hthoughts, if_neg hthoughts]
    obtain ⟨init, last, hlast⟩ := (List.eq_nil_or_concat c.thoughts).resolve_left hthoughts
    rw [List.concat_eq_append] at hlast
    have htotal : total c.thoughts = total init + (last.length + 1) := by
      rw [hlast, total_append]
      rfl
    rw [hlast, List.getLast?_concat, Option.getD_some]
    constructor
    · rintro ⟨hcontent, hreasoning⟩
      have hempty : "".length = 0 := rfl
      have hlenContent := congrArg String.length hcontent
      have hlenReasoning := congrArg String.length hreasoning
      rw [hlenWhole, hwhole, hempty] at hlenContent
      rw [hlenStream, hstream, htotal] at hlenReasoning
      have hnoShared := @total_eq_zero (c.parts.filterMap GeminiPart.shared?) (by omega)
      have hnoInit := @total_eq_zero init (by omega)
      refine ⟨total_media _ (by omega), Or.inr ⟨last, ?_, hnoShared⟩⟩
      rw [hnoInit]
      rfl
    · rintro ⟨hmedia, hnone | ⟨s, hone, hnoShared⟩⟩
      · exact absurd hnone (List.append_ne_nil_of_right_ne_nil _ (List.cons_ne_nil _ _))
      · have hpieces : c.parts.filterMap GeminiPart.streamPiece = c.thoughts :=
          filterMap_or_right hnoShared
        rw [hshared hmedia, hnoShared, hpieces, hlast, hone]
        have hsame : last = s := by
          have := congrArg List.getLast? hone
          rw [List.getLast?_concat] at this
          exact Option.some.inj this
        refine ⟨rfl, ?_⟩
        rw [hsame]
        exact String.append_empty.symm

/-- Every candidate behind one with calls has calls. -/
def CallsToTheEnd (candidates : List GeminiChatCandidate) : Prop :=
  candidates.Pairwise fun a b => a.calls ≠ [] → b.calls ≠ []

theorem candidates_agree_iff (lib : JsonLib) {candidates : List GeminiChatCandidate}
    (hplain : ∀ c ∈ candidates, ∀ part ∈ c.parts, part.Plain) (isToolCall : Bool) :
    (wholeCandidates lib isToolCall candidates).map wholeView =
        candidates.map (fun c => streamView (streamCandidate lib c)) ↔
      (∀ c ∈ candidates, c.Agreeable ∧ (isToolCall = true → c.calls ≠ [])) ∧
        CallsToTheEnd candidates := by
  induction candidates generalizing isToolCall with
  | nil => exact iff_of_true rfl ⟨nofun, List.Pairwise.nil⟩
  | cons c rest ih =>
    obtain ⟨hc, hrest⟩ := List.forall_mem_cons.mp hplain
    obtain ⟨hview, hflag⟩ := wholeCandidate_view lib hc isToolCall
    have hbool : (isToolCall || !c.calls.isEmpty) = !c.calls.isEmpty ↔
        (isToolCall = true → c.calls ≠ []) := by
      rw [← List.isEmpty_eq_false_iff]
      cases isToolCall <;> cases c.calls.isEmpty <;> decide
    have hflagged : (isToolCall || !c.calls.isEmpty) = true ↔
        isToolCall = true ∨ c.calls ≠ [] := by
      rw [Bool.or_eq_true, Bool.not_eq_true', List.isEmpty_eq_false_iff]
    rw [wholeCandidates, List.map_cons, List.map_cons, List.cons_eq_cons, hview,
      streamCandidate_view lib hc, View.mk.injEq, ← and_assoc, texts_agree_iff, hbool, hflag,
      ih hrest, List.forall_mem_cons, CallsToTheEnd, CallsToTheEnd, List.pairwise_cons]
    simp only [hflagged]
    constructor
    · rintro ⟨⟨hagree, -, hown⟩, hothers, hpairs⟩
      refine ⟨⟨⟨hagree, hown⟩, fun d hd => ⟨(hothers d hd).1, fun h => ?_⟩⟩,
        fun d hd h => (hothers d hd).2 (Or.inr h), hpairs⟩
      exact (hothers d hd).2 (Or.inl h)
    · rintro ⟨⟨⟨hagree, hown⟩, hothers⟩, hfirst, hpairs⟩
      refine ⟨⟨hagree, trivial, hown⟩, fun d hd => ⟨(hothers d hd).1, ?_⟩, hpairs⟩
      rintro (h | h)
      · exact (hothers d hd).2 h
      · exact hfirst d hd h

/-- A client has the same of the completion as of the chunk if and only if every candidate is
agreeable, and every one behind a candidate with calls has calls too. -/
theorem responses_agree_iff (lib : JsonLib) (id : String) (response : GeminiChatResponse)
    (hplain : ∀ c ∈ response.candidates, ∀ part ∈ c.parts, part.Plain) :
    (responseGeminiChat2OpenAI lib id response).choices.map wholeView =
        (streamResponseGeminiChat2OpenAI lib response).1.choices.map streamView ↔
      (∀ c ∈ response.candidates, c.Agreeable) ∧ CallsToTheEnd response.candidates := by
  have h := candidates_agree_iff lib hplain false
  rw [responseGeminiChat2OpenAI, streamResponseGeminiChat2OpenAI]
  dsimp only
  rw [List.map_map]
  refine h.trans ?_
  simp only [Bool.false_eq_true, false_imp_iff, and_true]

def textLib : JsonLib := ⟨fun _ => "{}", id, fun _ => "", fun _ => ""⟩

/-- An answer, and a call after a thought. -/
def twoCandidates : GeminiChatResponse :=
  ⟨[{ parts := [{ text := "Hi" }] },
    { index := 1, parts := [{ text := "Hm", thought := true },
      { functionCall := some ⟨"look", .obj []⟩ }] }]⟩

theorem twoCandidates_agree :
    (responseGeminiChat2OpenAI textLib "1" twoCandidates).choices.map wholeView =
        [⟨"Hi", "", [], false⟩, ⟨"", "Hm", [⟨"look", "{}"⟩], true⟩] ∧
      ((responseGeminiChat2OpenAI textLib "1" twoCandidates).choices.map wholeView =
          (streamResponseGeminiChat2OpenAI textLib twoCandidates).1.choices.map streamView ↔
        (∀ c ∈ twoCandidates.candidates, c.Agreeable) ∧
          CallsToTheEnd twoCandidates.candidates) := by
  refine ⟨rfl, responses_agree_iff textLib "1" twoCandidates ?_⟩
  intro c hc part hpart
  simp only [twoCandidates, List.mem_cons, List.not_mem_nil, or_false] at hc
  rcases hc with rfl | rfl
  · simp only [List.mem_singleton] at hpart
    exact hpart ▸ ⟨rfl, rfl⟩
  · simp only [List.mem_cons, List.not_mem_nil, or_false] at hpart
    rcases hpart with rfl | rfl
    · exact ⟨rfl, rfl⟩
    · exact ⟨rfl, rfl⟩

/-- A thought and the answer. -/
def thoughtAnswer : GeminiChatResponse :=
  ⟨[{ parts := [{ text := "Hm", thought := true }, { text := "Hi" }] }]⟩

/-- In the chunk the answer is part of the reasoning. -/
theorem answer_taken_for_thought :
    (responseGeminiChat2OpenAI textLib "1" thoughtAnswer).choices.map wholeView =
        [⟨"Hi", "Hm", [], false⟩] ∧
      (streamResponseGeminiChat2OpenAI textLib thoughtAnswer).1.choices.map streamView =
        [⟨"", "Hm\nHi", [], false⟩] := by
  constructor <;> rfl

end YouBox.GeminiReplies
