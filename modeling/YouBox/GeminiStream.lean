import YouBox.ChatReplies
import YouBox.GeminiChat

/-!
# Streamed tool calls for Gemini clients

`StreamResponseOpenAI2Gemini` turns one chunk of a chat stream into a chunk of the
Gemini format, which has no partial calls. It keeps nothing between chunks: every
fragment of a call becomes a call of its own (`emitted_eq`).

`gather` puts the fragments of each call together. `calls_whole_iff` says that the
Gemini chunks contain the complete calls only where no call comes in two fragments.
-/

namespace YouBox.GeminiStream

open Responses (Json)
open GeminiChat (GeminiPart FunctionCall)
open ChatReplies

/-! ## The code -/

/-- A chunk with its usage. -/
structure OpenAIChunk (υ : Type) extends StreamChunk where
  usage : Option υ := none

structure GeminiChatCandidate where
  index : Int
  finishReason : Option String
  role : String := "model"
  parts : List GeminiPart

structure GeminiChatResponse (ω : Type) where
  candidates : List GeminiChatCandidate
  usageMetadata : ω

/-- `common.Unmarshal` into a map, and the usage of a chunk as Gemini gives it. -/
structure Lib (υ ω : Type) where
  unmarshalObject : String → Option Json
  usageMetadata : Option υ → ω

variable {υ ω : Type}

def StreamChoice.hasContent (c : StreamChoice) : Bool :=
  c.delta.content.getD "" ≠ "" || !c.delta.fragments.isEmpty

def geminiFinishReason (finishReason : String) : String :=
  match finishReason with
  | "stop" => "STOP"
  | "length" => "MAX_TOKENS"
  | "content_filter" => "SAFETY"
  | "tool_calls" => "STOP"
  | _ => "STOP"

/-- The arguments of a call; what is no object becomes an argument itself. -/
def decodeArguments (lib : Lib υ ω) (arguments : String) : Json :=
  if arguments ≠ "" then
    (lib.unmarshalObject arguments).getD (.obj [("arguments", .str arguments)])
  else .obj []

def callPart (lib : Lib υ ω) (c : ToolCallResponse) : GeminiPart where
  functionCall := some ⟨c.function.name, decodeArguments lib c.function.arguments⟩

def choiceParts (lib : Lib υ ω) (delta : StreamDelta) : List GeminiPart :=
  match delta.toolCalls with
  | some toolCalls => toolCalls.map (callPart lib)
  | none => if delta.content.getD "" ≠ "" then [{ text := delta.content.getD "" }] else []

def streamResponseOpenAI2Gemini (lib : Lib υ ω) (chunk : OpenAIChunk υ) :
    Option (GeminiChatResponse ω) :=
  let hasContent := chunk.choices.any StreamChoice.hasContent
  let hasFinishReason := chunk.choices.any (·.finishReason.isSome)
  if !hasContent && !hasFinishReason then none
  else some {
    candidates := chunk.choices.map fun choice => {
      index := choice.index
      finishReason := choice.finishReason.map geminiFinishReason
      parts := choiceParts lib choice.delta }
    usageMetadata := lib.usageMetadata chunk.usage }

/-- The function calls in the Gemini chunks of a stream, by candidate. -/
def emitted (lib : Lib υ ω) (chunks : List (OpenAIChunk υ)) : List (Int × FunctionCall) :=
  (chunks.filterMap (streamResponseOpenAI2Gemini lib)).flatMap fun response =>
    response.candidates.flatMap fun candidate =>
      (candidate.parts.filterMap (·.functionCall)).map (candidate.index, ·)

/-! ## What is meant -/

/-- The choice and the tool index of a call. -/
abbrev Key := Int × Option Int

/-- The fragments of a stream in the order in which they come. -/
def fragments (chunks : List (OpenAIChunk υ)) : List (Key × FunctionResponse) :=
  chunks.flatMap fun chunk => chunk.choices.flatMap fun choice =>
    choice.delta.fragments.map fun c => ((choice.index, c.index), c.function)

/-- A fragment goes behind the arguments of its call, or begins a call. -/
def gatherOne (calls : List (Key × FunctionResponse)) (f : Key × FunctionResponse) :
    List (Key × FunctionResponse) :=
  if f.1 ∈ calls.map (·.1) then
    calls.map fun call =>
      if call.1 = f.1 then
        (call.1, { call.2 with arguments := call.2.arguments ++ f.2.arguments })
      else call
  else calls ++ [f]

/-- The complete calls: one for each key, with the name of its first fragment. -/
def gather (fs : List (Key × FunctionResponse)) : List (Key × FunctionResponse) :=
  fs.foldl gatherOne []

def decoded (lib : Lib υ ω) (call : Key × FunctionResponse) : Int × FunctionCall :=
  (call.1.1, ⟨call.2.name, decodeArguments lib call.2.arguments⟩)

/-! ## Every fragment a call -/

theorem choice_calls (lib : Lib υ ω) (choice : StreamChoice) :
    (choiceParts lib choice.delta).filterMap (·.functionCall) =
      choice.delta.fragments.map fun c =>
        ⟨c.function.name, decodeArguments lib c.function.arguments⟩ := by
  rw [choiceParts, StreamDelta.fragments]
  cases choice.delta.toolCalls with
  | some toolCalls =>
    rw [List.filterMap_map]
    exact congrFun List.filterMap_eq_map toolCalls
  | none =>
    dsimp only
    split <;> rfl

theorem fragments_of_skipped {lib : Lib υ ω} {chunk : OpenAIChunk υ}
    (h : streamResponseOpenAI2Gemini lib chunk = none) : ∀ choice ∈ chunk.choices,
    choice.delta.fragments = [] := by
  intro choice hchoice
  unfold streamResponseOpenAI2Gemini at h
  dsimp only at h
  split at h
  · rename_i hskip
    rw [Bool.and_eq_true, Bool.not_eq_true'] at hskip
    have hcontent := List.any_eq_false.mp hskip.1 choice hchoice
    rw [StreamChoice.hasContent, Bool.or_eq_true, not_or, Bool.not_eq_true', Bool.not_eq_false,
      List.isEmpty_iff] at hcontent
    exact hcontent.2
  · cases h

theorem emitted_eq (lib : Lib υ ω) (chunks : List (OpenAIChunk υ)) :
    emitted lib chunks = (fragments chunks).map (decoded lib) := by
  induction chunks with
  | nil => rfl
  | cons chunk rest ih =>
    have hchunk : ((streamResponseOpenAI2Gemini lib chunk).toList.flatMap fun response =>
        response.candidates.flatMap fun candidate =>
          (candidate.parts.filterMap (·.functionCall)).map (candidate.index, ·)) =
        (chunk.choices.flatMap fun choice =>
          choice.delta.fragments.map fun c =>
            ((choice.index, c.index), c.function)).map (decoded lib) := by
      rw [List.map_flatMap]
      cases hskip : streamResponseOpenAI2Gemini lib chunk with
      | none =>
        rw [Option.toList_none, List.flatMap_nil, eq_comm, List.flatMap_eq_nil_iff]
        intro choice hchoice
        rw [fragments_of_skipped hskip choice hchoice]
        rfl
      | some response =>
        unfold streamResponseOpenAI2Gemini at hskip
        dsimp only at hskip
        split at hskip
        · cases hskip
        · cases hskip
          rw [Option.toList_some, List.flatMap_singleton, List.flatMap_map]
          refine List.flatMap_congr fun choice _ => ?_
          rw [choice_calls, List.map_map, List.map_map]
          rfl
    rw [fragments, List.flatMap_cons, List.map_append, ← fragments, ← ih, ← hchunk, emitted,
      List.filterMap_cons]
    cases streamResponseOpenAI2Gemini lib chunk with
    | none => rfl
    | some response => rw [List.flatMap_cons, Option.toList_some, List.flatMap_singleton, emitted]

/-! ## The complete calls -/

theorem gather_length {calls : List (Key × FunctionResponse)} (fs : List (Key × FunctionResponse))
    (h : (calls.map (·.1)).Nodup) :
    (fs.foldl gatherOne calls).length ≤ calls.length + fs.length ∧
      ((fs.foldl gatherOne calls).length = calls.length + fs.length ↔
        (calls.map (·.1) ++ fs.map (·.1)).Nodup) := by
  induction fs generalizing calls with
  | nil => exact ⟨Nat.le_refl _, iff_of_true rfl (by rwa [List.map_nil, List.append_nil])⟩
  | cons f rest ih =>
    rw [List.foldl_cons, List.length_cons, List.map_cons]
    by_cases hin : f.1 ∈ calls.map (·.1)
    · have hkeys : (gatherOne calls f).map (·.1) = calls.map (·.1) := by
        rw [gatherOne, if_pos hin, List.map_map]
        refine List.map_congr_left fun call _ => ?_
        dsimp only [Function.comp_apply]
        split <;> rfl
      have hlength := congrArg List.length hkeys
      rw [List.length_map, List.length_map] at hlength
      obtain ⟨hle, -⟩ := ih (hkeys ▸ h)
      rw [hlength] at hle
      refine ⟨by omega, iff_of_false (by omega) fun hnodup => ?_⟩
      exact (List.nodup_append.mp hnodup).2.2 _ hin _ List.mem_cons_self rfl
    · have hkeys : (gatherOne calls f).map (·.1) = calls.map (·.1) ++ [f.1] := by
        rw [gatherOne, if_neg hin, List.map_append]
        rfl
      have hlength := congrArg List.length hkeys
      rw [List.length_map, List.length_append, List.length_map, List.length_singleton] at hlength
      have hnodup : ((gatherOne calls f).map (·.1)).Nodup := by
        rw [hkeys, ← List.concat_eq_append]
        exact h.concat hin
      obtain ⟨hle, hiff⟩ := ih hnodup
      rw [hkeys, List.append_assoc, List.singleton_append, hlength] at hiff
      rw [hlength] at hle
      refine ⟨by omega, ?_⟩
      rw [← hiff]
      omega

theorem gather_of_nodup {calls fs : List (Key × FunctionResponse)}
    (h : (calls.map (·.1) ++ fs.map (·.1)).Nodup) : fs.foldl gatherOne calls = calls ++ fs := by
  induction fs generalizing calls with
  | nil => exact (List.append_nil calls).symm
  | cons f rest ih =>
    have hnew : f.1 ∉ calls.map (·.1) := fun hin =>
      (List.nodup_append.mp h).2.2 _ hin _ List.mem_cons_self rfl
    rw [List.foldl_cons, gatherOne, if_neg hnew, ih, List.append_assoc]
    · rfl
    · rwa [List.map_append, List.append_assoc]

/-- The Gemini chunks contain the complete calls if and only if no call comes in two
fragments. -/
theorem calls_whole_iff (lib : Lib υ ω) (chunks : List (OpenAIChunk υ)) :
    (emitted lib chunks).Perm ((gather (fragments chunks)).map (decoded lib)) ↔
      ((fragments chunks).map (·.1)).Nodup := by
  rw [emitted_eq]
  constructor
  · intro h
    have hlength := h.length_eq
    rw [List.length_map, List.length_map] at hlength
    have hiff := (@gather_length [] (fragments chunks) List.nodup_nil).2
    rw [← gather] at hiff
    exact hiff.mp (by rw [List.length_nil, Nat.zero_add, hlength])
  · intro h
    rw [gather, @gather_of_nodup [] _ h, List.nil_append]

/-- An object, and usage left out. -/
def parisLib : Lib Unit Unit where
  unmarshalObject s :=
    if s = "\x7b\"city\":\"Paris\"\x7d" then some (.obj [("city", .str "Paris")]) else none
  usageMetadata _ := ()

def fragmentChunk (name arguments : String) : OpenAIChunk Unit where
  choices := [{
    delta := { toolCalls := some [{ index := some 0, function := { name, arguments } }] } }]

/-- A call in two fragments becomes two calls, neither with its arguments. -/
theorem call_in_two :
    emitted parisLib [fragmentChunk "weather" "\x7b\"city\":", fragmentChunk "" "\"Paris\"\x7d"] =
        [(0, ⟨"weather", .obj [("arguments", .str "\x7b\"city\":")]⟩),
          (0, ⟨"", .obj [("arguments", .str "\"Paris\"\x7d")]⟩)] ∧
      (gather (fragments [fragmentChunk "weather" "\x7b\"city\":",
          fragmentChunk "" "\"Paris\"\x7d"])).map (decoded parisLib) =
        [(0, ⟨"weather", .obj [("city", .str "Paris")]⟩)] := by
  constructor <;> rfl

end YouBox.GeminiStream
