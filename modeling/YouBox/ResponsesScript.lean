import YouBox.Parts
import YouBox.RequestTrip
import YouBox.ResponsesToChat

/-!
# The Responses stream of one response

A stream speaks of the output items of one response by their position. A
`Signal` is what the converter can learn from one event, a script is the
signals of all events before the terminal one, and `Carries` says which
events give a signal: every field it does not mention is free.

`Valid` is what makes a script a stream of these items: item events carry
the item's ids, arguments only grow and add up to the item's, messages
and reasoning items come whole or not at all, and what does not come is
among the items that the terminal event repeats. `Lossless` is what the
chunks should be, `OnceEach` the condition under which they are.
-/

namespace YouBox.Responses

open Interleave

/-! ## Signals -/

inductive Signal where
  | item (n : Nat) (out : ResponsesOutput)
  | argsDelta (n : Nat) (delta : String)
  | argsDone (n : Nat)
  | text (n : Nat) (delta : String)
  | reasoning (n : Nat) (delta : String)
  | reasoningDone
  | other

inductive Carries (items : List ResponsesOutput) : Signal → ResponsesStreamResponse → Prop where
  | item {event} {n : Nat} {out}
      (htype : event.type = .outputItemAdded ∨ event.type = .outputItemDone)
      (hindex : event.outputIndex = some (n : Int)) (hitem : event.item = some out) :
      Carries items (.item n out) event
  | argsDelta {event} {n : Nat} {item delta}
      (htype : event.type = .functionArgsDelta ∨ event.type = .customToolInputDelta)
      (hindex : event.outputIndex = some (n : Int)) (hitem : items[n]? = some item)
      (hid : event.itemId = item.id) (hnone : event.item = none) (hdelta : event.delta = delta) :
      Carries items (.argsDelta n delta) event
  | argsDone {event} {n : Nat} {item}
      (htype : event.type = .functionArgsDone ∨ event.type = .customToolInputDone)
      (hindex : event.outputIndex = some (n : Int)) (hitem : items[n]? = some item)
      (hid : event.itemId = item.id) (hnone : event.item = none) :
      Carries items (.argsDone n) event
  | text {event} {n : Nat} {delta}
      (htype : event.type = .outputTextDelta) (hindex : event.outputIndex = some (n : Int))
      (hdelta : event.delta = delta) : Carries items (.text n delta) event
  | reasoning {event} {n : Nat} {delta}
      (htype : event.type = .reasoningSummaryDelta ∨ event.type = .reasoningTextDelta)
      (hindex : event.outputIndex = some (n : Int)) (hdelta : event.delta = delta) :
      Carries items (.reasoning n delta) event
  | reasoningDone {event}
      (htype : event.type = .reasoningSummaryDone ∨ event.type = .reasoningTextDone) :
      Carries items .reasoningDone event
  | other {event}
      (htype : event.type = .created ∨ event.type = .outputTextDone ∨
        ∃ type, event.type = .other type) : Carries items .other event

def Signal.announces (n : Nat) : Signal → Bool
  | .item k _ => k = n
  | _ => false

/-- The signal says something of item `n` that the table of tools keeps. -/
def Signal.mentions (n : Nat) : Signal → Prop
  | .item k _ => k = n
  | .argsDelta k delta => k = n ∧ delta ≠ ""
  | .argsDone k => k = n
  | _ => False

/-- The tool that a signal finds or else makes. -/
def Signal.keys : Signal → Option Nat
  | .item n out => if isResponsesToolOutputType out.type then some n else none
  | .argsDone n => some n
  | _ => none

def tell (n : Nat) (text : String) : Signal → String
  | .item k out => if k = n ∧ out.argumentsString ≠ "" then out.argumentsString else text
  | .argsDelta k delta => if k = n then text ++ delta else text
  | _ => text

/-- The arguments of item `n` as far as the script tells them. -/
def told (n : Nat) (script : List Signal) : String :=
  script.foldl (tell n) ""

def announced (n : Nat) (script : List Signal) : Bool :=
  script.any (·.announces n)

/-- The tools in the order of their indexes. -/
def keyed (script : List Signal) : List Nat :=
  script.foldl (fun seen signal => signal.keys.elim seen (note seen)) []

/-- The arguments of item `n` are done before the item is seen. -/
def Early (n : Nat) (script : List Signal) : Prop :=
  ∃ before after, script = before ++ .argsDone n :: after ∧ announced n before = false

def textWrites (script : List Signal) : List (Nat × String) :=
  script.filterMap fun
    | .text n delta => some (n, delta)
    | _ => none

def reasoningWrites (script : List Signal) : List (Nat × String) :=
  script.filterMap fun
    | .reasoning n delta => some (n, delta)
    | _ => none

/-- Reasoning with its summary breaks: the fragments, and whether a break
is due before the next. -/
def breakUp (sofar : List String × Bool) : Signal → List String × Bool
  | .reasoning _ delta =>
    if delta = "" then sofar
    else
      (sofar.1 ++
        [if sofar.2 then ResponsesToChatStreamState.summaryBreak delta else delta], false)
  | .reasoningDone => (sofar.1, sofar.2 || sofar.1 ≠ [])
  | _ => sofar

def brokenUp (script : List Signal) : List String × Bool :=
  script.foldl breakUp ([], false)

/-! ## Valid streams -/

def Tool (items : List ResponsesOutput) (n : Nat) (item : ResponsesOutput) : Prop :=
  items[n]? = some item ∧ isResponsesToolOutputType item.type = true

def textAt (items : List ResponsesOutput) (n : Nat) : String :=
  match items[n]? with
  | some item => if item.type = responsesOutputTypeMessage then
      ResponsesToChatStreamState.outputText item else ""
  | none => ""

def reasoningAt (items : List ResponsesOutput) (n : Nat) : String :=
  match items[n]? with
  | some item => if item.type = responsesOutputTypeReasoning then
      ResponsesToChatStreamState.reasoningText item else ""
  | none => ""

/-- A signal names an item of its kind. -/
def Fits (items : List ResponsesOutput) : Signal → Prop
  | .item n out =>
    ∃ item, items[n]? = some item ∧ out.type = item.type ∧ out.id = item.id ∧
      out.callId = item.callId ∧ out.name = item.name
  | .argsDelta n _ => ∃ item, Tool items n item
  | .argsDone n => ∃ item, Tool items n item
  | .text n _ => n < items.length
  | .reasoning n _ => n < items.length
  | _ => True

/-- The parts of a text come in order, each of them whole or not at all. -/
structure InParts (m : Nat) (ws : List (Nat × String)) (whole : Nat → String)
    (again : List Nat) : Prop where
  sorted : (ws.map (·.1)).Pairwise (· ≤ ·)
  said : ∀ n < m, textOf n ws = whole n ∨ textOf n ws = "" ∧ n ∈ again

structure Valid (items : List ResponsesOutput) (script : List Signal) (again : List Nat) :
    Prop where
  fits : ∀ signal ∈ script, Fits items signal
  trimmed : ∀ n item, Tool items n item →
    Trimmed item.id ∧ Trimmed item.callId ∧ Trimmed item.name
  distinct : ∀ n k item other, Tool items n item → Tool items k other → item.id = other.id → n = k
  grows : ∀ before n out after, script = before ++ .item n out :: after →
    isResponsesToolOutputType out.type = true →
    out.argumentsString = "" ∨ ∃ more, out.argumentsString = told n before ++ more
  complete : ∀ n item, Tool items n item → announced n script = true →
    told n script = item.argumentsString
  sublist : again.Sublist (List.range items.length)
  tools : ∀ n item, Tool items n item → announced n script = true ∨ n ∈ again
  text : InParts items.length (textWrites script) (textAt items) again
  reasoning : InParts items.length (reasoningWrites script) (reasoningAt items) again

/-- The terminal event, with the items that it repeats. -/
structure Ends (items : List ResponsesOutput) (again : List Nat)
    (event : ResponsesStreamResponse) : Prop where
  type : event.type = .completed ∨ event.type = .done ∨ event.type = .incomplete
  output : (event.response.map (·.output)).getD [] = again.filterMap (items[·]?)

/-! ## What the chunks say -/

def textsOf (chunks : List ChatChunk) : List String :=
  chunks.flatMap fun chunk => chunk.choices.flatMap (·.delta.content.toList)

def reasoningsOf (chunks : List ChatChunk) : List String :=
  chunks.flatMap fun chunk => chunk.choices.flatMap (·.delta.reasoningContent.toList)

def callsOf (chunks : List ChatChunk) : List ToolCallResponse :=
  chunks.flatMap fun chunk => chunk.choices.flatMap (·.delta.toolCalls)

def ownCalls (k : Nat) (calls : List ToolCallResponse) : List ToolCallResponse :=
  calls.filter fun call => call.index = k

/-- The calls under one index are those of one item. -/
structure SpellsOne (own : List ToolCallResponse) (item : ResponsesOutput) : Prop where
  heard : own ≠ []
  ids : ∀ call ∈ own, call.id = item.callId
  name : String.join (own.map (·.name)) = item.name
  arguments : String.join (own.map (·.arguments)) = item.argumentsString

structure Spells (calls : List ToolCallResponse) (tools : List ResponsesOutput) : Prop where
  bounded : ∀ call ∈ calls, call.index < tools.length
  each : ∀ k item, tools[k]? = some item → SpellsOne (ownCalls k calls) item

def IsStart (chunk : ChatChunk) : Prop :=
  chunk.choices = [{ delta := { role := "assistant", content := some "" }, finishReason := none }]

def IsContent (chunk : ChatChunk) : Prop :=
  ∃ delta, chunk.choices = [{ delta := delta, finishReason := none }] ∧ delta.role = ""

def IsFinish (chunk : ChatChunk) : Prop :=
  ∃ reason, chunk.choices = [{ delta := {}, finishReason := some reason }]

/-- One role chunk first, one finish chunk after all content. -/
def Framed (chunks : List ChatChunk) : Prop :=
  ∃ start body finish usage, chunks = start :: (body ++ finish :: usage) ∧ IsStart start ∧
    (∀ chunk ∈ body, IsContent chunk) ∧ IsFinish finish ∧ ∀ chunk ∈ usage, chunk.choices = []

structure Lossless (items : List ResponsesOutput) (script : List Signal)
    (chunks : List ChatChunk) : Prop where
  framed : Framed chunks
  tools : ∃ tools, tools.Perm (items.filter fun item => isResponsesToolOutputType item.type) ∧
    Spells (callsOf chunks) tools
  text : String.join (textsOf chunks)
    = String.join ((items.filter fun item => item.type = responsesOutputTypeMessage).map
        ResponsesToChatStreamState.outputText)
  reasoning : ∃ rest, reasoningsOf chunks = (brokenUp script).1 ++ rest ∧
    String.join ((reasoningWrites script).map (·.2) ++ rest)
      = String.join ((items.filter fun item => item.type = responsesOutputTypeReasoning).map
          ResponsesToChatStreamState.reasoningText)

/-- Everything was said, or one part holds all of the text. -/
def SaidOrSingle (m : Nat) (ws : List (Nat × String)) (whole : Nat → String) : Prop :=
  (∀ n < m, textOf n ws = whole n) ∨
    ∀ i < m, ∀ j < m, whole i ≠ "" → whole j ≠ "" → i = j

/-- No tool item is told by the stream and repeated by the terminal
event, none has its arguments done before it is seen unless its two ids
are one, and of the texts that are not told at most one is there. -/
structure OnceEach (items : List ResponsesOutput) (script : List Signal) (again : List Nat) :
    Prop where
  tools : ∀ n ∈ again, ∀ item, Tool items n item → ∀ signal ∈ script, ¬ signal.mentions n
  named : ∀ n item, Tool items n item → Early n script → item.id = item.callId
  text : SaidOrSingle items.length (textWrites script) (textAt items)
  reasoning : SaidOrSingle items.length (reasoningWrites script) (reasoningAt items)

/-! ## Scripts one signal longer -/

section Append

variable (n : Nat) (script : List Signal) (signal : Signal)

theorem told_append : told n (script ++ [signal]) = tell n (told n script) signal := by
  simp [told]

theorem announced_append :
    announced n (script ++ [signal]) = (announced n script || signal.announces n) := by
  simp [announced]

theorem keyed_append :
    keyed (script ++ [signal]) = signal.keys.elim (keyed script) (note (keyed script)) := by
  simp [keyed]

theorem brokenUp_append : brokenUp (script ++ [signal]) = breakUp (brokenUp script) signal := by
  simp [brokenUp]

theorem textWrites_append :
    textWrites (script ++ [signal]) = textWrites script ++ textWrites [signal] := by
  simp [textWrites]

theorem reasoningWrites_append :
    reasoningWrites (script ++ [signal]) = reasoningWrites script ++ reasoningWrites [signal] := by
  simp [reasoningWrites]

variable {n script signal}

theorem early_append :
    Early n (script ++ [signal]) ↔
      Early n script ∨ signal = .argsDone n ∧ announced n script = false := by
  constructor
  · rintro ⟨before, after, hscript, hbefore⟩
    rcases List.eq_nil_or_concat after with rfl | ⟨after, last, rfl⟩
    · obtain ⟨rfl, hlast⟩ := List.append_inj' hscript rfl
      exact .inr ⟨by simpa using hlast, hbefore⟩
    · have hscript : script ++ [signal] = (before ++ .argsDone n :: after) ++ [last] := by
        simpa using hscript
      obtain ⟨rfl, -⟩ := List.append_inj' hscript rfl
      exact .inl ⟨before, after, rfl, hbefore⟩
  · rintro (⟨before, after, rfl, hbefore⟩ | ⟨rfl, hbefore⟩)
    · exact ⟨before, after ++ [signal], by simp, hbefore⟩
    · exact ⟨script, [], rfl, hbefore⟩

end Append

/-! ## Checks -/

theorem mem_of_early {n : Nat} {script : List Signal} (h : Early n script) :
    .argsDone n ∈ script := by
  obtain ⟨before, after, rfl, -⟩ := h
  simp

theorem not_early {n : Nat} {before : List Signal} (hannounced : announced n before = true)
    (hnone : .argsDone n ∉ before) (rest : List Signal) : ¬ Early n (before ++ rest) := by
  induction rest using List.reverseRecOn with
  | nil =>
    rw [List.append_nil]
    exact fun h => hnone (mem_of_early h)
  | append_singleton rest signal ih =>
    rw [← List.append_assoc, early_append]
    rintro (h | ⟨-, hnot⟩)
    · exact ih h
    · simp [announced, List.any_append] at hnot hannounced
      obtain ⟨earlier, hmem, hearlier⟩ := hannounced
      simp [hnot.1 earlier hmem] at hearlier

/-- `Valid.grows` from the signals `before` on. -/
def growsFrom (before : List Signal) : List Signal → Bool
  | [] => true
  | signal :: rest =>
    (match signal with
      | .item n out =>
        !isResponsesToolOutputType out.type || out.argumentsString == "" ||
          ChannelSwitch.hasPrefix out.argumentsString (told n before)
      | _ => true) && growsFrom (before ++ [signal]) rest

theorem grows_of_growsFrom {start script : List Signal} (h : growsFrom start script = true) :
    ∀ before n out after, script = before ++ .item n out :: after →
      isResponsesToolOutputType out.type = true →
      out.argumentsString = "" ∨ ∃ more, out.argumentsString = told n (start ++ before) ++ more := by
  intro before n out after hscript htype
  induction before generalizing start script with
  | nil =>
    subst hscript
    simp only [List.nil_append, growsFrom, htype, Bool.not_true, Bool.false_or, Bool.and_eq_true,
      Bool.or_eq_true, beq_iff_eq] at h
    refine h.1.imp_right fun hstart => ?_
    obtain ⟨more, hmore⟩ := List.isPrefixOf_iff_prefix.1 hstart
    refine ⟨String.ofList more, String.toList_inj.1 ?_⟩
    rw [List.append_nil, String.toList_append, String.toList_ofList, hmore]
  | cons signal rest ih =>
    subst hscript
    have hrest := ih (Bool.and_eq_true_iff.1 h).2 rfl
    simpa using hrest

end YouBox.Responses
