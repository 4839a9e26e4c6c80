import YouBox.BlocksConversation

/-!
# Where the Claude converters panic

`Safe` says of a computation that it does not panic, and what holds of its
result; `Safe.bind` and `Safe.foldlM` carry it through the loops. Most assertions
of the two converters are safe: what the block pass finds in a message of the
user is a text or a slice it has put there itself (`Plain`), and a message is
taken off only behind another one (`mergeStep_safe`).

Three are not: the type in the parameters of a tool, the stop sequences in an
array, and the source of an image. `converters_safe_iff` gives the requests that
these spare.
-/

namespace YouBox.ClaudeChat

open Responses

/-! ## Computations without a panic -/

/-- The computation ends in an error or in a result with this property. -/
def Safe {α : Type} (x : Except Failure α) (P : α → Prop) : Prop :=
  match x with
  | .ok a => P a
  | .error f => f.isPanic = false

namespace Safe

variable {α β : Type} {x : Except Failure α} {P : α → Prop}

theorem error (message : String) : Safe (.error (.error message)) P := rfl

theorem imp {Q : α → Prop} (h : Safe x P) (hPQ : ∀ a, P a → Q a) : Safe x Q := by
  cases x with
  | ok a => exact hPQ a h
  | error f => exact h

theorem bind {f : α → Except Failure β} {Q : β → Prop} (hx : Safe x P)
    (hf : ∀ a, P a → Safe (f a) Q) : Safe (x >>= f) Q := by
  cases x with
  | ok a => exact hf a hx
  | error f => exact hx

theorem foldlM {step : β → α → Except Failure β} {Inv : β → Prop}
    (hstep : ∀ s a, Inv s → Safe (step s a) Inv) (l : List α) {s : β} (hs : Inv s) :
    Safe (l.foldlM step s) Inv := by
  induction l generalizing s with
  | nil => exact hs
  | cons a rest ih =>
    rw [List.foldlM_cons]
    exact (hstep s a hs).bind fun s' hs' => ih hs'

end Safe

/-- The computation does not panic. -/
def NoPanic {α : Type} (x : Except Failure α) : Prop := ∀ message, x ≠ .error (.panic message)

theorem Safe.noPanic {α : Type} {x : Except Failure α} {P : α → Prop} (h : Safe x P) :
    NoPanic x := by
  rintro message rfl
  cases h

theorem noPanic_ok {α : Type} (a : α) : NoPanic (.ok a) := nofun

theorem noPanic_bind_iff {α β : Type} {x : Except Failure α} {f : α → Except Failure β}
    (hf : ∀ a, NoPanic (f a)) : NoPanic (x >>= f) ↔ NoPanic x := by
  cases x with
  | ok a => exact ⟨fun _ => nofun, fun _ => hf a⟩
  | error e => exact ⟨fun h message he => h message (by cases he; rfl),
      fun h message he => h message (by cases he; rfl)⟩

/-! ## The messages of a chat -/

theorem mergeStep_safe (s : MergeState) (m : Message)
    (hs : s.lastMessage.role = "tool" ∨ s.formatMessages ≠ []) :
    Safe (mergeStep s m) fun s' => s'.lastMessage.role = "tool" ∨ s'.formatMessages ≠ [] := by
  unfold mergeStep
  dsimp only
  split
  · rename_i hjoins
    have hrole : s.lastMessage.role ≠ "tool" :=
      of_decide_eq_true (Bool.and_eq_true_iff.mp (Bool.and_eq_true_iff.mp hjoins).1).2
    rw [cutLast, if_neg (hs.resolve_left hrole)]
    exact .inr (List.concat_ne_nil _ _)
  · exact .inr (List.concat_ne_nil _ _)

theorem mediaBlocks_safe (resolve : Resolve) (media : List MediaContent) :
    Safe (mediaBlocks resolve media) fun _ => True := by
  induction media with
  | nil => exact trivial
  | cons part rest ih =>
    unfold mediaBlocks
    split
    · exact ih.bind fun _ _ => trivial
    · exact ih
    · split
      · exact .error _
      · exact ih.bind fun _ _ => trivial

theorem messageContent_safe (lib : Lib) (resolve : Resolve) (m : Message) :
    Safe (messageContent lib resolve m) fun content =>
      assertBlocks content = .ok (contentBlocks content) := by
  unfold messageContent
  split
  · exact rfl
  · exact (mediaBlocks_safe resolve _).bind fun _ _ => rfl

theorem blockStep_safe (lib : Lib) (resolve : Resolve) (s : BlockState) (m : Message)
    (hs : ∀ c ∈ s.claudeMessages, Plain c) :
    Safe (blockStep lib resolve s m) fun s' => ∀ c ∈ s'.claudeMessages, Plain c := by
  unfold blockStep
  split
  · exact hs
  · have hopened := plain_opened hs m
    unfold opened at hopened
    dsimp only
    split
    · obtain ⟨after, hafter, happ⟩ := appends_toolResult hopened m
      rw [hafter]
      exact happ.plain
    · refine (messageContent_safe lib resolve m).bind fun content hcontent => ?_
      exact (appends_message hopened { role := m.role, content } hcontent).plain

theorem convertMessages_safe (lib : Lib) (resolve : Resolve) (messages : List Message) :
    Safe (convertMessages lib resolve messages) fun _ => True := by
  refine (Safe.foldlM mergeStep_safe messages (.inl rfl)).bind fun merged _ => ?_
  have hnone : ∀ c ∈ ({} : BlockState).claudeMessages, Plain c := nofun
  exact (Safe.foldlM (blockStep_safe lib resolve) _ hnone).imp fun _ _ => trivial

/-! ## The fields of a chat request -/

/-- The parameters have no type, or one that is a string, if they are a map. -/
def TypeReads : Json → Prop
  | .obj params => fieldOf params "type" = .null ∨ ∃ s, fieldOf params "type" = .str s
  | _ => True

/-- An array of stop sequences holds strings only. -/
def StopReads : Json → Prop
  | .arr items => ∀ item ∈ items, ∃ s, item = .str s
  | _ => True

theorem assertString_panics {v : Json} (h : ¬ ∃ s, v = .str s) :
    ∃ message, assertString v = .error (.panic message) := by
  cases v with
  | str s => exact absurd ⟨s, rfl⟩ h
  | _ => exact ⟨_, rfl⟩

theorem claudeToolOf_reads (function : FunctionRequest) (params : JsonMap) :
    (TypeReads (.obj params) → ∃ tool, claudeToolOf function params = .ok tool) ∧
      (¬ TypeReads (.obj params) →
        ∃ message, claudeToolOf function params = .error (.panic message)) := by
  unfold claudeToolOf TypeReads
  constructor
  · rintro (hnull | ⟨s, hs⟩)
    · rw [hnull]
      exact ⟨_, rfl⟩
    · rw [hs]
      exact ⟨_, rfl⟩
  · intro h
    obtain ⟨hnull, hstring⟩ := not_or.mp h
    obtain ⟨message, hmessage⟩ := assertString_panics hstring
    refine ⟨message, ?_⟩
    have hnot : (fieldOf params "type").isNull = false := by
      cases hv : fieldOf params "type" with
      | null => exact absurd hv hnull
      | _ => rfl
    rw [hnot, if_neg Bool.false_ne_true, hmessage]
    rfl

theorem functionTools_reads (tools : List ToolCallRequest) :
    ((∀ tool ∈ tools, TypeReads tool.function.parameters) →
        ∃ converted, functionTools tools = .ok converted) ∧
      ((¬ ∀ tool ∈ tools, TypeReads tool.function.parameters) →
        ∃ message, functionTools tools = .error (.panic message)) := by
  induction tools with
  | nil => exact ⟨fun _ => ⟨[], rfl⟩, fun h => absurd nofun h⟩
  | cons tool rest ih =>
    rw [List.forall_mem_cons, functionTools]
    split
    · rename_i params hparams
      rw [hparams]
      obtain ⟨hreads, hpanics⟩ := claudeToolOf_reads tool.function params
      by_cases hfirst : TypeReads (.obj params)
      · obtain ⟨first, hok⟩ := hreads hfirst
        rw [hok]
        refine ⟨fun h => ?_, fun h => ?_⟩
        · obtain ⟨others, hothers⟩ := ih.1 h.2
          rw [hothers]
          exact ⟨_, rfl⟩
        · obtain ⟨message, hmessage⟩ := ih.2 fun hrest => h ⟨hfirst, hrest⟩
          rw [hmessage]
          exact ⟨message, rfl⟩
      · obtain ⟨message, hmessage⟩ := hpanics hfirst
        rw [hmessage]
        exact ⟨fun h => absurd h.1 hfirst, fun _ => ⟨message, rfl⟩⟩
    · rename_i hnot
      have hfirst : TypeReads tool.function.parameters := by
        cases hv : tool.function.parameters with
        | obj params => exact absurd hv (hnot params)
        | _ => trivial
      exact ⟨fun h => ih.1 h.2, fun h => ih.2 fun hrest => h ⟨hfirst, hrest⟩⟩

theorem mapM_assertString (items : List Json) :
    ((∀ item ∈ items, ∃ s, item = .str s) → ∃ texts, items.mapM assertString = .ok texts) ∧
      ((¬ ∀ item ∈ items, ∃ s, item = .str s) →
        ∃ message, items.mapM assertString = .error (.panic message)) := by
  induction items with
  | nil => exact ⟨fun _ => ⟨[], rfl⟩, fun h => absurd nofun h⟩
  | cons item rest ih =>
    rw [List.forall_mem_cons, List.mapM_cons]
    by_cases hitem : ∃ s, item = .str s
    · obtain ⟨s, rfl⟩ := hitem
      refine ⟨fun h => ?_, fun h => ?_⟩
      · obtain ⟨texts, htexts⟩ := ih.1 h.2
        rw [htexts]
        exact ⟨_, rfl⟩
      · obtain ⟨message, hmessage⟩ := ih.2 fun hrest => h ⟨⟨s, rfl⟩, hrest⟩
        rw [hmessage]
        exact ⟨message, rfl⟩
    · obtain ⟨message, hmessage⟩ := assertString_panics hitem
      rw [hmessage]
      exact ⟨fun h => absurd h.1 hitem, fun _ => ⟨message, rfl⟩⟩

theorem applyStop_reads (stop : Json) (req : ClaudeRequest) :
    (StopReads stop → ∃ req', applyStop stop req = .ok req') ∧
      (¬ StopReads stop → ∃ message, applyStop stop req = .error (.panic message)) := by
  unfold applyStop StopReads
  cases stop with
  | arr items =>
    obtain ⟨hreads, hpanics⟩ := mapM_assertString items
    refine ⟨fun h => ?_, fun h => ?_⟩
    · obtain ⟨texts, htexts⟩ := hreads h
      simp only [htexts]
      exact ⟨_, rfl⟩
    · obtain ⟨message, hmessage⟩ := hpanics h
      simp only [hmessage]
      exact ⟨message, rfl⟩
  | _ => exact ⟨fun _ => ⟨_, rfl⟩, fun h => absurd trivial h⟩

/-- The reasoning of the request, if it has any, can be decoded. -/
def ReasoningReads (lib : Lib) (req : GeneralOpenAIRequest) : Prop :=
  ∀ raw ∈ req.reasoning, ∃ budget, lib.unmarshalMaxTokens raw = .ok budget

/-- The chat requests that do not make the converter panic. The stop sequences are
not reached where the reasoning cannot be decoded. -/
structure ChatReads (lib : Lib) (req : GeneralOpenAIRequest) : Prop where
  tools : ∀ tool ∈ req.tools, TypeReads tool.function.parameters
  stop : ReasoningReads lib req → StopReads req.stop

theorem applyReasoning_reads (lib : Lib) (reasoning : Option Json) (fields : ClaudeRequest) :
    ((∀ raw ∈ reasoning, ∃ budget, lib.unmarshalMaxTokens raw = .ok budget) →
        ∃ fields', applyReasoning lib reasoning fields = .ok fields') ∧
      ((¬ ∀ raw ∈ reasoning, ∃ budget, lib.unmarshalMaxTokens raw = .ok budget) →
        ∃ message, applyReasoning lib reasoning fields = .error (.error message)) := by
  unfold applyReasoning
  cases reasoning with
  | none => exact ⟨fun _ => ⟨fields, rfl⟩, fun h => absurd nofun h⟩
  | some raw =>
    dsimp only
    split
    · rename_i message hraw
      refine ⟨fun h => ?_, fun _ => ⟨message, rfl⟩⟩
      obtain ⟨budget, hbudget⟩ := h raw rfl
      rw [hraw] at hbudget
      cases hbudget
    · rename_i budget hraw
      refine ⟨fun _ => ⟨_, rfl⟩, fun h => absurd (fun r hr => ?_) h⟩
      obtain rfl := Option.mem_some_iff.mp hr
      exact ⟨budget, hraw⟩

theorem convertFields_safe_iff (lib : Lib) (settings : ClaudeSettings)
    (req : GeneralOpenAIRequest) :
    NoPanic (convertFields lib settings req) ↔ ChatReads lib req := by
  unfold convertFields
  obtain ⟨htools, htools'⟩ := functionTools_reads req.tools
  by_cases ht : ∀ tool ∈ req.tools, TypeReads tool.function.parameters
  · obtain ⟨tools, hok⟩ := htools ht
    rw [hok]
    show NoPanic (applyReasoning lib req.reasoning _ >>= fun fields => _) ↔ _
    obtain ⟨hreason, hreason'⟩ :=
      applyReasoning_reads lib req.reasoning (requestFields lib settings req tools)
    by_cases hr : ReasoningReads lib req
    · obtain ⟨fields, hfields⟩ := hreason hr
      rw [hfields]
      show NoPanic (applyStop req.stop fields) ↔ _
      obtain ⟨hstop, hstop'⟩ := applyStop_reads req.stop fields
      by_cases hs : StopReads req.stop
      · obtain ⟨claude, hclaude⟩ := hstop hs
        rw [hclaude]
        exact ⟨fun _ => ⟨ht, fun _ => hs⟩, fun _ => nofun⟩
      · obtain ⟨message, hmessage⟩ := hstop' hs
        rw [hmessage]
        exact ⟨fun h => absurd rfl (h message), fun h => absurd (h.stop hr) hs⟩
    · obtain ⟨message, hmessage⟩ := hreason' hr
      rw [hmessage]
      exact ⟨fun _ => ⟨ht, fun h => absurd h hr⟩, fun _ => nofun⟩
  · obtain ⟨message, hmessage⟩ := htools' ht
    rw [hmessage]
    exact ⟨fun h => absurd rfl (h message), fun h => absurd h.tools ht⟩

theorem chat_safe_iff (lib : Lib) (settings : ClaudeSettings) (resolve : Resolve)
    (req : GeneralOpenAIRequest) :
    NoPanic (openAIChatRequestToClaudeMessages lib settings resolve req) ↔ ChatReads lib req := by
  rw [← convertFields_safe_iff lib settings req]
  refine noPanic_bind_iff fun claude => (noPanic_bind_iff fun s => noPanic_ok _).mpr ?_
  exact (convertMessages_safe lib resolve req.messages).noPanic

/-! ## The blocks of a Claude request -/

/-- An image has a source. -/
def HasSource (b : ClaudeMediaMessage) : Prop := b.type = "image" → b.source.isSome = true

/-- The message is a text, or its blocks can be decoded. -/
def Readable (lib : Lib) (m : ClaudeMessage) : Bool :=
  m.content.isString ||
    match parseBlocks lib m.content with
    | .ok _ => true
    | .error _ => false

/-- The Claude requests that do not make the converter panic: up to the first
message that cannot be decoded, all images have a source. -/
def ImagesRead (lib : Lib) (claude : ClaudeRequest) : Prop :=
  ∀ m ∈ claude.messages.takeWhile (Readable lib), m.content.isString = false →
    ∀ b ∈ m.parsed lib, HasSource b

theorem addBlock_reads (lib : Lib) (messages : List ClaudeMessage) (parts : Parts)
    (b : ClaudeMediaMessage) :
    (HasSource b → ∃ parts', addBlock lib messages parts b = .ok parts') ∧
      (¬ HasSource b → ∃ message, addBlock lib messages parts b = .error (.panic message)) := by
  unfold HasSource
  by_cases himage : b.type = "image"
  · rw [addBlock, himage]
    cases hsource : b.source with
    | none => exact ⟨fun h => absurd (h rfl) Bool.false_ne_true, fun _ => ⟨_, rfl⟩⟩
    | some source => exact ⟨fun _ => ⟨_, rfl⟩, fun h => absurd (fun _ => rfl) h⟩
  · refine ⟨fun _ => ?_, fun h => absurd (fun h' => absurd h' himage) h⟩
    unfold addBlock
    split
    any_goals exact ⟨_, rfl⟩
    rename_i h
    exact absurd h himage

theorem addBlocks_reads (lib : Lib) (messages : List ClaudeMessage)
    (blocks : List ClaudeMediaMessage) (parts : Parts) :
    ((∀ b ∈ blocks, HasSource b) →
        ∃ parts', blocks.foldlM (addBlock lib messages) parts = .ok parts') ∧
      ((¬ ∀ b ∈ blocks, HasSource b) →
        ∃ message, blocks.foldlM (addBlock lib messages) parts = .error (.panic message)) := by
  induction blocks generalizing parts with
  | nil => exact ⟨fun _ => ⟨parts, rfl⟩, fun h => absurd nofun h⟩
  | cons b rest ih =>
    rw [List.forall_mem_cons, List.foldlM_cons]
    obtain ⟨hreads, hpanics⟩ := addBlock_reads lib messages parts b
    by_cases hb : HasSource b
    · obtain ⟨parts', hok⟩ := hreads hb
      rw [hok]
      exact ⟨fun h => (ih parts').1 h.2, fun h => (ih parts').2 fun hrest => h ⟨hb, hrest⟩⟩
    · obtain ⟨message, hmessage⟩ := hpanics hb
      rw [hmessage]
      exact ⟨fun h => absurd h.1 hb, fun _ => ⟨message, rfl⟩⟩

theorem convertMessage_reads (lib : Lib) (messages : List ClaudeMessage) (m : ClaudeMessage) :
    (Readable lib m = false → ∃ message, convertMessage lib messages m = .error (.error message)) ∧
      (Readable lib m = true →
        ((m.content.isString = false → ∀ b ∈ m.parsed lib, HasSource b) →
          ∃ out, convertMessage lib messages m = .ok out) ∧
        ((¬ (m.content.isString = false → ∀ b ∈ m.parsed lib, HasSource b)) →
          ∃ message, convertMessage lib messages m = .error (.panic message))) := by
  cases hstring : m.content.isString with
  | true =>
    obtain ⟨s, hs⟩ := AnyOf.eq_str hstring
    rw [Readable, hstring, convertMessage_string messages hs]
    exact ⟨fun h => (by cases h),
      fun _ => ⟨fun _ => ⟨_, rfl⟩, fun h => absurd (fun hfalse => by cases hfalse) h⟩⟩
  | false =>
    have hnot : ∀ s, m.content ≠ .json (.str s) := by
      intro s hs
      rw [hs] at hstring
      cases hstring
    rw [Readable, hstring, ClaudeMessage.parsed]
    cases hparse : parseBlocks lib m.content with
    | error message =>
      refine ⟨fun _ => ⟨message, ?_⟩, fun h => by cases h⟩
      unfold convertMessage
      split
      · exact absurd ‹_› (hnot _)
      · simp only [hparse]
    | ok blocks =>
      have hconvert : convertMessage lib messages m = (do
          let parts ← (blocks.getD []).foldlM (addBlock lib messages) {}
          pure (parts.toolMessages ++ unlessEmpty (messageOf m.role parts))) := by
        unfold convertMessage
        split
        · exact absurd ‹_› (hnot _)
        · simp only [hparse]
      rw [hconvert]
      refine ⟨fun h => (by cases h), fun _ => ?_⟩
      obtain ⟨hreads, hpanics⟩ := addBlocks_reads lib messages (blocks.getD []) {}
      refine ⟨fun h => ?_, fun h => ?_⟩
      · obtain ⟨parts, hok⟩ := hreads (h rfl)
        simp only [hok]
        exact ⟨_, rfl⟩
      · obtain ⟨message, hmessage⟩ := hpanics fun hall => h fun _ => hall
        simp only [hmessage]
        exact ⟨message, rfl⟩

theorem claude_safe_iff (lib : Lib) (claude : ClaudeRequest) (info : Option RelayInfo) :
    NoPanic (claudeMessagesRequestToOpenAIChat lib claude info) ↔ ImagesRead lib claude := by
  refine (noPanic_bind_iff fun converted => noPanic_ok _).trans ?_
  unfold ImagesRead
  generalize claude.messages = all
  suffices h : ∀ messages : List ClaudeMessage,
      NoPanic (messages.mapM (convertMessage lib all)) ↔
        ∀ m ∈ messages.takeWhile (Readable lib), m.content.isString = false →
          ∀ b ∈ m.parsed lib, HasSource b from h all
  intro messages
  induction messages with
  | nil => exact ⟨fun _ => nofun, fun _ => noPanic_ok _⟩
  | cons m rest ih =>
    obtain ⟨hunread, hread⟩ := convertMessage_reads lib all m
    rw [List.mapM_cons, List.takeWhile_cons]
    cases hm : Readable lib m with
    | false =>
      obtain ⟨message, hmessage⟩ := hunread hm
      rw [hmessage, if_neg Bool.false_ne_true]
      exact ⟨fun _ => nofun, fun _ => nofun⟩
    | true =>
      obtain ⟨hok, hpanic⟩ := hread hm
      rw [if_pos rfl, List.forall_mem_cons, ← ih]
      by_cases hsources : m.content.isString = false → ∀ b ∈ m.parsed lib, HasSource b
      · obtain ⟨out, hout⟩ := hok hsources
        rw [hout]
        show NoPanic (rest.mapM (convertMessage lib all) >>= fun outs => pure (out :: outs)) ↔ _
        refine (noPanic_bind_iff fun outs => noPanic_ok _).trans ?_
        exact ⟨fun h => ⟨hsources, h⟩, fun h => h.2⟩
      · obtain ⟨message, hmessage⟩ := hpanic hsources
        rw [hmessage]
        exact ⟨fun h => absurd rfl (h message), fun h => absurd h.1 hsources⟩

/-! ## Both converters -/

/-- Each converter returns a result or an error exactly where it meets none of
the three unchecked fields. -/
theorem converters_safe_iff (lib : Lib) (settings : ClaudeSettings) (resolve : Resolve)
    (req : GeneralOpenAIRequest) (claude : ClaudeRequest) (info : Option RelayInfo) :
    (NoPanic (openAIChatRequestToClaudeMessages lib settings resolve req) ↔ ChatReads lib req) ∧
      (NoPanic (claudeMessagesRequestToOpenAIChat lib claude info) ↔ ImagesRead lib claude) :=
  ⟨chat_safe_iff lib settings resolve req, claude_safe_iff lib claude info⟩

/-- A tool whose type is a list, as a schema that allows null has it. -/
def nullableTool : ToolCallRequest where
  type := "function"
  function :=
    { name := "ls"
      parameters := .obj [("type", .arr [.str "object", .str "null"])] }

theorem nullable_tool_panics :
    ¬ ∀ (lib : Lib) (settings : ClaudeSettings) (resolve : Resolve) (req : GeneralOpenAIRequest)
      (claude : ClaudeRequest) (info : Option RelayInfo),
      NoPanic (openAIChatRequestToClaudeMessages lib settings resolve req) ∧
        NoPanic (claudeMessagesRequestToOpenAIChat lib claude info) := by
  intro h
  exact (h plainLib plainSettings noMedia { model := "m", tools := [nullableTool] }
    { model := "m" } none).1 _ rfl

end YouBox.ClaudeChat
