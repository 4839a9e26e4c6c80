import YouBox.RequestTrip

/-!
# The items of a Responses request

What `responsesRequestMessagesToChat` makes of every input item. An `Entry` is
one thing said in a conversation: a call, the output of a call, or a message.
`Message.entries` reads them off the chat messages and `itemEntries` off the
items, by their type. The converter adds one entry for each item
(`inputItem_step`, `inputItems_run`), but it knows only three types by name:
the output of a custom tool and every type without a message become a message.
`items_kept_iff` says which items come through.
-/

namespace YouBox.Responses

/-! ## Entries -/

inductive Entry where
  | call (id name arguments : String)
  | output (callId : String) (content : Json)
  | message (role text : String)

def ToolCallRequest.entry (call : ToolCallRequest) : Entry :=
  .call call.id call.function.name call.function.arguments

/-- What a chat message says: its content, if it has one, and its calls. -/
def Message.entries (m : Message) : List Entry :=
  (if m.role = "tool" then [.output m.toolCallId m.content]
    else if m.content.isNull then []
    else [.message m.role m.stringContent]) ++ m.toolCalls.map ToolCallRequest.entry

variable {items : List JsonMap}

section

variable (lib : JsonLib)

def itemText (item : JsonMap) (key : String) : String := lib.interface2String (fieldOf item key)

def itemType (item : JsonMap) : String := trimSpace (itemText lib item "type")

def isTextType (type : String) : Bool :=
  type = "input_text" || type = "output_text" || type = "text"

/-- The text of a content part. -/
def partText : Json → String
  | .obj part =>
    if isTextType (trimSpace (lib.interface2String (fieldOf part "type"))) then
      lib.interface2String (fieldOf part "text")
    else ""
  | _ => ""

def contentText : Json → String
  | .str s => s
  | .arr parts => String.join (parts.map (partText lib))
  | _ => ""

/-- What an item says. An item without a type is a message. -/
def itemEntries (item : JsonMap) : List Entry :=
  if itemType lib item = "function_call" then
    [.call (itemText lib item "call_id") (itemText lib item "name")
      (responsesArgumentsString lib (fieldOf item "arguments"))]
  else if itemType lib item = "custom_tool_call" then
    [.call (itemText lib item "call_id") (itemText lib item "name")
      (responsesArgumentsString lib (fieldOf item "input"))]
  else if itemType lib item = "function_call_output" ∨
      itemType lib item = "custom_tool_call_output" then
    [.output (itemText lib item "call_id")
      (.str (responsesArgumentsString lib (fieldOf item "output")))]
  else if itemType lib item = "message" ∨ itemType lib item = "" then
    [.message (itemText lib item "role") (contentText lib (fieldOf item "content"))]
  else []

/-- The chat messages say what the items say, in their order: the calls on
assistant messages, and no message that says nothing. -/
structure KeepsItems (items : List JsonMap) (messages : List Message) : Prop where
  order : messages.flatMap Message.entries = items.flatMap (itemEntries lib)
  onAssistant : ∀ m ∈ messages, m.toolCalls ≠ [] → m.role = "assistant"
  noEmpty : ∀ m ∈ messages, m.content.isNull = true → m.toolCalls ≠ []

/-- The call id of an item is written without white space around it; where there
is none, there is no other id either. -/
def TidyCallId (item : JsonMap) : Prop :=
  trimSpace (itemText lib item "call_id") = itemText lib item "call_id" ∧
    (itemText lib item "call_id" = "" → trimSpace (itemText lib item "id") = "")

/-- The items that come through. The third case is the only way for the output of
a custom tool: it says the same as a message from a tool. -/
def ItemKept (item : JsonMap) : Prop :=
  if itemType lib item = "function_call" ∨ itemType lib item = "custom_tool_call" then
    TidyCallId lib item ∧ trimSpace (itemText lib item "name") = itemText lib item "name"
  else if itemType lib item = "function_call_output" then
    trimSpace (itemText lib item "call_id") = itemText lib item "call_id"
  else if itemType lib item = "custom_tool_call_output" then
    trimSpace (itemText lib item "role") = "tool" ∧ itemText lib item "call_id" = "" ∧
      responsesInputContentToChatContent lib (fieldOf item "content")
        = .str (responsesArgumentsString lib (fieldOf item "output"))
  else if itemType lib item = "message" ∨ itemType lib item = "" then
    Trimmed (itemText lib item "role") ∧ itemText lib item "role" ≠ "tool"
  else False

/-! ## One item -/

def chatRole (role : String) : String :=
  if trimSpace role = "" then "user" else trimSpace role

/-- What the converter makes of an item of any other type. -/
def messageEntry (item : JsonMap) : Entry :=
  if chatRole (itemText lib item "role") = "tool" then
    .output "" (responsesInputContentToChatContent lib (fieldOf item "content"))
  else
    .message (chatRole (itemText lib item "role")) (contentText lib (fieldOf item "content"))

/-- What the converter makes of an item. -/
def chatEntry (item : JsonMap) : Entry :=
  if itemType lib item = "function_call" then
    .call (responsesCallId lib item) (trimSpace (itemText lib item "name"))
      (responsesArgumentsString lib (fieldOf item "arguments"))
  else if itemType lib item = "custom_tool_call" then
    .call (responsesCallId lib item) (trimSpace (itemText lib item "name"))
      (responsesArgumentsString lib (fieldOf item "input"))
  else if itemType lib item = "function_call_output" then
    .output (trimSpace (itemText lib item "call_id"))
      (.str (responsesArgumentsString lib (fieldOf item "output")))
  else messageEntry lib item

theorem trimSpace_text : trimSpace "text" = "text" :=
  trimSpace_eq_self (by rintro c ⟨⟩; rfl) (by rintro c ⟨⟩; rfl)

theorem trimSpace_user : trimSpace "user" = "user" :=
  trimSpace_eq_self (by rintro c ⟨⟩; rfl) (by rintro c ⟨⟩; rfl)

theorem textPart_converted (part : Json) :
    textPart (responsesPartToChat lib part).1 = partText lib part := by
  cases part with
  | obj fields =>
    simp only [responsesPartToChat, partText, isTextType, Bool.or_eq_true, decide_eq_true_eq,
      or_assoc]
    split
    · rfl
    · rename_i htype
      split
      · rfl
      · split
        · rfl
        · split
          · rfl
          · split
            · rfl
            · -- a part kept as it is has no text under its own type
              simp only [textPart]
              split
              · rename_i type text hkind htext
                rw [if_neg]
                intro heq
                rw [hkind] at htype
                exact htype (.inr (.inr (by rw [heq]; exact trimSpace_text)))
              · rfl
  | _ => rfl

theorem convertedText_eq {part : Json} {text : String}
    (h : (responsesPartToChat lib part).2 = some text) : text = partText lib part := by
  cases part with
  | obj fields =>
    simp only [responsesPartToChat] at h
    simp only [partText, isTextType, Bool.or_eq_true, decide_eq_true_eq, or_assoc]
    split at h
    · rename_i htype
      rw [if_pos htype]
      exact (Option.some.inj h).symm
    · exfalso
      revert h
      split
      · intro h
        cases h
      · split
        · intro h
          cases h
        · split
          · intro h
            cases h
          · split <;> intro h <;> cases h
  | _ => cases h

variable {m : Message} {messages base rest : List Message}

theorem stringContent_converted {v : Json}
    (h : m.content = responsesInputContentToChatContent lib v) :
    m.stringContent = contentText lib v := by
  rw [Message.stringContent, h]
  cases v with
  | arr parts =>
    simp only [responsesInputContentToChatContent, responsesContentPartsToChatContent,
      contentText]
    split
    · rename_i s hs
      split at hs
      · rename_i hall
        obtain rfl := Json.str.inj hs
        congr 1
        rw [List.all_map, List.all_eq_true] at hall
        rw [List.filterMap_map, ← List.filterMap_eq_map]
        refine List.filterMap_congr (fun part hpart => ?_)
        obtain ⟨text, htext⟩ := Option.isSome_iff_exists.mp (hall part hpart)
        simp only [Function.comp_apply, htext, convertedText_eq lib htext]
      · cases hs
    · rename_i items hitems
      split at hitems
      · cases hitems
      · obtain rfl := Json.arr.inj hitems
        rw [List.map_map, List.map_map]
        congr 1
        exact List.map_congr_left (fun part _ => textPart_converted lib part)
    · rename_i hstr harr
      by_cases hall : ((parts.map (responsesPartToChat lib)).all fun p => p.2.isSome) = true
      · exact (hstr _ (if_pos hall)).elim
      · exact (harr _ (if_neg hall)).elim
  | _ => rfl

theorem converted_notNull (v : Json) :
    (responsesInputContentToChatContent lib v).isNull = false := by
  cases v with
  | arr parts =>
    simp only [responsesInputContentToChatContent, responsesContentPartsToChatContent]
    split <;> rfl
  | _ => rfl

/-! ## The run -/

attribute [local irreducible] trimSpace

/-- Calls stand on assistants, and no message says nothing. -/
def Said (messages : List Message) : Prop :=
  ∀ m ∈ messages, (m.toolCalls ≠ [] → m.role = "assistant") ∧
    (m.content.isNull = true → m.toolCalls ≠ [])

theorem Said.concat (h : Said messages) (hcalls : m.toolCalls ≠ [] → m.role = "assistant")
    (hempty : m.content.isNull = true → m.toolCalls ≠ []) : Said (messages ++ [m]) := by
  intro x hx
  rcases List.mem_append.mp hx with hx | hx
  · exact h x hx
  · rw [List.mem_singleton.mp hx]
    exact ⟨hcalls, hempty⟩

theorem append_assistant (front : List Message) {last : Message} (hlast : last.role = "assistant")
    (call : ToolCallRequest) :
    appendToolCallToLastAssistant (front ++ [last]) call
      = front ++ [{ last with toolCalls := last.toolCalls ++ [call] }] := by
  simp only [appendToolCallToLastAssistant, List.getLast?_concat, if_pos hlast,
    List.dropLast_concat]

theorem append_holder (hlast : ∀ m ∈ messages.getLast?, m.role ≠ "assistant")
    (call : ToolCallRequest) :
    appendToolCallToLastAssistant messages call
      = messages ++ [{ role := "assistant", toolCalls := [call] }] := by
  unfold appendToolCallToLastAssistant
  cases hl : messages.getLast? with
  | none => rw [List.getLast?_eq_none_iff.mp hl]; rfl
  | some last => simp only [if_neg (hlast last hl)]

theorem entries_addCall (hrole : m.role = "assistant") (call : ToolCallRequest) :
    Message.entries { m with toolCalls := m.toolCalls ++ [call] } = m.entries ++ [call.entry] := by
  have htool : ¬ m.role = "tool" := by rw [hrole]; decide
  simp only [Message.entries, if_neg htool, List.map_append, List.map_cons, List.map_nil,
    ← List.append_assoc]
  rfl

/-- A call is said behind everything else, on the last message if that is the
assistant's. -/
theorem appendToolCall_step (hbase : ∀ m ∈ base.getLast?, m.role ≠ "assistant") (hsaid : Said rest)
    (call : ToolCallRequest) :
    ∃ rest', appendToolCallToLastAssistant (base ++ rest) call = base ++ rest' ∧
      rest'.flatMap Message.entries = rest.flatMap Message.entries ++ [call.entry] ∧
      Said rest' := by
  by_cases hlast : ∃ (front : List Message) (last : Message),
      rest = front ++ [last] ∧ last.role = "assistant"
  · obtain ⟨front, last, rfl, hrole⟩ := hlast
    refine ⟨front ++ [{ last with toolCalls := last.toolCalls ++ [call] }], ?_, ?_, ?_⟩
    · rw [← List.append_assoc, append_assistant _ hrole, List.append_assoc]
    · simp only [List.flatMap_append, List.flatMap_singleton, entries_addCall hrole,
        List.append_assoc]
    · refine Said.concat (fun x hx => hsaid x (List.mem_append_left _ hx)) (fun _ => hrole)
        (fun _ => ?_)
      exact List.append_ne_nil_of_right_ne_nil _ (List.cons_ne_nil _ _)
  · refine ⟨rest ++ [{ role := "assistant", toolCalls := [call] }], ?_, ?_,
      hsaid.concat (fun _ => rfl) (fun _ => List.cons_ne_nil _ _)⟩
    · rw [append_holder, List.append_assoc]
      rcases List.eq_nil_or_concat' rest with rfl | ⟨front, last, rfl⟩
      · rwa [List.append_nil]
      · rw [← List.append_assoc, List.getLast?_concat]
        rintro m hm hrole
        cases hm
        exact hlast ⟨front, _, rfl, hrole⟩
    · rw [List.flatMap_append]
      rfl

theorem entries_plain (hcalls : m.toolCalls = []) (hcontent : m.content.isNull = false) :
    m.entries = [if m.role = "tool" then .output m.toolCallId m.content
      else .message m.role m.stringContent] := by
  rw [Message.entries, hcalls, hcontent, List.map_nil, List.append_nil]
  by_cases hrole : m.role = "tool"
  · rw [if_pos hrole, if_pos hrole]
  · rw [if_neg hrole, if_neg hrole]
    rfl

theorem inputItem_step {item : JsonMap} (hbase : ∀ m ∈ base.getLast?, m.role ≠ "assistant")
    (hsaid : Said rest)
    (h : responsesInputItemToChatMessages lib (base ++ rest) item = .ok messages) :
    ∃ rest', messages = base ++ rest' ∧
      rest'.flatMap Message.entries = rest.flatMap Message.entries ++ [chatEntry lib item] ∧
      Said rest' := by
  have hadd : ∀ m : Message, m.toolCalls = [] → m.content.isNull = false →
      m.entries = [chatEntry lib item] → messages = base ++ rest ++ [m] →
      ∃ rest', messages = base ++ rest' ∧
        rest'.flatMap Message.entries = rest.flatMap Message.entries ++ [chatEntry lib item] ∧
        Said rest' := by
    rintro m hcalls hcontent hentries rfl
    refine ⟨rest ++ [m], List.append_assoc .., ?_, hsaid.concat (fun hne => absurd hcalls hne)
      (fun hnull => absurd (hcontent.symm.trans hnull) (by decide))⟩
    rw [List.flatMap_append, List.flatMap_singleton, hentries]
  simp only [responsesInputItemToChatMessages] at h
  split at h
  · rename_i htype
    have hchat : chatEntry lib item = .call (responsesCallId lib item)
        (trimSpace (itemText lib item "name"))
        (responsesArgumentsString lib (fieldOf item "arguments")) := if_pos htype
    cases hcall : responsesFunctionCallItemToChatToolCall lib item with
    | error e => rw [hcall] at h; cases h
    | ok call =>
      rw [hcall] at h
      cases h
      have hentry : call.entry = chatEntry lib item := by
        simp only [responsesFunctionCallItemToChatToolCall] at hcall
        split at hcall
        · cases hcall
        · rw [hchat, ← Except.ok.inj hcall]
          rfl
      rw [← hentry]
      exact appendToolCall_step hbase hsaid call
  · rename_i hcall
    split at h
    · rename_i htype
      have hchat : chatEntry lib item
          = (responsesCustomToolCallItemToChatToolCall lib item).entry :=
        (if_neg hcall).trans (if_pos htype)
      cases h
      rw [hchat]
      exact appendToolCall_step hbase hsaid _
    · rename_i hcustom
      split at h
      · rename_i htype
        have hchat : chatEntry lib item = .output (trimSpace (itemText lib item "call_id"))
            (.str (responsesArgumentsString lib (fieldOf item "output"))) :=
          (if_neg hcall).trans ((if_neg hcustom).trans (if_pos htype))
        exact hadd _ rfl rfl (by rw [hchat]; rfl) (Except.ok.inj h).symm
      · rename_i houtput
        have hchat : chatEntry lib item = messageEntry lib item :=
          (if_neg hcall).trans ((if_neg hcustom).trans (if_neg houtput))
        refine hadd _ rfl (converted_notNull lib _) ?_ (Except.ok.inj h).symm
        rw [hchat, entries_plain rfl (converted_notNull lib _), stringContent_converted lib rfl]
        rfl

theorem inputItems_run (hbase : ∀ m ∈ base.getLast?, m.role ≠ "assistant") (hsaid : Said rest)
    (h : items.foldlM (responsesInputItemToChatMessages lib) (base ++ rest) = .ok messages) :
    ∃ rest', messages = base ++ rest' ∧
      rest'.flatMap Message.entries
        = rest.flatMap Message.entries ++ items.map (chatEntry lib) ∧ Said rest' := by
  induction items generalizing rest with
  | nil =>
    cases h
    exact ⟨rest, rfl, (List.append_nil _).symm, hsaid⟩
  | cons item items ih =>
    rw [List.foldlM_cons] at h
    cases hstep : responsesInputItemToChatMessages lib (base ++ rest) item with
    | error e => rw [hstep] at h; cases h
    | ok next =>
      rw [hstep] at h
      obtain ⟨rest₁, rfl, hentries, hsaid₁⟩ := inputItem_step lib hbase hsaid hstep
      obtain ⟨rest', hmessages, hentries', hsaid'⟩ := ih hsaid₁ h
      refine ⟨rest', hmessages, ?_, hsaid'⟩
      rw [hentries', hentries, List.append_assoc]
      rfl

/-! ## Which items come through -/

theorem responsesCallId_eq_iff (item : JsonMap) :
    responsesCallId lib item = itemText lib item "call_id" ↔ TidyCallId lib item := by
  simp only [responsesCallId, TidyCallId]
  change (if trimSpace (itemText lib item "call_id") ≠ "" then
    trimSpace (itemText lib item "call_id") else trimSpace (itemText lib item "id")) = _ ↔ _
  by_cases hblank : trimSpace (itemText lib item "call_id") = ""
  · rw [if_neg (not_not.mpr hblank), hblank]
    constructor
    · intro h
      -- an id that stands in for the call id is trimmed, and the call id is blank
      have hempty : itemText lib item "call_id" = "" := by
        rw [← h, trimSpace_trimSpace] at hblank
        rw [← h, hblank]
      exact ⟨hempty.symm, fun _ => h.trans hempty⟩
    · rintro ⟨hempty, hid⟩
      rw [hid hempty.symm, hempty]
  · rw [if_pos hblank]
    refine ⟨fun h => ⟨h, fun hempty => absurd (h.trans hempty) hblank⟩, And.left⟩

theorem chatRole_eq_self_iff (role : String) :
    chatRole role ≠ "tool" ∧ chatRole role = role ↔ Trimmed role ∧ role ≠ "tool" := by
  unfold chatRole
  by_cases hblank : trimSpace role = ""
  · rw [if_pos hblank]
    refine iff_of_false ?_ ?_
    · rintro ⟨-, rfl⟩
      exact absurd (trimSpace_user.symm.trans hblank) (by decide)
    · rintro ⟨⟨hne, htrim⟩, -⟩
      exact hne (htrim.symm.trans hblank)
  · rw [if_neg hblank]
    constructor
    · rintro ⟨htool, htrim⟩
      exact ⟨⟨fun hempty => hblank (htrim.trans hempty), htrim⟩, by rwa [htrim] at htool⟩
    · rintro ⟨⟨-, htrim⟩, htool⟩
      rw [htrim]
      exact ⟨htool, rfl⟩

theorem chatRole_tool_iff (role : String) : chatRole role = "tool" ↔ trimSpace role = "tool" := by
  unfold chatRole
  split
  · rename_i hblank
    rw [hblank]
    exact ⟨nofun, nofun⟩
  · rfl

theorem itemEntries_eq_iff (item : JsonMap) :
    itemEntries lib item = [chatEntry lib item] ↔ ItemKept lib item := by
  by_cases hcall : itemType lib item = "function_call"
  · rw [itemEntries, chatEntry, ItemKept, if_pos hcall, if_pos hcall, if_pos (.inl hcall),
      ← responsesCallId_eq_iff]
    simp only [List.cons.injEq, Entry.call.injEq, and_true]
    exact and_congr eq_comm eq_comm
  by_cases hcustom : itemType lib item = "custom_tool_call"
  · rw [itemEntries, chatEntry, ItemKept, if_neg hcall, if_neg hcall, if_pos hcustom,
      if_pos hcustom, if_pos (.inr hcustom), ← responsesCallId_eq_iff]
    simp only [List.cons.injEq, Entry.call.injEq, and_true]
    exact and_congr eq_comm eq_comm
  rw [itemEntries, chatEntry, ItemKept, if_neg hcall, if_neg hcall, if_neg hcustom,
    if_neg hcustom, if_neg (not_or.mpr ⟨hcall, hcustom⟩)]
  by_cases houtput : itemType lib item = "function_call_output"
  · rw [if_pos (.inl houtput), if_pos houtput, if_pos houtput]
    simp only [List.cons.injEq, Entry.output.injEq, and_true]
    exact eq_comm
  rw [if_neg houtput, if_neg houtput, messageEntry]
  by_cases hcustomOutput : itemType lib item = "custom_tool_call_output"
  · rw [if_pos (.inr hcustomOutput), if_pos hcustomOutput, ← chatRole_tool_iff]
    split
    · rename_i htool
      simp only [List.cons.injEq, Entry.output.injEq, and_true, htool, true_and]
      exact and_congr Iff.rfl eq_comm
    · rename_i htool
      refine iff_of_false ?_ (fun h => absurd h.1 htool)
      simp only [List.cons.injEq, reduceCtorEq, false_and, not_false_eq_true]
  rw [if_neg (not_or.mpr ⟨houtput, hcustomOutput⟩), if_neg hcustomOutput]
  by_cases hmessage : itemType lib item = "message" ∨ itemType lib item = ""
  · rw [if_pos hmessage, if_pos hmessage, ← chatRole_eq_self_iff]
    split
    · rename_i htool
      refine iff_of_false ?_ (fun h => h.1 htool)
      simp only [List.cons.injEq, reduceCtorEq, false_and, not_false_eq_true]
    · rename_i htool
      simp only [List.cons.injEq, Entry.message.injEq, and_true, ne_eq, htool, not_false_eq_true,
        true_and]
      exact eq_comm
  · rw [if_neg hmessage, if_neg hmessage]
    exact iff_of_false (List.cons_ne_nil _ _).symm not_false

theorem itemEntries_length (item : JsonMap) : (itemEntries lib item).length ≤ 1 := by
  unfold itemEntries
  split
  · exact Nat.le_refl _
  · split
    · exact Nat.le_refl _
    · split
      · exact Nat.le_refl _
      · split
        · exact Nat.le_refl _
        · exact Nat.zero_le _

end

/-- A list with one entry for each item is the list of what the items say only if
it is so item by item. -/
theorem map_eq_flatMap_iff {α β : Type} {f : α → β} {g : α → List β}
    (hle : ∀ x, (g x).length ≤ 1) (l : List α) :
    l.map f = l.flatMap g ↔ ∀ x ∈ l, g x = [f x] := by
  have htotal : ∀ l : List α, (l.flatMap g).length ≤ l.length := by
    intro l
    induction l with
    | nil => exact Nat.le_refl _
    | cons x l ih =>
      have := hle x
      simp only [List.flatMap_cons, List.length_append, List.length_cons]
      omega
  induction l with
  | nil => exact ⟨fun _ => nofun, fun _ => rfl⟩
  | cons x l ih =>
    rw [List.map_cons, List.flatMap_cons, List.forall_mem_cons]
    refine Iff.trans ?_ (and_congr_right' ih)
    constructor
    · intro h
      match hx : g x with
      | [] =>
        rw [hx, List.nil_append] at h
        have := htotal l
        rw [← h, List.length_cons, List.length_map] at this
        omega
      | [y] =>
        rw [hx] at h
        obtain ⟨rfl, hrest⟩ := List.cons.inj h
        exact ⟨rfl, hrest⟩
      | y :: z :: ys =>
        have := hle x
        rw [hx, List.length_cons, List.length_cons] at this
        omega
    · rintro ⟨hx, hrest⟩
      rw [hx, hrest]
      rfl

/-- The entries of a map; `null` is an empty one. -/
def Json.members : Json → JsonMap
  | .obj fields => fields
  | _ => []

/-- The items of an input array. -/
def inputMaps (inputs : List Json) : List JsonMap := inputs.map Json.members

section

variable {lib : JsonLib} {inputs : List Json}

attribute [local irreducible] trimSpace ItemKept

theorem toMaps_ok (h : lib.toMaps (.arr inputs) = .ok items) : items = inputMaps inputs := by
  have hmap : ∀ (inputs : List Json) (items : List JsonMap),
      inputs.mapM lib.toMap = .ok items → items = inputMaps inputs := by
    intro inputs
    induction inputs with
    | nil =>
      intro items h
      exact (Except.ok.inj h).symm
    | cons v inputs ih =>
      intro items h
      rw [List.mapM_cons] at h
      cases hv : lib.toMap v with
      | error e => rw [hv] at h; cases h
      | ok fields =>
        rw [hv] at h
        cases hrest : inputs.mapM lib.toMap with
        | error e => simp only [hrest, bind, Except.bind] at h; cases h
        | ok rest =>
          simp only [hrest, bind, Except.bind] at h
          cases h
          obtain rfl := ih rest hrest
          have hfields : fields = v.members := by
            cases v with
            | obj members => exact (Except.ok.inj hv).symm
            | null => exact (Except.ok.inj hv).symm
            | _ => cases hv
          rw [hfields]
          rfl
  exact hmap inputs items h

variable {chat : GeneralOpenAIRequest} {req : OpenAIResponsesRequest}

theorem converted_items (hin : req.input = some (.arr inputs))
    (h : responsesRequestToChatCompletionsRequest lib (some req) = .ok chat) :
    ∃ rest, chat.messages = instructionMessages lib req.instructions ++ rest ∧
      rest.flatMap Message.entries = (inputMaps inputs).map (chatEntry lib) ∧ Said rest := by
  have hmessages : responsesRequestMessagesToChat lib req = .ok chat.messages := by
    simp only [responsesRequestToChatCompletionsRequest, bind, Except.bind, pure, Except.pure] at h
    split at h
    · cases h
    · split at h
      · cases h
      · split at h
        · cases h
        · rename_i messages hmessages
          split at h
          · cases h
          · split at h
            · cases h
            · split at h
              · cases h
              · cases h
                exact hmessages
  simp only [responsesRequestMessagesToChat, hin] at hmessages
  split at hmessages
  · cases hmessages
  · rename_i items hitems
    obtain rfl := toMaps_ok hitems
    have hbase : ∀ m ∈ (instructionMessages lib req.instructions).getLast?,
        m.role ≠ "assistant" := by
      intro m hm
      have hmem := List.mem_of_getLast? hm
      simp only [instructionMessages] at hmem
      split at hmem
      · cases hmem
      · split at hmem
        · cases hmem
        · split at hmem
          · rw [List.mem_singleton.mp hmem]
            show "system" ≠ "assistant"
            decide
          · cases hmem
    have hrun := inputItems_run lib hbase (show Said [] from fun _ hm => by cases hm)
      (by rw [List.append_nil]; exact hmessages)
    obtain ⟨rest, hrest, hentries, hsaid⟩ := hrun
    exact ⟨rest, hrest, hentries, hsaid⟩

theorem itemKept_of_keeps (hin : req.input = some (.arr inputs))
    (h : responsesRequestToChatCompletionsRequest lib (some req) = .ok chat) (hkeeps : ∃ rest,
      chat.messages = instructionMessages lib req.instructions ++ rest ∧ KeepsItems lib (inputMaps
      inputs) rest) : ∀ item ∈ inputMaps inputs, ItemKept lib item := by
  obtain ⟨rest, hmessages, hentries, -⟩ := converted_items hin h
  obtain ⟨rest', hmessages', hkept⟩ := hkeeps
  rw [hmessages] at hmessages'
  obtain rfl := List.append_cancel_left hmessages'
  have hsame := hentries.symm.trans hkept.order
  intro item hitem
  exact (itemEntries_eq_iff lib item).mp
    ((map_eq_flatMap_iff (itemEntries_length lib) _).mp hsame item hitem)

/-- **Every item is kept**, in its order and as nothing but itself, exactly when
each of them is one that comes through. -/
theorem items_kept_iff {req : OpenAIResponsesRequest} {chat : GeneralOpenAIRequest}
    {inputs : List Json} (hin : req.input = some (.arr inputs))
    (h : responsesRequestToChatCompletionsRequest lib (some req) = .ok chat) :
    (∃ rest, chat.messages = instructionMessages lib req.instructions ++ rest ∧
        KeepsItems lib (inputMaps inputs) rest) ↔
      ∀ item ∈ inputMaps inputs, ItemKept lib item := by
  refine ⟨itemKept_of_keeps hin h, fun hkept => ?_⟩
  obtain ⟨rest, hmessages, hentries, hsaid⟩ := converted_items hin h
  refine ⟨rest, hmessages, ?_, fun m hm => (hsaid m hm).1, fun m hm => (hsaid m hm).2⟩
  rw [hentries, map_eq_flatMap_iff (itemEntries_length lib)]
  exact fun item hitem => (itemEntries_eq_iff lib item).mpr (hkept item hitem)

end

/-! ## A call and its output -/

/-- One call and its output, of the types given. -/
def exchangeItems (callType outputType : String) : List Json :=
  [.obj [("type", .str callType), ("call_id", .str "c1"), ("name", .str "ls"),
      ("arguments", .str "{}")],
    .obj [("type", .str outputType), ("call_id", .str "c1"), ("output", .str "ok")]]

def exchange (callType outputType : String) : OpenAIResponsesRequest where
  model := "m"
  input := some (.arr (exchangeItems callType outputType))

theorem exchange_kept :
    ∃ chat, responsesRequestToChatCompletionsRequest demoLib
        (some (exchange "function_call" "function_call_output")) = .ok chat ∧
      ∃ rest, chat.messages = instructionMessages demoLib
          (exchange "function_call" "function_call_output").instructions ++ rest ∧
        KeepsItems demoLib
          (inputMaps (exchangeItems "function_call" "function_call_output")) rest := by
  obtain ⟨chat, hchat⟩ : ∃ chat, responsesRequestToChatCompletionsRequest demoLib
      (some (exchange "function_call" "function_call_output")) = .ok chat := ⟨_, rfl⟩
  refine ⟨chat, hchat, (items_kept_iff rfl hchat).mpr ?_⟩
  intro item hitem
  simp only [inputMaps, exchangeItems, List.map_cons, List.map_nil, List.mem_cons,
    List.not_mem_nil, or_false] at hitem
  rcases hitem with rfl | rfl
  · exact ⟨⟨rfl, nofun⟩, rfl⟩
  · exact rfl

/-- The output of a custom tool becomes an empty message of the user. -/
theorem custom_output_lost :
    ¬ ∀ (lib : JsonLib) (req : OpenAIResponsesRequest) (chat : GeneralOpenAIRequest)
      (inputs : List Json), req.input = some (.arr inputs) →
      responsesRequestToChatCompletionsRequest lib (some req) = .ok chat →
      ∃ rest, chat.messages = instructionMessages lib req.instructions ++ rest ∧
        KeepsItems lib (inputMaps inputs) rest := by
  intro h
  obtain ⟨chat, hchat⟩ : ∃ chat, responsesRequestToChatCompletionsRequest demoLib
      (some (exchange "custom_tool_call" "custom_tool_call_output")) = .ok chat := ⟨_, rfl⟩
  have hkept := itemKept_of_keeps rfl hchat (h demoLib _ chat _ rfl hchat)
    [("type", .str "custom_tool_call_output"), ("call_id", .str "c1"), ("output", .str "ok")]
    (List.mem_cons_of_mem _ List.mem_cons_self)
  have htype : itemType demoLib [("type", .str "custom_tool_call_output"),
      ("call_id", .str "c1"), ("output", .str "ok")] = "custom_tool_call_output" := rfl
  rw [ItemKept, htype, if_neg (by decide), if_neg (by decide), if_pos rfl] at hkept
  exact absurd (show "c1" = "" from hkept.2.1) (by decide)

end YouBox.Responses
