import YouBox.OpenAIToClaude

/-!
# Texts on their way to Claude

What the two passes of `OpenAIChatRequestToClaudeMessages` do to messages whose
contents are texts. The merge pass makes one message of every run of neighbours
of one role (`mergeRuns`); the block pass writes the pieces of every message one
after the other, with a message of the user in front (`written_run`).
-/

namespace YouBox.ClaudeChat

open Responses

/-! ## Runs of one role -/

theorem AnyOf.eq_str {α : Type} {c : AnyOf α} (h : c.isString = true) :
    ∃ s, c = .json (.str s) := by
  unfold AnyOf.isString at h
  split at h
  · exact ⟨_, rfl⟩
  · cases h

def sameRole (a b : Message) : Bool := a.role = b.role && a.role ≠ "tool"

def runs (messages : List Message) : List (List Message) := messages.splitBy sameRole

/-- The message that the merge pass makes of a run. -/
def mergeRun (run : List Message) : Message := run.foldl formatMessage { role := "tool" }

/-- The text of a copied message before it is patched. -/
def joinedText (last message : Message) : String :=
  if joins last message then trimQuotes (last.stringContent ++ " " ++ message.stringContent)
  else message.stringContent

def patched (text : String) : String := if text = "" then "..." else text

theorem patched_ne (text : String) : patched text ≠ "" := by
  unfold patched
  split
  · exact fun h => by cases congrArg String.toList h
  · assumption

variable {last : Message}

theorem formatMessage_eq {m : Message} (hm : m.content.isString = true) :
    formatMessage last m =
      { role := m.role
        content := .json (.str (patched (joinedText last m)))
        toolCallId := if m.role = "tool" then m.toolCallId else ""
        toolCalls := if m.role = "assistant" then m.toolCalls else none } := by
  have hcontent : (if joins last m then
      .json (.str (trimQuotes (last.stringContent ++ " " ++ m.stringContent))) else m.content) =
        AnyOf.json (.str (joinedText last m)) := by
    obtain ⟨s, hs⟩ := AnyOf.eq_str hm
    rw [joinedText]
    split
    · rfl
    · rw [Message.stringContent, hs]
  unfold formatMessage
  simp only [hcontent]
  generalize joinedText last m = text
  by_cases htext : text = ""
  · subst htext
    rfl
  · rw [patched, if_neg htext]
    exact if_neg fun h => htext (of_decide_eq_true h)

theorem joins_of_string {m : Message} (hlast : last.content.isString = true)
    (hm : m.content.isString = true) : joins last m = sameRole last m := by
  rw [joins, hlast, hm, Bool.and_true, Bool.and_true]
  rfl

theorem not_joins_tool (m : Message) : joins { role := "tool" } m = false := by
  rw [joins, Bool.and_assoc]
  exact Bool.and_eq_false_iff.mpr (.inr rfl)

theorem formatMessage_of_not_joins {m : Message} (h : joins last m = false) :
    formatMessage last m = formatMessage { role := "tool" } m := by
  unfold formatMessage
  rw [h, not_joins_tool]
  rfl

theorem mergeRun_snoc (run : List Message) (m : Message) :
    mergeRun (run ++ [m]) = formatMessage (mergeRun run) m :=
  List.foldl_concat ..

theorem mergeRun_of_last (run : List Message) {m : Message} (hm : m.content.isString = true) :
    (mergeRun (run ++ [m])).role = m.role ∧ (mergeRun (run ++ [m])).content.isString = true := by
  rw [mergeRun_snoc, formatMessage_eq hm]
  exact ⟨rfl, rfl⟩

theorem map_loop_nil (a : Message) (g : List Message) (gs : List (List Message)) :
    (List.splitBy.loop sameRole [] a g gs).map mergeRun =
      gs.reverse.map mergeRun ++ [mergeRun (a :: g).reverse] := by
  rw [List.splitBy.loop, List.reverse_cons, List.map_append, List.map_singleton]

/-- A message extends the run in front of it or begins a new one, as
`List.splitBy` does. -/
theorem mergeStep_loop {rest : List Message} (hrest : ∀ m ∈ rest, m.content.isString = true)
    {a : Message} (ha : a.content.isString = true) (g : List Message) (gs : List (List Message)) :
    ∃ s, rest.foldlM mergeStep
        { formatMessages := (List.splitBy.loop sameRole [] a g gs).map mergeRun
          lastMessage := mergeRun (a :: g).reverse } = .ok s ∧
      s.formatMessages = (List.splitBy.loop sameRole rest a g gs).map mergeRun := by
  induction rest generalizing a g gs with
  | nil => exact ⟨_, rfl, rfl⟩
  | cons b rest ih =>
    have hb := hrest b List.mem_cons_self
    have ih := ih (fun m hm => hrest m (List.mem_cons_of_mem _ hm)) hb
    obtain ⟨hrole, hstring⟩ := mergeRun_of_last g.reverse ha
    rw [← List.reverse_cons] at hrole hstring
    have hjoins : joins (mergeRun (a :: g).reverse) b = sameRole a b := by
      rw [joins_of_string hstring hb, sameRole, hrole, sameRole]
    have hfmt : formatMessage (mergeRun (a :: g).reverse) b = mergeRun (b :: a :: g).reverse := by
      rw [List.reverse_cons (a := b), mergeRun_snoc]
    rw [List.foldlM_cons, List.splitBy.loop, mergeStep, hjoins, map_loop_nil]
    cases hsame : sameRole a b with
    | true =>
      -- the run grows: its message is taken off and the merged one put back
      have ih := ih (a :: g) gs
      rw [map_loop_nil] at ih
      rwa [if_pos rfl, cutLast, if_neg (List.concat_ne_nil _ _), List.dropLast_concat, hfmt]
    | false =>
      have ih := ih [] ((a :: g).reverse :: gs)
      rw [map_loop_nil, List.reverse_cons, List.map_append] at ih
      rwa [if_neg Bool.false_ne_true, formatMessage_of_not_joins (hjoins.trans hsame)]

variable {messages : List Message}

theorem mergeRuns (h : ∀ m ∈ messages, m.content.isString = true) :
    ∃ s, messages.foldlM mergeStep {} = .ok s ∧
      s.formatMessages = (runs messages).map mergeRun := by
  cases messages with
  | nil => exact ⟨{}, rfl, rfl⟩
  | cons a rest =>
    have ha := h a List.mem_cons_self
    have hstep : mergeStep {} a =
        .ok { formatMessages := [mergeRun [a]], lastMessage := mergeRun [a] } := by
      rw [mergeStep, show joins ({} : MergeState).lastMessage a = false from not_joins_tool a,
        if_neg Bool.false_ne_true]
      rfl
    rw [List.foldlM_cons, hstep]
    exact mergeStep_loop (fun m hm => h m (List.mem_cons_of_mem _ hm)) ha [] []

/-! ## Blocks -/

def contentBlocks : AnyOf ClaudeMediaMessage → List ClaudeMediaMessage
  | .json (.str s) => [textBlock s]
  | .slice blocks => blocks
  | .json _ => []

def ClaudeMessage.blocks (m : ClaudeMessage) : List ClaudeMediaMessage := contentBlocks m.content

/-- The content of the messages that are written: a text or a slice of blocks. -/
def Plain (m : ClaudeMessage) : Prop := assertBlocks m.content = .ok m.blocks

def IsClaudeRole (role : String) : Prop := role = "user" ∨ role = "assistant"

/-- A message that the merge pass leaves. -/
structure Merged (m : Message) : Prop where
  text : ∃ t, t ≠ "" ∧ m.content = .json (.str t)
  calls : m.role ≠ "assistant" → m.toolCalls = none

theorem mergeRun_merged {run : List Message} (hne : run ≠ [])
    (hstring : ∀ m ∈ run, m.content.isString = true) : Merged (mergeRun run) := by
  obtain rfl | ⟨front, last, rfl⟩ := List.eq_nil_or_concat' run
  · exact absurd rfl hne
  · have hlast := hstring last (List.mem_append_right _ List.mem_cons_self)
    rw [mergeRun_snoc, formatMessage_eq hlast]
    exact ⟨⟨_, patched_ne _, rfl⟩, fun hrole => if_neg hrole⟩

section

variable (lib : Lib) (resolve : Resolve)

/-- What is written for a message. -/
def pieces (m : Message) : List ClaudeMediaMessage :=
  if m.role = "tool" then [toolResultBlock m]
  else textBlock m.stringContent :: (m.toolCalls.getD []).map (toolUseBlock lib)

/-- `blocks` are put behind `before`, in a new message or in the last one. -/
structure Appends (before after : List ClaudeMessage) (blocks : List ClaudeMediaMessage)
    (role : String) : Prop where
  ne_nil : after ≠ []
  plain : ∀ c ∈ after, Plain c
  blocks : after.flatMap ClaudeMessage.blocks = before.flatMap ClaudeMessage.blocks ++ blocks
  roles : (∀ c ∈ after, IsClaudeRole c.role) ↔
    (∀ c ∈ before, IsClaudeRole c.role) ∧ IsClaudeRole role
  head : (∀ c ∈ before.head?, c.role = "user") → (before = [] → role = "user") →
    ∀ c ∈ after.head?, c.role = "user"

variable {lib resolve}

variable {before : List ClaudeMessage}

theorem appends_message (hplain : ∀ c ∈ before, Plain c) (message : ClaudeMessage)
    (hmessage : Plain message) :
    Appends before (before ++ [message]) message.blocks message.role where
  ne_nil := List.concat_ne_nil _ _
  plain := List.forall_mem_append.mpr ⟨hplain, List.forall_mem_singleton.mpr hmessage⟩
  blocks := by rw [List.flatMap_append, List.flatMap_singleton]
  roles := by rw [List.forall_mem_append, List.forall_mem_singleton]
  head := by
    intro hbefore hrole c hc
    cases before with
    | nil =>
      cases hc
      exact hrole rfl
    | cons b rest => exact hbefore c hc

theorem appends_toolResult (hplain : ∀ c ∈ before, Plain c) (m : Message) :
    ∃ after, addToolResult before m = .ok after ∧
      Appends before after [toolResultBlock m] "user" := by
  have hnew : Appends before (before ++ [{ role := "user", content := .slice [toolResultBlock m] }])
      [toolResultBlock m] "user" :=
    appends_message hplain { role := "user", content := .slice [toolResultBlock m] } rfl
  obtain rfl | ⟨front, last, rfl⟩ := List.eq_nil_or_concat' before
  · exact ⟨_, rfl, hnew⟩
  · rw [addToolResult, List.getLast?_concat]
    by_cases huser : last.role = "user"
    · have hfront := (List.forall_mem_append.mp hplain).1
      have hlast : assertBlocks last.content = .ok last.blocks :=
        hplain last (List.mem_append_right _ List.mem_cons_self)
      refine ⟨front ++ [{ last with content := .slice (last.blocks ++ [toolResultBlock m]) }],
        ?_, ?_⟩
      · simp only [huser, if_true, hlast, List.dropLast_concat]
        rfl
      · constructor
        · exact List.concat_ne_nil _ _
        · exact List.forall_mem_append.mpr ⟨hfront, List.forall_mem_singleton.mpr rfl⟩
        · simp only [List.flatMap_append, List.flatMap_singleton, List.append_assoc]
          rfl
        · simp only [List.forall_mem_append, List.forall_mem_singleton]
          exact ⟨fun h => ⟨h, .inl rfl⟩, fun h => h.1⟩
        · intro hbefore _ c hc
          cases front with
          | nil =>
            cases hc
            exact huser
          | cons b rest => exact hbefore c hc
    · simp only [huser, if_false]
      exact ⟨_, rfl, hnew⟩

variable (lib resolve) in
theorem messageContent_of_merged {m : Message} (hm : Merged m) :
    ∃ content, messageContent lib resolve m = .ok content ∧
      contentBlocks content =
        textBlock m.stringContent :: (m.toolCalls.getD []).map (toolUseBlock lib) ∧
      assertBlocks content = .ok (contentBlocks content) := by
  obtain ⟨t, hne, ht⟩ := hm.text
  have htext : m.stringContent = t := by rw [Message.stringContent, ht]
  unfold messageContent
  cases hcalls : m.toolCalls with
  | none =>
    rw [htext, if_neg hne, ht]
    exact ⟨_, rfl, rfl, rfl⟩
  | some calls =>
    have hblocks : mediaBlocks resolve m.parseContent = .ok [textBlock t] := by
      rw [Message.parseContent, ht]
      simp only [mediaBlocks, textBlocks, if_neg hne]
      rfl
    rw [ht, hblocks, htext]
    exact ⟨_, rfl, rfl, rfl⟩

variable (lib) in
/-- What the block pass has made of the messages so far. -/
structure Written (done : List Message) (s : BlockState) : Prop where
  plain : ∀ c ∈ s.claudeMessages, Plain c
  first : s.isFirstMessage = true → s.claudeMessages = []
  opened : s.isFirstMessage = false → s.claudeMessages ≠ []
  head : ∀ c ∈ s.claudeMessages.head?, c.role = "user"
  blocks : ∃ opening, (opening = [] ∨ opening = [textBlock "..."]) ∧
    s.claudeMessages.flatMap ClaudeMessage.blocks =
      opening ++ (done.filter (·.role ≠ "system")).flatMap (pieces lib)
  system : s.systemMessages = (done.filter (·.role = "system")).flatMap (pieces lib)
  roles : (∀ c ∈ s.claudeMessages, IsClaudeRole c.role) ↔
    ∀ m ∈ done, m.role = "system" ∨ m.role = "tool" ∨ IsClaudeRole m.role

/-- The messages with the placeholder in front of a first message that is not
the user's. -/
def opened (s : BlockState) (m : Message) : List ClaudeMessage :=
  if s.isFirstMessage && m.role ≠ "user" then s.claudeMessages ++ [placeholderMessage]
  else s.claudeMessages

variable {s : BlockState} {done : List Message}

theorem plain_opened (hs : ∀ c ∈ s.claudeMessages, Plain c) (m : Message) :
    ∀ c ∈ opened s m, Plain c := by
  unfold opened
  split
  · exact List.forall_mem_append.mpr ⟨hs, List.forall_mem_singleton.mpr rfl⟩
  · exact hs

variable (lib resolve) in
theorem blockStep_turn {m : Message} (hs : ∀ c ∈ s.claudeMessages, Plain c) (hm : Merged m)
    (hrole : m.role ≠ "system") :
    ∃ after, blockStep lib resolve s m =
        .ok { s with claudeMessages := after, isFirstMessage := false } ∧
      Appends (opened s m) after (pieces lib m) (if m.role = "tool" then "user" else m.role) := by
  have hopened := plain_opened hs m
  unfold pieces
  by_cases htool : m.role = "tool"
  · obtain ⟨after, hafter, happ⟩ := appends_toolResult hopened m
    refine ⟨after, ?_, ?_⟩
    · rw [blockStep, if_neg hrole, if_pos htool]
      unfold opened at hafter
      simp only [hafter]
      rfl
    · rwa [if_pos htool, if_pos htool]
  · obtain ⟨content, hcontent, hblocks, hplain⟩ := messageContent_of_merged lib resolve hm
    refine ⟨opened s m ++ [{ role := m.role, content }], ?_, ?_⟩
    · rw [blockStep, if_neg hrole, if_neg htool, hcontent]
      rfl
    · rw [if_neg htool, if_neg htool, ← hblocks]
      exact appends_message hopened { role := m.role, content } hplain

theorem opened_of_written (hs : Written lib done s) (m : Message) :
    (∀ c ∈ (opened s m).head?, c.role = "user") ∧ (opened s m = [] → m.role = "user") ∧
      (∃ opening, (opening = [] ∨ opening = [textBlock "..."]) ∧
        (opened s m).flatMap ClaudeMessage.blocks =
          opening ++ (done.filter (·.role ≠ "system")).flatMap (pieces lib)) ∧
      ((∀ c ∈ opened s m, IsClaudeRole c.role) ↔ ∀ c ∈ s.claudeMessages, IsClaudeRole c.role) := by
  obtain ⟨opening, hopening, hblocks⟩ := hs.blocks
  cases hopen : s.isFirstMessage && m.role ≠ "user" with
  | true =>
    have hnil := hs.first (Bool.and_eq_true_iff.mp hopen).1
    have hopened : opened s m = [placeholderMessage] := by
      rw [opened, hopen, if_pos rfl, hnil, List.nil_append]
    have hdone : (done.filter (·.role ≠ "system")).flatMap (pieces lib) = [] := by
      rw [hnil, List.flatMap_nil] at hblocks
      exact (List.append_eq_nil_iff.mp hblocks.symm).2
    rw [hopened, hdone, hnil]
    refine ⟨?_, nofun, ⟨[textBlock "..."], .inr rfl, rfl⟩, fun _ => nofun, fun _ => ?_⟩
    · rintro c hc
      cases hc
      rfl
    · exact List.forall_mem_singleton.mpr (.inl rfl)
  | false =>
    have hopened : opened s m = s.claudeMessages := by
      rw [opened, hopen, if_neg Bool.false_ne_true]
    rw [hopened]
    refine ⟨hs.head, fun hnil => ?_, ⟨opening, hopening, hblocks⟩, Iff.rfl⟩
    rcases Bool.and_eq_false_iff.mp hopen with hfirst | huser
    · exact absurd hnil (hs.opened hfirst)
    · exact not_not.mp (of_decide_eq_false huser)

variable (resolve) in
theorem written_step (hs : Written lib done s) {m : Message} (hm : Merged m) :
    ∃ s', blockStep lib resolve s m = .ok s' ∧ Written lib (done ++ [m]) s' := by
  by_cases hrole : m.role = "system"
  · obtain ⟨t, hne, ht⟩ := hm.text
    have htool : ¬ m.role = "tool" := by rw [hrole]; decide
    have hcalls : m.toolCalls = none := hm.calls (by rw [hrole]; decide)
    have hpieces : systemBlocks m = pieces lib m := by
      have htext : m.stringContent = t := by rw [Message.stringContent, ht]
      rw [systemBlocks, pieces, if_neg htool, hcalls, htext, ht, textBlocks, if_neg hne]
      rfl
    refine ⟨_, if_pos hrole, { hs with blocks := ?_, system := ?_, roles := ?_ }⟩
    · rw [List.filter_append, List.filter_singleton, hrole]
      simpa using hs.blocks
    · rw [List.filter_append, List.filter_singleton, hrole]
      simp [hs.system, hpieces]
    · rw [hs.roles, List.forall_mem_append, List.forall_mem_singleton]
      exact ⟨fun h => ⟨h, .inl hrole⟩, fun h => h.1⟩
  · obtain ⟨after, hstep, happ⟩ := blockStep_turn lib resolve hs.plain hm hrole
    obtain ⟨hhead, hfirst, ⟨opening, hopening, hblocks⟩, hroles⟩ := opened_of_written hs m
    refine ⟨_, hstep, happ.plain, nofun, fun _ => happ.ne_nil, happ.head hhead fun hnil => ?_,
      ⟨opening, hopening, ?_⟩, ?_, ?_⟩
    · rw [hfirst hnil, if_neg (by decide)]
    · rw [happ.blocks, hblocks, List.filter_append, List.filter_singleton, decide_eq_true hrole,
        cond_true, List.flatMap_append, List.flatMap_singleton, List.append_assoc]
    · rw [List.filter_append, List.filter_singleton, decide_eq_false hrole,
        cond_false, List.append_nil, hs.system]
    · rw [happ.roles, hroles, hs.roles, List.forall_mem_append, List.forall_mem_singleton]
      refine and_congr_right' ?_
      split
      · rename_i htool
        exact ⟨fun _ => .inr (.inl htool), fun _ => .inl rfl⟩
      · rename_i htool
        exact ⟨fun h => .inr (.inr h), fun h => (h.resolve_left hrole).resolve_left htool⟩

variable (resolve) in
theorem written_run (hmerged : ∀ m ∈ messages, Merged m) (hs : Written lib done s) :
    ∃ s', messages.foldlM (blockStep lib resolve) s = .ok s' ∧
      Written lib (done ++ messages) s' := by
  induction messages generalizing done s with
  | nil => exact ⟨s, rfl, by rwa [List.append_nil]⟩
  | cons m rest ih =>
    obtain ⟨s₁, hstep, hs₁⟩ := written_step resolve hs (hmerged m List.mem_cons_self)
    obtain ⟨s', hrun, hs'⟩ := ih (fun n hn => hmerged n (List.mem_cons_of_mem _ hn)) hs₁
    refine ⟨s', ?_, ?_⟩
    · rw [List.foldlM_cons, hstep]
      exact hrun
    · rwa [List.append_assoc] at hs'

theorem written_nil (lib : Lib) : Written lib [] {} where
  plain := nofun
  first := fun _ => rfl
  opened := nofun
  head := nofun
  blocks := ⟨[], .inl rfl, rfl⟩
  system := rfl
  roles := ⟨fun _ => nofun, fun _ => nofun⟩

end

end YouBox.ClaudeChat
