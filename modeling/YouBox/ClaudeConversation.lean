import YouBox.ClaudeTurns

/-!
# A conversation on its way to Claude

What `OpenAIChatRequestToClaudeMessages` keeps of a conversation of plain texts,
calls and results. `Carries` says that blocks say what the messages say, in their
order. A merged message has the calls of the last message of its run only, and
`strings.Trim` takes quotes off its text, so `conversation_kept_iff` asks
something of every run.

That nothing less will do is shown by weighing: a quote, a call and a result
without a content weigh one each, blocks weigh at least what they carry
(`Carries.weight_le`), and what is written for a run weighs at most what the run
says (`weight_run`).
-/

namespace YouBox.ClaudeChat

open Responses

/-! ## What is said -/

inductive Said where
  | text (s : String)
  | call (id name : String)
  | result (callId content : String)

def Message.calls (m : Message) : List ToolCallRequest :=
  if m.role = "assistant" then m.toolCalls.getD [] else []

/-- The text of a message if there is any, then its calls. -/
def Message.said (m : Message) : List Said :=
  (if m.role = "tool" then [.result m.toolCallId m.stringContent]
    else if m.stringContent = "" then [] else [.text m.stringContent]) ++
    m.calls.map fun call => .call call.id call.function.name

/-- `parts` lie one behind the other in `whole`. -/
inductive InOrder {α : Type} : List (List α) → List α → Prop where
  | nil (whole : List α) : InOrder [] whole
  | cons (gap part : List α) {parts : List (List α)} {rest : List α} :
      InOrder parts rest → InOrder (part :: parts) (gap ++ part ++ rest)

variable {α : Type}

theorem InOrder.snoc {parts : List (List α)} {whole : List α} (h : InOrder parts whole)
    (gap part : List α) : InOrder (parts ++ [part]) (whole ++ gap ++ part) := by
  induction h with
  | nil whole =>
    have := InOrder.cons (whole ++ gap) part (.nil [])
    rwa [List.append_nil] at this
  | cons before first _ ih =>
    have := InOrder.cons before first ih
    simp only [List.append_assoc] at this ⊢
    exact this

theorem InOrder.append_right {parts : List (List α)} {whole : List α} (h : InOrder parts whole)
    (gap : List α) : InOrder parts (whole ++ gap) := by
  induction h with
  | nil whole => exact .nil _
  | cons before first _ ih =>
    rw [List.append_assoc]
    exact .cons before first ih

theorem InOrder.count_le [BEq α] {parts : List (List α)} {whole : List α} (h : InOrder parts whole)
    (a : α) : (parts.map (List.count a)).sum ≤ whole.count a := by
  induction h with
  | nil whole => exact Nat.zero_le _
  | cons before first _ ih =>
    simp only [List.map_cons, List.sum_cons, List.count_append]
    omega

/-- The blocks say what is said, in its order. A block of text may hold several
texts and may hold none. -/
inductive Carries : List Said → List ClaudeMediaMessage → Prop where
  | nil : Carries [] []
  | text {b : ClaudeMediaMessage} {s : String} {texts : List String} {said : List Said}
      {blocks : List ClaudeMediaMessage} (htype : b.type = "text") (htext : b.text = some s)
      (hin : InOrder (texts.map String.toList) s.toList) (h : Carries said blocks) :
      Carries (texts.map .text ++ said) (b :: blocks)
  | call {b : ClaudeMediaMessage} {said : List Said} {blocks : List ClaudeMediaMessage}
      (htype : b.type = "tool_use") (h : Carries said blocks) :
      Carries (.call b.id b.name :: said) (b :: blocks)
  | result {b : ClaudeMediaMessage} {content : String} {said : List Said}
      {blocks : List ClaudeMediaMessage} (htype : b.type = "tool_result")
      (hcontent : b.content = .json (.str content)) (h : Carries said blocks) :
      Carries (.result b.toolUseId content :: said) (b :: blocks)

variable {rs : List (List Message)} {l : List Char} {blocks : List ClaudeMediaMessage}

theorem Carries.append {said said' : List Said} {blocks' : List ClaudeMediaMessage}
    (h : Carries said blocks) (h' : Carries said' blocks') :
    Carries (said ++ said') (blocks ++ blocks') := by
  induction h with
  | nil => exact h'
  | text htype htext hin _ ih =>
    rw [List.append_assoc]
    exact .text htype htext hin ih
  | call htype _ ih => exact .call htype ih
  | result htype hcontent _ ih => exact .result htype hcontent ih

/-- A text from one of the roles of a chat; no role stands for the user. -/
structure IsTurn (m : Message) : Prop where
  text : m.content.isString = true
  role : m.role ∈ ["system", "user", "assistant", "tool", ""]

instance (m : Message) : Decidable (IsTurn m) :=
  decidable_of_iff
    (m.content.isString = true ∧ m.role ∈ ["system", "user", "assistant", "tool", ""])
    ⟨fun h => ⟨h.1, h.2⟩, fun h => ⟨h.text, h.role⟩⟩

/-- The conversation comes through: the roles Claude knows, the user first, and
everything that is said, in order. The system's texts have a field of their own. -/
structure KeepsConversation (messages : List Message) (claude : ClaudeRequest) : Prop where
  roles : ∀ m ∈ claude.messages, IsClaudeRole m.role
  first : ∀ m ∈ claude.messages.head?, m.role = "user"
  turns : Carries ((messages.filter (·.role ≠ "system")).flatMap Message.said)
    (claude.messages.flatMap ClaudeMessage.blocks)
  system : Carries ((messages.filter (·.role = "system")).flatMap Message.said)
    (contentBlocks claude.system)

/-! ## What a run loses -/

/-- What is said in a run comes through: its tool message has a content, only its
last message has calls, and merging takes no quote off its texts. -/
structure RunSaid (run : List Message) : Prop where
  result : ∀ m ∈ run, m.role = "tool" → m.stringContent ≠ ""
  calls : ∀ m ∈ run.dropLast, m.calls = []
  opening : run.tail ≠ [] → ∀ m ∈ run.head?, m.stringContent.toList.head? ≠ some '"'
  closing : ∀ m ∈ run.tail, m.stringContent.toList.getLast? ≠ some '"'

structure RunKept (run : List Message) : Prop extends RunSaid run where
  role : ∀ m ∈ run, m.role ≠ ""

instance (run : List Message) : Decidable (RunKept run) :=
  decidable_of_iff
    ((∀ m ∈ run, m.role = "tool" → m.stringContent ≠ "") ∧ (∀ m ∈ run.dropLast, m.calls = []) ∧
      (run.tail ≠ [] → ∀ m ∈ run.head?, m.stringContent.toList.head? ≠ some '"') ∧
      (∀ m ∈ run.tail, m.stringContent.toList.getLast? ≠ some '"') ∧ ∀ m ∈ run, m.role ≠ "")
    ⟨fun ⟨hresult, hcalls, hopening, hclosing, hrole⟩ =>
      ⟨⟨hresult, hcalls, hopening, hclosing⟩, hrole⟩,
    fun h => ⟨h.result, h.calls, h.opening, h.closing, h.role⟩⟩

/-! ## Quotes -/

def quotes (s : String) : Nat := s.toList.count '"'

variable {opening : List ClaudeMediaMessage}

theorem count_dropWhile_lt (h : l.head? = some '"') :
    (l.dropWhile fun c => decide (c = '"')).count '"' < l.count '"' := by
  cases l with
  | nil => cases h
  | cons c rest =>
    cases h
    rw [List.dropWhile_cons_of_pos (by rfl), List.count_cons_self]
    exact Nat.lt_succ_of_le ((List.dropWhile_sublist _).count_le _)

theorem dropWhile_eq_self (h : l.head? ≠ some '"') :
    (l.dropWhile fun c => decide (c = '"')) = l := by
  cases l with
  | nil => rfl
  | cons c rest =>
    refine List.dropWhile_cons_of_neg fun hc => h ?_
    rw [of_decide_eq_true hc]
    rfl

theorem quotes_trimQuotes_le (s : String) : quotes (trimQuotes s) ≤ quotes s := by
  simp only [quotes, trimQuotes, String.toList_ofList, List.count_reverse]
  refine ((List.dropWhile_sublist _).count_le _).trans ?_
  rw [List.count_reverse]
  exact (List.dropWhile_sublist _).count_le _

variable {s : String} {messages run : List Message} {m : Message}

theorem quotes_trimQuotes_lt (h : s.toList.head? = some '"' ∨ s.toList.getLast? = some '"') :
    quotes (trimQuotes s) < quotes s := by
  simp only [quotes, trimQuotes, String.toList_ofList, List.count_reverse]
  by_cases hhead : s.toList.head? = some '"'
  · refine lt_of_le_of_lt ((List.dropWhile_sublist _).count_le _) ?_
    rw [List.count_reverse]
    exact count_dropWhile_lt hhead
  · rw [dropWhile_eq_self hhead]
    refine lt_of_lt_of_eq (count_dropWhile_lt ?_) List.count_reverse
    rw [List.head?_reverse]
    exact h.resolve_left hhead

theorem trimQuotes_eq_self (hhead : s.toList.head? ≠ some '"')
    (hlast : s.toList.getLast? ≠ some '"') : trimQuotes s = s := by
  rw [← List.head?_reverse] at hlast
  simp only [trimQuotes, dropWhile_eq_self hhead, dropWhile_eq_self hlast, List.reverse_reverse,
    String.ofList_toList]

theorem quotes_patched (s : String) : quotes (patched s) = quotes s := by
  unfold patched
  split
  · rename_i h
    rw [h]
    rfl
  · rfl

/-! ## The text of a run -/

/-- A run as the merge pass sees it. -/
structure IsRun (run : List Message) : Prop where
  ne_nil : run ≠ []
  strings : ∀ m ∈ run, m.content.isString = true
  chain : run.IsChain fun a b => sameRole a b = true

theorem isRun_of_mem (hstring : ∀ m ∈ messages, m.content.isString = true)
    (hrun : run ∈ runs messages) : IsRun run where
  ne_nil := List.ne_nil_of_mem_splitBy hrun
  strings := fun m hm => hstring m (by
    rw [← List.flatten_splitBy sameRole messages]
    exact List.mem_flatten_of_mem hrun hm)
  chain := List.isChain_of_mem_splitBy hrun

theorem IsRun.induct {motive : (run : List Message) → IsRun run → Prop}
    (single : ∀ m, m.content.isString = true → ∀ h, motive [m] h)
    (snoc : ∀ run m (hrun : IsRun run), m.content.isString = true →
      sameRole (mergeRun run) m = true → joins (mergeRun run) m = true → motive run hrun →
      ∀ h, motive (run ++ [m]) h)
    (run : List Message) (h : IsRun run) : motive run h := by
  induction run using List.reverseRecOn with
  | nil => exact absurd rfl h.ne_nil
  | append_singleton run m ih =>
    have hm := h.strings m (List.mem_append_right _ List.mem_cons_self)
    obtain rfl | ⟨front, last, rfl⟩ := List.eq_nil_or_concat' run
    · exact single m hm h
    · obtain ⟨hchain, -, hnext⟩ := List.isChain_append.mp h.chain
      have hrun : IsRun (front ++ [last]) :=
        ⟨List.concat_ne_nil _ _, fun n hn => h.strings n (List.mem_append_left _ hn), hchain⟩
      obtain ⟨hrole, hstring⟩ := mergeRun_of_last front
        (hrun.strings last (List.mem_append_right _ List.mem_cons_self))
      have hsame : sameRole (mergeRun (front ++ [last])) m = true := by
        rw [sameRole, hrole]
        exact hnext last List.getLast?_concat m rfl
      exact snoc _ m hrun hm hsame ((joins_of_string hstring hm).trans hsame) (ih hrun) h

def runText (run : List Message) : String := (mergeRun run).stringContent

theorem runText_single (hm : m.content.isString = true) :
    runText [m] = patched m.stringContent := by
  rw [runText, mergeRun, List.foldl_cons, List.foldl_nil, formatMessage_eq hm, joinedText,
    not_joins_tool, if_neg Bool.false_ne_true]
  rfl

theorem runText_snoc (hm : m.content.isString = true) (hjoins : joins (mergeRun run) m = true) :
    runText (run ++ [m]) = patched (trimQuotes (runText run ++ " " ++ m.stringContent)) := by
  rw [runText, mergeRun_snoc, formatMessage_eq hm, joinedText, hjoins, if_pos rfl]
  rfl

theorem runText_ne (hrun : IsRun run) : (runText run).toList ≠ [] := by
  obtain ⟨t, hne, ht⟩ := (mergeRun_merged hrun.ne_nil hrun.strings).text
  rw [runText, Message.stringContent, ht]
  exact fun h => hne (String.toList_eq_nil_iff.mp h)

theorem toList_joined (s t : String) : (s ++ " " ++ t).toList = s.toList ++ ' ' :: t.toList := by
  rw [String.toList_append, String.toList_append, List.append_assoc]
  rfl

theorem head_joined (hs : s.toList ≠ []) (t : String) :
    (s ++ " " ++ t).toList.head? = s.toList.head? := by
  rw [toList_joined, List.head?_append_of_ne_nil _ hs]

theorem last_joined (s t : String) :
    (s ++ " " ++ t).toList.getLast? = some (t.toList.getLast?.getD ' ') := by
  rw [toList_joined, List.getLast?_append, List.getLast?_cons]
  rfl

/-- The texts of a run. -/
def textsOf (run : List Message) : List String :=
  (run.map Message.stringContent).filter (· ≠ "")

/-- Where nothing is taken off, the texts lie in the text of the run, and it
begins with a quote only if the first of them does. -/
theorem runText_kept (hrun : IsRun run)
    (hopening : run.tail ≠ [] → ∀ m ∈ run.head?, m.stringContent.toList.head? ≠ some '"')
    (hclosing : ∀ m ∈ run.tail, m.stringContent.toList.getLast? ≠ some '"') :
    InOrder ((textsOf run).map String.toList) (runText run).toList ∧
      ((runText run).toList.head? = some '"' →
        ∃ m ∈ run.head?, m.stringContent.toList.head? = some '"') := by
  induction run, hrun using IsRun.induct with
  | single m hm _ =>
    rw [runText_single hm, textsOf, List.map_singleton, List.filter_singleton, patched]
    by_cases hempty : m.stringContent = ""
    · rw [hempty]
      exact ⟨.nil _, fun h => by cases h⟩
    · rw [decide_eq_true hempty, if_neg hempty]
      refine ⟨?_, fun h => ⟨m, rfl, h⟩⟩
      have := InOrder.cons [] m.stringContent.toList (.nil [])
      rwa [List.nil_append, List.append_nil] at this
  | snoc run m hrun hm _ hjoins ih _ =>
    obtain ⟨first, rest, rfl⟩ := List.exists_cons_of_ne_nil hrun.ne_nil
    have hfirst : first.stringContent.toList.head? ≠ some '"' :=
      hopening (List.concat_ne_nil _ _) first rfl
    have hm_last := hclosing m (List.mem_append_right _ List.mem_cons_self)
    obtain ⟨hin, hquote⟩ := ih (fun _ n hn => by cases hn; exact hfirst)
      fun n hn => hclosing n (List.mem_append_left _ hn)
    have hstart : (runText (first :: rest)).toList.head? ≠ some '"' := fun h => by
      obtain ⟨n, hn, hq⟩ := hquote h
      cases hn
      exact hfirst hq
    have htrim : trimQuotes (runText (first :: rest) ++ " " ++ m.stringContent) =
        runText (first :: rest) ++ " " ++ m.stringContent := by
      refine trimQuotes_eq_self ?_ ?_
      · rwa [head_joined (runText_ne hrun)]
      · rw [last_joined]
        cases hlast : m.stringContent.toList.getLast? with
        | none => decide
        | some c => rwa [hlast] at hm_last
    have hne : runText (first :: rest) ++ " " ++ m.stringContent ≠ "" := fun h => by
      have := congrArg String.toList h
      rw [toList_joined] at this
      exact List.append_ne_nil_of_right_ne_nil _ (List.cons_ne_nil _ _) this
    rw [runText_snoc hm hjoins, htrim, patched, if_neg hne, head_joined (runText_ne hrun)]
    refine ⟨?_, fun h => absurd h hstart⟩
    rw [textsOf, List.map_append, List.filter_append, List.map_append, List.map_singleton,
      List.filter_singleton, toList_joined]
    by_cases hempty : m.stringContent = ""
    · rw [hempty, decide_eq_false (not_not.mpr rfl), cond_false, List.map_nil, List.append_nil]
      exact hin.append_right [' ']
    · rw [decide_eq_true hempty]
      have := hin.snoc [' '] m.stringContent.toList
      rwa [List.append_assoc] at this

/-- Merging takes quotes off, if anything; where it takes none, the texts of the
run keep theirs. -/
theorem quotes_runText (hrun : IsRun run) :
    quotes (runText run) ≤ (run.map (quotes ·.stringContent)).sum ∧
      ((run.map (quotes ·.stringContent)).sum ≤ quotes (runText run) →
        (run.tail ≠ [] → ∀ m ∈ run.head?, m.stringContent.toList.head? ≠ some '"') ∧
          ∀ m ∈ run.tail, m.stringContent.toList.getLast? ≠ some '"') := by
  induction run, hrun using IsRun.induct with
  | single m hm _ =>
    rw [runText_single hm, quotes_patched, List.map_singleton, List.sum_singleton]
    exact ⟨le_rfl, fun _ => ⟨fun h => absurd rfl h, List.forall_mem_nil _⟩⟩
  | snoc run m hrun hm _ hjoins ih _ =>
    obtain ⟨hle, hkept⟩ := ih
    obtain ⟨first, rest, rfl⟩ := List.exists_cons_of_ne_nil hrun.ne_nil
    have hjoined : quotes (runText (first :: rest) ++ " " ++ m.stringContent) =
        quotes (runText (first :: rest)) + quotes m.stringContent := by
      rw [quotes, toList_joined, List.count_append, List.count_cons_of_ne (by decide)]
      rfl
    have htrim := quotes_trimQuotes_le (runText (first :: rest) ++ " " ++ m.stringContent)
    rw [runText_snoc hm hjoins, quotes_patched, List.map_append, List.sum_append,
      List.map_singleton, List.sum_singleton]
    refine ⟨by omega, fun h => ?_⟩
    have hsame : ¬ ((runText (first :: rest) ++ " " ++ m.stringContent).toList.head? = some '"' ∨
        (runText (first :: rest) ++ " " ++ m.stringContent).toList.getLast? = some '"') :=
      fun hq => by
        have := quotes_trimQuotes_lt hq
        omega
    rw [head_joined (runText_ne hrun), last_joined, not_or] at hsame
    obtain ⟨hopening, hclosing⟩ := hkept (by omega)
    refine ⟨fun _ n hn => ?_, ?_⟩
    · cases hn
      cases rest with
      | cons second rest => exact hopening (List.cons_ne_nil _ _) first rfl
      | nil =>
        -- a single message: its text is the text of the run, unless it is empty
        have hsingle := hrun.strings first List.mem_cons_self
        rw [runText_single hsingle, patched] at hsame
        by_cases hempty : first.stringContent = ""
        · rw [hempty]
          exact (Option.some_ne_none _).symm
        · rw [if_neg hempty] at hsame
          exact hsame.1
    · intro n hn
      rcases List.mem_append.mp hn with hrest | hlast
      · exact hclosing n hrest
      · rw [List.mem_singleton] at hlast
        rw [hlast]
        intro hq
        rw [hq] at hsame
        exact hsame.2 rfl

/-! ## Run by run -/

theorem role_of_run (hrun : IsRun run) :
    ∀ m ∈ run, m.role = (mergeRun run).role := by
  induction run, hrun using IsRun.induct with
  | single m hm _ =>
    exact List.forall_mem_singleton.mpr (mergeRun_of_last [] hm).1.symm
  | snoc run m hrun hm hsame _ ih _ =>
    rw [(mergeRun_of_last run hm).1]
    have hrole : (mergeRun run).role = m.role :=
      of_decide_eq_true (Bool.and_eq_true_iff.mp hsame).1
    exact List.forall_mem_append.mpr
      ⟨fun n hn => (ih n hn).trans hrole, List.forall_mem_singleton.mpr rfl⟩

theorem tool_run (hrun : IsRun run) (htool : (mergeRun run).role = "tool") :
    ∃ m, run = [m] := by
  induction run, hrun using IsRun.induct with
  | single m _ _ => exact ⟨m, rfl⟩
  | snoc run m hrun hm hsame _ _ _ =>
    rw [(mergeRun_of_last run hm).1] at htool
    obtain ⟨hrole, hnot⟩ := Bool.and_eq_true_iff.mp hsame
    exact absurd ((of_decide_eq_true hrole).trans htool) (of_decide_eq_true hnot)

theorem mergeRun_calls (front : List Message) {last : Message}
    (hlast : last.content.isString = true) :
    (mergeRun (front ++ [last])).toolCalls.getD [] = last.calls := by
  rw [mergeRun_snoc, formatMessage_eq hlast, Message.calls]
  by_cases h : last.role = "assistant"
  · rw [if_pos h, if_pos h]
  · rw [if_neg h, if_neg h]
    rfl

/-- What a text, a call or a result weighs. Quotes and results without a content
can get lost on the way, so blocks never weigh more than what they carry. -/
def Said.weight : Said → Nat
  | .text s => quotes s
  | .call _ _ => 1
  | .result _ content => if content = "" then 1 else 0

def ClaudeMediaMessage.weight (b : ClaudeMediaMessage) : Nat :=
  if b.type = "text" then quotes b.getText
  else if b.type = "tool_use" then 1
  else match b.content with
    | .json (.str s) => if s = "" then 1 else 0
    | _ => 0

def saidWeight (said : List Said) : Nat := (said.map Said.weight).sum

def blocksWeight (blocks : List ClaudeMediaMessage) : Nat :=
  (blocks.map ClaudeMediaMessage.weight).sum

theorem saidWeight_append (a b : List Said) :
    saidWeight (a ++ b) = saidWeight a + saidWeight b := by
  rw [saidWeight, List.map_append, List.sum_append]
  rfl

theorem blocksWeight_append (a b : List ClaudeMediaMessage) :
    blocksWeight (a ++ b) = blocksWeight a + blocksWeight b := by
  rw [blocksWeight, List.map_append, List.sum_append]
  rfl

theorem Carries.weight_le {said : List Said} (h : Carries said blocks) :
    saidWeight said ≤ blocksWeight blocks := by
  induction h with
  | nil => exact le_rfl
  | @text b s texts said blocks htype htext hin _ ih =>
    have hle : saidWeight (texts.map .text) ≤ b.weight := by
      rw [ClaudeMediaMessage.weight, if_pos htype, ClaudeMediaMessage.getText, htext]
      have := hin.count_le '"'
      rw [List.map_map] at this
      rw [saidWeight, List.map_map]
      exact this
    rw [saidWeight_append]
    exact Nat.add_le_add hle ih
  | @call b said blocks htype _ ih =>
    have hb : b.weight = 1 := by
      rw [ClaudeMediaMessage.weight, htype, if_neg (by decide), if_pos rfl]
    show 1 + saidWeight said ≤ b.weight + blocksWeight blocks
    rw [hb]
    exact Nat.add_le_add_left ih 1
  | @result b content said blocks htype hcontent _ ih =>
    have hb : b.weight = if content = "" then 1 else 0 := by
      rw [ClaudeMediaMessage.weight, htype, if_neg (by decide), if_neg (by decide), hcontent]
    show (if content = "" then 1 else 0) + saidWeight said ≤ b.weight + blocksWeight blocks
    rw [hb]
    exact Nat.add_le_add_left ih _

theorem said_weight (h : m.role ≠ "tool") :
    saidWeight m.said = quotes m.stringContent + m.calls.length := by
  have hcalls : saidWeight (m.calls.map fun call => .call call.id call.function.name) =
      m.calls.length := by
    rw [saidWeight, List.map_map]
    show (m.calls.map fun _ => 1).sum = _
    rw [List.map_const', List.sum_replicate_nat, Nat.mul_one]
  rw [Message.said, saidWeight_append, hcalls, if_neg h]
  split
  · rename_i hempty
    rw [hempty]
    rfl
  · rfl

section

variable (lib : Lib)

/-- What is written for a run. -/
def runPieces (run : List Message) : List ClaudeMediaMessage := pieces lib (mergeRun run)

theorem runPieces_tool {m : Message} (hm : m.content.isString = true) (htool : m.role = "tool") :
    runPieces lib [m] =
        [toolResultBlock { m with content := .json (.str (patched m.stringContent)) }] ∧
      m.said = [.result m.toolCallId m.stringContent] := by
  have htext : joinedText { role := "tool" } m = m.stringContent := by
    rw [joinedText, not_joins_tool, if_neg Bool.false_ne_true]
  have hrole : (mergeRun [m]).role = "tool" := (mergeRun_of_last [] hm).1.trans htool
  constructor
  · rw [runPieces, pieces, if_pos hrole, mergeRun, List.foldl_cons, List.foldl_nil,
      formatMessage_eq hm, htext, if_pos htool]
    rfl
  · rw [Message.said, if_pos htool, Message.calls, if_neg (by rw [htool]; decide)]
    rfl

variable {front : List Message} {last : Message} {run : List Message}

theorem runPieces_turn (hlast : last.content.isString = true) (hrole : last.role ≠ "tool") :
    runPieces lib (front ++ [last]) =
      textBlock (runText (front ++ [last])) :: last.calls.map (toolUseBlock lib) := by
  have hmerged : (mergeRun (front ++ [last])).role ≠ "tool" := by
    rwa [(mergeRun_of_last front hlast).1]
  rw [runPieces, pieces, if_neg hmerged, mergeRun_calls front hlast]
  rfl

theorem weight_runPieces (hlast : last.content.isString = true) (hrole : last.role ≠ "tool") :
    blocksWeight (runPieces lib (front ++ [last])) =
      quotes (runText (front ++ [last])) + last.calls.length := by
  rw [runPieces_turn lib hlast hrole]
  have hcalls : blocksWeight (last.calls.map (toolUseBlock lib)) = last.calls.length := by
    rw [blocksWeight, List.map_map]
    show (last.calls.map fun _ => 1).sum = _
    rw [List.map_const', List.sum_replicate_nat, Nat.mul_one]
  rw [← hcalls]
  rfl

theorem weight_said_run (h : ∀ m ∈ run, m.role ≠ "tool") :
    saidWeight (run.flatMap Message.said) =
      (run.map (quotes ·.stringContent)).sum + (run.map (·.calls.length)).sum := by
  induction run with
  | nil => rfl
  | cons m rest ih =>
    rw [List.flatMap_cons, saidWeight_append, said_weight (h m List.mem_cons_self),
      ih fun n hn => h n (List.mem_cons_of_mem _ hn)]
    simp only [List.map_cons, List.sum_cons]
    omega

/-- A run weighs at least what is written for it, and weighs the same only if
everything it says comes through. -/
theorem weight_run (hrun : IsRun run) :
    blocksWeight (runPieces lib run) ≤ saidWeight (run.flatMap Message.said) ∧
      (saidWeight (run.flatMap Message.said) ≤ blocksWeight (runPieces lib run) → RunSaid run) := by
  by_cases htool : (mergeRun run).role = "tool"
  · obtain ⟨m, rfl⟩ := tool_run hrun htool
    have hm := hrun.strings m List.mem_cons_self
    obtain ⟨hpieces, hsaid⟩ := runPieces_tool lib hm ((mergeRun_of_last [] hm).1 ▸ htool)
    have hweight : blocksWeight (runPieces lib [m]) = 0 := by
      rw [hpieces]
      show (if patched m.stringContent = "" then 1 else 0) + 0 = 0
      rw [if_neg (patched_ne _), Nat.add_zero]
    rw [hweight, List.flatMap_singleton, hsaid]
    refine ⟨Nat.zero_le _, fun hle => ⟨?_, nofun, fun h => absurd rfl h, nofun⟩⟩
    refine List.forall_mem_singleton.mpr fun _ hempty => ?_
    rw [hempty] at hle
    exact absurd hle (Nat.not_succ_le_zero 0)
  · obtain rfl | ⟨front, last, rfl⟩ := List.eq_nil_or_concat' run
    · exact absurd rfl hrun.ne_nil
    have hlast := hrun.strings last (List.mem_append_right _ List.mem_cons_self)
    have hroles : ∀ m ∈ front ++ [last], m.role ≠ "tool" := fun m hm => by
      rwa [role_of_run hrun m hm]
    rw [weight_runPieces lib hlast (hroles last (List.mem_append_right _ List.mem_cons_self)),
      weight_said_run hroles]
    obtain ⟨hle, hkept⟩ := quotes_runText hrun
    have hcalls : ((front ++ [last]).map (·.calls.length)).sum =
        (front.map (·.calls.length)).sum + last.calls.length := by
      rw [List.map_append, List.sum_append, List.map_singleton, List.sum_singleton]
    refine ⟨by omega, fun h => ?_⟩
    obtain ⟨hopening, hclosing⟩ := hkept (by omega)
    refine ⟨fun m hm htool => absurd htool (hroles m hm), ?_, hopening, hclosing⟩
    rw [List.dropLast_concat]
    intro m hm
    have hzero : (front.map (·.calls.length)).sum = 0 := by omega
    exact List.length_eq_zero_iff.mp
      (List.sum_eq_zero_iff.mp hzero _ (List.mem_map_of_mem hm))

theorem said_front (hrole : ∀ m ∈ front, m.role ≠ "tool") (hcalls : ∀ m ∈ front, m.calls = []) :
    front.flatMap Message.said = (textsOf front).map .text := by
  induction front with
  | nil => rfl
  | cons m rest ih =>
    rw [List.flatMap_cons, ih (fun n hn => hrole n (List.mem_cons_of_mem _ hn))
        fun n hn => hcalls n (List.mem_cons_of_mem _ hn),
      Message.said, if_neg (hrole m List.mem_cons_self), hcalls m List.mem_cons_self]
    by_cases hempty : m.stringContent = ""
    · rw [if_pos hempty, textsOf, textsOf, List.map_cons, hempty]
      rfl
    · rw [if_neg hempty, textsOf, textsOf, List.map_cons (l := rest), List.filter_cons,
        if_pos (decide_eq_true hempty)]
      rfl

theorem said_run (hrole : ∀ m ∈ front ++ [last], m.role ≠ "tool")
    (hcalls : ∀ m ∈ front, m.calls = []) :
    (front ++ [last]).flatMap Message.said = (textsOf (front ++ [last])).map .text ++
      last.calls.map fun call => .call call.id call.function.name := by
  have hlast : last.said = (textsOf [last]).map .text ++
      last.calls.map fun call => .call call.id call.function.name := by
    rw [Message.said, if_neg (hrole last (List.mem_append_right _ List.mem_cons_self)), textsOf,
      List.map_singleton, List.filter_singleton]
    by_cases hempty : last.stringContent = ""
    · rw [if_pos hempty, hempty]
      rfl
    · rw [if_neg hempty, decide_eq_true hempty]
      rfl
  rw [List.flatMap_append, List.flatMap_singleton, hlast,
    said_front (fun m hm => hrole m (List.mem_append_left _ hm)) hcalls, ← List.append_assoc,
    ← List.map_append]
  simp only [textsOf, List.map_append, List.filter_append]

theorem carries_calls (calls : List ToolCallRequest) :
    Carries (calls.map fun call => .call call.id call.function.name)
      (calls.map (toolUseBlock lib)) := by
  induction calls with
  | nil => exact .nil
  | cons call rest ih => exact .call (b := toolUseBlock lib call) rfl ih

theorem carries_run (hrun : IsRun run) (hsaid : RunSaid run) :
    Carries (run.flatMap Message.said) (runPieces lib run) := by
  by_cases htool : (mergeRun run).role = "tool"
  · obtain ⟨m, rfl⟩ := tool_run hrun htool
    have hm := hrun.strings m List.mem_cons_self
    have hrole : m.role = "tool" := (mergeRun_of_last [] hm).1 ▸ htool
    obtain ⟨hpieces, hresult⟩ := runPieces_tool lib hm hrole
    rw [hpieces, List.flatMap_singleton, hresult, patched,
      if_neg (hsaid.result m List.mem_cons_self hrole)]
    exact .result (b := toolResultBlock { m with content := .json (.str m.stringContent) }) rfl rfl
      .nil
  · obtain rfl | ⟨front, last, rfl⟩ := List.eq_nil_or_concat' run
    · exact absurd rfl hrun.ne_nil
    have hlast := hrun.strings last (List.mem_append_right _ List.mem_cons_self)
    have hroles : ∀ m ∈ front ++ [last], m.role ≠ "tool" := fun m hm => by
      rwa [role_of_run hrun m hm]
    have hcalls := hsaid.calls
    rw [List.dropLast_concat] at hcalls
    rw [said_run hroles hcalls,
      runPieces_turn lib hlast (hroles last (List.mem_append_right _ List.mem_cons_self))]
    exact .text rfl rfl (runText_kept hrun hsaid.opening hsaid.closing).1 (carries_calls lib _)

end

/-! ## All runs -/

theorem le_of_sum_le {f g : α → Nat} {l : List α} (hle : ∀ x ∈ l, f x ≤ g x)
    (hsum : (l.map g).sum ≤ (l.map f).sum) : ∀ x ∈ l, g x ≤ f x := by
  induction l with
  | nil => exact nofun
  | cons x rest ih =>
    obtain ⟨hx, hrest⟩ := List.forall_mem_cons.mp hle
    have hrest_sum : (rest.map f).sum ≤ (rest.map g).sum := List.sum_le_sum hrest
    simp only [List.map_cons, List.sum_cons] at hsum
    exact List.forall_mem_cons.mpr ⟨by omega, ih hrest (by omega)⟩

theorem saidWeight_flatMap (f : α → List Said) (l : List α) :
    saidWeight (l.flatMap f) = (l.map fun x => saidWeight (f x)).sum := by
  induction l with
  | nil => rfl
  | cons x rest ih => rw [List.flatMap_cons, saidWeight_append, ih, List.map_cons, List.sum_cons]

theorem blocksWeight_flatMap (f : α → List ClaudeMediaMessage) (l : List α) :
    blocksWeight (l.flatMap f) = (l.map fun x => blocksWeight (f x)).sum := by
  induction l with
  | nil => rfl
  | cons x rest ih => rw [List.flatMap_cons, blocksWeight_append, ih, List.map_cons, List.sum_cons]

theorem carries_flatMap {f : α → List Said} {g : α → List ClaudeMediaMessage} {l : List α}
    (h : ∀ x ∈ l, Carries (f x) (g x)) : Carries (l.flatMap f) (l.flatMap g) := by
  induction l with
  | nil => exact .nil
  | cons x rest ih =>
    obtain ⟨hx, hrest⟩ := List.forall_mem_cons.mp h
    exact hx.append (ih hrest)

theorem carries_runs_iff (lib : Lib) (hrs : ∀ run ∈ rs, IsRun run)
    (hopening : opening = [] ∨ opening = [textBlock "..."]) :
    Carries (rs.flatMap (·.flatMap Message.said)) (opening ++ rs.flatMap (runPieces lib)) ↔
      ∀ run ∈ rs, RunSaid run := by
  constructor
  · intro h run hrun
    have hzero : blocksWeight opening = 0 := by
      rcases hopening with rfl | rfl <;> rfl
    have hle := h.weight_le
    rw [blocksWeight_append, hzero, Nat.zero_add, saidWeight_flatMap, blocksWeight_flatMap] at hle
    exact (weight_run lib (hrs run hrun)).2
      (le_of_sum_le (fun run hrun => (weight_run lib (hrs run hrun)).1) hle run hrun)
  · intro h
    have hrest := carries_flatMap fun run hrun => carries_run lib (hrs run hrun) (h run hrun)
    rcases hopening with rfl | rfl
    · exact hrest
    · have hnothing : InOrder (([] : List String).map String.toList) "...".toList := .nil _
      exact .text (b := textBlock "...") rfl rfl hnothing hrest

theorem filter_flatten (hrs : ∀ run ∈ rs, IsRun run) (p : String → Bool) :
    rs.flatten.filter (fun m => p m.role) =
      (rs.filter fun run => p (mergeRun run).role).flatten := by
  induction rs with
  | nil => rfl
  | cons run rest ih =>
    obtain ⟨hrun, hrest⟩ := List.forall_mem_cons.mp hrs
    have hrole := role_of_run hrun
    rw [List.flatten_cons, List.filter_append, ih hrest, List.filter_cons]
    cases hp : p (mergeRun run).role with
    | true =>
      rw [if_pos rfl, List.flatten_cons,
        List.filter_eq_self.mpr fun m hm => by rw [hrole m hm, hp]]
    | false =>
      rw [if_neg Bool.false_ne_true,
        List.filter_eq_nil_iff.mpr fun m hm => by rw [hrole m hm, hp]; exact Bool.false_ne_true]
      rfl

theorem carries_roles_iff (lib : Lib) (hstring : ∀ m ∈ messages, m.content.isString = true)
    (p : String → Bool) (hopening : opening = [] ∨ opening = [textBlock "..."]) :
    Carries ((messages.filter fun m => p m.role).flatMap Message.said)
        (opening ++
          (((runs messages).map mergeRun).filter fun m => p m.role).flatMap (pieces lib)) ↔
      ∀ run ∈ runs messages, p (mergeRun run).role = true → RunSaid run := by
  have hrs : ∀ run ∈ runs messages, IsRun run := fun run hrun => isRun_of_mem hstring hrun
  have hsaid : (messages.filter fun m => p m.role).flatMap Message.said =
      ((runs messages).filter fun run => p (mergeRun run).role).flatMap
        (·.flatMap Message.said) := by
    conv_lhs => rw [← List.flatten_splitBy sameRole messages]
    rw [← runs, filter_flatten hrs, ← List.flatMap_id, List.flatMap_assoc]
    rfl
  have hpieces : (((runs messages).map mergeRun).filter fun m => p m.role).flatMap (pieces lib) =
      ((runs messages).filter fun run => p (mergeRun run).role).flatMap (runPieces lib) := by
    rw [List.filter_map, List.flatMap_map]
    rfl
  rw [hsaid, hpieces, carries_runs_iff lib (fun run hrun => hrs run (List.mem_filter.mp hrun).1)
    hopening]
  simp only [List.mem_filter, and_imp]

theorem convertMessages_written (lib : Lib) (resolve : Resolve)
    (hstring : ∀ m ∈ messages, m.content.isString = true) :
    ∃ s, convertMessages lib resolve messages = .ok s ∧
      Written lib ((runs messages).map mergeRun) s := by
  obtain ⟨merged, hmerge, hformat⟩ := mergeRuns hstring
  have hmerged : ∀ m ∈ merged.formatMessages, Merged m := by
    rw [hformat]
    refine List.forall_mem_map.mpr fun run hrun => ?_
    have hrun := isRun_of_mem hstring hrun
    exact mergeRun_merged hrun.ne_nil hrun.strings
  obtain ⟨s, hrun, hwritten⟩ := written_run resolve hmerged (written_nil lib)
  rw [List.nil_append, hformat] at hwritten
  refine ⟨s, ?_, hwritten⟩
  rw [convertMessages, hmerge]
  exact hrun

theorem runKept_role_iff (hturns : ∀ m ∈ messages, IsTurn m) :
    (∀ m ∈ (runs messages).map mergeRun,
        m.role = "system" ∨ m.role = "tool" ∨ IsClaudeRole m.role) ↔
      ∀ run ∈ runs messages, ∀ m ∈ run, m.role ≠ "" := by
  rw [List.forall_mem_map]
  refine forall₂_congr fun run hrun => ?_
  have hrun' := isRun_of_mem (fun m hm => (hturns m hm).text) hrun
  have hrole := role_of_run hrun'
  obtain ⟨m, hm⟩ := List.exists_mem_of_ne_nil run hrun'.ne_nil
  have hturn : m.role ∈ ["system", "user", "assistant", "tool", ""] := by
    refine (hturns m ?_).role
    rw [← List.flatten_splitBy sameRole messages]
    exact List.mem_flatten_of_mem hrun hm
  have hall : (∀ n ∈ run, n.role ≠ "") ↔ m.role ≠ "" :=
    ⟨fun h => h m hm, fun h n hn => by rwa [hrole n hn, ← hrole m hm]⟩
  rw [hall, ← hrole m hm, IsClaudeRole]
  simp only [List.mem_cons, List.not_mem_nil, or_false] at hturn
  rcases hturn with h | h | h | h | h <;> rw [h] <;> decide

/-- A conversation comes through exactly where every run of one role does. -/
theorem conversation_kept_iff (lib : Lib) (settings : ClaudeSettings) (resolve : Resolve)
    (req : GeneralOpenAIRequest) {fields : ClaudeRequest}
    (hfields : convertFields lib settings req = .ok fields)
    (hturns : ∀ m ∈ req.messages, IsTurn m) :
    ∃ claude, openAIChatRequestToClaudeMessages lib settings resolve req = .ok claude ∧
      (KeepsConversation req.messages claude ↔ ∀ run ∈ runs req.messages, RunKept run) := by
  have hstring : ∀ m ∈ req.messages, m.content.isString = true := fun m hm => (hturns m hm).text
  obtain ⟨s, hs, hwritten⟩ := convertMessages_written lib resolve hstring
  refine ⟨_, by rw [openAIChatRequestToClaudeMessages, hfields, hs]; rfl, ?_⟩
  obtain ⟨opening, hopening, hblocks⟩ := hwritten.blocks
  have hturns_iff := carries_roles_iff lib hstring (fun role => role ≠ "system") hopening
  have hsystem_iff := carries_roles_iff lib hstring (fun role => role = "system") (.inl rfl)
  rw [← hblocks] at hturns_iff
  rw [List.nil_append, ← hwritten.system] at hsystem_iff
  have hcontent : contentBlocks (if s.systemMessages = [] then .json .null
      else .slice s.systemMessages) = s.systemMessages := by
    split
    · rename_i h
      rw [h]
      rfl
    · rfl
  have hroles := hwritten.roles.trans (runKept_role_iff hturns)
  constructor
  · intro h run hrun
    refine { toRunSaid := ?_, role := hroles.mp h.roles run hrun }
    by_cases hsystem : (mergeRun run).role = "system"
    · exact hsystem_iff.mp (hcontent ▸ h.system) run hrun (decide_eq_true hsystem)
    · exact hturns_iff.mp h.turns run hrun (decide_eq_true hsystem)
  · intro h
    exact {
      roles := hroles.mpr fun run hrun => (h run hrun).role
      first := hwritten.head
      turns := hturns_iff.mpr fun run hrun _ => (h run hrun).toRunSaid
      system := by
        rw [hcontent]
        exact hsystem_iff.mpr fun run hrun _ => (h run hrun).toRunSaid }

/-! ## A call and what follows it -/

/-- JSON where all that is read or written is an object without fields. -/
def plainLib : Lib where
  marshal _ := "{}"
  formatFloat text := text
  sprint _ := "map[]"
  unmarshalError _ := "json: cannot unmarshal object"
  unmarshalInput _ := .obj []
  unmarshalMaxTokens _ := .ok 0
  unmarshalEffort _ := none
  unmarshalBlocks _ := .error "json: cannot unmarshal object"
  unmarshalTools _ := .error "json: cannot unmarshal object"
  marshalBlocks _ := "null"
  mediaJson _ := .arr []
  sprintS _ := "map[]"

def plainSettings : ClaudeSettings where
  defaultMaxTokens _ := 8192
  thinkingAdapterEnabled := true
  thinkingBudget maxTokens := maxTokens * 4 / 5
  thinkingModelBlacklist := []

def noMedia : Resolve := fun _ => .error "no media"

def turn (role text : String) : Message := { role, content := .json (.str text) }

/-- An assistant that calls a tool, and the messages after that. -/
def callTalk (rest : List Message) : GeneralOpenAIRequest where
  model := "claude-sonnet-4"
  messages := [turn "user" "list", { turn "assistant" "look" with
    toolCalls := some [{ id := "c1", type := "function", function := { name := "ls" } }] }] ++ rest

def answered : List Message :=
  [{ turn "tool" "a.txt" with toolCallId := "c1" }, turn "user" "thanks"]

theorem answered_call_kept :
    ∃ claude, openAIChatRequestToClaudeMessages plainLib plainSettings noMedia
        (callTalk answered) = .ok claude ∧
      KeepsConversation (callTalk answered).messages claude := by
  obtain ⟨claude, hclaude, hkeeps⟩ :=
    conversation_kept_iff plainLib plainSettings noMedia (callTalk answered) rfl (by decide)
  exact ⟨claude, hclaude, hkeeps.mpr (by decide)⟩

/-- The call of an assistant that goes on speaking is lost. -/
theorem call_lost :
    ¬ ∀ (lib : Lib) (settings : ClaudeSettings) (resolve : Resolve) (req : GeneralOpenAIRequest)
      (fields : ClaudeRequest), convertFields lib settings req = .ok fields →
      (∀ m ∈ req.messages, IsTurn m) →
      ∃ claude, openAIChatRequestToClaudeMessages lib settings resolve req = .ok claude ∧
        KeepsConversation req.messages claude := by
  intro h
  obtain ⟨claude, hclaude, hkeeps⟩ := h plainLib plainSettings noMedia
    (callTalk [turn "assistant" "done"]) _ rfl (by decide)
  have hmessages : claude.messages = [{ role := "user", content := .json (.str "list") },
      { role := "assistant", content := .json (.str "look done") }] := by
    injection hclaude with hclaude
    rw [← hclaude]
    rfl
  have hle := hkeeps.turns.weight_le
  rw [hmessages] at hle
  exact absurd hle (by decide)

end YouBox.ClaudeChat
