import YouBox.ResponsesEnd

/-!
# What a whole Responses stream becomes

`stream_lossless_iff`: the chunks of a valid stream are lossless exactly
when every item is told once (`OnceEach`). Tools are a matter of
counting. The indexes in use are those of the tools keyed by the stream,
of the items given by the terminal event and of the arguments left over
(`Closing`); they spell the tool items one for one only if no item is
among them twice. Text and reasoning are `firstOf_eq_iff`.

An ordinary stream is not lossless: where a call is streamed and the
terminal event repeats it, its key is `output:n` the first time and
`item:id` the second (`repeated_call_is_doubled`).
-/

namespace YouBox.Responses

open Interleave Parts ResponsesToChatStreamState

/-! ## The end of the run -/

/-- Arguments that no event of the stream gave a tool to. -/
def leftOver (items : List ResponsesOutput) (script : List Signal) : List Nat :=
  (numbers items fun item => isResponsesToolOutputType item.type).filter fun n =>
    n ∉ keyed script ∧ told n script ≠ ""

/-- All chunks of a stream, by what the script and the terminal event say. -/
structure Closing (items : List ResponsesOutput) (script : List Signal) (again : List Nat)
    (chunks : List ChatChunk) : Prop where
  framed : Framed chunks
  text : String.join (textsOf chunks)
    = firstOf (String.join ((textWrites script).map (·.2))) (again.map (textAt items))
  reasoning : reasoningsOf chunks = (brokenUp script).1 ++ givenReasoning items script again
  fills : Fills 0 ((keyed script).length + (givenTools items again).length +
    (leftOver items script).length) (callsOf chunks)
  spoken : ∀ n item, Tool items n item → n ∈ keyed script →
    Spoken (callsOf chunks) ((keyed script).idxOf n) item n script (told n script)
  given : ∀ j n item, (givenTools items again)[j]? = some n → items[n]? = some item →
    SpellsOne (ownCalls ((keyed script).length + j) (callsOf chunks)) item

variable {again : List Nat} {calls : List ToolCallResponse} {n : Nat}

section Close

variable {items : List ResponsesOutput} {script : List Signal} {again : List Nat}
  {s : ResponsesToChatStreamState} {out : List ChatChunk}

theorem Tracks.metadata (h : Tracks items script s out)
    (response : Option OpenAIResponsesResponse) :
    Tracks items script (s.applyResponseMetadata response) out := by
  obtain ⟨hmaps, hstart, hflow⟩ := s.applyResponseMetadata_spec response
  refine ⟨⟨?_, h.flow.text, ?_, h.flow.reasoning, ?_, ?_, ?_⟩, ?_⟩
  · rw [hstart]; exact h.flow.opened
  · rw [hflow.hasSentText, h.flow.sentText]
  · rw [hflow.hasSentReasoning, h.flow.sentReasoning]
  · rw [hflow.due, h.flow.due]
  · rw [hflow.finalized, h.flow.running]
  · rw [hmaps]; exact h.tools

theorem terminalOutputChunks_eq (response : Option OpenAIResponsesResponse) :
    s.terminalOutputChunks response = terminalItems ((response.map (·.output)).getD []) s := by
  cases response <;> rfl

variable {done : List Nat} {m₀ : ToolMaps}

variable {usage : List ChatChunk} {calls₀ : List ToolCallResponse} {m : ToolMaps}

theorem ToolsEnd.rested (h₀ : ToolsTrack items script m₀ calls₀)
    (h : ToolsEnd items script done m₀ m calls) :
    Rested m where
  settled := h.settled
  nothing := by
    intro key tool hlookup
    rcases h.only key tool hlookup with ⟨n, item, htool, hmem, rfl⟩ | ⟨n, item, -, -, rfl⟩
    · rw [waitingFor, h.pending, h₀.pending n item htool, if_pos (.inl hmem)]
      rfl
    · rw [waitingFor, h.noItems]
      rfl

theorem ToolsEnd.unseen (h₀ : ToolsTrack items script m₀ calls₀)
    (h : ToolsEnd items script done m₀ s.toToolMaps calls) :
    s.unseenKeys.length = (leftOver items script).length := by
  have hwaits : ∀ i, i ∈ s.pendingArgsByOutputIndex.keys ↔
      ∃ n ∈ leftOver items script, (n : Int) = i := by
    intro i
    rw [← AList.mem_keys, ← AList.lookup_isSome, h.pending]
    constructor
    · intro hsome
      obtain ⟨text, htext⟩ := Option.isSome_iff_exists.1 hsome
      obtain ⟨n, item, htool, rfl⟩ := h₀.pendingOnly i text htext
      rw [h₀.pending n item htool] at htext
      split at htext
      · cases htext
      · rename_i hnot
        push Not at hnot
        refine ⟨n, List.mem_filter.2 ⟨(mem_numbers _ _).2 ⟨item, htool⟩, ?_⟩, rfl⟩
        simpa using hnot
    · rintro ⟨n, hn, rfl⟩
      obtain ⟨hnum, hnot⟩ := List.mem_filter.1 hn
      obtain ⟨item, htool⟩ := (mem_numbers _ _).1 hnum
      rw [h₀.pending n item htool, if_neg (by simpa using hnot)]
      rfl
  have hperm : s.pendingArgsByOutputIndex.keys.Perm ((leftOver items script).map Int.ofNat) := by
    refine (List.perm_ext_iff_of_nodup s.pendingArgsByOutputIndex.keys_nodup ?_).2 fun i => ?_
    · exact ((numbers_nodup _ _).filter _).map fun _ _ heq => Int.ofNat.inj heq
    · rw [hwaits, List.mem_map]
      rfl
  have hunseen : s.unseenKeys = s.pendingArgsByOutputIndex.keys.map ToolKey.output := by
    rw [unseenKeys, h.noItems, AList.keys_empty, List.map_nil, List.append_nil,
      List.filter_eq_self]
    intro key hkey
    obtain ⟨i, hi, rfl⟩ := List.mem_map.1 hkey
    obtain ⟨n, hn, rfl⟩ := (hwaits i).1 hi
    have hnot : n ∉ keyed script := by
      have := (List.mem_filter.1 hn).2
      simp only [decide_eq_true_eq] at this
      exact this.1
    have hfree : ToolKey.output (n : Int) ∉ s.toolByKey.keys := by
      intro hmem
      obtain ⟨tool, htool⟩ :=
        Option.isSome_iff_exists.1 (AList.lookup_isSome.2 (AList.mem_keys.2 hmem))
      rcases h.only _ tool htool with ⟨k, _, _, hk, hkey⟩ | ⟨_, _, _, _, hkey⟩
      · exact hnot (Int.ofNat.inj (ToolKey.output.inj hkey) ▸ hk)
      · cases hkey
    exact decide_eq_true hfree
  rw [hunseen, List.length_map, hperm.length_eq, List.length_map]

theorem ToolsEnd.fills (h : ToolsEnd items script done m₀ m calls)
    (hfits : ∀ signal ∈ script, Fits items signal) :
    Fills 0 m.nextToolIndex calls where
  inside := fun call hmem => ⟨Nat.zero_le _, by rw [Nat.zero_add]; exact h.bounded call hmem⟩
  each := by
    intro k _ hlt
    rw [Nat.zero_add, h.next] at hlt
    have hear : ∀ call ∈ ownCalls k calls, ∃ call ∈ calls, call.index = k := by
      intro call hmem
      obtain ⟨hcall, hindex⟩ := List.mem_filter.1 hmem
      exact ⟨call, hcall, of_decide_eq_true hindex⟩
    by_cases hk : k < (keyed script).length
    · have hmem : (keyed script)[k] ∈ keyed script := List.getElem_mem hk
      obtain ⟨item, htool⟩ := tool_of_mem_keyed hfits hmem
      have hspoken := h.spoken _ item htool hmem
      rw [List.Nodup.idxOf_getElem (keyed_nodup script) k hk] at hspoken
      rcases announced_or_early hmem with hsaid | hsaid
      · obtain ⟨call, hcall, -⟩ := hspoken.byCall hsaid
        exact hear call hcall
      · obtain ⟨call, hcall, -⟩ := hspoken.byItem hsaid
        exact hear call hcall
    · obtain ⟨j, rfl⟩ := Nat.exists_eq_add_of_le (Nat.not_lt.1 hk)
      have hj : j < (givenTools items done).length := by omega
      have hget := List.getElem?_eq_getElem hj
      obtain ⟨item, htool⟩ :=
        isToolAt_iff.1 (List.mem_filter.1 (List.getElem_mem hj)).2
      obtain ⟨call, hcall⟩ :=
        List.exists_mem_of_ne_nil _ (h.given j _ item hget htool.1).heard
      exact hear call hcall

theorem Opened.framed {chunks : List ChatChunk} {finish : ChatChunk} (h : Opened false true chunks)
    (hfinish : IsFinish finish) (husage : ∀ chunk ∈ usage, chunk.choices = []) :
    Framed (chunks ++ finish :: usage) := by
  rcases h with ⟨-, hsame⟩ | ⟨-, start, body, rfl, hstart, hbody⟩
  · cases hsame
  · exact ⟨start, body, finish, usage, by simp, hstart, hbody, hfinish, husage⟩

theorem finish_quiet {finish : ChatChunk} (hfinish : IsFinish finish)
    (husage : ∀ chunk ∈ usage, chunk.choices = []) :
    textsOf (finish :: usage) = [] ∧ reasoningsOf (finish :: usage) = [] ∧
      callsOf (finish :: usage) = [] := by
  obtain ⟨reason, hchoices⟩ := hfinish
  refine ⟨?_, ?_, ?_⟩
  all_goals
    refine List.flatMap_eq_nil_iff.2 fun chunk hmem => ?_
    rcases List.mem_cons.1 hmem with rfl | hmem
    · rw [hchoices]; rfl
    · rw [husage chunk hmem]; rfl

theorem Tracks.close (h : Tracks items script s out) (hvalid : Valid items script again)
    {response : Option OpenAIResponsesResponse}
    (houtput : (response.map (·.output)).getD [] = again.filterMap (items[·]?)) :
    ∃ chunks s', s.finish response = (chunks, s') ∧
      Closing items script again (out ++ chunks) := by
  have hnow := h.metadata response
  have hending := hnow.ending fun n item htool => (hvalid.trimmed n item htool).2.2.1
  obtain ⟨chunks, s₁, hgive, hend⟩ := hending.giveItems
    (fun k hk => List.mem_range.1 (hvalid.sublist.subset hk))
    (by rw [List.nil_append]; exact List.nodup_range.sublist hvalid.sublist)
    hvalid.distinct hvalid.trimmed
  rw [List.nil_append] at hend
  obtain ⟨flushed, finish, usage, s', extra, hfinal, hemits, hfinish, husage, hfills⟩ :=
    s₁.finalize_spec response hend.running (hend.tools.rested hnow.tools)
  have hall := hend.emits hemits
  rw [String.append_empty, List.append_nil] at hall
  obtain ⟨htexts, hreasonings, hcalls⟩ := finish_quiet hfinish husage
  have hchunks : out ++ (chunks ++ (flushed ++ finish :: usage))
      = (out ++ chunks ++ flushed) ++ finish :: usage := by simp
  have hextra : ∀ k, k < s₁.nextToolIndex → ∀ call ∈ extra, call.index ≠ k := by
    intro k hk call hmem
    have := hfills.inside call hmem
    omega
  have hallCalls : callsOf (out ++ (chunks ++ (flushed ++ finish :: usage)))
      = callsOf (out ++ chunks) ++ extra := by
    rw [hchunks, callsOf, List.flatMap_append]
    exact (congrArg₂ _ hall.calls hcalls).trans (List.append_nil _)
  refine ⟨chunks ++ (flushed ++ finish :: usage), s', ?_, ?_⟩
  · simp only [ResponsesToChatStreamState.finish, terminalOutputChunks_eq, houtput, hgive, hfinal]
  constructor
  · rw [hchunks]
    exact hall.opened.framed hfinish husage
  · rw [hchunks, textsOf, List.flatMap_append, String.join_append]
    refine (congrArg₂ _ hall.text (congrArg String.join htexts)).trans ?_
    rw [String.join_nil, String.append_empty, hend.text]
  · rw [hchunks, reasoningsOf, List.flatMap_append]
    refine (congrArg₂ _ hall.reasoning hreasonings).trans ?_
    rw [List.append_nil, hend.reasoning]
  · rw [hallCalls, ← hend.tools.unseen hnow.tools, ← hend.tools.next]
    refine (hend.tools.fills hvalid.fits).append ?_
    rw [Nat.zero_add]
    exact hfills
  · intro n item htool hmem
    rw [hallCalls]
    have hlt := List.idxOf_lt_length_of_mem hmem
    exact (hend.tools.spoken n item htool hmem).others
      (hextra _ (by rw [hend.tools.next]; omega))
  · intro j n item hget hat
    have hlt := (List.getElem?_eq_some_iff.1 hget).1
    have hnone : ownCalls ((keyed script).length + j) extra = [] :=
      ownCalls_eq_nil (hextra _ (by rw [hend.tools.next]; omega))
    rw [hallCalls, ownCalls_append, hnone, List.append_nil]
    exact hend.tools.given j n item hget hat

end Close

/-! ## Tools -/

variable {text : String}

theorem tell_ne (signal : Signal) (h : text ≠ "") : tell n text signal ≠ "" := by
  cases signal with
  | item k out =>
    simp only [tell]
    split
    · rename_i hargs
      exact hargs.2
    · exact h
  | argsDelta k delta =>
    simp only [tell]
    split
    · simp [h]
    · exact h
  | _ => exact h

theorem told_ne (script : List Signal) (h : text ≠ "") : script.foldl (tell n) text ≠ "" := by
  induction script generalizing text with
  | nil => exact h
  | cons signal rest ih => exact ih (tell_ne signal h)

section Once

variable {items : List ResponsesOutput} {script : List Signal} {again : List Nat} {n : Nat}
  {item : ResponsesOutput} {chunks : List ChatChunk}

/-- The stream mentions a tool item exactly when it keys it or holds
arguments for it. -/
theorem mentioned_iff (hfits : ∀ signal ∈ script, Fits items signal) (htool : Tool items n item) :
    (∃ signal ∈ script, signal.mentions n) ↔ n ∈ keyed script ∨ told n script ≠ "" := by
  constructor
  · rintro ⟨signal, hmem, hmentions⟩
    cases signal with
    | item k out =>
      obtain rfl : k = n := hmentions
      obtain ⟨other, hother, htype, -⟩ := hfits _ hmem
      rw [htool.unique hother] at htype
      exact .inl (mem_keyed.2 ⟨_, hmem, by simp [Signal.keys, htype, htool.2]⟩)
    | argsDelta k delta =>
      obtain ⟨rfl, hdelta⟩ := hmentions
      obtain ⟨before, after, rfl⟩ := List.append_of_mem hmem
      right
      rw [told, List.foldl_append, List.foldl_cons]
      exact told_ne after (by simp [tell, hdelta])
    | argsDone k =>
      obtain rfl : k = n := hmentions
      exact .inl (mem_keyed.2 ⟨_, hmem, rfl⟩)
    | _ => exact hmentions.elim
  · rintro (hmem | htold)
    · obtain ⟨signal, hmem, hkeys⟩ := mem_keyed.1 hmem
      refine ⟨signal, hmem, ?_⟩
      cases signal with
      | item k out =>
        simp only [Signal.keys] at hkeys
        split at hkeys
        · exact Option.some.inj hkeys
        · cases hkeys
      | argsDone k => exact Option.some.inj hkeys
      | _ => cases hkeys
    · by_contra hnone
      push Not at hnone
      refine htold ?_
      clear htold hfits
      induction script using List.reverseRecOn with
      | nil => rfl
      | append_singleton script signal ih =>
        rw [told_append, ih fun earlier hmem => hnone earlier (List.mem_append_left _ hmem)]
        have hnot := hnone signal (by simp)
        cases signal with
        | item k out => exact if_neg fun hor => hnot hor.1
        | argsDelta k delta =>
          simp only [tell]
          split
          · rename_i hk
            have hdelta : delta = "" := not_not.1 fun hne => hnot ⟨hk, hne⟩
            rw [hdelta]
            rfl
          · rfl
        | _ => rfl

/-- No tool item is told by the stream and given by the terminal event. -/
def ToldOnce (items : List ResponsesOutput) (script : List Signal) (again : List Nat) : Prop :=
  ∀ n ∈ again, ∀ item, Tool items n item → n ∉ keyed script ∧ told n script = ""

theorem toldOnce_iff (hfits : ∀ signal ∈ script, Fits items signal) :
    ToldOnce items script again ↔
      ∀ n ∈ again, ∀ item, Tool items n item → ∀ signal ∈ script, ¬ signal.mentions n := by
  refine forall₄_congr fun n _ item htool => ?_
  have hmentioned := mentioned_iff hfits htool
  constructor
  · rintro ⟨hkeyed, htold⟩ signal hmem hmentions
    rcases hmentioned.1 ⟨signal, hmem, hmentions⟩ with h | h
    · exact hkeyed h
    · exact h htold
  · intro hnone
    have hnot : ¬ (n ∈ keyed script ∨ told n script ≠ "") := fun h =>
      let ⟨signal, hmem, hmentions⟩ := hmentioned.2 h
      hnone signal hmem hmentions
    push Not at hnot
    exact hnot

/-- The numbers of the tools by index: the keyed, the given, the left over. -/
def entries (items : List ResponsesOutput) (script : List Signal) (again : List Nat) : List Nat :=
  keyed script ++ givenTools items again ++ leftOver items script

def toolNumbers (items : List ResponsesOutput) : List Nat :=
  numbers items fun item => isResponsesToolOutputType item.type

theorem mem_toolNumbers : n ∈ toolNumbers items ↔ ∃ item, Tool items n item :=
  mem_numbers items _

theorem toolNumbers_subset (hvalid : Valid items script again) :
    toolNumbers items ⊆ entries items script again := by
  intro n hn
  obtain ⟨item, htool⟩ := mem_toolNumbers.1 hn
  rcases hvalid.tools n item htool with hannounced | hagain
  · have hmem := mem_keyed_of_announced hvalid.fits htool hannounced
    simp [entries, hmem]
  · have hgiven : n ∈ givenTools items again :=
      List.mem_filter.2 ⟨hagain, isToolAt_iff.2 ⟨item, htool⟩⟩
    simp [entries, hgiven]

theorem toldOnce_of_length (hvalid : Valid items script again)
    (hlength : (entries items script again).length = (toolNumbers items).length) :
    ToldOnce items script again := by
  have hperm : (toolNumbers items).Perm (entries items script again) :=
    (List.subperm_of_subset (numbers_nodup _ _) (toolNumbers_subset hvalid)).perm_of_length_le
      hlength.le
  have hnodup := hperm.nodup_iff.1 (numbers_nodup _ _)
  obtain ⟨hfirst, -, hleft⟩ := List.nodup_append.1 hnodup
  obtain ⟨-, -, hgiven⟩ := List.nodup_append.1 hfirst
  intro n hagain item htool
  have hmem : n ∈ givenTools items again :=
    List.mem_filter.2 ⟨hagain, isToolAt_iff.2 ⟨item, htool⟩⟩
  have hkeyed : n ∉ keyed script := fun h => hgiven n h n hmem rfl
  refine ⟨hkeyed, not_not.1 fun htold => ?_⟩
  have hleftOver : n ∈ leftOver items script :=
    List.mem_filter.2 ⟨mem_toolNumbers.2 ⟨item, htool⟩, by simp [hkeyed, htold]⟩
  exact hleft n (List.mem_append_right _ hmem) n hleftOver rfl

theorem ToldOnce.leftOver_eq_nil (h : ToldOnce items script again)
    (hvalid : Valid items script again) : leftOver items script = [] := by
  refine List.filter_eq_nil_iff.2 fun n hn => ?_
  obtain ⟨item, htool⟩ := mem_toolNumbers.1 hn
  rcases hvalid.tools n item htool with hannounced | hagain
  · simp [mem_keyed_of_announced hvalid.fits htool hannounced]
  · simp [(h n hagain item htool).2]

theorem ToldOnce.perm (h : ToldOnce items script again) (hvalid : Valid items script again) :
    (keyed script ++ givenTools items again).Perm (toolNumbers items) := by
  refine (List.perm_ext_iff_of_nodup ?_ (numbers_nodup _ _)).2 fun n => ?_
  · refine List.nodup_append.2 ⟨keyed_nodup script,
      (List.nodup_range.sublist hvalid.sublist).filter _, ?_⟩
    rintro n hkeyed _ hgiven rfl
    obtain ⟨hagain, htool⟩ := List.mem_filter.1 hgiven
    obtain ⟨item, htool⟩ := isToolAt_iff.1 htool
    exact (h n hagain item htool).1 hkeyed
  · constructor
    · intro hmem
      rcases List.mem_append.1 hmem with hkeyed | hgiven
      · exact mem_toolNumbers.2 (tool_of_mem_keyed hvalid.fits hkeyed)
      · exact mem_toolNumbers.2 (isToolAt_iff.1 (List.mem_filter.1 hgiven).2)
    · intro hmem
      have hentry := toolNumbers_subset hvalid hmem
      rwa [entries, h.leftOver_eq_nil hvalid, List.append_nil] at hentry

theorem Fills.length_eq {count : Nat} {tools : List ResponsesOutput} (h : Fills 0 count calls)
    (hspells : Spells calls tools) : count = tools.length := by
  rcases Nat.lt_trichotomy count tools.length with hlt | heq | hgt
  · have hone := hspells.each count tools[count] (List.getElem?_eq_getElem hlt)
    obtain ⟨call, hcall⟩ := List.exists_mem_of_ne_nil _ hone.heard
    obtain ⟨hmem, hindex⟩ := List.mem_filter.1 hcall
    have := (h.inside call hmem).2
    have := of_decide_eq_true hindex
    omega
  · exact heq
  · obtain ⟨call, hmem, hindex⟩ := h.each tools.length (Nat.zero_le _) (by omega)
    have := hspells.bounded call hmem
    omega

theorem Spoken.spellsOne {k : Nat} (h : Spoken calls k item n script (told n script))
    (hannounced : announced n script = true) (hcomplete : told n script = item.argumentsString)
    (hnamed : Early n script → item.id = item.callId) : SpellsOne (ownCalls k calls) item where
  heard := by
    obtain ⟨call, hcall, -⟩ := h.byCall hannounced
    exact List.ne_nil_of_mem hcall
  ids := by
    intro call hcall
    rcases h.ids call hcall with hid | ⟨hearly, hid⟩
    · exact hid
    · rw [hid, hnamed hearly]
  name := by rw [h.name, if_pos hannounced]
  arguments := by rw [h.arguments, hcomplete]

theorem Closing.tools_iff (h : Closing items script again chunks)
    (hvalid : Valid items script again) :
    (∃ tools, tools.Perm (items.filter fun item => isResponsesToolOutputType item.type) ∧
        Spells (callsOf chunks) tools) ↔
      ToldOnce items script again ∧
        ∀ n item, Tool items n item → Early n script → item.id = item.callId := by
  have hfilter := filter_eq_numbers items (fun item => isResponsesToolOutputType item.type)
    { type := "" }
  constructor
  · rintro ⟨tools, hperm, hspells⟩
    have hcount := h.fills.length_eq hspells
    have honce : ToldOnce items script again := by
      refine toldOnce_of_length hvalid ?_
      rw [entries, List.length_append, List.length_append, hcount, hperm.length_eq, hfilter,
        List.length_map]
      rfl
    refine ⟨honce, fun n item htool hearly => ?_⟩
    have hmem := hearly.mem_keyed
    have hspoken := h.spoken n item htool hmem
    have hannounced : announced n script = true :=
      (hvalid.tools n item htool).resolve_right fun hagain => (honce n hagain item htool).1 hmem
    have hlt : (keyed script).idxOf n < tools.length := by
      have := List.idxOf_lt_length_of_mem hmem
      omega
    have hone := hspells.each _ _ (List.getElem?_eq_getElem hlt)
    obtain ⟨call, hcall, hid⟩ := hspoken.byItem hearly
    obtain ⟨call', hcall', hid'⟩ := hspoken.byCall hannounced
    rw [← hid, ← hid', hone.ids call hcall, hone.ids call' hcall']
  · rintro ⟨honce, hnamed⟩
    have hnone := honce.leftOver_eq_nil hvalid
    refine ⟨(keyed script ++ givenTools items again).map fun n => (items[n]?).getD { type := "" },
      ?_, ?_, ?_⟩
    · rw [hfilter]
      exact (honce.perm hvalid).map _
    · intro call hmem
      have := (h.fills.inside call hmem).2
      rw [hnone] at this
      simpa [Nat.add_assoc] using this
    · intro k item hget
      rw [List.getElem?_map] at hget
      obtain ⟨n, hn, hitem⟩ := Option.map_eq_some_iff.1 hget
      have hentry := (honce.perm hvalid).subset (List.mem_of_getElem? hn)
      obtain ⟨tool, htool⟩ := mem_toolNumbers.1 hentry
      rw [htool.1, Option.getD_some] at hitem
      subst hitem
      by_cases hk : k < (keyed script).length
      · rw [List.getElem?_append_left hk, List.getElem?_eq_getElem hk] at hn
        cases hn
        have hmem : (keyed script)[k] ∈ keyed script := List.getElem_mem hk
        have hspoken := h.spoken _ tool htool hmem
        rw [List.Nodup.idxOf_getElem (keyed_nodup script) k hk] at hspoken
        have hannounced := (hvalid.tools _ tool htool).resolve_right fun hagain =>
          (honce _ hagain tool htool).1 hmem
        exact hspoken.spellsOne hannounced (hvalid.complete _ tool htool hannounced)
          (hnamed _ tool htool)
      · obtain ⟨j, rfl⟩ := Nat.exists_eq_add_of_le (Nat.not_lt.1 hk)
        rw [List.getElem?_append_right (Nat.le_add_right _ _), Nat.add_sub_cancel_left] at hn
        exact h.given j n tool hn htool.1

end Once

/-! ## Text and reasoning -/

theorem InParts.firstOf_iff {m : Nat} {ws : List (Nat × String)} {whole : Nat → String}
    (h : InParts m ws whole again) (hlt : ∀ w ∈ ws, w.1 < m) (hagain : ∀ n ∈ again, n < m) :
    firstOf (String.join (ws.map (·.2))) (again.map whole) = overRange m whole ↔
      SaidOrSingle m ws whole := by
  rw [join_of_sorted h.sorted hlt]
  exact firstOf_eq_iff hagain h.said

theorem overRange_textAt (items : List ResponsesOutput) :
    String.join ((items.filter fun item => item.type = responsesOutputTypeMessage).map outputText)
      = overRange items.length (textAt items) := by
  rw [join_filter_eq_overRange]
  refine overRange_congr fun n _ => ?_
  unfold textAt
  cases items[n]? with
  | none => rfl
  | some item => by_cases h : item.type = responsesOutputTypeMessage <;> simp [h]

theorem overRange_reasoningAt (items : List ResponsesOutput) :
    String.join ((items.filter fun item => item.type = responsesOutputTypeReasoning).map
      reasoningText) = overRange items.length (reasoningAt items) := by
  rw [join_filter_eq_overRange]
  refine overRange_congr fun n _ => ?_
  unfold reasoningAt
  cases items[n]? with
  | none => rfl
  | some item => by_cases h : item.type = responsesOutputTypeReasoning <;> simp [h]

theorem brokenUp_ne_nil (script : List Signal) :
    (brokenUp script).1 ≠ [] ↔ String.join ((reasoningWrites script).map (·.2)) ≠ "" := by
  induction script using List.reverseRecOn with
  | nil => simp [brokenUp, reasoningWrites]
  | append_singleton script signal ih =>
    rw [brokenUp_append, reasoningWrites_append, List.map_append, String.join_append]
    cases signal with
    | reasoning n delta =>
      by_cases hdelta : delta = ""
      · simpa [breakUp, hdelta, reasoningWrites] using ih
      · simp [breakUp, hdelta, reasoningWrites]
    | _ => simpa [breakUp, reasoningWrites] using ih

section Texts

variable {items : List ResponsesOutput} {script : List Signal} {again : List Nat}
  {chunks : List ChatChunk}

theorem textWrites_lt (hfits : ∀ signal ∈ script, Fits items signal) :
    ∀ w ∈ textWrites script, w.1 < items.length := by
  intro w hw
  obtain ⟨signal, hmem, hsignal⟩ := List.mem_filterMap.1 hw
  have hfit := hfits signal hmem
  cases signal with
  | text n delta =>
    cases hsignal
    exact hfit
  | _ => cases hsignal

theorem reasoningWrites_lt (hfits : ∀ signal ∈ script, Fits items signal) :
    ∀ w ∈ reasoningWrites script, w.1 < items.length := by
  intro w hw
  obtain ⟨signal, hmem, hsignal⟩ := List.mem_filterMap.1 hw
  have hfit := hfits signal hmem
  cases signal with
  | reasoning n delta =>
    cases hsignal
    exact hfit
  | _ => cases hsignal

theorem Closing.text_iff (h : Closing items script again chunks)
    (hvalid : Valid items script again) :
    String.join (textsOf chunks)
        = String.join ((items.filter fun item => item.type = responsesOutputTypeMessage).map
            outputText) ↔
      SaidOrSingle items.length (textWrites script) (textAt items) := by
  rw [h.text, overRange_textAt]
  exact hvalid.text.firstOf_iff (textWrites_lt hvalid.fits)
    fun n hn => List.mem_range.1 (hvalid.sublist.subset hn)

theorem join_givenReasoning (items : List ResponsesOutput) (script : List Signal)
    (again : List Nat) :
    String.join ((reasoningWrites script).map (·.2) ++ givenReasoning items script again)
      = firstOf (String.join ((reasoningWrites script).map (·.2)))
          (again.map (reasoningAt items)) := by
  rw [String.join_append, givenReasoning, firstOf]
  by_cases hsaid : (brokenUp script).1 = []
  · have hnone := not_not.1 (mt (brokenUp_ne_nil script).2 (not_not.2 hsaid))
    rw [if_neg (not_not.2 hsaid), if_neg (not_not.2 hnone), hnone, String.empty_append]
    cases (again.map (reasoningAt items)).find? (· ≠ "") with
    | none => rfl
    | some text => simp
  · rw [if_pos hsaid, if_pos ((brokenUp_ne_nil script).1 hsaid), String.join_nil,
      String.append_empty]

theorem Closing.reasoning_iff (h : Closing items script again chunks)
    (hvalid : Valid items script again) :
    (∃ rest, reasoningsOf chunks = (brokenUp script).1 ++ rest ∧
        String.join ((reasoningWrites script).map (·.2) ++ rest)
          = String.join ((items.filter fun item => item.type = responsesOutputTypeReasoning).map
              reasoningText)) ↔
      SaidOrSingle items.length (reasoningWrites script) (reasoningAt items) := by
  have hiff := hvalid.reasoning.firstOf_iff (reasoningWrites_lt hvalid.fits)
    fun n hn => List.mem_range.1 (hvalid.sublist.subset hn)
  rw [← join_givenReasoning, ← overRange_reasoningAt] at hiff
  rw [← hiff, h.reasoning]
  constructor
  · rintro ⟨rest, hrest, hjoin⟩
    rwa [List.append_cancel_left hrest]
  · intro hjoin
    exact ⟨_, rfl, hjoin⟩

theorem Closing.lossless_iff (h : Closing items script again chunks)
    (hvalid : Valid items script again) :
    Lossless items script chunks ↔ OnceEach items script again := by
  have htools := (h.tools_iff hvalid).trans (and_congr_left' (toldOnce_iff hvalid.fits))
  have htext := h.text_iff hvalid
  have hreasoning := h.reasoning_iff hvalid
  constructor
  · intro hlossless
    obtain ⟨htold, hnamed⟩ := htools.1 hlossless.tools
    exact ⟨htold, hnamed, htext.1 hlossless.text, hreasoning.1 hlossless.reasoning⟩
  · intro honce
    exact ⟨h.framed, htools.2 ⟨honce.tools, honce.named⟩, htext.2 honce.text,
      hreasoning.2 honce.reasoning⟩

end Texts

theorem ensureIncompleteResponse_output (response : Option OpenAIResponsesResponse) :
    (ensureIncompleteResponse response).output = (response.map (·.output)).getD [] := by
  unfold ensureIncompleteResponse
  cases response with
  | none => rfl
  | some response =>
    dsimp only [Option.getD_some, Option.map_some]
    split <;> rfl

theorem Ends.finish {items : List ResponsesOutput} {last : ResponsesStreamResponse}
    (h : Ends items again last) (s : ResponsesToChatStreamState) :
    ∃ response, responsesStreamEventToChatChunks last s = .ok (s.finish response) ∧
      (response.map (·.output)).getD [] = again.filterMap (items[·]?) := by
  rcases h.type with htype | htype | htype
  · exact ⟨last.response, by simp only [responsesStreamEventToChatChunks, htype], h.output⟩
  · exact ⟨last.response, by simp only [responsesStreamEventToChatChunks, htype], h.output⟩
  · refine ⟨some (ensureIncompleteResponse last.response), ?_, ?_⟩
    · simp only [responsesStreamEventToChatChunks, htype]
    · rw [Option.map_some, Option.getD_some, ensureIncompleteResponse_output, h.output]

theorem stream_lossless_iff {items : List ResponsesOutput} {script : List Signal}
    {again : List Nat} {events : List ResponsesStreamResponse} {last : ResponsesStreamResponse}
    (hcarried : List.Forall₂ (Carries items) script events) (hvalid : Valid items script again)
    (hlast : Ends items again last) (id model : String) (created : Int) (includeUsage : Bool) :
    ∃ chunks s, responsesEventsToChatChunks (events ++ [last])
        (fresh id model created includeUsage) = .ok (chunks, s) ∧
      (Lossless items script chunks ↔ OnceEach items script again) := by
  obtain ⟨chunks, s, hrun, htracks⟩ :=
    (tracks_fresh items id model created includeUsage).run hcarried hvalid
  rw [List.nil_append] at htracks
  obtain ⟨response, hfinal, houtput⟩ := hlast.finish s
  obtain ⟨more, s', hfinish, hclosing⟩ := htracks.close hvalid houtput
  rw [hfinish] at hfinal
  exact ⟨chunks ++ more, s', responsesEventsToChatChunks_append events last hrun hfinal,
    hclosing.lossless_iff hvalid⟩

/-! ## One stream with a call -/

def lsCall : ResponsesOutput :=
  { type := "function_call", id := "fc_1", callId := "call_1", name := "ls"
    arguments := .str "{}" }

/-- Reasoning in two summaries, a message and a call. -/
def lsItems : List ResponsesOutput :=
  [{ type := "reasoning", content := [{ type := "summary_text", text := "ab" }] },
   { type := "message", content := [{ type := "output_text", text := "hi" }] },
   lsCall]

/-- The call's arguments begin before its item; the message does not come. -/
def lsScript : List Signal :=
  [.reasoning 0 "a", .reasoningDone, .reasoning 0 "b", .argsDelta 2 "\x7b",
   .item 2 { lsCall with arguments := .absent }, .argsDelta 2 "\x7d", .argsDone 2,
   .item 2 lsCall]

def lsEvents : List ResponsesStreamResponse :=
  [{ type := .reasoningSummaryDelta, outputIndex := some 0, delta := "a" },
   { type := .reasoningSummaryDone },
   { type := .reasoningSummaryDelta, outputIndex := some 0, delta := "b" },
   { type := .functionArgsDelta, outputIndex := some 2, itemId := "fc_1", delta := "\x7b" },
   { type := .outputItemAdded, outputIndex := some 2,
     item := some { lsCall with arguments := .absent } },
   { type := .functionArgsDelta, outputIndex := some 2, itemId := "fc_1", delta := "\x7d" },
   { type := .functionArgsDone, outputIndex := some 2, itemId := "fc_1" },
   { type := .outputItemDone, outputIndex := some 2, item := some lsCall }]

def lsLast (again : List Nat) : ResponsesStreamResponse :=
  { type := .completed
    response := some { status := .str "completed", output := again.filterMap (lsItems[·]?) } }

theorem ls_carries : List.Forall₂ (Carries lsItems) lsScript lsEvents :=
  .cons (.reasoning (.inl rfl) rfl rfl) (.cons (.reasoningDone (.inl rfl))
    (.cons (.reasoning (.inl rfl) rfl rfl) (.cons (.argsDelta (.inl rfl) rfl rfl rfl rfl rfl)
      (.cons (.item (.inl rfl) rfl rfl) (.cons (.argsDelta (.inl rfl) rfl rfl rfl rfl rfl)
        (.cons (.argsDone (.inl rfl) rfl rfl rfl rfl) (.cons (.item (.inr rfl) rfl rfl) .nil)))))))

theorem ls_tool {item : ResponsesOutput} (h : Tool lsItems n item) : n = 2 ∧ item = lsCall := by
  obtain ⟨hat, htype⟩ := h
  rcases n with _ | _ | _ | n
  · cases hat
    cases htype
  · cases hat
    cases htype
  · exact ⟨rfl, (Option.some.inj hat).symm⟩
  · cases hat

theorem trimmed_lsCall :
    Trimmed lsCall.id ∧ Trimmed lsCall.callId ∧ Trimmed lsCall.name := by
  refine ⟨⟨?_, ?_⟩, ⟨?_, ?_⟩, ?_, ?_⟩ <;> decide

theorem ls_reasoning :
    ∀ n < lsItems.length, textOf n (reasoningWrites lsScript) = reasoningAt lsItems n := by
  intro n hn
  rcases n with _ | _ | _ | n
  · decide
  · rfl
  · rfl
  · exact absurd hn (by simp [lsItems])

theorem ls_text (h : textAt lsItems n ≠ "") : n = 1 := by
  rcases n with _ | _ | n
  · exact absurd rfl h
  · rfl
  · cases n <;> exact absurd rfl h

theorem ls_valid (hsublist : again.Sublist (List.range 3)) (hmessage : 1 ∈ again) :
    Valid lsItems lsScript again where
  fits := by
    intro signal hmem
    simp only [lsScript, List.mem_cons, List.not_mem_nil, or_false] at hmem
    rcases hmem with rfl | rfl | rfl | rfl | rfl | rfl | rfl | rfl
    · exact Nat.zero_lt_succ _
    · trivial
    · exact Nat.zero_lt_succ _
    · exact ⟨lsCall, rfl, rfl⟩
    · exact ⟨lsCall, rfl, rfl, rfl, rfl, rfl⟩
    · exact ⟨lsCall, rfl, rfl⟩
    · exact ⟨lsCall, rfl, rfl⟩
    · exact ⟨lsCall, rfl, rfl, rfl, rfl, rfl⟩
  trimmed := by
    intro n item htool
    rw [(ls_tool htool).2]
    exact trimmed_lsCall
  distinct := by
    intro n k item other htool hother _
    rw [(ls_tool htool).1, (ls_tool hother).1]
  grows := by
    have hgrows : growsFrom [] lsScript = true := by decide
    simpa using grows_of_growsFrom hgrows
  complete := by
    intro n item htool _
    obtain ⟨rfl, rfl⟩ := ls_tool htool
    decide
  sublist := hsublist
  tools := by
    intro n item htool
    rw [(ls_tool htool).1]
    exact .inl (by decide)
  text :=
    { sorted := .nil
      said := by
        intro n hn
        rcases n with _ | _ | _ | n
        · exact .inl rfl
        · exact .inr ⟨rfl, hmessage⟩
        · exact .inl rfl
        · exact absurd hn (by simp [lsItems]) }
  reasoning :=
    { sorted := by decide
      said := fun n hn => .inl (ls_reasoning n hn) }

theorem ls_ends (again : List Nat) : Ends lsItems again (lsLast again) :=
  ⟨.inl rfl, rfl⟩

/-- The terminal event gives only what did not come. -/
theorem ls_lossless :
    ∃ chunks s, responsesEventsToChatChunks (lsEvents ++ [lsLast [1]])
        (fresh "id" "m" 1 true) = .ok (chunks, s) ∧ Lossless lsItems lsScript chunks := by
  obtain ⟨chunks, s, hrun, hiff⟩ := stream_lossless_iff ls_carries
    (ls_valid (by decide) (by decide)) (ls_ends [1]) "id" "m" 1 true
  refine ⟨chunks, s, hrun, hiff.2 ⟨?_, ?_, ?_, ?_⟩⟩
  · intro n hn item htool
    rw [(ls_tool htool).1] at hn
    simp at hn
  · intro n item htool hearly
    obtain ⟨rfl, -⟩ := ls_tool htool
    have hannounced : announced 2 (lsScript.take 5) = true := by decide
    exact absurd hearly (not_early hannounced (by simp [lsScript]) (lsScript.drop 5))
  · exact .inr fun i _ j _ hi hj => (ls_text hi).trans (ls_text hj).symm
  · exact .inl ls_reasoning

/-- The terminal event repeats the items: the call has two indexes. -/
theorem repeated_call_is_doubled :
    Valid lsItems lsScript [0, 1, 2] ∧
    List.Forall₂ (Carries lsItems) lsScript lsEvents ∧
    Ends lsItems [0, 1, 2] (lsLast [0, 1, 2]) ∧
    ∃ chunks s, responsesEventsToChatChunks (lsEvents ++ [lsLast [0, 1, 2]])
        (fresh "id" "m" 1 true) = .ok (chunks, s) ∧
      (callsOf chunks).map (fun call => (call.index, call.id, call.arguments))
        = [(0, "call_1", "\x7b"), (0, "call_1", "\x7d"), (1, "call_1", "{}")] ∧
      ¬ Lossless lsItems lsScript chunks := by
  refine ⟨ls_valid (by decide) (by decide), ls_carries, ls_ends _, ?_⟩
  have hcalls : ((responsesEventsToChatChunks (lsEvents ++ [lsLast [0, 1, 2]])
      (fresh "id" "m" 1 true)).toOption.map fun result =>
        (callsOf result.1).map fun call => (call.index, call.id, call.arguments))
      = some [(0, "call_1", "\x7b"), (0, "call_1", "\x7d"), (1, "call_1", "{}")] := by decide
  obtain ⟨⟨chunks, s⟩, hrun, hchunks⟩ := Option.map_eq_some_iff.1 hcalls
  refine ⟨chunks, s, ?_, hchunks, ?_⟩
  · cases h : responsesEventsToChatChunks (lsEvents ++ [lsLast [0, 1, 2]])
      (fresh "id" "m" 1 true) with
    | error e => rw [h] at hrun; cases hrun
    | ok result => rw [h] at hrun; exact congrArg Except.ok (Option.some.inj hrun)
  · intro hlossless
    obtain ⟨tools, hperm, hspells⟩ := hlossless.tools
    have hlength : tools.length = 1 := hperm.length_eq.trans (by decide)
    have hlast : (1, "call_1", "{}") ∈
        (callsOf chunks).map fun call => (call.index, call.id, call.arguments) := by
      rw [hchunks]
      simp
    obtain ⟨call, hmem, hcall⟩ := List.mem_map.1 hlast
    have hindex : call.index = 1 := congrArg Prod.fst hcall
    have := hspells.bounded call hmem
    omega

end YouBox.Responses
