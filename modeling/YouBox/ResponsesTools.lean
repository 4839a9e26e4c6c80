import YouBox.ResponsesSend

/-!
# The table of tools in the middle of a stream

`ToolsTrack` relates a script to the table and the maps that its events
leave, and to the calls they sent. The table holds exactly the tools that
the script keys, each as the script tells it so far and with nothing left
to send (`toolNow`), and the calls under its index spell that (`Spoken`).
Arguments wait under an output index only as long as the table has no
tool for it.

`ToolsTrack.speak` is the one update behind an item event, an argument
delta and the end of the arguments, `ToolsTrack.leave` that of every
other signal. An event reaches its tool through `find`, `ensureTool` or
`ensureFallback`, and `send` does the rest.
-/

namespace YouBox.Responses

open Interleave

/-! ## The table of tools -/

theorem lookup_insert {κ ν : Type} [DecidableEq κ] (key k : κ) (value : ν) (m : GoMap κ ν) :
    (m.insert k value).lookup key = if key = k then some value else m.lookup key := by
  by_cases h : key = k
  · rw [if_pos h, h, AList.lookup_insert]
  · rw [if_neg h, AList.lookup_insert_ne h]

theorem lookup_erase {κ ν : Type} [DecidableEq κ] (key k : κ) (m : GoMap κ ν) :
    (m.erase k).lookup key = if key = k then none else m.lookup key := by
  by_cases h : key = k
  · rw [if_pos h, h, AList.lookup_erase]
  · rw [if_neg h, AList.lookup_erase_ne h]

/-- Tool `n` as the script tells it, all of it sent. -/
def toolNow (item : ResponsesOutput) (n : Nat) (script : List Signal) : ResponsesStreamTool where
  key := .output n
  callId := if announced n script then item.callId else item.id
  itemId := item.id
  name := if announced n script then item.name else ""
  arguments := told n script
  index := (keyed script).idxOf n
  sent := true
  nameSent := announced n script
  argsSentAt := byteLength (told n script)

/-- The calls under index `k` spell item `n` as far as the script tells
it, with the arguments up to `args`. -/
structure Spoken (calls : List ToolCallResponse) (k : Nat) (item : ResponsesOutput) (n : Nat)
    (script : List Signal) (args : String) : Prop where
  name : String.join ((ownCalls k calls).map (·.name))
    = if announced n script then item.name else ""
  arguments : String.join ((ownCalls k calls).map (·.arguments)) = args
  ids : ∀ call ∈ ownCalls k calls, call.id = item.callId ∨ Early n script ∧ call.id = item.id
  byItem : Early n script → ∃ call ∈ ownCalls k calls, call.id = item.id
  byCall : announced n script = true → ∃ call ∈ ownCalls k calls, call.id = item.callId

structure ToolsTrack (items : List ResponsesOutput) (script : List Signal) (m : ToolMaps)
    (calls : List ToolCallResponse) : Prop where
  next : m.nextToolIndex = (keyed script).length
  found : ∀ n item, Tool items n item → m.toolByKey.lookup (ToolKey.output n)
    = if n ∈ keyed script then some (toolNow item n script) else none
  only : ∀ key tool, m.toolByKey.lookup key = some tool →
    ∃ n item, Tool items n item ∧ n ∈ keyed script ∧ key = .output n
  byIndex : ∀ n item, Tool items n item → m.outputIndexToKey.lookup (n : Int)
    = if n ∈ keyed script then some (ToolKey.output n) else none
  byItem : ∀ id key, m.itemIdToKey.lookup id = some key →
    ∃ n item, Tool items n item ∧ n ∈ keyed script ∧ item.id = id
  pending : ∀ n item, Tool items n item → m.pendingArgsByOutputIndex.lookup (n : Int)
    = if n ∈ keyed script ∨ told n script = "" then none else some (told n script)
  pendingOnly : ∀ i text, m.pendingArgsByOutputIndex.lookup i = some text →
    ∃ n item, Tool items n item ∧ i = n
  noItems : m.pendingArgsByItemId = ∅
  bounded : ∀ call ∈ calls, call.index < (keyed script).length
  spoken : ∀ n item, Tool items n item → n ∈ keyed script →
    Spoken calls ((keyed script).idxOf n) item n script (told n script)

/-- The signal leaves what the script says of tool `k`. -/
structure Leaves (script : List Signal) (signal : Signal) (k : Nat) : Prop where
  told : told k (script ++ [signal]) = told k script
  announced : announced k (script ++ [signal]) = announced k script
  early : Early k (script ++ [signal]) ↔ Early k script

variable {items : List ResponsesOutput} {script : List Signal} {added calls : List ToolCallResponse}
  {n : Nat} {item : ResponsesOutput} {signal : Signal}

theorem Leaves.toolNow {k : Nat} (h : Leaves script signal k)
    (hidx : (keyed (script ++ [signal])).idxOf k
      = (keyed script).idxOf k) (item : ResponsesOutput) :
    toolNow item k (script ++ [signal]) = toolNow item k script := by
  simp only [Responses.toolNow, h.told, h.announced, hidx]

theorem Leaves.spoken {k i : Nat} {args : String} (h : Leaves script signal k)
    (hspoken : Spoken calls i item k script args) :
    Spoken calls i item k (script ++ [signal]) args where
  name := by rw [h.announced, hspoken.name]
  arguments := hspoken.arguments
  ids := by simpa only [h.early] using hspoken.ids
  byItem := by simpa only [h.early] using hspoken.byItem
  byCall := by simpa only [h.announced] using hspoken.byCall

theorem ToolsTrack.leave {m : ToolMaps} (h : ToolsTrack items script m calls)
    (hkeyed : keyed (script ++ [signal]) = keyed script)
    (hleaves : ∀ k item, Tool items k item → Leaves script signal k) :
    ToolsTrack items (script ++ [signal]) m calls where
  next := by rw [hkeyed, h.next]
  found := by
    intro k item htool
    rw [h.found k item htool, hkeyed, (hleaves k item htool).toolNow (by rw [hkeyed])]
  only := by rw [hkeyed]; exact h.only
  byIndex := by rw [hkeyed]; exact h.byIndex
  byItem := by rw [hkeyed]; exact h.byItem
  pending := by
    intro k item htool
    rw [h.pending k item htool, hkeyed, (hleaves k item htool).told]
  pendingOnly := h.pendingOnly
  noItems := h.noItems
  bounded := by rw [hkeyed]; exact h.bounded
  spoken := by
    rw [hkeyed]
    intro k item htool hk
    rw [(hleaves k item htool).told]
    exact (hleaves k item htool).spoken (h.spoken k item htool hk)

theorem ownCalls_append (k : Nat) (calls added : List ToolCallResponse) :
    ownCalls k (calls ++ added) = ownCalls k calls ++ ownCalls k added :=
  List.filter_append ..

theorem ownCalls_self {k : Nat} (h : ∀ call ∈ calls, call.index = k) : ownCalls k calls = calls :=
  List.filter_eq_self.2 fun call hcall => decide_eq_true (h call hcall)

theorem ownCalls_eq_nil {k : Nat} (h : ∀ call ∈ calls, call.index ≠ k) : ownCalls k calls = [] :=
  List.filter_eq_nil_iff.2 fun call hcall => by simpa using h call hcall

theorem Spoken.others {k : Nat} {args : String} (h : Spoken calls k item n script args)
    (hadded : ∀ call ∈ added, call.index ≠ k) : Spoken (calls ++ added) k item n script args := by
  have hown : ownCalls k (calls ++ added) = ownCalls k calls := by
    rw [ownCalls_append, ownCalls_eq_nil hadded, List.append_nil]
  exact ⟨by rw [hown, h.name], by rw [hown, h.arguments], by rw [hown]; exact h.ids,
    by rw [hown]; exact h.byItem, by rw [hown]; exact h.byCall⟩

theorem idxOf_note {seen : List Nat} {k : Nat} (hk : k ∈ seen) :
    (note seen n).idxOf k = seen.idxOf k := by
  obtain ⟨more, hmore⟩ := note_eq_append seen n
  rw [hmore, List.idxOf_append_of_mem hk]

theorem length_le_note (seen : List Nat) (n : Nat) : seen.length ≤ (note seen n).length := by
  obtain ⟨more, hmore⟩ := note_eq_append seen n
  rw [hmore, List.length_append]
  exact Nat.le_add_right ..

theorem ToolsTrack.speak {m m' : ToolMaps} (h : ToolsTrack items script m calls)
    (htool : Tool items n item) (hkeyed : keyed (script ++ [signal]) = note (keyed script) n)
    (hleaves : ∀ k, k ≠ n → Leaves script signal k)
    (hnext : m'.nextToolIndex = (note (keyed script) n).length) (hfound : m'.toolByKey
      = m.toolByKey.insert (.output n) (toolNow item n (script ++ [signal])))
    (hindex : ∀ i, m'.outputIndexToKey.lookup i
      = if i = (n : Int) then some (ToolKey.output n) else m.outputIndexToKey.lookup i)
    (hitem : ∀ id key, m'.itemIdToKey.lookup id = some key →
      id = item.id ∨ m.itemIdToKey.lookup id = some key)
    (hpending : ∀ i, m'.pendingArgsByOutputIndex.lookup i
      = if i = (n : Int) then none else m.pendingArgsByOutputIndex.lookup i)
    (hitems : m'.pendingArgsByItemId = ∅)
    (hown : ∀ call ∈ added, call.index = (note (keyed script) n).idxOf n)
    (hspoken : Spoken (calls ++ added) ((note (keyed script) n).idxOf n) item n
      (script ++ [signal]) (told n (script ++ [signal]))) :
    ToolsTrack items (script ++ [signal]) m' (calls ++ added) where
  next := by rw [hkeyed, hnext]
  found := by
    intro k other hother
    rw [hfound, lookup_insert, hkeyed]
    by_cases hk : k = n
    · subst hk
      obtain rfl : item = other := Option.some.inj (htool.1.symm.trans hother.1)
      simp
    · rw [if_neg (by simpa using hk), h.found k other hother]
      by_cases hmem : k ∈ keyed script
      · rw [if_pos hmem, if_pos (mem_note.2 (.inl hmem)),
          (hleaves k hk).toolNow (by rw [hkeyed, idxOf_note hmem])]
      · rw [if_neg hmem, if_neg fun hor => (mem_note.1 hor).elim hmem hk]
  only := by
    intro key tool hlookup
    rw [hfound, lookup_insert] at hlookup
    by_cases hkey : key = .output n
    · exact ⟨n, item, htool, by simp [hkeyed], hkey⟩
    · rw [if_neg hkey] at hlookup
      obtain ⟨k, other, hother, hk, hout⟩ := h.only key tool hlookup
      exact ⟨k, other, hother, by simp [hkeyed, hk], hout⟩
  byIndex := by
    intro k other hother
    rw [hindex, hkeyed]
    by_cases hk : k = n
    · simp [hk]
    · rw [if_neg (by omega), h.byIndex k other hother]
      simp [hk]
  byItem := by
    intro id key hlookup
    rcases hitem id key hlookup with rfl | hlookup
    · exact ⟨n, item, htool, by simp [hkeyed], rfl⟩
    · obtain ⟨k, other, hother, hk, hid⟩ := h.byItem id key hlookup
      exact ⟨k, other, hother, by simp [hkeyed, hk], hid⟩
  pending := by
    intro k other hother
    rw [hpending, hkeyed]
    by_cases hk : k = n
    · simp [hk]
    · rw [if_neg (by omega), h.pending k other hother, (hleaves k hk).told]
      simp [hk]
  pendingOnly := by
    intro i text hlookup
    rw [hpending] at hlookup
    split at hlookup
    · cases hlookup
    · exact h.pendingOnly i text hlookup
  noItems := hitems
  bounded := by
    intro call hcall
    rw [hkeyed]
    rcases List.mem_append.1 hcall with hcall | hcall
    · exact Nat.lt_of_lt_of_le (h.bounded call hcall) (length_le_note ..)
    · rw [hown call hcall]
      exact List.idxOf_lt_length_of_mem (by simp)
  spoken := by
    intro k other hother hmem
    rw [hkeyed] at hmem ⊢
    by_cases hk : k = n
    · subst hk
      obtain rfl : item = other := Option.some.inj (htool.1.symm.trans hother.1)
      exact hspoken
    · have hkm := (mem_note.1 hmem).resolve_right hk
      rw [(hleaves k hk).told, idxOf_note hkm]
      refine (hleaves k hk).spoken ((h.spoken k other hother hkm).others fun call hcall heq => hk ?_)
      rw [hown call hcall, ← idxOf_note (n := n) hkm] at heq
      exact ((List.idxOf_inj (by simp)).1 heq).symm

/-! ## Finding and making tools -/

theorem mem_keyed : n ∈ keyed script ↔ ∃ signal ∈ script, signal.keys = some n := by
  induction script using List.reverseRecOn with
  | nil => simp [keyed]
  | append_singleton script signal ih =>
    rw [keyed_append]
    cases hkeys : signal.keys with
    | none => simp [ih, hkeys]
    | some k => simp [ih, hkeys, eq_comm]

theorem keyed_nodup (script : List Signal) : (keyed script).Nodup := by
  induction script using List.reverseRecOn with
  | nil => exact List.nodup_nil
  | append_singleton script signal ih =>
    rw [keyed_append]
    cases signal.keys with
    | none => exact ih
    | some k => exact note_nodup k ih

theorem Tool.unique {other : ResponsesOutput} (h : Tool items n item)
    (hother : items[n]? = some other) : other = item :=
  Option.some.inj (hother.symm.trans h.1)

section Keyed

variable {items : List ResponsesOutput} {script : List Signal} {n : Nat} {item : ResponsesOutput}

theorem mem_keyed_of_announced (hfits : ∀ signal ∈ script, Fits items signal)
    (htool : Tool items n item) (h : announced n script = true) : n ∈ keyed script := by
  obtain ⟨signal, hmem, hsignal⟩ := List.any_eq_true.1 h
  refine mem_keyed.2 ⟨signal, hmem, ?_⟩
  have hfit := hfits signal hmem
  cases signal with
  | item k out =>
    obtain rfl : k = n := by simpa [Signal.announces] using hsignal
    obtain ⟨other, hother, htype, -⟩ := hfit
    rw [htool.unique hother] at htype
    simp [Signal.keys, htype, htool.2]
  | _ => simp [Signal.announces] at hsignal

theorem Early.mem_keyed (h : Early n script) : n ∈ keyed script := by
  obtain ⟨before, after, rfl, -⟩ := h
  exact Responses.mem_keyed.2 ⟨.argsDone n, by simp, rfl⟩

theorem tool_of_mem_keyed (hfits : ∀ signal ∈ script, Fits items signal) (h : n ∈ keyed script) :
    ∃ item, Tool items n item := by
  obtain ⟨signal, hmem, hkeys⟩ := mem_keyed.1 h
  have hfit := hfits signal hmem
  cases signal with
  | item k out =>
    simp only [Signal.keys] at hkeys
    split at hkeys
    · rename_i htype
      cases hkeys
      obtain ⟨item, hitem, htype', -⟩ := hfit
      exact ⟨item, hitem, htype' ▸ htype⟩
    · cases hkeys
  | argsDone k =>
    cases hkeys
    exact hfit
  | _ => simp [Signal.keys] at hkeys

end Keyed

/-- The arguments of tool `n` that went out. -/
def sentOf (n : Nat) (script : List Signal) : String :=
  if n ∈ keyed script then told n script else ""

namespace ResponsesToChatStreamState

variable (s : ResponsesToChatStreamState)

theorem linkOutputIndex_some (i : Int) (tool : ResponsesStreamTool) :
    s.linkOutputIndex (some i) tool
      = ({ tool with
            arguments := tool.arguments ++ (s.pendingArgsByOutputIndex.lookup i).getD "" },
          { s with
            outputIndexToKey := s.outputIndexToKey.insert i tool.key
            pendingArgsByOutputIndex :=
              if (s.pendingArgsByOutputIndex.lookup i).getD "" = "" then s.pendingArgsByOutputIndex
              else s.pendingArgsByOutputIndex.erase i }) := by
  unfold linkOutputIndex
  by_cases hpending : (s.pendingArgsByOutputIndex.lookup i).getD "" = "" <;> simp [hpending]

theorem linkItemId_of_empty {itemId : String} (hid : itemId ≠ "")
    (hnone : s.pendingArgsByItemId = ∅) (tool : ResponsesStreamTool) :
    s.linkItemId itemId tool
      = ({ tool with itemId := itemId },
          { s with itemIdToKey := s.itemIdToKey.insert itemId tool.key }) := by
  simp [linkItemId, hid, hnone]

end ResponsesToChatStreamState

theorem given_trimmed {id : String} (h : Trimmed id) : given id = some id := by
  rw [given, h.2, if_pos h.1]

section Track

variable {items : List ResponsesOutput} {script : List Signal} {again : List Nat}
  {s : ResponsesToChatStreamState} {calls : List ToolCallResponse} {n : Nat}
  {item : ResponsesOutput} {event : ResponsesStreamResponse}

theorem ToolsTrack.find (h : ToolsTrack items script s.toToolMaps calls)
    (hdistinct : ∀ k other, Tool items k other → other.id = item.id → k = n)
    (htrimmed : Trimmed item.id) (htool : Tool items n item)
    (hindex : event.outputIndex = some (n : Int)) (hid : event.itemId = item.id)
    (hnone : event.item = none) :
    s.findToolForEvent event = if n ∈ keyed script then some (toolNow item n script) else none := by
  unfold ResponsesToChatStreamState.findToolForEvent
  rw [hindex, Option.bind_some, h.byIndex n item htool, hid, hnone, given_trimmed htrimmed,
    Option.bind_some]
  by_cases hmem : n ∈ keyed script
  · simp only [if_pos hmem, h.found n item htool]
  · simp only [if_neg hmem]
    cases hlookup : s.itemIdToKey.lookup item.id with
    | none => rfl
    | some key =>
      obtain ⟨k, other, hother, hk, hkid⟩ := h.byItem item.id key hlookup
      exact absurd (hdistinct k other hother hkid ▸ hk) hmem

/-- The tool that an event of item `n` reaches, before it says anything new. -/
def linkedTool (item : ResponsesOutput) (n : Nat) (script : List Signal) (callId : String) :
    ResponsesStreamTool where
  key := .output n
  callId := if n ∈ keyed script then (toolNow item n script).callId else callId
  itemId := item.id
  name := if announced n script then item.name else ""
  arguments := told n script
  index := (note (keyed script) n).idxOf n
  sent := decide (n ∈ keyed script)
  nameSent := announced n script
  argsSentAt := byteLength (sentOf n script)

/-- The state when that tool is reached. -/
structure Linked (s s' : ResponsesToChatStreamState) (item : ResponsesOutput) (n : Nat)
    (script : List Signal) : Prop where
  flow : s.SameFlow s'
  start : s'.sentStart = s.sentStart
  next : s'.nextToolIndex = (note (keyed script) n).length
  table : s'.toolByKey = s.toolByKey
  index : ∀ i, s'.outputIndexToKey.lookup i
    = if i = (n : Int) then some (ToolKey.output n) else s.outputIndexToKey.lookup i
  item : ∀ id key, s'.itemIdToKey.lookup id = some key →
    id = item.id ∨ s.itemIdToKey.lookup id = some key
  pending : ∀ i, s'.pendingArgsByOutputIndex.lookup i
    = if i = (n : Int) then none else s.pendingArgsByOutputIndex.lookup i
  noItems : s'.pendingArgsByItemId = ∅

theorem ToolsTrack.toolAt (h : ToolsTrack items script s.toToolMaps calls)
    (htool : Tool items n item) (hfits : ∀ signal ∈ script, Fits items signal) (callId : String) :
    ∃ tool, s.toolAt (.output n) callId
        = (tool, { s with nextToolIndex := (note (keyed script) n).length }) ∧
      { tool with
        itemId := item.id
        arguments := tool.arguments ++ (s.pendingArgsByOutputIndex.lookup (n : Int)).getD "" }
        = linkedTool item n script callId := by
  have hfound := h.found n item htool
  have hpending := h.pending n item htool
  have hannounced := mem_keyed_of_announced hfits htool
  unfold ResponsesToChatStreamState.toolAt
  by_cases hmem : n ∈ keyed script
  · rw [if_pos hmem] at hfound
    have hnote : note (keyed script) n = keyed script := if_pos hmem
    refine ⟨toolNow item n script, by simp only [hfound, hnote, ← h.next], ?_⟩
    simp [hpending, hmem, toolNow, linkedTool, sentOf, hnote]
  · rw [if_neg hmem] at hfound
    have hnote : note (keyed script) n = keyed script ++ [n] := if_neg hmem
    have hnot : announced n script = false := by simpa using mt hannounced hmem
    refine ⟨{ key := .output n, index := s.nextToolIndex, callId := callId }, ?_, ?_⟩
    · simp only [hfound, hnote, h.next, List.length_append, List.length_singleton]
    have hidx : (keyed script ++ [n]).idxOf n = (keyed script).length := hnote ▸ idxOf_note_self hmem
    by_cases htold : told n script = "" <;>
      simp [hpending, hmem, hnot, linkedTool, sentOf, hnote, hidx, h.next, htold, byteLength]

theorem ToolsTrack.link (h : ToolsTrack items script s.toToolMaps calls)
    (htool : Tool items n item) (hfits : ∀ signal ∈ script, Fits items signal)
    (htrimmed : Trimmed item.id) (callId : String) :
    ∃ tool s₁ tool' s₂ s₃, s.toolAt (.output n) callId = (tool, s₁) ∧
      s₁.linkOutputIndex (some (n : Int)) tool = (tool', s₂) ∧
      s₂.linkItemId item.id tool' = (linkedTool item n script callId, s₃) ∧
      Linked s s₃ item n script := by
  obtain ⟨tool, htoolAt, hlinked⟩ := h.toolAt htool hfits callId
  have hkey : tool.key = .output n := by
    have := congrArg ResponsesStreamTool.key hlinked
    exact this
  refine ⟨tool, _, _, _, _, htoolAt, ResponsesToChatStreamState.linkOutputIndex_some _ _ _,
    (ResponsesToChatStreamState.linkItemId_of_empty _ htrimmed.1 (by exact h.noItems) _).trans
      (Prod.ext hlinked rfl), ⟨rfl, rfl, rfl, rfl⟩, rfl, rfl, rfl, ?_, ?_, ?_, h.noItems⟩
  · intro i
    rw [lookup_insert, hkey]
  · intro id key hlookup
    rw [lookup_insert] at hlookup
    split at hlookup
    · exact .inl ‹_›
    · exact .inr hlookup
  · intro i
    have hpending := h.pending n item htool
    dsimp only
    split
    · rename_i hempty
      split
      · rename_i hi
        rw [hi, hpending]
        rw [hpending] at hempty
        split at hempty
        · exact if_pos ‹_›
        · rename_i hor
          exact absurd hempty fun h => hor (.inr h)
      · rfl
    · exact lookup_erase i (n : Int) s.pendingArgsByOutputIndex

theorem Linked.of_keyed (h : ToolsTrack items script s.toToolMaps calls) (htool : Tool items n item)
    (hmem : n ∈ keyed script) : Linked s s item n script where
  flow := ⟨rfl, rfl, rfl, rfl⟩
  start := rfl
  next := by rw [h.next, note, if_pos hmem]
  table := rfl
  index := by
    intro i
    split
    · rename_i hi
      rw [hi, h.byIndex n item htool, if_pos hmem]
    · rfl
  item := fun _ _ hlookup => .inr hlookup
  pending := by
    intro i
    split
    · rename_i hi
      rw [hi, h.pending n item htool, if_pos (.inl hmem)]
    · rfl
  noItems := h.noItems

/-! ## One tool told more -/

theorem announced_or_early (h : n ∈ keyed script) : announced n script = true ∨ Early n script := by
  obtain ⟨signal, hmem, hkeys⟩ := mem_keyed.1 h
  cases signal with
  | item k out =>
    simp only [Signal.keys] at hkeys
    split at hkeys
    · obtain rfl := Option.some.inj hkeys
      exact .inl (List.any_eq_true.2 ⟨_, hmem, by simp [Signal.announces]⟩)
    · cases hkeys
  | argsDone k =>
    obtain rfl := Option.some.inj hkeys
    by_cases hannounced : announced k script = true
    · exact .inl hannounced
    · obtain ⟨before, after, rfl⟩ := List.append_of_mem hmem
      have hbefore : announced k before = false := by
        simp only [announced, List.any_append, Bool.or_eq_true, not_or] at hannounced
        exact Bool.eq_false_iff.2 hannounced.1
      exact .inr ⟨before, after, rfl, hbefore⟩
  | _ => simp [Signal.keys] at hkeys

theorem ToolsTrack.spokenSoFar (h : ToolsTrack items script s.toToolMaps calls)
    (htool : Tool items n item) (hfits : ∀ signal ∈ script, Fits items signal) :
    Spoken calls ((note (keyed script) n).idxOf n) item n script (sentOf n script) := by
  by_cases hmem : n ∈ keyed script
  · rw [idxOf_note hmem, sentOf, if_pos hmem]
    exact h.spoken n item htool hmem
  · have hnot : announced n script = false := by
      simpa using mt (mem_keyed_of_announced hfits htool) hmem
    have hown : ownCalls ((note (keyed script) n).idxOf n) calls = [] := by
      rw [idxOf_note_self hmem]
      exact ownCalls_eq_nil fun call hcall => Nat.ne_of_lt (h.bounded call hcall)
    refine ⟨?_, ?_, ?_, fun hearly => absurd hearly.mem_keyed hmem, ?_⟩
    · simp [hown, hnot]
    · simp [hown, sentOf, hmem]
    · simp [hown]
    · simp [hnot]

/-- The tool when its signal has been read and nothing of it sent. -/
def nextTool (item : ResponsesOutput) (n : Nat) (script : List Signal) (signal : Signal) :
    ResponsesStreamTool where
  key := .output n
  callId := if announced n (script ++ [signal]) then item.callId else item.id
  itemId := item.id
  name := if announced n (script ++ [signal]) then item.name else ""
  arguments := told n (script ++ [signal])
  index := (note (keyed script) n).idxOf n
  sent := decide (n ∈ keyed script)
  nameSent := announced n script
  argsSentAt := byteLength (sentOf n script)

/-- The signal reaches tool `n` and nothing else. -/
structure Reaches (script : List Signal) (signal : Signal) (n : Nat) : Prop where
  keyed : keyed (script ++ [signal]) = note (Responses.keyed script) n
  leaves : ∀ k, k ≠ n → Leaves script signal k
  announced : announced n script = true → announced n (script ++ [signal]) = true
  early : Early n script → Early n (script ++ [signal])
  now : Responses.announced n (script ++ [signal]) = true ∨ Early n (script ++ [signal])
  new : Early n (script ++ [signal]) → Early n script ∨
    n ∉ Responses.keyed script ∧ Responses.announced n (script ++ [signal]) = false

variable {signal : Signal}

theorem shownCallId_of_trimmed {tool : ResponsesStreamTool} (h : Trimmed tool.callId) :
    ResponsesToChatStreamState.shownCallId tool = tool.callId := by
  rw [ResponsesToChatStreamState.shownCallId, h.2, if_neg h.1]

theorem settled_nextTool (hreach : Reaches script signal n) (hname : item.name ≠ "") :
    settled (nextTool item n script signal) = toolNow item n (script ++ [signal]) := by
  have hnameSent : (announced n script ||
      decide ((if announced n (script ++ [signal]) then item.name else "") ≠ ""))
      = announced n (script ++ [signal]) := by
    cases hnow : announced n (script ++ [signal]) with
    | true => simp [hname]
    | false =>
      have hbefore : announced n script = false := by
        simpa [hnow] using hreach.announced
      simp [hbefore]
  simp only [settled, nextTool, toolNow, hreach.keyed]
  congr 1

variable {out : ResponsesOutput} {delta : String}

theorem Spoken.say {k : Nat} {sofar : String} (h : Spoken calls k item n script sofar)
    (hreach : Reaches script signal n) (hid : Trimmed item.id) (hcall : Trimmed item.callId)
    (hname : item.name ≠ "") (hadds : Adds (nextTool item n script signal) delta added)
    (hk : (note (keyed script) n).idxOf n = k) :
    Spoken (calls ++ added) k item n (script ++ [signal]) (sofar ++ delta) := by
  have hown : ownCalls k (calls ++ added) = ownCalls k calls ++ added := by
    have hself : ownCalls k added = added :=
      ownCalls_self fun call hcall => (hadds.own call hcall).1.trans hk
    rw [ownCalls_append, hself]
  have hshown : ResponsesToChatStreamState.shownCallId (nextTool item n script signal)
      = if announced n (script ++ [signal]) then item.callId else item.id := by
    refine shownCallId_of_trimmed ?_
    simp only [nextTool]
    split
    · exact hcall
    · exact hid
  constructor
  · rw [hown, List.map_append, String.join_append, h.name, hadds.name]
    cases hbefore : announced n script with
    | true => simp [nextTool, hbefore, hreach.announced hbefore]
    | false => simp [nextTool, hbefore]
  · rw [hown, List.map_append, String.join_append, h.arguments, hadds.arguments]
  · intro call hmem
    rw [hown] at hmem
    rcases List.mem_append.1 hmem with hmem | hmem
    · exact (h.ids call hmem).imp_right fun ⟨hearly, hcallId⟩ => ⟨hreach.early hearly, hcallId⟩
    · rw [(hadds.own call hmem).2, hshown]
      split
      · exact .inl rfl
      · exact .inr ⟨hreach.now.resolve_left ‹_›, rfl⟩
  · intro hearly
    rw [hown]
    rcases hreach.new hearly with hearly | ⟨hnew, hnot⟩
    · obtain ⟨call, hmem, hcallId⟩ := h.byItem hearly
      exact ⟨call, List.mem_append_left _ hmem, hcallId⟩
    · obtain ⟨call, hmem⟩ := List.exists_mem_of_ne_nil added
        (hadds.heard (.inl (decide_eq_false hnew)))
      refine ⟨call, List.mem_append_right _ hmem, ?_⟩
      rw [(hadds.own call hmem).2, hshown, hnot]
      rfl
  · intro hnow
    rw [hown]
    cases hbefore : announced n script with
    | true =>
      obtain ⟨call, hmem, hcallId⟩ := h.byCall hbefore
      exact ⟨call, List.mem_append_left _ hmem, hcallId⟩
    | false =>
      obtain ⟨call, hmem⟩ := List.exists_mem_of_ne_nil added
        (hadds.heard (.inr ⟨hbefore, by simpa [nextTool, hnow] using hname⟩))
      refine ⟨call, List.mem_append_right _ hmem, ?_⟩
      rw [(hadds.own call hmem).2, hshown, if_pos hnow]

theorem ToolsTrack.send {s₃ : ResponsesToChatStreamState} {explicitDelta : String}
    (h : ToolsTrack items script s.toToolMaps calls) (hlinked : Linked s s₃ item n script)
    (htool : Tool items n item) (hfits : ∀ signal ∈ script, Fits items signal)
    (hreach : Reaches script signal n) (hid : Trimmed item.id) (hcall : Trimmed item.callId)
    (hname : item.name ≠ "") (htold : told n (script ++ [signal]) = sentOf n script ++ delta)
    (hexplicit : explicitDelta = "" ∨ explicitDelta = delta) :
    ∃ chunks s' added,
      s₃.toolDelta (nextTool item n script signal) explicitDelta = (chunks, s') ∧
      Emits s.sentStart s'.sentStart chunks "" [] added ∧ s.SameFlow s' ∧
      ToolsTrack items (script ++ [signal]) s'.toToolMaps (calls ++ added) := by
  obtain ⟨chunks, s', added, hrun, hemits, hflow, hadds, hmaps⟩ :=
    s₃.toolDelta_spec (nextTool item n script signal) htold rfl hexplicit
  have hspoken := (h.spokenSoFar htool hfits).say hreach hid hcall hname hadds rfl
  rw [← htold] at hspoken
  refine ⟨chunks, s', added, hrun, hlinked.start ▸ hemits, ?_, ?_⟩
  · exact ⟨hflow.finalized.trans hlinked.flow.finalized,
      hflow.hasSentText.trans hlinked.flow.hasSentText,
      hflow.hasSentReasoning.trans hlinked.flow.hasSentReasoning,
      hflow.due.trans hlinked.flow.due⟩
  · refine h.speak htool hreach.keyed hreach.leaves ?_ ?_ ?_ ?_ ?_ ?_
      (fun call hmem => (hadds.own call hmem).1) hspoken
    · rw [hmaps]; exact hlinked.next
    · rw [hmaps, settled_nextTool hreach hname, hlinked.table]; rfl
    · rw [hmaps]; exact hlinked.index
    · rw [hmaps]; exact hlinked.item
    · rw [hmaps]; exact hlinked.pending
    · rw [hmaps]; exact hlinked.noItems

/-! ## The signals of a tool -/

theorem reaches_item (htype : isResponsesToolOutputType out.type = true) :
    Reaches script (.item n out) n where
  keyed := by rw [keyed_append, Signal.keys, if_pos htype]; rfl
  leaves := by
    intro k hk
    refine ⟨?_, ?_, ?_⟩
    · rw [told_append, tell, if_neg fun h => hk h.1.symm]
    · simp [announced_append, Signal.announces, Ne.symm hk]
    · simp [early_append]
  announced := fun h => by simp [announced_append, h]
  early := fun h => early_append.2 (.inl h)
  now := .inl (by simp [announced_append, Signal.announces])
  new := fun h => .inl ((early_append.1 h).resolve_right fun hdone => by cases hdone.1)

theorem reaches_argsDelta (hmem : n ∈ keyed script) :
    Reaches script (.argsDelta n delta) n where
  keyed := by rw [keyed_append, note, if_pos hmem]; rfl
  leaves := by
    intro k hk
    refine ⟨?_, ?_, ?_⟩
    · rw [told_append, tell, if_neg hk.symm]
    · simp [announced_append, Signal.announces]
    · simp [early_append]
  announced := fun h => by simp [announced_append, h]
  early := fun h => early_append.2 (.inl h)
  now := (announced_or_early hmem).imp (fun h => by simp [announced_append, h])
    fun h => early_append.2 (.inl h)
  new := fun h => .inl ((early_append.1 h).resolve_right fun hdone => by cases hdone.1)

theorem reaches_argsDone : Reaches script (.argsDone n) n where
  keyed := by rw [keyed_append]; rfl
  leaves := by
    intro k hk
    refine ⟨?_, ?_, ?_⟩
    · rw [told_append]; rfl
    · simp [announced_append, Signal.announces]
    · simp [early_append, Ne.symm hk]
  announced := fun h => by simp [announced_append, h]
  early := fun h => early_append.2 (.inl h)
  now := by
    cases h : announced n script with
    | true => exact .inl (by simp [announced_append, h])
    | false => exact .inr (early_append.2 (.inr ⟨rfl, h⟩))
  new := by
    intro h
    rcases early_append.1 h with h | ⟨-, hnot⟩
    · exact .inl h
    · by_cases hmem : n ∈ keyed script
      · exact .inl ((announced_or_early hmem).resolve_left (by simp [hnot]))
      · exact .inr ⟨hmem, by simp [announced_append, hnot, Signal.announces]⟩

theorem ToolsTrack.ensureTool (h : ToolsTrack items script s.toToolMaps calls)
    (htool : Tool items n item) (hfits : ∀ signal ∈ script, Fits items signal)
    (htrimmed : Trimmed item.id ∧
      Trimmed item.callId ∧ Trimmed item.name) (hindex : event.outputIndex = some (n : Int))
    (hitem : event.item = some out) (hid : out.id = item.id) (hcall : out.callId = item.callId)
    (hname : out.name = item.name) :
    ∃ tool s', s.ensureToolForEvent event = some (tool, s') ∧ Linked s s' item n script ∧
      (if out.argumentsString ≠ "" then { tool with arguments := out.argumentsString } else tool)
        = nextTool item n script (.item n out) := by
  obtain ⟨tool, s₁, tool', s₂, s₃, hat, hlink, hlinkItem, hlinked⟩ :=
    h.link htool hfits htrimmed.1 ""
  have heventId : responseStreamEventItemId event = item.id := by
    simp only [responseStreamEventItemId, hitem, Option.bind_some, hid, given_trimmed htrimmed.1]
  have hkey : (keyForEvent event <|> fallbackToolKey out.id out.callId (some (n : Int)))
      = some (.output n) := by
    simp only [keyForEvent, hindex]
    rfl
  refine ⟨(s₃.nameTool out (linkedTool item n script "")).1,
    (s₃.nameTool out (linkedTool item n script "")).2, ?_, ?_, ?_⟩
  · simp only [ResponsesToChatStreamState.ensureToolForEvent, hitem, hindex, hkey, hat,
      hlink, heventId, hlinkItem]
  · simp only [ResponsesToChatStreamState.nameTool]
    split
    · exact ⟨⟨hlinked.flow.finalized, hlinked.flow.hasSentText, hlinked.flow.hasSentReasoning,
        hlinked.flow.due⟩, hlinked.start, hlinked.next, hlinked.table, hlinked.index,
        hlinked.item, hlinked.pending, hlinked.noItems⟩
    · exact hlinked
  · have hnow : announced n (script ++ [.item n out]) = true := by
      simp [announced_append, Signal.announces]
    simp only [ResponsesToChatStreamState.nameTool, linkedTool, hcall, hname, htrimmed.2.1.2,
      htrimmed.2.2.2, ne_eq, htrimmed.2.1.1, htrimmed.2.2.1, not_false_eq_true, if_true, nextTool,
      hnow, told_append, tell, true_and]
    split <;> rfl

theorem ToolsTrack.ensureFallback (h : ToolsTrack items script s.toToolMaps calls)
    (htool : Tool items n item) (hfits : ∀ signal ∈ script, Fits items signal)
    (hmem : n ∉ keyed script) (htrimmed : Trimmed item.id)
    (hindex : event.outputIndex = some (n : Int)) (hid : event.itemId = item.id)
    (hnone : event.item = none) :
    ∃ s', s.ensureFallbackToolForEvent event = some (nextTool item n script (.argsDone n), s') ∧
      Linked s s' item n script := by
  obtain ⟨tool, s₁, tool', s₂, s₃, hat, hlink, hlinkItem, hlinked⟩ :=
    h.link htool hfits htrimmed item.id
  have heventId : responseStreamEventItemId event = item.id := by
    simp only [responseStreamEventItemId, hnone, Option.bind_none, hid, htrimmed.2]
  have hcallId : fallbackCallId event = item.id := by
    simp only [fallbackCallId, hid, given_trimmed htrimmed]
  have hnot : announced n script = false := by
    simpa using mt (mem_keyed_of_announced hfits htool) hmem
  have hnext : linkedTool item n script item.id = nextTool item n script (.argsDone n) := by
    have hstill : announced n (script ++ [.argsDone n]) = false := by
      simp [announced_append, hnot, Signal.announces]
    simp [linkedTool, nextTool, hmem, hnot, hstill, told_append, tell]
  refine ⟨s₃, ?_, hlinked⟩
  simp only [ResponsesToChatStreamState.ensureFallbackToolForEvent, fallbackToolKey, hindex, hcallId,
    hat, hlink, heventId, hlinkItem, hnext]

/-! ## The events of a tool -/

/-- The result of an event: calls only, and the table keeps up. -/
def KeepsUp (items : List ResponsesOutput) (script : List Signal) (signal : Signal)
    (s : ResponsesToChatStreamState) (calls : List ToolCallResponse)
    (result : List ChatChunk × ResponsesToChatStreamState) : Prop :=
  ∃ added, Emits s.sentStart result.2.sentStart result.1 "" [] added ∧ s.SameFlow result.2 ∧
    ToolsTrack items (script ++ [signal]) result.2.toToolMaps (calls ++ added)

theorem keepsUp_of_leave (h : ToolsTrack items script s.toToolMaps calls)
    (hkeyed : keyed (script ++ [signal]) = keyed script)
    (hleaves : ∀ k item, Tool items k item → Leaves script signal k) :
    KeepsUp items script signal s calls ([], s) := by
  refine ⟨[], .nothing _, ⟨rfl, rfl, rfl, rfl⟩, ?_⟩
  rw [List.append_nil]
  exact h.leave hkeyed hleaves

theorem told_grows (hgrows : out.argumentsString = "" ∨
    ∃ more, out.argumentsString = told n script ++ more) :
    ∃ delta, told n (script ++ [.item n out]) = sentOf n script ++ delta := by
  rw [told_append, tell, sentOf]
  by_cases hmem : n ∈ keyed script
  · rw [if_pos hmem]
    by_cases hempty : out.argumentsString = ""
    · exact ⟨"", by simp [hempty]⟩
    · obtain ⟨more, hmore⟩ := hgrows.resolve_left hempty
      exact ⟨more, by rw [if_pos ⟨rfl, hempty⟩, hmore]⟩
  · rw [if_neg hmem]
    exact ⟨_, String.empty_append.symm⟩

theorem ToolsTrack.toolItem (h : ToolsTrack items script s.toToolMaps calls)
    (htool : Tool items n item) (hfits : ∀ signal ∈ script, Fits items signal)
    (htrimmed : Trimmed item.id ∧ Trimmed item.callId ∧ Trimmed item.name)
    (htype : isResponsesToolOutputType out.type = true)
    (hindex : event.outputIndex = some (n : Int)) (hitem : event.item = some out)
    (hid : out.id = item.id) (hcall : out.callId = item.callId) (hname : out.name = item.name)
    (hgrows : out.argumentsString = "" ∨
      ∃ more, out.argumentsString = told n script ++ more) :
    KeepsUp items script (.item n out) s calls (s.toolItem event out) := by
  obtain ⟨tool, s', hensure, hlinked, hnext⟩ :=
    h.ensureTool htool hfits htrimmed hindex hitem hid hcall hname
  obtain ⟨delta, hdelta⟩ := told_grows hgrows
  obtain ⟨chunks, s₂, added, hrun, hemits, hflow, htrack⟩ :=
    h.send hlinked htool hfits (reaches_item htype) htrimmed.1 htrimmed.2.1 htrimmed.2.2.1 hdelta
      (.inl rfl)
  have hresult : s.toolItem event out = (chunks, s₂) := by
    simp only [ResponsesToChatStreamState.toolItem, hensure, hnext, hrun]
  rw [hresult]
  exact ⟨added, hemits, hflow, htrack⟩

theorem ToolsTrack.wait (h : ToolsTrack items script s.toToolMaps calls) (htool : Tool items n item)
    (hmem : n ∉ keyed script) (hdelta : delta ≠ "") (hindex : event.outputIndex = some (n : Int))
    (hevent : event.delta = delta) :
    KeepsUp items script (.argsDelta n delta) s calls ([], s.deferArguments event) := by
  have hkeyed : keyed (script ++ [.argsDelta n delta]) = keyed script := keyed_append script _
  have htold : told n (script ++ [.argsDelta n delta]) = told n script ++ delta := by
    simp [told_append, tell]
  have hleaves : ∀ k, k ≠ n → Leaves script (.argsDelta n delta) k := by
    intro k hk
    refine ⟨?_, ?_, ?_⟩
    · rw [told_append, tell, if_neg hk.symm]
    · simp [announced_append, Signal.announces]
    · simp [early_append]
  have hwaiting : (s.pendingArgsByOutputIndex.lookup (n : Int)).getD "" = told n script := by
    rw [h.pending n item htool]
    by_cases htold : told n script = "" <;> simp [hmem, htold]
  have hne : told n script ++ delta ≠ "" := by simp [hdelta]
  have hresult : s.deferArguments event
      = { s with pendingArgsByOutputIndex :=
          s.pendingArgsByOutputIndex.insert n (told n script ++ delta) } := by
    simp only [ResponsesToChatStreamState.deferArguments, hindex, hwaiting, hevent]
  have hneKeyed : ∀ {k : Nat}, k ∈ keyed script → k ≠ n := fun hk hkn => hmem (hkn ▸ hk)
  rw [hresult]
  refine ⟨[], .nothing _, ⟨rfl, rfl, rfl, rfl⟩, ?_⟩
  rw [List.append_nil]
  refine
    { next := by rw [hkeyed]; exact h.next
      only := by rw [hkeyed]; exact h.only
      byIndex := by rw [hkeyed]; exact h.byIndex
      byItem := by rw [hkeyed]; exact h.byItem
      noItems := h.noItems
      bounded := by rw [hkeyed]; exact h.bounded
      found := ?_, pending := ?_, pendingOnly := ?_, spoken := ?_ }
  · intro k other hother
    rw [h.found k other hother, hkeyed]
    by_cases hk : k ∈ keyed script
    · rw [if_pos hk, if_pos hk, (hleaves k (hneKeyed hk)).toolNow (by rw [hkeyed])]
    · rw [if_neg hk, if_neg hk]
  · intro k other hother
    dsimp only
    rw [lookup_insert, hkeyed]
    by_cases hk : k = n
    · subst hk
      rw [if_pos rfl, htold, if_neg (by simp [hmem, hne])]
    · rw [if_neg (by omega), h.pending k other hother, (hleaves k hk).told]
  · intro i text hlookup
    dsimp only at hlookup
    rw [lookup_insert] at hlookup
    split at hlookup
    · exact ⟨n, item, htool, ‹_›⟩
    · exact h.pendingOnly i text hlookup
  · intro k other hother hk
    rw [hkeyed] at hk ⊢
    rw [(hleaves k (hneKeyed hk)).told]
    exact (hleaves k (hneKeyed hk)).spoken (h.spoken k other hother hk)

theorem nextTool_argsDelta (hmem : n ∈ keyed script) :
    nextTool item n script (.argsDelta n delta)
      = { toolNow item n script with arguments := told n script ++ delta } := by
  have hstill : announced n (script ++ [.argsDelta n delta]) = announced n script := by
    simp [announced_append, Signal.announces]
  simp [nextTool, toolNow, hstill, told_append, tell, hmem, sentOf, idxOf_note hmem]

theorem nextTool_argsDone (hmem : n ∈ keyed script) :
    nextTool item n script (.argsDone n) = toolNow item n script := by
  have hstill : announced n (script ++ [.argsDone n]) = announced n script := by
    simp [announced_append, Signal.announces]
  simp [nextTool, toolNow, hstill, told_append, tell, hmem, sentOf, idxOf_note hmem]

theorem ToolsTrack.toolArgumentsDelta (h : ToolsTrack items script s.toToolMaps calls)
    (hdistinct : ∀ k other, Tool items k other → other.id = item.id → k = n)
    (htool : Tool items n item) (hfits : ∀ signal ∈ script, Fits items signal)
    (htrimmed : Trimmed item.id ∧ Trimmed item.callId ∧ Trimmed item.name)
    (hindex : event.outputIndex = some (n : Int)) (hid : event.itemId = item.id)
    (hnone : event.item = none) (hevent : event.delta = delta) :
    KeepsUp items script (.argsDelta n delta) s calls (s.toolArgumentsDelta event) := by
  unfold ResponsesToChatStreamState.toolArgumentsDelta
  rw [h.find hdistinct htrimmed.1 htool hindex hid hnone, hevent]
  by_cases hdelta : delta = ""
  · rw [if_pos hdelta]
    subst hdelta
    refine keepsUp_of_leave h (keyed_append script _) fun k other _ => ⟨?_, ?_, ?_⟩
    · by_cases hk : n = k <;> simp [told_append, tell, hk]
    · simp [announced_append, Signal.announces]
    · simp [early_append]
  · rw [if_neg hdelta]
    by_cases hmem : n ∈ keyed script
    · have htold : told n (script ++ [.argsDelta n delta]) = sentOf n script ++ delta := by
        simp [told_append, tell, sentOf, hmem]
      obtain ⟨chunks, s', added, hrun, hemits, hflow, htrack⟩ :=
        h.send (.of_keyed h htool hmem) htool hfits (reaches_argsDelta hmem) htrimmed.1
          htrimmed.2.1 htrimmed.2.2.1 htold (.inr rfl)
      rw [nextTool_argsDelta hmem] at hrun
      simp only [if_pos hmem]
      have hrun' : s.toolDelta { toolNow item n script with
          arguments := (toolNow item n script).arguments ++ delta } delta = (chunks, s') := hrun
      rw [hrun']
      exact ⟨added, hemits, hflow, htrack⟩
    · simp only [if_neg hmem]
      exact h.wait htool hmem hdelta hindex hevent

theorem ToolsTrack.flushPendingTool (h : ToolsTrack items script s.toToolMaps calls)
    (hdistinct : ∀ k other, Tool items k other → other.id = item.id → k = n)
    (htool : Tool items n item) (hfits : ∀ signal ∈ script, Fits items signal)
    (htrimmed : Trimmed item.id ∧ Trimmed item.callId ∧ Trimmed item.name)
    (hindex : event.outputIndex = some (n : Int)) (hid : event.itemId = item.id)
    (hnone : event.item = none) :
    KeepsUp items script (.argsDone n) s calls (s.flushPendingTool event) := by
  unfold ResponsesToChatStreamState.flushPendingTool
  rw [h.find hdistinct htrimmed.1 htool hindex hid hnone]
  have hstill : told n (script ++ [.argsDone n]) = told n script := told_append n script _
  by_cases hmem : n ∈ keyed script
  · have htold : told n (script ++ [.argsDone n]) = sentOf n script ++ "" := by
      simp [hstill, sentOf, hmem]
    obtain ⟨chunks, s', added, hrun, hemits, hflow, htrack⟩ :=
      h.send (.of_keyed h htool hmem) htool hfits reaches_argsDone htrimmed.1 htrimmed.2.1
        htrimmed.2.2.1 htold (.inl rfl)
    rw [nextTool_argsDone hmem] at hrun
    simp only [if_pos hmem, hrun]
    exact ⟨added, hemits, hflow, htrack⟩
  · have htold : told n (script ++ [.argsDone n]) = sentOf n script ++ told n script := by
      simp [hstill, sentOf, hmem]
    obtain ⟨s₁, hfallback, hlinked⟩ :=
      h.ensureFallback htool hfits hmem htrimmed.1 hindex hid hnone
    obtain ⟨chunks, s', added, hrun, hemits, hflow, htrack⟩ :=
      h.send hlinked htool hfits reaches_argsDone htrimmed.1 htrimmed.2.1 htrimmed.2.2.1 htold
        (.inl rfl)
    simp only [if_neg hmem, hfallback, hrun]
    exact ⟨added, hemits, hflow, htrack⟩

end Track

end YouBox.Responses
