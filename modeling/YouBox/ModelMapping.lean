import YouBox.Follow
import YouBox.GoJson
import YouBox.ModelRequest

/-!
# The model mapping of a channel

`ModelMappedHelper` follows the mapping of the channel from the requested model,
in the compact mode of the responses without its suffix, and takes the end of
the chain for the upstream model. A model that is mapped to itself ends the
chain, and the walk leaves early where it is the requested one.

`mapping_follows_chain`: called after `InitChannelMeta` it always returns, with
the cycle error exactly when the chain comes back to a model it has passed, and
with the end of the chain otherwise. The request is given the same model, unless
that is the empty name, which `SetModelName` passes over: it is the end only for
a request whose model is empty, or is nothing but the suffix.
-/

namespace YouBox.ModelMapping

open Strings GoJson StateTransition Follow
open Distributor (withCompactModelSuffix)

def compactModelSuffix : String := "-openai-compact"

def trimSuffix (s finish : String) : String :=
  if hasSuffix s finish then String.ofList (s.toList.take (s.toList.length - finish.toList.length))
  else s

/-- The `model_mapping` of the context: no text, no JSON, or a document. -/
inductive MappingText where
  | empty
  | invalid
  | document (doc : Json String)

/-- A member of the document as a `string`; null leaves the empty one. -/
def stringMember : String × Json String → Option (String × String)
  | (model, .str target) => some (model, target)
  | (model, .null) => some (model, "")
  | _ => none

/-- `json.Unmarshal` into a `map[string]string`, member by member. -/
def MappingText.unmarshal : MappingText → Option (List (String × String))
  | .empty | .document .null => some []
  | .document (.obj members) => members.mapM stringMember
  | _ => none

/-- `modelMap[model]`: of several members with one name the last counts. -/
def mapped (modelMap : List (String × String)) (model : String) : Option String :=
  modelMap.reverse.lookup model

/-- The fields of `RelayInfo` and its channel part that the mapping reads and writes. -/
structure RelayInfo where
  relayMode : RelayMode
  originModelName : String
  upstreamModelName : String
  isModelMapped : Bool
deriving DecidableEq

/-- `SetModelName` of a request that has a model. -/
def setModelName (modelName model : String) : String :=
  if modelName ≠ "" then modelName else model

/-- `InitChannelMeta`: what it makes of the names, given the context's
`original_model`. A request without a field for the model is `none`. -/
def initChannelMeta (originalModel : String) (info : RelayInfo) (request : Option String) :
    RelayInfo × Option String :=
  ({ info with upstreamModelName := originalModel, isModelMapped := false },
    request.map (setModelName info.originModelName))

inductive Walked where
  /-- the early return at the requested model -/
  | kept
  | ended (currentModel : String) (isModelMapped : Bool)
  | cycle

/-- The loop over the mapping; `none` when the fuel runs out. -/
def followMapping (modelMap : List (String × String)) (originModelName : String) :
    Nat → List String → String → Bool → Option Walked
  | 0, _, _, _ => none
  | fuel + 1, visitedModels, currentModel, isModelMapped =>
    match mapped modelMap currentModel with
    | none => some (.ended currentModel isModelMapped)
    | some mappedModel =>
      if mappedModel = "" then some (.ended currentModel isModelMapped)
      else if mappedModel ∈ visitedModels then
        if mappedModel = currentModel then
          if currentModel = originModelName then some .kept else some (.ended currentModel true)
        else some .cycle
      else followMapping modelMap originModelName fuel (mappedModel :: visitedModels) mappedModel
        true

def mappingModelName (info : RelayInfo) : String :=
  if info.relayMode = .responsesCompact ∧ hasSuffix info.originModelName compactModelSuffix then
    trimSuffix info.originModelName compactModelSuffix
  else info.originModelName

/-- From the walk to the return: the compact mode writes both names back. -/
def finishMapping (start : String) (info : RelayInfo) (request : Option String) :
    RelayInfo × Option String :=
  let info :=
    if info.relayMode = .responsesCompact then
      let finalUpstreamModelName :=
        if info.isModelMapped ∧ info.upstreamModelName ≠ "" then info.upstreamModelName else start
      { info with
        upstreamModelName := finalUpstreamModelName
        originModelName := withCompactModelSuffix finalUpstreamModelName }
    else info
  (info, request.map (setModelName info.upstreamModelName))

/-- `ModelMappedHelper`; `none` when the fuel of the loop runs out. -/
def modelMappedHelper (fuel : Nat) (modelMapping : MappingText) (info : RelayInfo)
    (request : Option String) : Option (Except String (RelayInfo × Option String)) :=
  let start := mappingModelName info
  match modelMapping with
  | .empty => some (.ok (finishMapping start info request))
  | modelMapping =>
    match modelMapping.unmarshal with
    | none => some (.error "unmarshal_model_mapping_failed")
    | some modelMap =>
      match followMapping modelMap info.originModelName fuel [start] start info.isModelMapped with
      | none => none
      | some .cycle => some (.error "model_mapping_contains_cycle")
      | some .kept => some (.ok ({ info with isModelMapped := false }, request))
      | some (.ended currentModel isModelMapped) =>
        let info := { info with isModelMapped }
        let info := if isModelMapped then { info with upstreamModelName := currentModel } else info
        some (.ok (finishMapping start info request))

/-! ## Suffixes -/

variable {s finish model : String} {modelMap : List (String × String)}

theorem hasSuffix_iff :
    hasSuffix s finish = true ↔ ∃ start, s = start ++ finish := by
  rw [hasSuffix, List.isSuffixOf_iff_suffix]
  constructor
  · rintro ⟨l, hl⟩
    refine ⟨String.ofList l, ?_⟩
    rw [← String.toList_inj, String.toList_append, String.toList_ofList, hl]
  · rintro ⟨start, rfl⟩
    rw [String.toList_append]
    exact List.suffix_append _ _

theorem trimSuffix_append (start finish : String) :
    trimSuffix (start ++ finish) finish = start := by
  have hlen : (start ++ finish).toList.length - finish.toList.length = start.toList.length := by
    rw [String.toList_append, List.length_append]
    omega
  rw [trimSuffix, if_pos (hasSuffix_iff.2 ⟨start, rfl⟩), hlen, String.toList_append,
    List.take_left, String.ofList_toList]

theorem trimSuffix_of_not (h : ¬ hasSuffix s finish = true) :
    trimSuffix s finish = s :=
  if_neg h

theorem append_trimSuffix (h : hasSuffix s finish = true) :
    trimSuffix s finish ++ finish = s := by
  obtain ⟨start, rfl⟩ := hasSuffix_iff.1 h
  rw [trimSuffix_append]

theorem withCompactModelSuffix_of (h : hasSuffix model compactModelSuffix = true) :
    withCompactModelSuffix model = model :=
  if_pos h

theorem hasSuffix_withCompactModelSuffix (model : String) :
    hasSuffix (withCompactModelSuffix model) compactModelSuffix = true := by
  unfold withCompactModelSuffix
  split
  · assumption
  · exact hasSuffix_iff.2 ⟨model, rfl⟩

theorem trimSuffix_withCompactModelSuffix (model : String) :
    trimSuffix (withCompactModelSuffix model) compactModelSuffix
      = trimSuffix model compactModelSuffix := by
  by_cases h : hasSuffix model compactModelSuffix = true
  · rw [withCompactModelSuffix_of h]
  · have hadd : withCompactModelSuffix model = model ++ compactModelSuffix := if_neg h
    rw [hadd, trimSuffix_append, trimSuffix_of_not h]

/-! ## The chain -/

/-- Where the mapping leads on: a model that is unmapped, mapped to the empty
name or mapped to itself ends the chain. -/
def redirect (modelMap : List (String × String)) (model : String) : Option String :=
  (mapped modelMap model).filter fun target => target ≠ "" ∧ target ≠ model

theorem redirect_eq_some {target : String} :
    redirect modelMap model = some target
      ↔ mapped modelMap model = some target ∧ target ≠ "" ∧ target ≠ model := by
  simp [redirect, Option.filter_eq_some_iff]

theorem redirect_eq_none :
    redirect modelMap model = none ↔ mapped modelMap model = none ∨
      mapped modelMap model = some "" ∨ mapped modelMap model = some model := by
  rw [redirect]
  cases mapped modelMap model with
  | none => simp
  | some target => simp [Option.filter, or_iff_not_imp_left]

theorem mem_targets (model target : String) (h : target ∈ redirect modelMap model) :
    target ∈ modelMap.map Prod.snd := by
  obtain ⟨hmapped, -⟩ := redirect_eq_some.1 h
  obtain ⟨before, after, hsplit, -⟩ := List.lookup_eq_some_iff.1 hmapped
  have hmem : (model, target) ∈ modelMap := by
    rw [← List.mem_reverse, hsplit]
    exact List.mem_append_right _ List.mem_cons_self
  exact List.mem_map.2 ⟨(model, target), hmem, rfl⟩

/-- What the loop makes of the end of a walk that began with `mappedSoFar`. -/
def Walked.ofWalk (modelMap : List (String × String)) (originModelName : String)
    (mappedSoFar : Bool) : Except String String → Walked
  | .error _ => .cycle
  | .ok e =>
    if mapped modelMap e = some e ∧ e ≠ "" then
      if e = originModelName then .kept else .ended e true
    else .ended e mappedSoFar

theorem followMapping_eq (modelMap : List (String × String)) (originModelName : String)
    (fuel : Nat) {visitedModels : List String} {currentModel : String}
    (hhere : currentModel ∈ visitedModels) (isModelMapped : Bool) :
    followMapping modelMap originModelName fuel visitedModels currentModel isModelMapped
      = (walk (redirect modelMap) fuel visitedModels currentModel).map
          (Walked.ofWalk modelMap originModelName
            (isModelMapped || (redirect modelMap currentModel).isSome)) := by
  induction fuel generalizing visitedModels currentModel isModelMapped with
  | zero => rfl
  | succ fuel ih =>
    rw [followMapping, walk]
    cases hmapped : mapped modelMap currentModel with
    | none =>
      have hnone := redirect_eq_none.2 (Or.inl hmapped)
      simp [hnone, Walked.ofWalk, hmapped]
    | some target =>
      by_cases hempty : target = ""
      · have hnone := redirect_eq_none.2 (Or.inr (Or.inl (hempty ▸ hmapped)))
        have hself : ¬ (mapped modelMap currentModel = some currentModel ∧ currentModel ≠ "") := by
          rintro ⟨hself, hne⟩
          exact hne (Option.some.inj (hself.symm.trans (hempty ▸ hmapped)))
        simp [hnone, Walked.ofWalk, hself, hempty]
      · by_cases hsame : target = currentModel
        · subst hsame
          have hnone := redirect_eq_none.2 (Or.inr (Or.inr hmapped))
          simp only [hempty, if_false, hhere, if_true, hnone, Option.map_some, Walked.ofWalk,
            hmapped, ne_eq, not_false_eq_true, and_self]
          exact (apply_ite some _ _ _).symm
        · have hsome := redirect_eq_some.2 ⟨hmapped, hempty, hsame⟩
          by_cases hpassed : target ∈ visitedModels
          · simp [hsome, Walked.ofWalk, hempty, hpassed, hsame]
          · simp [hsome, hempty, hpassed, ih List.mem_cons_self]

/-! ## The mapping of a request -/

/-- What `InitChannelMeta` leaves for a request of the model in `info`. -/
def initialized (info : RelayInfo) (request : Option String) : RelayInfo × Option String :=
  initChannelMeta info.originModelName info request

/-- The model the chain starts from. -/
def chainStart (info : RelayInfo) : String :=
  if info.relayMode = .responsesCompact then trimSuffix info.originModelName compactModelSuffix
  else info.originModelName

theorem mappingModelName_eq (info : RelayInfo) : mappingModelName info = chainStart info := by
  unfold mappingModelName chainStart
  by_cases hmode : info.relayMode = .responsesCompact
  · by_cases hsuffix : hasSuffix info.originModelName compactModelSuffix = true
    · simp [hmode, hsuffix]
    · simp [hmode, hsuffix, trimSuffix_of_not hsuffix]
  · simp [hmode]

/-- The names after the mapping are those of the end of the chain. -/
structure EndsAt (info : RelayInfo) (request : Option String) (e : String)
    (info' : RelayInfo) (request' : Option String) : Prop where
  mode : info'.relayMode = info.relayMode
  upstream : info'.upstreamModelName = e
  request_end : e ≠ "" → request' = request.map fun _ => e
  request_kept : e = "" → request' = request.map (setModelName info.originModelName)
  mapped_iff : info.relayMode ≠ .responsesCompact →
    (info'.isModelMapped = true ↔ e ≠ info.originModelName)
  origin_kept : info.relayMode ≠ .responsesCompact → info'.originModelName = info.originModelName
  origin_compact : info.relayMode = .responsesCompact →
    hasSuffix info.originModelName compactModelSuffix = true →
      info'.originModelName = withCompactModelSuffix e

theorem map_setModelName (first second : String) (request : Option String) :
    (request.map (setModelName first)).map (setModelName second)
      = if second = "" then request.map (setModelName first) else request.map fun _ => second := by
  cases request with
  | none => simp
  | some model => by_cases hempty : second = "" <;> simp [setModelName, hempty]

variable {request : Option String} {info : RelayInfo}

theorem finishMapping_endsAt {e : String} {isModelMapped : Bool}
    (hmapped : isModelMapped = true → e ≠ "")
    (hunmapped : isModelMapped = false → e = chainStart info)
    (hiff : info.relayMode ≠ .responsesCompact →
      (isModelMapped = true ↔ e ≠ info.originModelName)) :
    EndsAt info request e
      (finishMapping (chainStart info)
        { info with
          upstreamModelName := if isModelMapped then e else info.originModelName
          isModelMapped }
        (request.map (setModelName info.originModelName))).1
      (finishMapping (chainStart info)
        { info with
          upstreamModelName := if isModelMapped then e else info.originModelName
          isModelMapped }
        (request.map (setModelName info.originModelName))).2 := by
  by_cases hmode : info.relayMode = .responsesCompact
  · have hfinal : (if isModelMapped = true ∧
        (if isModelMapped = true then e else info.originModelName) ≠ ""
          then (if isModelMapped = true then e else info.originModelName)
          else chainStart info) = e := by
      cases isModelMapped with
      | true => simp [hmapped rfl]
      | false => simp [hunmapped rfl]
    simp only [finishMapping, hmode, if_true, hfinal, map_setModelName]
    exact ⟨hmode.symm, rfl, fun h => if_neg h, fun h => if_pos h, fun h => absurd hmode h,
      fun h => absurd hmode h, fun _ _ => rfl⟩
  · have hupstream : (if isModelMapped = true then e else info.originModelName) = e := by
      cases isModelMapped with
      | true => rfl
      | false => simp [hunmapped rfl, chainStart, hmode]
    simp only [finishMapping, hmode, if_false, hupstream, map_setModelName]
    exact ⟨rfl, rfl, fun h => if_neg h, fun h => if_pos h, fun h => hiff h, fun _ => rfl,
      fun h => absurd h hmode⟩

theorem ne_empty_of_eval {start e : String} (h : e ∈ eval (redirect modelMap) start)
    (hne : e ≠ start) : e ≠ "" := by
  rcases (mem_eval.1 h).1.cases_tail with rfl | ⟨model, -, hstep⟩
  · exact absurd rfl hne
  · exact (redirect_eq_some.1 hstep).2.1

theorem kept_endsAt (info : RelayInfo) (request : Option String) :
    EndsAt info request info.originModelName
      { info with upstreamModelName := info.originModelName, isModelMapped := false }
      (request.map (setModelName info.originModelName)) where
  mode := rfl
  upstream := rfl
  request_end h := by cases request <;> simp [setModelName, h]
  request_kept _ := rfl
  mapped_iff _ := by simp
  origin_kept _ := rfl
  origin_compact _ hsuffix := (withCompactModelSuffix_of hsuffix).symm

/-- What following the mapping comes to: the cycle error exactly where the chain
loops, and otherwise the names of its end, of which there is one. -/
structure FollowsChain (modelMap : List (String × String)) (info : RelayInfo)
    (request : Option String) (r : Except String (RelayInfo × Option String)) : Prop where
  cycle_iff : r = .error "model_mapping_contains_cycle"
    ↔ Loops (redirect modelMap) (chainStart info)
  unique_end : ¬ Loops (redirect modelMap) (chainStart info) →
    ∃! e, e ∈ eval (redirect modelMap) (chainStart info)
  ends : ∀ e ∈ eval (redirect modelMap) (chainStart info), ∃ info' request',
    r = .ok (info', request') ∧ EndsAt info request e info' request'

theorem followsChain_of_end {info' : RelayInfo} {request' : Option String} {e : String}
    (he : e ∈ eval (redirect modelMap) (chainStart info))
    (hends : EndsAt info request e info' request') :
    FollowsChain modelMap info request (.ok (info', request')) where
  cycle_iff := iff_of_false (by simp) (not_loops_of_eval he)
  unique_end _ := ⟨e, he, fun _ he' => Part.mem_unique he' he⟩
  ends e' he' := by
    obtain rfl := Part.mem_unique he he'
    exact ⟨info', request', rfl, hends⟩

theorem followsChain_of_loops (h : Loops (redirect modelMap) (chainStart info)) :
    FollowsChain modelMap info request (.error "model_mapping_contains_cycle") where
  cycle_iff := iff_of_true rfl h
  unique_end hno := absurd h hno
  ends _ he := absurd h (not_loops_of_eval he)

theorem modelMappedHelper_eq {modelMapping : MappingText} {modelMap : List (String × String)}
    (hmap : modelMapping.unmarshal = some modelMap) (hfresh : info.isModelMapped = false)
    (request : Option String) {fuel : Nat} (hfuel : 0 < fuel) :
    modelMappedHelper fuel modelMapping info request
      = (followMapping modelMap info.originModelName fuel [mappingModelName info]
          (mappingModelName info) info.isModelMapped).map fun
        | .cycle => .error "model_mapping_contains_cycle"
        | .kept => .ok ({ info with isModelMapped := false }, request)
        | .ended currentModel isModelMapped =>
          .ok (finishMapping (mappingModelName info)
            { info with
              upstreamModelName :=
                if isModelMapped then currentModel else info.upstreamModelName
              isModelMapped } request) := by
  cases modelMapping with
  | invalid => cases hmap
  | empty =>
    -- an empty map ends the loop at once
    obtain rfl : [] = modelMap := Option.some.inj hmap
    obtain ⟨fuel, rfl⟩ := Nat.exists_eq_succ_of_ne_zero hfuel.ne'
    obtain ⟨relayMode, originModelName, upstreamModelName, isModelMapped⟩ := info
    obtain rfl : isModelMapped = false := hfresh
    rfl
  | document doc =>
    simp only [modelMappedHelper, hmap]
    cases followMapping modelMap info.originModelName fuel [mappingModelName info]
        (mappingModelName info) info.isModelMapped with
    | none => rfl
    | some walked =>
      cases walked with
      | kept => rfl
      | cycle => rfl
      | ended currentModel isModelMapped => cases isModelMapped <;> rfl

/-- Called after `InitChannelMeta` with a mapping that can be read,
`ModelMappedHelper` returns, and has followed the chain of the requested model. -/
theorem mapping_follows_chain (modelMapping : MappingText) (modelMap : List (String × String))
    (hmap : modelMapping.unmarshal = some modelMap) (info : RelayInfo) (request : Option String)
    (fuel : Nat) (hfuel : modelMap.length < fuel) :
    ∃ r, modelMappedHelper fuel modelMapping (initialized info request).1
        (initialized info request).2 = some r ∧ FollowsChain modelMap info request r := by
  have hstart : mappingModelName (initialized info request).1 = chainStart info :=
    mappingModelName_eq _
  have hname : (initialized info request).1.originModelName = info.originModelName := rfl
  rw [modelMappedHelper_eq hmap rfl _ (by omega), followMapping_eq _ _ _ List.mem_cons_self, hstart,
    hname]
  have htargets : (modelMap.map Prod.snd).length < fuel := by
    rw [List.length_map]
    exact hfuel
  rcases walk_spec mem_targets htargets (chainStart info) with
    ⟨e, hwalk, he⟩ | ⟨model, hwalk, hloops⟩
  · rw [hwalk]
    by_cases hself : mapped modelMap e = some e ∧ e ≠ ""
    · by_cases horigin : e = info.originModelName
      · subst horigin
        refine ⟨_, ?_, followsChain_of_end he (kept_endsAt info request)⟩
        rw [Option.map_some, Walked.ofWalk, if_pos hself, if_pos rfl]
        rfl
      · refine ⟨_, ?_, followsChain_of_end he (finishMapping_endsAt
          (fun _ => hself.2) (fun h => by cases h)
          (fun _ => iff_of_true (Eq.refl true) horigin))⟩
        rw [Option.map_some, Walked.ofWalk, if_pos hself, if_neg horigin]
        rfl
    · -- the walk has led on exactly where the end is not the start
      have hmoved : (redirect modelMap (chainStart info)).isSome = true ↔ e ≠ chainStart info := by
        rw [ne_eq, eval_eq_iff he]
        exact Option.isSome_iff_ne_none
      refine ⟨_, ?_, followsChain_of_end he (@finishMapping_endsAt _ _ _
        (redirect modelMap (chainStart info)).isSome ?_ ?_ ?_)⟩
      · rw [Option.map_some, Walked.ofWalk, if_neg hself]
        rfl
      · intro h
        exact ne_empty_of_eval he (hmoved.1 h)
      · intro h
        by_contra hne
        rw [hmoved.2 hne] at h
        cases h
      · intro hmode
        rw [hmoved, chainStart, if_neg hmode]
  · rw [hwalk]
    exact ⟨_, rfl, followsChain_of_loops hloops⟩

/-- A mapping over two models, with one more that is mapped to itself. -/
def twoSteps : MappingText :=
  .document (.obj [("gpt-4o", .str "gpt-4.1"), ("gpt-4.1", .str "o3"), ("o3", .str "o3")])

def requestFor (relayMode : RelayMode) (model : String) : RelayInfo :=
  ⟨relayMode, model, "", false⟩

theorem twoSteps_followed :
    ∃ r, modelMappedHelper 4 twoSteps
        (initialized (requestFor .chatCompletions "gpt-4o") (some "gpt-4o")).1
        (initialized (requestFor .chatCompletions "gpt-4o") (some "gpt-4o")).2 = some r ∧
      FollowsChain [("gpt-4o", "gpt-4.1"), ("gpt-4.1", "o3"), ("o3", "o3")]
        (requestFor .chatCompletions "gpt-4o") (some "gpt-4o") r :=
  mapping_follows_chain twoSteps _ rfl _ _ 4 (by decide)

/-- The suffix for a model: the chain ends in the empty name and the request
keeps its own. -/
theorem suffix_alone_keeps_its_name :
    "" ∈ eval (redirect []) (chainStart (requestFor .responsesCompact "-openai-compact")) ∧
      modelMappedHelper 1 .empty
        (initialized (requestFor .responsesCompact "-openai-compact") (some "-openai-compact")).1
        (initialized (requestFor .responsesCompact "-openai-compact") (some "-openai-compact")).2
      = some (.ok (⟨.responsesCompact, "-openai-compact", "", false⟩, some "-openai-compact")) := by
  have hstart : chainStart (requestFor .responsesCompact "-openai-compact") = "" := by
    decide
  refine ⟨?_, by decide⟩
  rw [hstart]
  exact mem_eval.2 ⟨Relation.ReflTransGen.refl, rfl⟩

end YouBox.ModelMapping
