import YouBox.ModelMapping

/-!
# The model of a retry

The retry loop of `Relay` selects every channel by the model the client asked
for, and sets it up with the model in `RelayInfo`. Two handlers write another one
there: in the compact mode of the responses `ModelMappedHelper` puts the end of
the channel's mapping in its place, and the Gemini handler the name of the
billed variant without thinking. The next channel's mapping then starts from
that name.

`upstream_independent_iff`: over every sequence of channels that the loop has
tried, the upstream model of each next attempt is the one the channel would
have as the first, for every mapping it may have, exactly when every channel
tried has kept the client's model.
-/

namespace YouBox.ModelMapping

open Strings StateTransition Follow GoJson
open Distributor (withCompactModelSuffix)

/-! ## The loop -/

/-- What the handlers read of the settings. -/
structure ModelSettings where
  thinkingAdapterEnabled : Bool
  hasModelBillingConfig : String → Bool

/-- The handlers `Relay` chooses between, by what they do with the model. -/
inductive Handler where
  | responsesCompact
  | gemini (noThinkingRequest : Bool)
  | realtime
  | other (relayMode : { mode : RelayMode // mode ≠ .responsesCompact })

def Handler.relayMode : Handler → RelayMode
  | .responsesCompact => .responsesCompact
  | .gemini _ => .gemini
  | .realtime => .realtime
  | .other mode => mode.1

/-- The names in the context, in `RelayInfo`, its request and the retry
parameters. -/
structure RelayState where
  originalModel : String
  modelMapping : MappingText
  info : RelayInfo
  request : Option String
  retryModelName : String

/-- The model that the distributor makes of the model in the body. -/
def clientModel : Handler → String → String
  | .responsesCompact, model => withCompactModelSuffix model
  | _, model => model

/-- Before the loop. -/
def startState (handler : Handler) (model : String) (request : Option String) : RelayState where
  originalModel := clientModel handler model
  modelMapping := .empty
  info := ⟨handler.relayMode, clientModel handler model, "", false⟩
  request := request
  retryModelName := clientModel handler model

/-- `SetupContextForSelectedChannel`; for the first channel the distributor has
called it, with the same model. -/
def setupContext (modelMapping : MappingText) (modelName : String) (s : RelayState) : RelayState :=
  { s with originalModel := modelName, modelMapping }

/-- What the Gemini handler does about a request without thinking. -/
def adaptThinking (settings : ModelSettings) (noThinkingRequest : Bool) (info : RelayInfo) :
    RelayInfo :=
  if settings.thinkingAdapterEnabled ∧ noThinkingRequest
      ∧ ¬ contains info.originModelName "-nothinking"
      ∧ settings.hasModelBillingConfig (info.originModelName ++ "-nothinking") then
    { info with
      originModelName := info.originModelName ++ "-nothinking"
      upstreamModelName := info.originModelName ++ "-nothinking" }
  else info

/-- Enough steps for the loop over a mapping. -/
def loopBound (modelMapping : MappingText) : Nat :=
  (modelMapping.unmarshal.getD []).length + 1

/-- A handler up to the upstream request; the copy of the client's request that
the mapping renames is the attempt's own. -/
def relayHandler (settings : ModelSettings) (handler : Handler) (s : RelayState) :
    Option (Except String RelayState) :=
  let (info, request) := initChannelMeta s.originalModel s.info s.request
  let mapped := modelMappedHelper (loopBound s.modelMapping) s.modelMapping info request
  match handler with
  | .realtime => some (.ok { s with info, request })
  | .gemini noThinkingRequest =>
    mapped.map fun r => r.map fun (info, _) =>
      { s with info := adaptThinking settings noThinkingRequest info, request }
  | _ => mapped.map fun r => r.map fun (info, _) => { s with info, request }

/-- An attempt with the channel of a mapping: `getChannel` and the handler. -/
def attempt (settings : ModelSettings) (handler : Handler) (s : RelayState)
    (modelMapping : MappingText) : Option (Except String RelayState) :=
  relayHandler settings handler (setupContext modelMapping s.info.originModelName s)

/-- The upstream model of an attempt, or the error of its mapping. -/
def upstreamModel (settings : ModelSettings) (handler : Handler) (s : RelayState)
    (modelMapping : MappingText) : Option (Except String String) :=
  (attempt settings handler s modelMapping).map fun r => r.map fun s => s.info.upstreamModelName

/-- The loop goes on after an attempt whose mapping has been followed; the
errors of the mapping are not retried. -/
def retried (settings : ModelSettings) (handler : Handler) (s : RelayState)
    (modelMapping : MappingText) : Option RelayState :=
  (attempt settings handler s modelMapping).bind Except.toOption

def retries (settings : ModelSettings) (handler : Handler) (s : RelayState)
    (tried : List MappingText) : Option RelayState :=
  tried.foldlM (retried settings handler) s

/-! ## Independence of what was tried -/

/-- Whatever channel comes next, after any of the attempts: it is selected by the
client's model, and has the upstream model it would have as the first. -/
def Independent (settings : ModelSettings) (handler : Handler) (first : RelayState)
    (s : RelayState) (tried : List MappingText) : Prop :=
  ∀ n ≤ tried.length, ∀ s', retries settings handler s (tried.take n) = some s' →
    s'.retryModelName = first.retryModelName ∧
    ∀ next, upstreamModel settings handler s' next = upstreamModel settings handler first next

/-- The Gemini handler renames the model. -/
def RenamesThinking (settings : ModelSettings) (noThinkingRequest : Bool) (model : String) : Prop :=
  settings.thinkingAdapterEnabled = true ∧ noThinkingRequest = true ∧
    contains model "-nothinking" = false ∧
    settings.hasModelBillingConfig (model ++ "-nothinking") = true

/-- A channel that leaves the client's model: in the compact mode its mapping
leads from the model without the suffix to the same again, with or without it. -/
def KeepsModel (settings : ModelSettings) (handler : Handler) (model : String)
    (modelMapping : MappingText) : Prop :=
  match handler with
  | .responsesCompact =>
    ∃ modelMap e, modelMapping.unmarshal = some modelMap ∧
      e ∈ eval (redirect modelMap) (trimSuffix (clientModel handler model) compactModelSuffix) ∧
      trimSuffix e compactModelSuffix
        = trimSuffix (clientModel handler model) compactModelSuffix
  | .gemini noThinkingRequest => ¬ RenamesThinking settings noThinkingRequest model
  | _ => True

/-! ## One attempt -/

/-- What the mapping makes of the names, which the request has no part in. -/
def mappedInfo (modelMapping : MappingText) (info : RelayInfo) : Option (Except String RelayInfo) :=
  (modelMappedHelper (loopBound modelMapping) modelMapping (initialized info none).1 none).map
    fun r => r.map Prod.fst

theorem modelMappedHelper_request (fuel : Nat) (modelMapping : MappingText) (info : RelayInfo)
    (request : Option String) :
    (modelMappedHelper fuel modelMapping info request).map (fun r => r.map Prod.fst)
      = (modelMappedHelper fuel modelMapping info none).map fun r => r.map Prod.fst := by
  unfold modelMappedHelper
  extract_lets start
  split
  · rfl
  · split
    · rfl
    · split <;> rfl

/-- The names after an attempt. -/
def attemptInfo (settings : ModelSettings) (handler : Handler) (info : RelayInfo)
    (modelMapping : MappingText) : Option (Except String RelayInfo) :=
  match handler with
  | .realtime => some (.ok (initialized info none).1)
  | .gemini noThinkingRequest =>
    (mappedInfo modelMapping info).map fun r => r.map (adaptThinking settings noThinkingRequest)
  | .responsesCompact | .other _ => mappedInfo modelMapping info

theorem attempt_info (settings : ModelSettings) (handler : Handler) (s : RelayState)
    (modelMapping : MappingText) :
    (attempt settings handler s modelMapping).map (fun r => r.map RelayState.info)
      = attemptInfo settings handler s.info modelMapping := by
  have hrequest := modelMappedHelper_request (loopBound modelMapping) modelMapping
    (initialized s.info none).1 (s.request.map (setModelName s.info.originModelName))
  unfold attempt relayHandler
  cases handler with
  | realtime => rfl
  | responsesCompact | other _ | gemini _ =>
    simp only [attemptInfo, mappedInfo, ← hrequest, Option.map_map, setupContext]
    congr 1
    funext r
    cases r <;> rfl

variable {info : RelayInfo} {settings : ModelSettings} {s s' : RelayState}
  {modelMapping : MappingText} {noThinkingRequest : Bool} {model : String} {first : RelayState}

variable {modelMap : List (String × String)} {tried : List MappingText} {info' : RelayInfo}
  {e target : String}

theorem attemptInfo_congr (settings : ModelSettings) (handler : Handler)
    (hmode : info.relayMode = info'.relayMode)
    (horigin : info.originModelName = info'.originModelName) (modelMapping : MappingText) :
    attemptInfo settings handler info modelMapping
      = attemptInfo settings handler info' modelMapping := by
  have hinit : initialized info none = initialized info' none := by
    simp [initialized, initChannelMeta, hmode, horigin]
  simp only [attemptInfo, mappedInfo, hinit]

theorem upstreamModel_eq (settings : ModelSettings) (handler : Handler) (s : RelayState)
    (modelMapping : MappingText) :
    upstreamModel settings handler s modelMapping
      = (attemptInfo settings handler s.info modelMapping).map fun r =>
          r.map RelayInfo.upstreamModelName := by
  rw [← attempt_info, Option.map_map, upstreamModel]
  congr 1
  funext r
  cases r <;> rfl

variable {handler : Handler}

theorem attempt_retryModelName (h : attempt settings handler s modelMapping = some (.ok s')) :
    s'.retryModelName = s.retryModelName := by
  cases handler with
  | realtime =>
    cases h
    rfl
  | responsesCompact | other _ | gemini _ =>
    obtain ⟨r, -, hr⟩ := Option.map_eq_some_iff.1 h
    cases r with
    | error e => cases hr
    | ok p =>
      cases hr
      rfl

theorem retried_info (h : retried settings handler s modelMapping = some s') :
    s'.retryModelName = s.retryModelName ∧
      attemptInfo settings handler s.info modelMapping = some (.ok s'.info) := by
  obtain ⟨r, hr, hok⟩ := Option.bind_eq_some_iff.1 h
  cases r with
  | error e => cases hok
  | ok s₁ =>
    obtain rfl : s₁ = s' := Option.some.inj hok
    refine ⟨attempt_retryModelName hr, ?_⟩
    rw [← attempt_info, hr]
    rfl

theorem mappedInfo_ok (h : mappedInfo modelMapping info = some (.ok info')) :
    ∃ modelMap e, modelMapping.unmarshal = some modelMap ∧
      e ∈ eval (redirect modelMap) (chainStart info) ∧
      ∃ request', EndsAt info none e info' request' := by
  obtain ⟨r, hr, hok⟩ := Option.map_eq_some_iff.1 h
  cases hmap : modelMapping.unmarshal with
  | none =>
    cases modelMapping with
    | empty => cases hmap
    | invalid =>
      cases hr
      cases hok
    | document doc =>
      simp only [modelMappedHelper, hmap] at hr
      cases hr
      cases hok
  | some modelMap =>
    obtain ⟨r', hr', hfollows⟩ := mapping_follows_chain modelMapping modelMap hmap info none
      (loopBound modelMapping) (by simp [loopBound, hmap])
    obtain rfl : r = r' := Option.some.inj (hr.symm.trans hr')
    cases r with
    | error e => cases hok
    | ok p =>
      have hnot : ¬ Loops (redirect modelMap) (chainStart info) := by
        rw [← hfollows.cycle_iff]
        simp
      obtain ⟨e, he, -⟩ := hfollows.unique_end hnot
      obtain ⟨info'', request', hp, hends⟩ := hfollows.ends e he
      cases hp
      cases hok
      exact ⟨modelMap, e, rfl, he, request', hends⟩

theorem mappedInfo_of_end (hmap : modelMapping.unmarshal = some modelMap)
    (he : e ∈ eval (redirect modelMap) (chainStart info)) :
    ∃ info' request', mappedInfo modelMapping info = some (.ok info') ∧
      EndsAt info none e info' request' := by
  obtain ⟨r, hr, hfollows⟩ := mapping_follows_chain modelMapping modelMap hmap info none
    (loopBound modelMapping) (by simp [loopBound, hmap])
  obtain ⟨info', request', rfl, hends⟩ := hfollows.ends e he
  refine ⟨info', request', ?_, hends⟩
  have hcall : modelMappedHelper (loopBound modelMapping) modelMapping
      (initialized info none).1 none = some (.ok (info', request')) := hr
  rw [mappedInfo, hcall]
  rfl

/-! ## Channels that keep the model -/

/-- The names an attempt begins with are the client's. -/
structure Kept (handler : Handler) (model : String) (s : RelayState) : Prop where
  relayMode : s.info.relayMode = handler.relayMode
  origin : s.info.originModelName = clientModel handler model
  retryModelName : s.retryModelName = clientModel handler model

theorem kept_start (handler : Handler) (model : String) (request : Option String) :
    Kept handler model (startState handler model request) :=
  ⟨rfl, rfl, rfl⟩

theorem adaptThinking_of_not
    (h : ¬ RenamesThinking settings noThinkingRequest info.originModelName) :
    adaptThinking settings noThinkingRequest info = info := by
  refine if_neg ?_
  rintro ⟨hadapter, hrequest, hcontains, hbilled⟩
  exact h ⟨hadapter, hrequest, by simpa using hcontains, hbilled⟩

theorem adaptThinking_of (h : RenamesThinking settings noThinkingRequest info.originModelName) :
    adaptThinking settings noThinkingRequest info
      = { info with
          originModelName := info.originModelName ++ "-nothinking"
          upstreamModelName := info.originModelName ++ "-nothinking" } := by
  obtain ⟨hadapter, hrequest, hcontains, hbilled⟩ := h
  exact if_pos ⟨hadapter, hrequest, by simp [hcontains], hbilled⟩

theorem chainStart_compact (h : info.relayMode = .responsesCompact) :
    chainStart info = trimSuffix info.originModelName compactModelSuffix :=
  if_pos h

theorem chainStart_other (h : info.relayMode ≠ .responsesCompact) :
    chainStart info = info.originModelName :=
  if_neg h

theorem eq_of_trimSuffix {s t finish : String} (hs : hasSuffix s finish = true)
    (ht : hasSuffix t finish = true) (h : trimSuffix s finish = trimSuffix t finish) : s = t := by
  rw [← append_trimSuffix hs, h, append_trimSuffix ht]

/-- The model that an attempt leaves for the next one. -/
def Leaves (settings : ModelSettings) (handler : Handler) (modelMapping : MappingText)
    (model left : String) : Prop :=
  match handler with
  | .responsesCompact =>
    ∃ modelMap e, modelMapping.unmarshal = some modelMap ∧
      e ∈ eval (redirect modelMap) (trimSuffix model compactModelSuffix) ∧
      left = withCompactModelSuffix e
  | .gemini noThinkingRequest =>
    RenamesThinking settings noThinkingRequest model ∧ left = model ++ "-nothinking" ∨
      ¬ RenamesThinking settings noThinkingRequest model ∧ left = model
  | .realtime | .other _ => left = model

theorem retried_leaves (hs : Kept handler model s)
    (h : retried settings handler s modelMapping = some s') :
    s'.retryModelName = clientModel handler model ∧ s'.info.relayMode = handler.relayMode ∧
      Leaves settings handler modelMapping (clientModel handler model)
        s'.info.originModelName := by
  obtain ⟨hretry, hinfo⟩ := retried_info h
  refine ⟨hretry.trans hs.retryModelName, ?_⟩
  cases handler with
  | realtime =>
    have hsame := Except.ok.inj (Option.some.inj hinfo)
    rw [← hsame]
    exact ⟨hs.relayMode, hs.origin⟩
  | other mode =>
    obtain ⟨modelMap, e, -, -, request', hends⟩ := mappedInfo_ok hinfo
    exact ⟨hends.mode.trans hs.relayMode,
      (hends.origin_kept (hs.relayMode ▸ mode.2)).trans hs.origin⟩
  | responsesCompact =>
    obtain ⟨modelMap, e, hmap, he, request', hends⟩ := mappedInfo_ok hinfo
    rw [chainStart_compact hs.relayMode, hs.origin] at he
    have hsuffix : hasSuffix s.info.originModelName compactModelSuffix = true := by
      rw [hs.origin]
      exact hasSuffix_withCompactModelSuffix model
    exact ⟨hends.mode.trans hs.relayMode, modelMap, e, hmap, he,
      hends.origin_compact hs.relayMode hsuffix⟩
  | gemini noThinkingRequest =>
    obtain ⟨r, hr, hadapted⟩ := Option.map_eq_some_iff.1 hinfo
    cases r with
    | error e => cases hadapted
    | ok info =>
      obtain ⟨modelMap, e, -, -, request', hends⟩ := mappedInfo_ok hr
      have hmode : s.info.relayMode ≠ .responsesCompact := by
        rw [hs.relayMode]
        simp [Handler.relayMode]
      have horigin := (hends.origin_kept hmode).trans hs.origin
      have hinfo' : adaptThinking settings noThinkingRequest info = s'.info :=
        Except.ok.inj hadapted
      rw [← hinfo']
      by_cases hrenames : RenamesThinking settings noThinkingRequest info.originModelName
      · rw [adaptThinking_of hrenames]
        rw [horigin] at hrenames ⊢
        exact ⟨hends.mode.trans hs.relayMode, Or.inl ⟨hrenames, rfl⟩⟩
      · rw [adaptThinking_of_not hrenames]
        rw [horigin] at hrenames ⊢
        exact ⟨hends.mode.trans hs.relayMode, Or.inr ⟨hrenames, rfl⟩⟩

theorem Kept.next (hs : Kept handler model s)
    (h : retried settings handler s modelMapping = some s')
    (hkeeps : KeepsModel settings handler model modelMapping) : Kept handler model s' := by
  obtain ⟨hretry, hmode, hleaves⟩ := retried_leaves hs h
  refine ⟨hmode, ?_, hretry⟩
  cases handler with
  | realtime => exact hleaves
  | other mode => exact hleaves
  | gemini noThinkingRequest => exact (hleaves.resolve_left fun hrenames => hkeeps hrenames.1).2
  | responsesCompact =>
    obtain ⟨modelMap, e, hmap, he, hleft⟩ := hleaves
    obtain ⟨modelMap', e', hmap', he', hback⟩ := hkeeps
    obtain rfl := Option.some.inj (hmap.symm.trans hmap')
    obtain rfl := Part.mem_unique he he'
    rw [hleft]
    refine eq_of_trimSuffix (hasSuffix_withCompactModelSuffix e)
      (hasSuffix_withCompactModelSuffix model) ?_
    rw [trimSuffix_withCompactModelSuffix, hback]

theorem Kept.upstreamModel_eq (hs : Kept handler model s) (hs' : Kept handler model s')
    (next : MappingText) :
    upstreamModel settings handler s next = upstreamModel settings handler s' next := by
  rw [ModelMapping.upstreamModel_eq, ModelMapping.upstreamModel_eq,
    attemptInfo_congr settings handler (hs.relayMode.trans hs'.relayMode.symm)
      (hs.origin.trans hs'.origin.symm)]

/-! ## Channels that do not -/

/-- Without a mapping the upstream model of the compact mode is the model
without its suffix. -/
theorem upstreamModel_unmapped (hmode : s.info.relayMode = .responsesCompact) :
    upstreamModel settings .responsesCompact s .empty
      = some (.ok (trimSuffix s.info.originModelName compactModelSuffix)) := by
  have he : chainStart s.info ∈ eval (redirect []) (chainStart s.info) :=
    mem_eval.2 ⟨Relation.ReflTransGen.refl, rfl⟩
  have hempty : MappingText.empty.unmarshal = some [] := rfl
  obtain ⟨info', request', hinfo, hends⟩ := mappedInfo_of_end hempty he
  rw [upstreamModel_eq, attemptInfo, hinfo, ← chainStart_compact hmode, ← hends.upstream]
  rfl

/-- A mapping of one model to another. -/
def oneStep (model target : String) : MappingText :=
  .document (.obj [(model, .str target)])

theorem eval_oneStep_of_ne {start : String} (h : start ≠ model) :
    start ∈ eval (redirect [(model, target)]) start := by
  refine mem_eval.2 ⟨Relation.ReflTransGen.refl, redirect_eq_none.2 (Or.inl ?_)⟩
  simp [mapped, h]

theorem eval_oneStep (hne : target ≠ "") (hmodel : target ≠ model) :
    target ∈ eval (redirect [(model, target)]) model := by
  have hstep : target ∈ redirect [(model, target)] model :=
    redirect_eq_some.2 ⟨by simp [mapped], hne, hmodel⟩
  rw [reaches_eval (Relation.ReflTransGen.single hstep)]
  exact eval_oneStep_of_ne hmodel

theorem contains_append (s part : String) : contains (s ++ part) part = true := by
  rw [contains, List.any_eq_true]
  refine ⟨part.toList, ?_, List.isPrefixOf_iff_prefix.2 (List.prefix_refl _)⟩
  rw [List.mem_tails, String.toList_append]
  exact List.suffix_append _ _

/-- The upstream model of a Gemini attempt is the end of its chain, unless the
handler renames it. -/
theorem upstreamModel_gemini (hmode : s.info.relayMode = .gemini)
    (hmap : modelMapping.unmarshal = some modelMap)
    (he : e ∈ eval (redirect modelMap) s.info.originModelName) :
    (RenamesThinking settings noThinkingRequest s.info.originModelName →
      upstreamModel settings (.gemini noThinkingRequest) s modelMapping
        = some (.ok (s.info.originModelName ++ "-nothinking"))) ∧
    (¬ RenamesThinking settings noThinkingRequest s.info.originModelName →
      upstreamModel settings (.gemini noThinkingRequest) s modelMapping = some (.ok e)) := by
  have hother : s.info.relayMode ≠ .responsesCompact := by
    rw [hmode]
    simp
  rw [← chainStart_other hother] at he
  obtain ⟨info', request', hinfo, hends⟩ := mappedInfo_of_end hmap he
  have horigin := hends.origin_kept hother
  have hcall : upstreamModel settings (.gemini noThinkingRequest) s modelMapping
      = some (.ok (adaptThinking settings noThinkingRequest info').upstreamModelName) := by
    rw [upstreamModel_eq, attemptInfo, hinfo]
    rfl
  rw [hcall, ← horigin]
  constructor
  · intro hrenames
    rw [adaptThinking_of hrenames]
  · intro hnot
    rw [adaptThinking_of_not hnot, hends.upstream]

theorem not_renames_of_same (hfirst : Kept (.gemini noThinkingRequest) model first)
    (hmode : s.info.relayMode = .gemini) (hleft : s.info.originModelName = model ++ "-nothinking")
      (hsame : ∀ next, upstreamModel settings (.gemini noThinkingRequest) s next = upstreamModel
      settings (.gemini noThinkingRequest) first next) :
    ¬ RenamesThinking settings noThinkingRequest model := by
  intro hrenames
  have horigin : first.info.originModelName = model := hfirst.origin
  have hlen : ∀ {name : String}, name = model ++ "-nothinking" →
      name.toList.length = model.toList.length + 11 := by
    rintro name rfl
    simp
  have htarget : "o3" ≠ model ++ "-nothinking" := by
    intro h
    have hthree := hlen h
    have htwo : "o3".toList.length = 2 := rfl
    omega
  have hmoved : model ≠ model ++ "-nothinking" := by
    intro h
    have hthree := hlen h
    omega
  have hend : "o3" ∈ eval (redirect [(model ++ "-nothinking", "o3")]) s.info.originModelName := by
    rw [hleft]
    exact eval_oneStep (by simp) htarget
  have hnot : ¬ RenamesThinking settings noThinkingRequest s.info.originModelName := by
    rintro ⟨-, -, hcontains, -⟩
    rw [hleft, contains_append] at hcontains
    cases hcontains
  have hmap : (oneStep (model ++ "-nothinking") "o3").unmarshal
      = some [(model ++ "-nothinking", "o3")] := rfl
  have hnext := (upstreamModel_gemini hmode hmap hend).2 hnot
  have hstart : model ∈ eval (redirect [(model ++ "-nothinking", "o3")])
      first.info.originModelName := by
    rw [horigin]
    exact eval_oneStep_of_ne hmoved
  have hthen := (upstreamModel_gemini hfirst.relayMode hmap hstart).1 (horigin ▸ hrenames)
  rw [hsame, hthen, horigin] at hnext
  exact htarget (Except.ok.inj (Option.some.inj hnext)).symm

/-- Where the next attempt is as the first for every channel, the one before has
kept the model. -/
theorem keeps_of_same (hfirst : Kept handler model first) (hs : Kept handler model s)
    (h : retried settings handler s modelMapping = some s') (hsame : ∀
      next, upstreamModel settings handler s' next = upstreamModel settings handler first next) :
    KeepsModel settings handler model modelMapping := by
  obtain ⟨-, hmode, hleaves⟩ := retried_leaves hs h
  cases handler with
  | realtime => trivial
  | other mode => trivial
  | gemini noThinkingRequest =>
    rcases hleaves with ⟨-, hleft⟩ | ⟨hnot, -⟩
    · exact not_renames_of_same hfirst hmode hleft hsame
    · exact hnot
  | responsesCompact =>
    obtain ⟨modelMap, e, hmap, he, hleft⟩ := hleaves
    refine ⟨modelMap, e, hmap, he, ?_⟩
    have hprobe := hsame .empty
    rw [upstreamModel_unmapped hmode, upstreamModel_unmapped hfirst.relayMode, hleft,
      trimSuffix_withCompactModelSuffix, hfirst.origin] at hprobe
    exact Except.ok.inj (Option.some.inj hprobe)

/-! ## Runs of the loop -/

theorem retries_cons (settings : ModelSettings) (handler : Handler) (s : RelayState)
    (modelMapping : MappingText) (tried : List MappingText) :
    retries settings handler s (modelMapping :: tried)
      = (retried settings handler s modelMapping).bind fun s => retries settings handler s tried :=
  rfl

theorem Kept.run (hs : Kept handler model s)
    (hkeeps : ∀ m ∈ tried, KeepsModel settings handler model m)
    (h : retries settings handler s tried = some s') : Kept handler model s' := by
  induction tried generalizing s with
  | nil =>
    obtain rfl : s = s' := Option.some.inj h
    exact hs
  | cons m rest ih =>
    obtain ⟨s₁, hfirst, hrest⟩ := Option.bind_eq_some_iff.1 h
    obtain ⟨hm, hothers⟩ := List.forall_mem_cons.1 hkeeps
    exact ih (hs.next hfirst hm) hothers hrest

theorem keeps_of_independent (hfirst : Kept handler model first) (hs : Kept handler model s)
    (h : (retries settings handler s tried).isSome = true)
    (hindependent : Independent settings handler first s tried) :
    ∀ m ∈ tried, KeepsModel settings handler model m := by
  induction tried generalizing s with
  | nil =>
    intro m hm
    cases hm
  | cons m rest ih =>
    rw [retries_cons] at h
    obtain ⟨s', hs'⟩ := Option.isSome_iff_exists.1 h
    obtain ⟨s₁, hnext, hrest⟩ := Option.bind_eq_some_iff.1 hs'
    have hone : retries settings handler s ((m :: rest).take 1) = some s₁ := by
      rw [List.take_succ_cons, retries_cons, hnext]
      rfl
    have hm := keeps_of_same hfirst hs hnext
      (hindependent 1 (by simp) s₁ hone).2
    refine List.forall_mem_cons.2 ⟨hm, ih (hs.next hnext hm) (by simp [hrest]) ?_⟩
    intro n hn s₂ hs₂
    refine hindependent (n + 1) (by simpa using hn) s₂ ?_
    rw [List.take_succ_cons, retries_cons, hnext]
    exact hs₂

/-- Over every sequence of channels the loop has tried, the model each next
channel is selected by and its upstream model do not depend on those before
exactly when all of them have kept the client's model. -/
theorem upstream_independent_iff (settings : ModelSettings) (handler : Handler) (model : String)
    (request : Option String) (tried : List MappingText)
    (h : (retries settings handler (startState handler model request) tried).isSome = true) :
    Independent settings handler (startState handler model request)
        (startState handler model request) tried
      ↔ ∀ m ∈ tried, KeepsModel settings handler model m := by
  have hstart := kept_start handler model request
  constructor
  · exact keeps_of_independent hstart hstart h
  · intro hkeeps n _ s' hs'
    have hkept := hstart.run (fun m hm => hkeeps m (List.mem_of_mem_take hm)) hs'
    exact ⟨hkept.retryModelName, hkept.upstreamModel_eq hstart⟩

/-! ## Two channels -/

def plainSettings : ModelSettings := ⟨false, fun _ => false⟩

/-- A channel without a mapping and one that maps another model are tried first. -/
theorem unmapped_channels_independent :
    Independent plainSettings .responsesCompact (startState .responsesCompact "gpt-5" none)
      (startState .responsesCompact "gpt-5" none) [.empty, oneStep "o3" "o4"] := by
  refine (upstream_independent_iff plainSettings .responsesCompact "gpt-5" none
    [.empty, oneStep "o3" "o4"] (by decide)).2 ?_
  have hstart :
      trimSuffix (clientModel .responsesCompact "gpt-5") compactModelSuffix = "gpt-5" := by
    decide
  have hend : trimSuffix "gpt-5" compactModelSuffix = "gpt-5" := by
    decide
  intro m hm
  rcases List.mem_cons.1 hm with rfl | hm
  · exact ⟨[], "gpt-5", rfl, mem_eval.2 ⟨Relation.ReflTransGen.refl, rfl⟩, hend⟩
  · obtain rfl := List.mem_singleton.1 hm
    exact ⟨[("o3", "o4")], "gpt-5", rfl, eval_oneStep_of_ne (by decide), hend⟩

/-- The first channel maps `gpt-5` to `gpt-5-codex`; the second maps nothing and
is asked for `gpt-5-codex` all the same. -/
theorem mapped_model_leaks :
    ¬ Independent plainSettings .responsesCompact (startState .responsesCompact "gpt-5" none)
      (startState .responsesCompact "gpt-5" none) [oneStep "gpt-5" "gpt-5-codex"] := by
  intro h
  have hrun : (retries plainSettings .responsesCompact (startState .responsesCompact "gpt-5" none)
      [oneStep "gpt-5" "gpt-5-codex"]).bind (fun s =>
        (upstreamModel plainSettings .responsesCompact s .empty).bind Except.toOption)
      = some "gpt-5-codex" := by
    decide
  have hown : (upstreamModel plainSettings .responsesCompact
      (startState .responsesCompact "gpt-5" none) .empty).bind Except.toOption = some "gpt-5" := by
    decide
  obtain ⟨s, hs, hleak⟩ := Option.bind_eq_some_iff.1 hrun
  rw [(h 1 le_rfl s hs).2 .empty, hown] at hleak
  exact absurd (Option.some.inj hleak) (by decide)

end YouBox.ModelMapping
