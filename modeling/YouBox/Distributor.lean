import YouBox.ChannelSwitch
import YouBox.ModelRequest

/-!
# The distributor and the requests without a channel

`Distribute` chooses a channel for the requests that need one and hands every
request to `SetupContextForSelectedChannel`, which takes a missing channel for an
error. The requests that need none, among them every fetch of a task, are turned
away for the want of it (`unselected_refused`).
-/

namespace YouBox.Distributor

open Strings Strconv

/-! ## The token's models -/

def handleThinkingBudgetModel (name start wildcard : String) : String :=
  if hasPrefix name start && contains name "-thinking-" then wildcard else name

def formatMatchingModelName (name : String) : String :=
  let name :=
    if hasPrefix name "gemini-2.5-flash-lite" then
      handleThinkingBudgetModel name "gemini-2.5-flash-lite" "gemini-2.5-flash-lite-thinking-*"
    else if hasPrefix name "gemini-2.5-flash" then
      handleThinkingBudgetModel name "gemini-2.5-flash" "gemini-2.5-flash-thinking-*"
    else if hasPrefix name "gemini-2.5-pro" then
      handleThinkingBudgetModel name "gemini-2.5-pro" "gemini-2.5-pro-thinking-*"
    else name
  let name := if hasPrefix name "gpt-4-gizmo" then "gpt-4-gizmo-*" else name
  if hasPrefix name "gpt-4o-gizmo" then "gpt-4o-gizmo-*" else name

/-! ## Channels and where they come from -/

/-- A channel with the columns the distributor goes by. -/
structure ChannelRow extends ChannelSwitch.Channel where
  id : Int
  status : Int

def channelStatusEnabled : Int := 1

def channelTypeAdvancedCustom : Nat := 58

/-- What the distributor asks of the rest of the gateway: the table of channels, the
affinity of earlier requests, the groups and the choice of a channel among those that
satisfy a request. -/
structure Services where
  getChannelById : Int → Except String ChannelRow
  cacheGetChannel : Int → Except String ChannelRow
  preferredByAffinity : Request → Keys → String → String → Option Int
  supportsPathForModel : ChannelRow → String → String → Bool
  isChannelEnabledForGroupModel : String → String → Int → Bool
  groupInUserUsableGroups : String → String → Bool
  userAutoGroup : String → List String
  /-- the keys it leaves, and the channel; an error comes with the group it stopped at -/
  randomSatisfiedChannel : Keys → String → String → String →
    Except (String × String) (Keys × Option ChannelRow)

/-- The gateway around one request. -/
structure Gateway (β : Type) where
  out : Outside
  services : Services
  library : ChannelSwitch.Library β
  client : ChannelSwitch.ClientRequest
  draw : Nat

variable {β : Type}

/-! ## The answers -/

/-- The gin context a handler sees. -/
structure Context where
  keys : Keys
  channel : ChannelSwitch.Context

/-- The body and the status of an answer that ends the request. -/
structure Abort where
  status : Nat
  message : String
  code : String

/-- A request that is handed on goes with its context and with the channel whose
affinity is recorded if the handlers answer below 400. -/
inductive Outcome where
  | aborted (answer : Abort)
  | crashed
  | next (c : Context) (channel : Option ChannelRow)

def Outcome.handedOn : Outcome → Bool
  | .next _ _ => true
  | _ => false

def messageWithRequestId (message id : String) : String :=
  message ++ " (request id: " ++ id ++ ")"

def abortWithOpenAiMessage (c : Keys) (status : Nat) (message : String) (code : String) : Abort :=
  ⟨status, messageWithRequestId message c.requestId, code⟩

/-! ## Choosing a channel -/

section Choose

variable (out : Outside) (services : Services)

def specificChannel (c : Keys) (channelId : String) : Except Abort ChannelRow :=
  let invalid := abortWithOpenAiMessage c 400 (out.t "distributor.invalid_channel_id" []) ""
  match atoi channelId with
  | none => .error invalid
  | some id =>
    match services.getChannelById id with
    | .error _ => .error invalid
    | .ok channel =>
      if channel.status ≠ channelStatusEnabled then
        .error (abortWithOpenAiMessage c 403 (out.t "distributor.channel_disabled" []) "")
      else .ok channel

def checkModelLimit (c : Keys) (model : String) : Except Abort Unit :=
  if c.tokenModelLimitEnabled then
    match c.tokenModelLimit with
    | none =>
      .error (abortWithOpenAiMessage c 403 (out.t "distributor.token_no_model_access" []) "")
    | some tokenModelLimit =>
      if tokenModelLimit.contains (formatMatchingModelName model) then .ok ()
      else
        .error (abortWithOpenAiMessage c 403
          (out.t "distributor.token_model_forbidden" [("Model", model)]) "")
  else .ok ()

/-- The group a playground request names takes the place of the group in use. -/
def playgroundGroup (r : Request) (c : Keys) : Except Abort Keys :=
  if hasPrefix r.path "/pg/chat/completions" then
    match r.body.playgroundGroup with
    | .error e =>
      .error (abortWithOpenAiMessage c 400
        (out.t "distributor.invalid_playground_request" [("Error", e)]) "")
    | .ok group =>
      if group = "" then .ok c
      else if !services.groupInUserUsableGroups c.usingGroup group ∧ group ≠ c.usingGroup then
        .error (abortWithOpenAiMessage c 403 (out.t "distributor.group_access_denied" []) "")
      else .ok { c with usingGroup := group }
  else .ok c

def channelSupportsRequestPath (channel : ChannelRow) (path model : String) : Bool :=
  channel.type ≠ channelTypeAdvancedCustom || services.supportsPathForModel channel path model

/-- The channel of earlier requests like this one, where it may serve this one too. -/
def affinityChannel (r : Request) (c : Keys) (model : String) : Option (Keys × ChannelRow) := do
  let id ← services.preferredByAffinity r c model c.usingGroup
  let preferred ← (services.cacheGetChannel id).toOption
  if preferred.status = channelStatusEnabled
      ∧ channelSupportsRequestPath services preferred r.path model then
    if c.usingGroup = "auto" then
      let group ← (services.userAutoGroup c.userGroup).find? fun group =>
        services.isChannelEnabledForGroupModel group model preferred.id
      return ({ c with autoGroup := group }, preferred)
    else if services.isChannelEnabledForGroupModel c.usingGroup model preferred.id then
      return (c, preferred)
    else none
  else none

def selectChannel (r : Request) (c : Keys) (model : String) :
    Except Abort (Keys × ChannelRow) :=
  if model = "" then
    .error (abortWithOpenAiMessage c 400 (out.t "distributor.model_name_required" []) "")
  else
    match playgroundGroup out services r c with
    | .error answer => .error answer
    | .ok c =>
      match affinityChannel services r c model with
      | some chosen => .ok chosen
      | none =>
        match services.randomSatisfiedChannel c model c.usingGroup r.path with
        | .error (selectGroup, e) =>
          let showGroup :=
            if c.usingGroup = "auto" then "auto(" ++ selectGroup ++ ")" else c.usingGroup
          .error (abortWithOpenAiMessage c 503 (out.t "distributor.get_channel_failed"
            [("Group", showGroup), ("Model", model), ("Error", e)]) "model_not_found")
        | .ok (chosenKeys, some channel) => .ok (chosenKeys, channel)
        | .ok (_, none) =>
          .error (abortWithOpenAiMessage c 503 (out.t "distributor.no_available_channel"
            [("Group", c.usingGroup), ("Model", model)]) "model_not_found")

/-- The channel for the request; a request that needs none is left without. -/
def chooseChannel (r : Request) (reading : Reading) : Except Abort (Keys × Option ChannelRow) :=
  let c := reading.keys
  match c.tokenSpecificChannelId with
  | some channelId =>
    match specificChannel out services c channelId with
    | .error answer => .error answer
    | .ok channel => .ok (c, some channel)
  | none =>
    match checkModelLimit out c reading.request.model with
    | .error answer => .error answer
    | .ok () =>
      if reading.shouldSelectChannel then
        match selectChannel out services r c reading.request.model with
        | .error answer => .error answer
        | .ok (c, channel) => .ok (c, some channel)
      else .ok (c, none)

end Choose

/-! ## The handler -/

def setupContextForSelectedChannel (g : Gateway β) (c : Context) (channel : Option ChannelRow)
    (modelName : String) : Except String Context :=
  let keys := { c.keys with originalModel := modelName }
  match channel with
  | none => .error "channel is nil"
  | some channel =>
    match ChannelSwitch.setupContextForSelectedChannel g.library g.client channel.toChannel g.draw
        c.channel with
    | (.error e, _) => .error e
    | (.ok (), selected) => .ok ⟨keys, selected⟩

def distribute (g : Gateway β) (r : Request) (c : Context) : Outcome :=
  match getModelRequest g.out r c.keys with
  | .error .crashed => .crashed
  | .error (.refused e) =>
    .aborted (abortWithOpenAiMessage c.keys 400
      (g.out.t "distributor.invalid_request" [("Error", e)]) "")
  | .ok reading =>
    match chooseChannel g.out g.services r reading with
    | .error answer => .aborted answer
    | .ok (keys, channel) =>
      match setupContextForSelectedChannel g { c with keys } channel reading.request.model with
      | .error e => .aborted (abortWithOpenAiMessage keys 503 e "")
      | .ok c => .next c channel

/-! ## What is handed on -/

theorem chooseChannel_unselected {out : Outside} {services : Services} {r : Request}
    {reading : Reading} (hchannel : reading.keys.tokenSpecificChannelId = none)
    (hlimit : reading.keys.tokenModelLimitEnabled = false)
    (hselect : reading.shouldSelectChannel = false) :
    chooseChannel out services r reading = .ok (reading.keys, none) := by
  simp [chooseChannel, checkModelLimit, hchannel, hlimit, hselect]

/-- A request that needs no channel is turned away because it has none. -/
theorem unselected_refused {g : Gateway β} {r : Request} {c : Context} {reading : Reading}
    (hread : getModelRequest g.out r c.keys = .ok reading)
    (hselect : reading.shouldSelectChannel = false)
    (hchannel : c.keys.tokenSpecificChannelId = none)
    (hlimit : c.keys.tokenModelLimitEnabled = false) :
    (distribute g r c).handedOn = false ∧
      distribute g r c = .aborted (abortWithOpenAiMessage c.keys 503 "channel is nil" "") := by
  have hcaller := (getModelRequest_decides hread).caller
  have hchoose : chooseChannel g.out g.services r reading = .ok (reading.keys, none) := by
    refine chooseChannel_unselected ?_ ?_ hselect
    · rw [hcaller, hchannel]
    · rw [hcaller, hlimit]
  have hanswer : distribute g r c
      = .aborted (abortWithOpenAiMessage c.keys 503 "channel is nil" "") := by
    simp only [distribute, hread, hchoose, setupContextForSelectedChannel, abortWithOpenAiMessage,
      hcaller]
  exact ⟨by rw [hanswer]; rfl, hanswer⟩

/-! ## A gateway without channels -/

def emptyServices : Services where
  getChannelById := fun _ => .error "record not found"
  cacheGetChannel := fun _ => .error "record not found"
  preferredByAffinity := fun _ _ _ _ => none
  supportsPathForModel := fun _ _ _ => false
  isChannelEnabledForGroupModel := fun _ _ _ => false
  groupInUserUsableGroups := fun _ _ => false
  userAutoGroup := fun _ => []
  randomSatisfiedChannel := fun c _ _ _ => .ok (c, none)

def emptyGateway : Gateway ChannelSwitch.OverrideMap where
  out := { t := fun key _ => key, toLower := ChannelSwitch.asciiLower
           originModelName := fun _ _ => none }
  services := emptyServices
  library := ChannelSwitch.plainLibrary
  client := ChannelSwitch.chatRequest
  draw := 0

def bareRequest (method path : String) : Request where
  method
  path
  contentType := ""
  param := fun _ => ""
  query := fun _ => ""
  body := { json := .error "EOF", form := .error "EOF", modelRequest := .ok ⟨"", ""⟩
            midjourney := .ok ⟨"", "", 0, "", ""⟩, playgroundGroup := .ok "" }

/-- A token without limits, in the default group. -/
def plainContext : Context where
  keys := { tokenSpecificChannelId := none, tokenModelLimitEnabled := false
            tokenModelLimit := none, userGroup := "default", userId := 1, taskId := ""
            requestId := "r1", usingGroup := "default", autoGroup := "", tokenGroup := ""
            relayMode := none, platform := "", originalModel := "" }
  channel := { channelType := 0, paramOverride := [], headerOverride := [], organization := ""
               key := "", baseURL := "", apiVersion := "", region := "" }

theorem taskFetch_refused :
    needsNoChannel "GET" "/mj/task/1/fetch" = true ∧
      distribute emptyGateway (bareRequest "GET" "/mj/task/1/fetch") plainContext
        = .aborted ⟨503, "channel is nil (request id: r1)", ""⟩ := by
  refine ⟨by decide, ?_⟩
  have hread : getModelRequest emptyGateway.out (bareRequest "GET" "/mj/task/1/fetch")
      plainContext.keys
      = .ok (plainContext.keys.reads .midjourneyTaskFetch "" false) := by
    rfl
  rw [(unselected_refused hread rfl rfl rfl).2]
  rfl

/-- The fetch of a video goes no further than the distributor. -/
theorem videoFetch_stopped :
    ¬ ∀ (g : Gateway ChannelSwitch.OverrideMap) (r : Request) (c : Context) (reading : Reading),
      getModelRequest g.out r c.keys = .ok reading → reading.shouldSelectChannel = false →
        c.keys.tokenSpecificChannelId = none → c.keys.tokenModelLimitEnabled = false →
          (distribute g r c).handedOn = true := by
  intro hclaim
  have hread : getModelRequest emptyGateway.out (bareRequest "GET" "/v1/videos/task_1")
      plainContext.keys = .ok (plainContext.keys.reads .videoFetchByID "" false) := by
    rfl
  have hstopped :
      (distribute emptyGateway (bareRequest "GET" "/v1/videos/task_1") plainContext).handedOn
        = false := by
    rfl
  rw [hclaim _ _ _ _ hread rfl rfl rfl] at hstopped
  exact Bool.noConfusion hstopped

end YouBox.Distributor
