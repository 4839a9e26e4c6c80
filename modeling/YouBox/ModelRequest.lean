import YouBox.NativePaths
import YouBox.Strconv

/-!
# The model a request asks for

`getModelRequest` reads the model out of the path, the query or the body, and
decides on the way whether the request needs a channel. The decision rests on
method and path alone: nothing the body holds has a part in it
(`getModelRequest_decides`). A midjourney request without a model, which would
need no channel either, is one that `GetMjRequestModel` never leaves.

What the decoders make of the body is part of the request, one field for each
way it is read.
-/

namespace YouBox.Distributor

open Strings Strconv

/-! ## Texts -/

/-- `strings.Split` for a non-empty separator; `skip` characters of the last match
are still to be dropped, and `part` is the part read so far, backwards. -/
def splitFrom (sep : List Char) : Nat → List Char → List Char → List String
  | _, part, [] => [String.ofList part.reverse]
  | skip + 1, part, _ :: cs => splitFrom sep skip part cs
  | 0, part, c :: cs =>
    if sep.isPrefixOf (c :: cs) then
      String.ofList part.reverse :: splitFrom sep (sep.length - 1) [] cs
    else splitFrom sep 0 (c :: part) cs

def split (s sep : String) : List String := splitFrom sep.toList 0 [] s.toList

/-- What follows the first `sep`. -/
def afterFirst (sep : List Char) : List Char → Option (List Char)
  | [] => none
  | c :: cs =>
    if sep.isPrefixOf (c :: cs) then some ((c :: cs).drop sep.length) else afterFirst sep cs

def getStringIfEmpty (s default : String) : String := if s = "" then default else s

/-! ## Requests -/

structure ModelRequest where
  model : String
  group : String

structure MidjourneyRequest where
  customId : String
  action : String
  index : Int
  taskId : String
  content : String

/-- A field of a JSON body, with the text of what is neither a string nor null. -/
inductive JsonField where
  | missing
  | null
  | str (s : String)
  | other (text : String)

def JsonField.text : JsonField → String
  | .missing | .null => ""
  | .str s => s
  | .other text => text

structure JsonBody where
  valid : Bool
  get : String → JsonField

structure Body where
  json : Except String JsonBody
  form : Except String (String → List String)
  /-- `UnmarshalBodyReusable`, into each of the types it is called with -/
  modelRequest : Except String ModelRequest
  midjourney : Except String MidjourneyRequest
  playgroundGroup : Except String String

structure Request where
  method : String
  path : String
  contentType : String
  param : String → String
  query : String → String
  body : Body

/-- The keys of the gin context that are there before the distributor and stay. -/
structure Caller where
  tokenSpecificChannelId : Option String
  tokenModelLimitEnabled : Bool
  tokenModelLimit : Option (List String)
  userGroup : String
  userId : Int
  taskId : String
  requestId : String

structure Keys extends Caller where
  usingGroup : String
  autoGroup : String
  tokenGroup : String
  relayMode : Option RelayMode
  platform : String
  originalModel : String

/-- An error with its text, or a runtime panic. -/
inductive Fault where
  | refused (message : String)
  | crashed

/-- Code outside the model: the texts of `i18n`, Unicode case mapping and the table of
tasks. -/
structure Outside where
  t : String → List (String × String) → String
  toLower : String → String
  originModelName : Int → String → Option String

def nth (parts : List String) (i : Nat) : Except Fault String :=
  match parts[i]? with
  | some part => .ok part
  | none => .error .crashed

/-! ## Reading the model from the body -/

def getJSONStringValue (field : JsonField) (name : String) : Except String String :=
  match field with
  | .missing | .null => .ok ""
  | .str s => .ok s
  | .other _ => .error ("field " ++ name ++ " must be a string")

def getModelFromJSONBody (body : Body) : Except String ModelRequest := do
  let json ← body.json
  if !json.valid then throw "invalid JSON request body"
  let model ← getJSONStringValue (json.get "model") "model"
  let group ← getJSONStringValue (json.get "group") "group"
  return { model, group }

def getModelFromRequest (out : Outside) (r : Request) : Except Fault ModelRequest :=
  let read :=
    if hasPrefix r.contentType "application/json" then getModelFromJSONBody r.body
    else r.body.modelRequest
  match read with
  | .ok request => .ok request
  | .error e => .error (.refused (out.t "distributor.invalid_request" [("Error", e)]))

/-! ## Midjourney -/

def coverPlusActionToNormalAction (r : MidjourneyRequest) : Except Fault MidjourneyRequest := do
  if r.customId = "" then throw (.refused "custom_id_is_required")
  let splits := split r.customId "::"
  let second ← nth splits 1
  let action ← if second = "JOB" then nth splits 2 else pure second
  if action = "" then throw (.refused "unknown_action")
  if contains action "upsample" then
    match atoi (← nth splits 3) with
    | none => throw (.refused "index_parse_failed")
    | some index => return { r with index, action := "UPSCALE" }
  else if contains action "variation" then
    if action = "variation" then
      match atoi (← nth splits 3) with
      | none => throw (.refused "index_parse_failed")
      | some index => return { r with index, action := "VARIATION" }
    else if action = "low_variation" then return { r with index := 1, action := "LOW_VARIATION" }
    else if action = "high_variation" then return { r with index := 1, action := "HIGH_VARIATION" }
    else return { r with index := 1 }
  else if contains action "pan" then return { r with index := 1, action := "PAN" }
  else if contains action "reroll" then return { r with index := 1, action := "REROLL" }
  else if action = "Outpaint" then return { r with index := 1, action := "ZOOM" }
  else if action = "CustomZoom" then return { r with index := 1, action := "CUSTOM_ZOOM" }
  else if action = "Inpaint" then return { r with index := 1, action := "INPAINT" }
  else throw (.refused ("unknown_action:" ++ r.customId))

/-- `ConvertSimpleChangeParams`; nothing is what the caller refuses. -/
def convertSimpleChangeParams (out : Outside) (content : String) :
    Except Fault (Option MidjourneyRequest) :=
  match split content " " with
  | [taskId, word] =>
    let changed (action : String) (index : Int) : MidjourneyRequest :=
      { customId := "", action, index, taskId, content := "" }
    let withIndex (action : String) (rest : List Char) : Except Fault (Option MidjourneyRequest) :=
      match rest with
      | [] => .error .crashed
      | digit :: _ =>
        match atoi (String.singleton digit) with
        | some index => .ok (if index < 1 || 4 < index then none else some (changed action index))
        | none => .ok none
    match (out.toLower word).toList with
    | [] => .error .crashed
    | 'u' :: rest => withIndex "UPSCALE" rest
    | 'v' :: rest => withIndex "VARIATION" rest
    | ['r'] => .ok (some (changed "REROLL" 0))
    | _ => .ok none
  | _ => .ok none

def covertMjpActionToModelName (out : Outside) (mjAction : String) : String :=
  if mjAction = "SWAP_FACE" then "swap_face" else "mj_" ++ out.toLower mjAction

/-- The model, and whether it was found. -/
def getMjRequestModel (out : Outside) (relayMode : RelayMode) (r : MidjourneyRequest) :
    Except Fault (String × Bool) :=
  let named (action : String) : Except Fault (String × Bool) :=
    .ok (covertMjpActionToModelName out action, true)
  match relayMode with
  | .midjourneyAction =>
    match coverPlusActionToNormalAction r with
    | .ok r => named r.action
    | .error e => .error e
  | .midjourneyImagine => named "IMAGINE"
  | .midjourneyVideo => named "VIDEO"
  | .midjourneyEdits => named "EDITS"
  | .midjourneyDescribe => named "DESCRIBE"
  | .midjourneyBlend => named "BLEND"
  | .midjourneyShorten => named "SHORTEN"
  | .midjourneyChange => named r.action
  | .midjourneyModal => named "MODAL"
  | .swapFace => named "SWAP_FACE"
  | .midjourneyUpload => named "UPLOAD"
  | .midjourneySimpleChange =>
    match convertSimpleChangeParams out r.content with
    | .error e => .error e
    | .ok none => .error (.refused "invalid_request")
    | .ok (some params) => named params.action
  | .midjourneyTaskFetch | .midjourneyTaskFetchByCondition | .midjourneyNotify => .ok ("", true)
  | _ => .error (.refused "unknown_relay_action")

/-! ## One path after the other -/

/-- A request on its way through `getModelRequest`. -/
structure Reading where
  keys : Keys
  request : ModelRequest
  shouldSelectChannel : Bool

abbrev Keys.reads (c : Keys) (relayMode : RelayMode) (model : String) (select : Bool) : Reading :=
  ⟨{ c with relayMode := some relayMode }, ⟨model, ""⟩, select⟩

def midjourneyFetches (relayMode : RelayMode) : Bool :=
  relayMode = .midjourneyTaskFetch || relayMode = .midjourneyTaskFetchByCondition
    || relayMode = .midjourneyNotify || relayMode = .midjourneyTaskImageSeed

def readMidjourney (out : Outside) (r : Request) (c : Keys) : Except Fault Reading :=
  let relayMode := path2RelayModeMidjourney r.path
  if midjourneyFetches relayMode then .ok (c.reads relayMode "" false)
  else
    match r.body.midjourney with
    | .error e =>
      .error (.refused (out.t "distributor.invalid_midjourney_request" [("Error", e)]))
    | .ok request =>
      match getMjRequestModel out relayMode request with
      | .error e => .error e
      | .ok (model, success) =>
        if model = "" ∧ !success then
          .error (.refused (out.t "distributor.invalid_request_parse_model" []))
        else .ok (c.reads relayMode model (model ≠ ""))

def sunoFetches (relayMode : RelayMode) : Bool :=
  relayMode = .sunoFetch || relayMode = .sunoFetchByID

def coverTaskActionToModelName (out : Outside) (platform action : String) : String :=
  out.toLower platform ++ "_" ++ out.toLower action

def readSuno (out : Outside) (r : Request) (c : Keys) : Reading :=
  let relayMode := path2RelaySuno r.method r.path
  let c := { c with platform := "suno" }
  if sunoFetches relayMode then c.reads relayMode "" false
  else c.reads relayMode (coverTaskActionToModelName out "suno" (r.param "action")) true

/-- The first of the fields that is not blank. -/
def firstNamed (values : List String) : Option String :=
  (values.map trimSpace).find? (· ≠ "")

def Elevenlabs.nativeModelForRequest (r : Request) (endpoint : Elevenlabs.NativeEndpoint) :
    Except String String :=
  let keys := ["model_id", "model"]
  if endpoint.billingKind = .none then .ok endpoint.defaultModel
  else if endpoint.billingKind = .audioTokens ∧ hasPrefix r.contentType "multipart/form-data" then do
    let form ← r.body.form
    return (firstNamed (keys.map fun key => ((form key).head?).getD "")).getD endpoint.defaultModel
  else if r.contentType = "" ∨ hasPrefix r.contentType "application/json" then do
    let json ← r.body.json
    return (firstNamed (keys.map fun key => (json.get key).text)).getD endpoint.defaultModel
  else .ok endpoint.defaultModel

def unsupported (vendor method path : String) : Fault :=
  .refused ("unsupported " ++ vendor ++ " endpoint: " ++ method ++ " " ++ path)

def readElevenlabs (r : Request) (c : Keys) : Except Fault Reading :=
  let upstreamPath := Elevenlabs.upstreamPathFromProxyPath r.path
  match Elevenlabs.matchNativeEndpoint r.method upstreamPath with
  | none => .error (unsupported "ElevenLabs" r.method upstreamPath)
  | some endpoint =>
    match Elevenlabs.nativeModelForRequest r endpoint with
    | .error e => .error (.refused e)
    | .ok model => .ok (c.reads .unknown model true)

def Meshy.nativeModelForRequest (endpoint : Meshy.NativeEndpoint) : String :=
  if trimSpace endpoint.defaultModel = "" then Meshy.modelTextTo3D else endpoint.defaultModel

def readMeshy (r : Request) (c : Keys) : Except Fault Reading :=
  if Meshy.isGatewayTaskPath r.path then .ok (c.reads .unknown "" false)
  else
    let upstreamPath := Meshy.upstreamPathFromProxyPath r.path
    match Meshy.matchNativeEndpoint r.method upstreamPath with
    | none => .error (unsupported "Meshy" r.method upstreamPath)
    | some endpoint => .ok (c.reads .unknown (Meshy.nativeModelForRequest endpoint) true)

def getTaskOriginModelName (out : Outside) (r : Request) (c : Keys) : String :=
  if !c.tokenModelLimitEnabled then ""
  else
    let taskId := if r.param "task_id" = "" then c.taskId else r.param "task_id"
    if taskId = "" then "" else (out.originModelName c.userId taskId).getD ""

def readVideos (out : Outside) (r : Request) (c : Keys) : Except Fault Reading :=
  if r.method = "POST" then
    match getModelFromRequest out r with
    | .error e => .error e
    | .ok request => .ok (c.reads .videoSubmit request.model true)
  else if r.method = "GET" then
    .ok (c.reads .videoFetchByID (getTaskOriginModelName out r c) false)
  else .ok (c.reads .unknown "" true)

/-- As `readVideos`, but a relay mode that is set already stays. -/
def readVideoGenerations (out : Outside) (r : Request) (c : Keys) : Except Fault Reading :=
  match readVideos out r c with
  | .error e => .error e
  | .ok reading =>
    .ok { reading with
      keys := { c with relayMode := c.relayMode.or reading.keys.relayMode } }

def extractModelNameFromGeminiPath (path : String) : String :=
  match afterFirst "/models/".toList path.toList with
  | none => ""
  | some rest => String.ofList (rest.takeWhile (· != ':'))

def readGemini (r : Request) (c : Keys) : Reading :=
  c.reads .gemini (extractModelNameFromGeminiPath r.path) true

def readByPath (out : Outside) (r : Request) (c : Keys) : Except Fault Reading :=
  if contains r.path "/mj/" then readMidjourney out r c
  else if contains r.path "/suno/" then .ok (readSuno out r c)
  else if Elevenlabs.isNativeProxyPath r.path then readElevenlabs r c
  else if Meshy.isNativeProxyPath r.path then readMeshy r c
  else if contains r.path "/v1/videos/" && hasSuffix r.path "/remix" then
    .ok (c.reads .videoSubmit "" false)
  else if contains r.path "/v1/videos" then readVideos out r c
  else if contains r.path "/v1/video/generations" then readVideoGenerations out r c
  else if hasPrefix r.path "/v1beta/models/" || hasPrefix r.path "/v1/models/" then
    .ok (readGemini r c)
  else if !hasPrefix r.path "/v1/audio/transcriptions"
      && !contains r.contentType "multipart/form-data" then
    match getModelFromRequest out r with
    | .error e => .error e
    | .ok request => .ok ⟨c, ⟨request.model, ""⟩, true⟩
  else .ok ⟨c, ⟨"", ""⟩, true⟩

/-! ## What the path adds to what was read -/

/-- The model of the body, where it can be read and has one. -/
def modelInBody (out : Outside) (r : Request) (model : String) : String :=
  match getModelFromRequest out r with
  | .ok request => getStringIfEmpty request.model model
  | .error _ => model

/-- `c.ContentType()`. -/
def mediaType (contentType : String) : String :=
  String.ofList (contentType.toList.takeWhile fun ch => ch != ' ' && ch != ';')

def withCompactModelSuffix (model : String) : String :=
  if hasSuffix model "-openai-compact" then model else model ++ "-openai-compact"

def defaultedModel (out : Outside) (r : Request) (model : String) : String :=
  let model := if hasPrefix r.path "/v1/realtime" then r.query "model" else model
  let model :=
    if hasPrefix r.path "/v1/moderations" then getStringIfEmpty model "text-moderation-stable"
    else model
  let model :=
    if hasSuffix r.path "embeddings" then getStringIfEmpty model (r.param "model") else model
  let model :=
    if hasPrefix r.path "/v1/images/generations" then getStringIfEmpty model "dall-e"
    else if hasPrefix r.path "/v1/images/edits"
        && ["application/x-www-form-urlencoded", "multipart/form-data"].contains
          (mediaType r.contentType) then modelInBody out r model
    else model
  if hasPrefix r.path "/v1/audio/speech" then getStringIfEmpty model "tts-1"
  else if hasPrefix r.path "/v1/audio/translations"
      || hasPrefix r.path "/v1/audio/transcriptions" then
    getStringIfEmpty (modelInBody out r model) "whisper-1"
  else model

def audioRelayMode (path : String) : RelayMode :=
  if hasPrefix path "/v1/audio/speech" then .audioSpeech
  else if hasPrefix path "/v1/audio/translations" then .audioTranslation
  else if hasPrefix path "/v1/audio/transcriptions" then .audioTranscription
  else .audioSpeech

def readPlayground (out : Outside) (r : Request) (reading : Reading) : Except Fault Reading :=
  if hasPrefix r.path "/pg/chat/completions" then
    match getModelFromRequest out r with
    | .error e => .error e
    | .ok request =>
      .ok { reading with request, keys := { reading.keys with tokenGroup := request.group } }
  else .ok reading

def Reading.compacted (r : Request) (reading : Reading) : Reading :=
  if hasPrefix r.path "/v1/responses/compact" && reading.request.model ≠ "" then
    { reading with request :=
      { reading.request with model := withCompactModelSuffix reading.request.model } }
  else reading

def Reading.defaulted (out : Outside) (r : Request) (reading : Reading) : Reading :=
  { reading with
    request := { reading.request with model := defaultedModel out r reading.request.model }
    keys := if hasPrefix r.path "/v1/audio" then
        { reading.keys with relayMode := some (audioRelayMode r.path) }
      else reading.keys }

def getModelRequest (out : Outside) (r : Request) (c : Keys) : Except Fault Reading :=
  match readByPath out r c with
  | .error e => .error e
  | .ok reading =>
    match readPlayground out r (reading.defaulted out r) with
    | .error e => .error e
    | .ok reading => .ok (reading.compacted r)

/-! ## Which requests need no channel -/

def needsNoChannel (method path : String) : Bool :=
  if contains path "/mj/" then midjourneyFetches (path2RelayModeMidjourney path)
  else if contains path "/suno/" then sunoFetches (path2RelaySuno method path)
  else if Elevenlabs.isNativeProxyPath path then false
  else if Meshy.isNativeProxyPath path then Meshy.isGatewayTaskPath path
  else if contains path "/v1/videos/" && hasSuffix path "/remix" then true
  else if contains path "/v1/videos" || contains path "/v1/video/generations" then method = "GET"
  else false

theorem covertMjpActionToModelName_ne_empty (out : Outside) (action : String) :
    covertMjpActionToModelName out action ≠ "" := by
  unfold covertMjpActionToModelName
  split_ifs
  · decide
  · simp

variable {out : Outside} {r : Request} {c : Keys} {reading : Reading} {select : Bool}

theorem getMjRequestModel_named {relayMode : RelayMode} {r : MidjourneyRequest} {model : String}
    {success : Bool} (hmode : midjourneyFetches relayMode = false)
    (h : getMjRequestModel out relayMode r = .ok (model, success)) : model ≠ "" := by
  have hnamed : ∀ action, (covertMjpActionToModelName out action, true) = (model, success) →
      model ≠ "" := by
    intro action heq
    obtain ⟨rfl, -⟩ := Prod.mk.inj heq
    exact covertMjpActionToModelName_ne_empty out action
  unfold getMjRequestModel at h
  split at h
  case h_1 =>
    split at h
    · exact hnamed _ (Except.ok.inj h)
    · simp at h
  case h_12 =>
    split at h
    · simp at h
    · simp at h
    · exact hnamed _ (Except.ok.inj h)
  case h_13 => simp [midjourneyFetches] at hmode
  case h_14 => simp [midjourneyFetches] at hmode
  case h_15 => simp [midjourneyFetches] at hmode
  case h_16 => simp at h
  all_goals exact hnamed _ (Except.ok.inj h)

/-- The reading keeps what the caller brought, and decides as given. -/
structure Reading.Decides (reading : Reading) (c : Keys) (select : Bool) : Prop where
  caller : reading.keys.toCaller = c.toCaller
  selects : reading.shouldSelectChannel = select

theorem readMidjourney_decides (h : readMidjourney out r c = .ok reading) :
    reading.Decides c (!midjourneyFetches (path2RelayModeMidjourney r.path)) := by
  unfold readMidjourney at h
  simp only at h
  split at h
  case isTrue hfetch =>
    rw [← Except.ok.inj h, hfetch]
    exact ⟨rfl, rfl⟩
  case isFalse hfetch =>
    have hmode := Bool.eq_false_of_not_eq_true hfetch
    split at h
    · simp at h
    · split at h
      · simp at h
      case h_2 model success hmodel =>
        split at h
        · simp at h
        · rw [← Except.ok.inj h, hmode]
          exact ⟨rfl, by simp [getMjRequestModel_named hmode hmodel]⟩

theorem readSuno_decides (out : Outside) (r : Request) (c : Keys) :
    (readSuno out r c).Decides c (!sunoFetches (path2RelaySuno r.method r.path)) := by
  simp only [readSuno]
  cases sunoFetches (path2RelaySuno r.method r.path) <;> exact ⟨rfl, rfl⟩

theorem readElevenlabs_decides (h : readElevenlabs r c = .ok reading) : reading.Decides c true := by
  unfold readElevenlabs at h
  simp only at h
  split at h
  · simp at h
  · split at h
    · simp at h
    · rw [← Except.ok.inj h]
      exact ⟨rfl, rfl⟩

theorem readMeshy_decides (h : readMeshy r c = .ok reading) :
    reading.Decides c (!Meshy.isGatewayTaskPath r.path) := by
  unfold readMeshy at h
  simp only at h
  split at h
  case isTrue htask =>
    rw [← Except.ok.inj h, htask]
    exact ⟨rfl, rfl⟩
  case isFalse htask =>
    split at h
    · simp at h
    · rw [← Except.ok.inj h]
      exact ⟨rfl, by simp [htask]⟩

theorem readVideos_decides (h : readVideos out r c = .ok reading) :
    reading.Decides c (!decide (r.method = "GET")) := by
  unfold readVideos at h
  split at h
  case isTrue hpost =>
    split at h
    · simp at h
    · rw [← Except.ok.inj h, hpost]
      exact ⟨rfl, rfl⟩
  case isFalse =>
    split at h
    case isTrue hget =>
      rw [← Except.ok.inj h, hget]
      exact ⟨rfl, rfl⟩
    case isFalse hget =>
      rw [← Except.ok.inj h]
      exact ⟨rfl, by simp [hget]⟩

theorem readVideoGenerations_decides (h : readVideoGenerations out r c = .ok reading) :
    reading.Decides c (!decide (r.method = "GET")) := by
  unfold readVideoGenerations at h
  split at h
  · simp at h
  case h_2 hread =>
    rw [← Except.ok.inj h]
    exact ⟨rfl, (readVideos_decides hread).selects⟩

theorem readByPath_decides (h : readByPath out r c = .ok reading) :
    reading.Decides c (!needsNoChannel r.method r.path) := by
  unfold readByPath at h
  unfold needsNoChannel
  by_cases hmj : contains r.path "/mj/"
  · rw [if_pos hmj] at h ⊢
    exact readMidjourney_decides h
  rw [if_neg hmj] at h ⊢
  by_cases hsuno : contains r.path "/suno/"
  · rw [if_pos hsuno] at h ⊢
    rw [← Except.ok.inj h]
    exact readSuno_decides out r c
  rw [if_neg hsuno] at h ⊢
  by_cases heleven : Elevenlabs.isNativeProxyPath r.path
  · rw [if_pos heleven] at h ⊢
    exact readElevenlabs_decides h
  rw [if_neg heleven] at h ⊢
  by_cases hmeshy : Meshy.isNativeProxyPath r.path
  · rw [if_pos hmeshy] at h ⊢
    exact readMeshy_decides h
  rw [if_neg hmeshy] at h ⊢
  by_cases hremix : (contains r.path "/v1/videos/" && hasSuffix r.path "/remix") = true
  · rw [if_pos hremix] at h ⊢
    rw [← Except.ok.inj h]
    exact ⟨rfl, rfl⟩
  rw [if_neg hremix] at h ⊢
  by_cases hvideos : contains r.path "/v1/videos"
  · rw [if_pos hvideos] at h
    rw [hvideos, Bool.true_or, if_pos rfl]
    exact readVideos_decides h
  rw [if_neg hvideos] at h
  rw [Bool.eq_false_of_not_eq_true hvideos, Bool.false_or]
  by_cases hgenerations : contains r.path "/v1/video/generations"
  · rw [if_pos hgenerations] at h ⊢
    exact readVideoGenerations_decides h
  rw [if_neg hgenerations] at h ⊢
  split at h
  · rw [← Except.ok.inj h]
    exact ⟨rfl, rfl⟩
  · split at h
    · split at h
      · simp at h
      · rw [← Except.ok.inj h]
        exact ⟨rfl, rfl⟩
    · rw [← Except.ok.inj h]
      exact ⟨rfl, rfl⟩

/-! ## The decision through the rest -/

theorem Reading.Decides.defaulted (h : reading.Decides c select) (out : Outside) (r : Request) :
    (reading.defaulted out r).Decides c select := by
  refine ⟨?_, h.selects⟩
  unfold Reading.defaulted
  split_ifs <;> exact h.caller

theorem Reading.Decides.playground {a b : Reading} (ha : a.Decides c select)
    (h : readPlayground out r a = .ok b) :
    b.Decides c select := by
  unfold readPlayground at h
  split at h
  · split at h
    · simp at h
    · rw [← Except.ok.inj h]
      exact ⟨ha.caller, ha.selects⟩
  · rw [← Except.ok.inj h]
    exact ha

theorem Reading.Decides.compacted (h : reading.Decides c select) (r : Request) :
    (reading.compacted r).Decides c select := by
  unfold Reading.compacted
  split_ifs
  · exact ⟨h.caller, h.selects⟩
  · exact h

theorem getModelRequest_decides (h : getModelRequest out r c = .ok reading) :
    reading.Decides c (!needsNoChannel r.method r.path) := by
  unfold getModelRequest at h
  split at h
  · simp at h
  case h_2 byPath hpath =>
    split at h
    · simp at h
    case h_2 played hplay =>
      rw [← Except.ok.inj h]
      exact (((readByPath_decides hpath).defaulted out r).playground hplay).compacted r

end YouBox.Distributor
