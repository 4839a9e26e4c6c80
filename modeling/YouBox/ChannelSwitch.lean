import YouBox.SubConsume

/-!
# Switching channels inside one request

When an attempt fails, `Relay` tries the next channel with the same gin
context and the same `RelayInfo`. What the next upstream request is
built from goes through both. `SetupContextForSelectedChannel` writes
the keys of the new channel over those of the old one, but the
organization only when the new channel has one and the api version only
for some channel types; `InitChannelMeta` rebuilds the channel part of
`RelayInfo` but not the runtime header override that an applied param
override leaves in it.

An attempt is modelled from the selected channel to the data of its
upstream request, as a function of the state the earlier attempts left.
The operation language of the param override (JSON paths and
conditions over the request body) enters as a function of the body and
the override context. `Traceless` says what an attempt must not have
for the state after it to be as good as new, and the last section shows
that nothing less will do.
-/

namespace YouBox.ChannelSwitch

/-! ## Texts -/

def hasPrefix (s pre : String) : Bool :=
  pre.toList.isPrefixOf s.toList

/-- `strings.ReplaceAll` for a non-empty `old`; `skip` characters of the
last match are still to be dropped. -/
def replaceAllFrom (old new : List Char) : Nat → List Char → List Char
  | _, [] => []
  | skip + 1, _ :: cs => replaceAllFrom old new skip cs
  | 0, c :: cs =>
    if old.isPrefixOf (c :: cs) then new ++ replaceAllFrom old new (old.length - 1) cs
    else c :: replaceAllFrom old new 0 cs

def replaceAll (s old new : String) : String :=
  String.ofList (replaceAllFrom old.toList new.toList 0 s.toList)

def asciiLower (s : String) : String :=
  String.ofList (s.toList.map Char.toLower)

/-- A value of a decoded JSON object, with the `%v` text of what is
neither a string nor null. -/
inductive Value where
  | null
  | str (s : String)
  | other (text : String)

def Value.sprint : Value → String
  | .null => "<nil>"
  | .str s => s
  | .other text => text

/-- A Go map, in the order a run iterates over it. -/
abbrev OverrideMap := List (String × Value)

abbrev HeaderMap := List (String × String)

def HeaderMap.insert (m : HeaderMap) (key value : String) : HeaderMap :=
  if m.any (·.1 == key) then m.map fun kv => if kv.1 == key then (key, value) else kv
  else m ++ [(key, value)]

/-! ## Channels, the client request and the libraries -/

inductive MultiKeyMode where
  | random
  | polling
  | other

/-- The columns of a channel that the modelled functions read. `keys`
is what `GetKeys` parses out of `key`, and `pollingIndex` the answer of
`CacheGetChannelInfo`. -/
structure Channel where
  type : Nat
  key : String
  isMultiKey : Bool
  keys : List String
  multiKeyStatusList : List (Nat × Int)
  multiKeyMode : MultiKeyMode
  pollingIndex : Except String Int
  baseURL : Option String
  openAIOrganization : Option String
  other : String
  paramOverride : OverrideMap
  headerOverride : OverrideMap
  passThroughBodyEnabled : Bool

def typeOpenAI : Nat := 1
def typeAzure : Nat := 3
def typeXunfei : Nat := 18
def typeGemini : Nat := 24
def typeCloudflare : Nat := 39
def typeVertexAi : Nat := 41
def typeMokaAI : Nat := 44

/-- What the retry loop tells the param override about earlier tries. -/
structure LastError where
  statusCode : Int
  message : String
  errorCode : String
  errorType : String
  skipRetry : Bool

structure RetryFacts where
  retryIndex : Nat
  lastError : Option LastError

structure ClientRequest where
  originModelName : String
  requestURLPath : String
  isChannelTest : Bool
  /-- the `api-version` query parameter -/
  apiVersionQuery : String
  headerNames : List String
  /-- `http.Header.Get` -/
  header : String → String
  /-- `info.RequestHeaders` after `buildRequestHeadersContext` -/
  requestHeaders : HeaderMap
  /-- the handler of this request applies param overrides -/
  appliesParamOverride : Bool
  /-- `ApplyChannelAffinityOverrideTemplate` under the request's affinity rule -/
  affinityTemplate : OverrideMap → OverrideMap

/-- The context of the condition language, `BuildParamOverrideContext`. -/
structure OverrideContext where
  upstreamModel : String
  originalModel : String
  requestPath : String
  requestHeaders : HeaderMap
  headerOverride : HeaderMap
  retry : RetryFacts
  isChannelTest : Bool

/-- Code outside the model: Unicode case mapping, regular expressions,
default base URLs, model mapping, the conversion of the request body and
the operation language, which answers with the new body and the header
map it leaves in the context. -/
structure Library (β : Type) where
  toLower : String → String
  toLower_ascii : ∀ s, (∀ c ∈ s.toList, c.toNat < 128) → toLower s = asciiLower s
  compileRegexp : String → Except String (String → Bool)
  defaultBaseURL : Nat → String
  upstreamModelName : ClientRequest → Channel → String
  convertRequest : ClientRequest → Channel → Except String β
  applyParamOverride : OverrideMap → β → OverrideContext → Except String (β × HeaderMap)

variable {β : Type}

/-! ## Selecting a channel: the gin context -/

structure Context where
  channelType : Nat
  paramOverride : OverrideMap
  headerOverride : OverrideMap
  organization : String
  key : String
  baseURL : String
  apiVersion : String
  region : String

def Channel.keyStatus (ch : Channel) (i : Nat) : Int :=
  (ch.multiKeyStatusList.lookup i).getD 1

def Channel.enabledIdx (ch : Channel) : List Nat :=
  (List.range ch.keys.length).filter fun i => ch.keyStatus i == 1

/-- The polling scan: the first enabled index from `start` on, wrapping. -/
def Channel.pollIdx (ch : Channel) (start : Nat) : Option Nat :=
  ((List.range ch.keys.length).map fun i => (start + i) % ch.keys.length).find? fun i =>
    ch.keyStatus i == 1

def Channel.getNextEnabledKey (ch : Channel) (draw : Nat) : Except String String :=
  let keyAt (i : Nat) : String := ch.keys.getD i ""
  if !ch.isMultiKey then .ok ch.key
  else if ch.keys.isEmpty then .error "no keys available"
  else if ch.enabledIdx.isEmpty then .error "no enabled keys"
  else
    match ch.multiKeyMode with
    | .random => .ok (keyAt (ch.enabledIdx.getD (draw % ch.enabledIdx.length) 0))
    | .polling =>
      match ch.pollingIndex with
      | .error e => .error e
      | .ok index =>
        let start := if index < 0 || (ch.keys.length : Int) ≤ index then 0 else index.toNat
        .ok (keyAt ((ch.pollIdx start).getD (ch.enabledIdx.getD 0 0)))
    | .other => .ok (keyAt (ch.enabledIdx.getD 0 0))

def Channel.getBaseURL (lib : Library β) (ch : Channel) : String :=
  match ch.baseURL with
  | none => ""
  | some url => if url == "" then lib.defaultBaseURL ch.type else url

/-- The organization the channel itself asks for; empty is none. -/
def Channel.organization (ch : Channel) : String :=
  ch.openAIOrganization.getD ""

def Channel.setsApiVersion (ch : Channel) : Bool :=
  ch.type == typeAzure || ch.type == typeXunfei || ch.type == typeGemini
    || ch.type == typeCloudflare || ch.type == typeMokaAI

def setupContextForSelectedChannel (lib : Library β) (req : ClientRequest) (ch : Channel)
    (draw : Nat) (c : Context) : Except String Unit × Context :=
  let c := { c with
    channelType := ch.type
    paramOverride := req.affinityTemplate ch.paramOverride
    headerOverride := ch.headerOverride }
  let c := if ch.organization != "" then { c with organization := ch.organization } else c
  match ch.getNextEnabledKey draw with
  | .error e => (.error e, c)
  | .ok key =>
    let c := { c with key, baseURL := ch.getBaseURL lib }
    let c := if ch.setsApiVersion then { c with apiVersion := ch.other } else c
    (.ok (), if ch.type == typeVertexAi then { c with region := ch.other } else c)

/-! ## Building the channel part of `RelayInfo` -/

structure ChannelMeta where
  channelType : Nat
  baseURL : String
  apiVersion : String
  apiKey : String
  organization : String
  paramOverride : OverrideMap
  headersOverride : OverrideMap

def getAPIVersion (req : ClientRequest) (c : Context) : String :=
  if req.apiVersionQuery == "" then c.apiVersion else req.apiVersionQuery

def initChannelMeta (req : ClientRequest) (c : Context) : ChannelMeta where
  channelType := c.channelType
  baseURL := c.baseURL
  apiVersion :=
    if c.channelType == typeVertexAi then c.region
    else if c.channelType == typeAzure then getAPIVersion req c
    else c.apiVersion
  apiKey := c.key
  organization := c.organization
  paramOverride := c.paramOverride
  headersOverride := c.headerOverride

/-! ## The header override -/

def normalizeHeaderContextKey (lib : Library β) (key : String) : String :=
  trimSpace (lib.toLower key)

def isHeaderPassthroughRuleKeyForOverride (lib : Library β) (key : String) : Bool :=
  let key := trimSpace (lib.toLower key)
  if key == "" then false
  else if key == "*" then true
  else hasPrefix key "re:" || hasPrefix key "regex:"

def sanitizeHeaderOverrideMap (lib : Library β) (source : OverrideMap) : HeaderMap :=
  source.foldl (fun target kv =>
    let key := normalizeHeaderContextKey lib kv.1
    let value := trimSpace kv.2.sprint
    if key == "" then target
    else if value == "" then
      if isHeaderPassthroughRuleKeyForOverride lib key then target.insert key "" else target
    else target.insert key value) []

def HeaderMap.asOverride (m : HeaderMap) : OverrideMap :=
  m.map fun kv => (kv.1, .str kv.2)

/-- The part of `RelayInfo` that outlives the channel. -/
structure RelayInfo where
  context : Context
  runtimeHeadersOverride : HeaderMap
  useRuntimeHeadersOverride : Bool

def getEffectiveHeaderOverride (lib : Library β) (info : RelayInfo) (cm : ChannelMeta) :
    HeaderMap :=
  if info.useRuntimeHeadersOverride then
    sanitizeHeaderOverrideMap lib info.runtimeHeadersOverride.asOverride
  else sanitizeHeaderOverrideMap lib cm.headersOverride

def buildParamOverrideContext (lib : Library β) (req : ClientRequest) (ch : Channel)
    (facts : RetryFacts) (info : RelayInfo) (cm : ChannelMeta) : OverrideContext where
  upstreamModel := lib.upstreamModelName req ch
  originalModel := req.originModelName
  requestPath := req.requestURLPath
  requestHeaders := req.requestHeaders
  headerOverride :=
    sanitizeHeaderOverrideMap lib (getEffectiveHeaderOverride lib info cm).asOverride
  retry := facts
  isChannelTest := req.isChannelTest

/-- The param override of one attempt, `ApplyParamOverrideWithRelayInfo`
as the handlers call it: skipped when the body is passed through or the
channel has no override. -/
def applyParamOverrideWithRelayInfo (lib : Library β) (req : ClientRequest) (ch : Channel)
    (facts : RetryFacts) (cm : ChannelMeta) (info : RelayInfo) : Except String Unit × RelayInfo :=
  if !req.appliesParamOverride || ch.passThroughBodyEnabled then (.ok (), info)
  else
    match lib.convertRequest req ch with
    | .error e => (.error e, info)
    | .ok body =>
      if cm.paramOverride.isEmpty then (.ok (), info)
      else
        match lib.applyParamOverride cm.paramOverride body
            (buildParamOverrideContext lib req ch facts info cm) with
        | .error e => (.error e, info)
        | .ok (_, headers) =>
          (.ok (), { info with
            runtimeHeadersOverride := sanitizeHeaderOverrideMap lib headers.asOverride
            useRuntimeHeadersOverride := true })

/-! ## The headers of the upstream request -/

def isHeaderPassthroughRuleKey (lib : Library β) (key : String) : Bool :=
  let key := trimSpace key
  if key == "" then false
  else if key == "*" then true
  else hasPrefix (lib.toLower key) "re:" || hasPrefix (lib.toLower key) "regex:"

def passthroughSkipHeaderNamesLower : List String :=
  ["connection", "keep-alive", "proxy-authenticate", "proxy-authorization", "te", "trailer",
    "transfer-encoding", "upgrade", "cookie", "host", "content-length", "accept-encoding",
    "authorization", "x-api-key", "x-goog-api-key", "sec-websocket-key",
    "sec-websocket-version", "sec-websocket-extensions"]

def shouldSkipPassthroughHeader (lib : Library β) (name : String) : Bool :=
  let name := trimSpace name
  name == "" || passthroughSkipHeaderNamesLower.contains (lib.toLower name)

/-- The pattern of a `re:` or `regex:` key. -/
def passthroughPattern (key : String) : Option String :=
  if hasPrefix key "re:" then some (trimSpace (String.ofList (key.toList.drop 3)))
  else if hasPrefix key "regex:" then some (trimSpace (String.ofList (key.toList.drop 6)))
  else none

/-- Whether all headers pass, and the patterns of those that do. -/
def passthroughRules (lib : Library β) : HeaderMap → Except String (Bool × List (String → Bool))
  | [] => .ok (false, [])
  | kv :: rest =>
    let key := trimSpace (lib.toLower kv.1)
    if key == "" then passthroughRules lib rest
    else if key == "*" then (passthroughRules lib rest).map fun rules => (true, rules.2)
    else
      match passthroughPattern key with
      | none => passthroughRules lib rest
      | some pattern =>
        if pattern == "" then
          .error ("header passthrough regex pattern is empty: " ++ kv.1.quote)
        else
          match lib.compileRegexp pattern with
          | .error e => .error e
          | .ok re => (passthroughRules lib rest).map fun rules => (rules.1, re :: rules.2)

def passthroughHeaders (lib : Library β) (req : ClientRequest)
    (rules : Bool × List (String → Bool)) : HeaderMap :=
  req.headerNames.foldl (fun headers name =>
    if shouldSkipPassthroughHeader lib name then headers
    else if !rules.1 && !rules.2.any (· name) then headers
    else
      let value := trimSpace (req.header name)
      if value == "" then headers
      else headers.insert (lib.toLower (trimSpace name)) value) []

def clientHeaderPlaceholderPrefix : String := "\x7bclient_header:"

def apiKeyPlaceholder : String := "\x7bapi_key\x7d"

def applyHeaderOverridePlaceholders (req : ClientRequest) (template apiKey : String) :
    Except String (Option String) :=
  let trimmed := trimSpace template
  if hasPrefix trimmed clientHeaderPlaceholderPrefix then
    let afterPrefix := trimmed.toList.drop clientHeaderPlaceholderPrefix.length
    let beforeBrace := afterPrefix.takeWhile (· != '\x7d')
    -- the brace that closes the placeholder must be its last character
    if beforeBrace.length + 1 != afterPrefix.length then
      .error ("client_header placeholder must be the full value: " ++ template.quote)
    else
      let name := trimSpace (String.ofList beforeBrace)
      if name == "" then .error ("client_header placeholder name is empty: " ++ template.quote)
      else if trimSpace (req.header name) == "" then .ok none
      else .ok (some (req.header name))
  else
    let template := replaceAll template apiKeyPlaceholder apiKey
    if trimSpace template == "" then .ok none else .ok (some template)

/-- The explicit overrides, over the headers passed through. -/
def explicitHeaders (lib : Library β) (req : ClientRequest) (apiKey : String) :
    HeaderMap → HeaderMap → Except String HeaderMap
  | [], headers => .ok headers
  | kv :: rest, headers =>
    let key := trimSpace (lib.toLower kv.1)
    if isHeaderPassthroughRuleKey lib kv.1 || key == "" then
      explicitHeaders lib req apiKey rest headers
    else if req.isChannelTest && hasPrefix (trimSpace kv.2) clientHeaderPlaceholderPrefix then
      explicitHeaders lib req apiKey rest headers
    else
      match applyHeaderOverridePlaceholders req kv.2 apiKey with
      | .error e => .error e
      | .ok none => explicitHeaders lib req apiKey rest headers
      | .ok (some value) => explicitHeaders lib req apiKey rest (headers.insert key value)

def processHeaderOverride (lib : Library β) (req : ClientRequest) (apiKey : String)
    (source : HeaderMap) : Except String HeaderMap :=
  match (if req.isChannelTest then .ok (false, []) else passthroughRules lib source) with
  | .error e => .error e
  | .ok rules =>
    explicitHeaders lib req apiKey source
      (if rules.1 || !rules.2.isEmpty then passthroughHeaders lib req rules else [])

/-! ## One attempt -/

/-- What the upstream request takes from the channel: the organization
is sent by OpenAI channels only, and the api version is read by the
adaptors of four channel types. -/
structure Upstream where
  apiKey : String
  baseURL : String
  organization : Option String
  apiVersion : Option String
  headerOverride : HeaderMap
deriving DecidableEq

def sentOrganization (cm : ChannelMeta) : Option String :=
  if cm.channelType == typeOpenAI && cm.organization != "" then some cm.organization else none

/-- `getAPIVersion` of the Xunfei adaptor. -/
def xunfeiAPIVersion (req : ClientRequest) (modelName : String) (c : Context) : String :=
  if req.apiVersionQuery != "" then req.apiVersionQuery
  else
    match modelName.toList.splitOn '-' with
    | [_, version] => String.ofList version
    | _ => if c.apiVersion != "" then c.apiVersion else "v1.1"

def usedAPIVersion (req : ClientRequest) (modelName : String) (c : Context) (cm : ChannelMeta) :
    Option String :=
  if cm.channelType == typeAzure || cm.channelType == typeCloudflare
      || cm.channelType == typeVertexAi then some cm.apiVersion
  else if cm.channelType == typeXunfei then some (xunfeiAPIVersion req modelName c)
  else none

structure Attempt where
  channel : Channel
  /-- the random draw of a multi-key channel -/
  draw : Nat
  facts : RetryFacts

def newInfo : RelayInfo where
  context := ⟨0, [], [], "", "", "", "", ""⟩
  runtimeHeadersOverride := []
  useRuntimeHeadersOverride := false

/-- From the selected channel to the data of its upstream request, or
the error that ends the attempt before it. -/
def attempt (lib : Library β) (req : ClientRequest) (a : Attempt) (info : RelayInfo) :
    Except String Upstream × RelayInfo :=
  match setupContextForSelectedChannel lib req a.channel a.draw info.context with
  | (.error e, context) => (.error e, { info with context })
  | (.ok (), context) =>
    let cm := initChannelMeta req context
    match applyParamOverrideWithRelayInfo lib req a.channel a.facts cm { info with context } with
    | (.error e, info) => (.error e, info)
    | (.ok (), info) =>
      match processHeaderOverride lib req cm.apiKey (getEffectiveHeaderOverride lib info cm) with
      | .error e => (.error e, info)
      | .ok headerOverride =>
        (.ok { apiKey := cm.apiKey, baseURL := cm.baseURL, organization := sentOrganization cm,
               apiVersion := usedAPIVersion req (lib.upstreamModelName req a.channel) context cm,
               headerOverride }, info)

/-- The state after a sequence of attempts of one request. -/
def afterAttempts (lib : Library β) (req : ClientRequest) (tried : List Attempt) : RelayInfo :=
  tried.foldl (fun info a => (attempt lib req a info).2) newInfo

/-! ## An attempt as a function of what it inherits

Of the state before it an attempt reads two things: the organization in
the context and the header override that is in force. The lemmas here
bring `attempt` into that form. -/

variable (lib : Library β) (req : ClientRequest)

/-- The organization in the context once the channel is selected. -/
def Channel.organizationOver (ch : Channel) (inherited : String) : String :=
  if ch.organization != "" then ch.organization else inherited

def Channel.ownHeaders (ch : Channel) : HeaderMap :=
  sanitizeHeaderOverrideMap lib ch.headerOverride

def RelayInfo.headersFor (info : RelayInfo) (ch : Channel) : HeaderMap :=
  if info.useRuntimeHeadersOverride then
    sanitizeHeaderOverrideMap lib info.runtimeHeadersOverride.asOverride
  else ch.ownHeaders lib

/-- What the param override of the attempt does to the header map in
force: nothing, or it replaces it for the rest of the request. -/
def Attempt.override (a : Attempt) (source : HeaderMap) : Except String (Option HeaderMap) :=
  if !req.appliesParamOverride || a.channel.passThroughBodyEnabled then .ok none
  else
    match lib.convertRequest req a.channel with
    | .error e => .error e
    | .ok body =>
      if (req.affinityTemplate a.channel.paramOverride).isEmpty then .ok none
      else
        match lib.applyParamOverride (req.affinityTemplate a.channel.paramOverride) body
            { upstreamModel := lib.upstreamModelName req a.channel
              originalModel := req.originModelName
              requestPath := req.requestURLPath
              requestHeaders := req.requestHeaders
              headerOverride := sanitizeHeaderOverrideMap lib source.asOverride
              retry := a.facts
              isChannelTest := req.isChannelTest } with
        | .error e => .error e
        | .ok (_, headers) => .ok (some (sanitizeHeaderOverrideMap lib headers.asOverride))

/-- The api version of the channel itself, where its adaptor reads one. -/
def Channel.ownAPIVersion (ch : Channel) : Option String :=
  if ch.type == typeAzure then
    some (if req.apiVersionQuery == "" then ch.other else req.apiVersionQuery)
  else if ch.type == typeCloudflare || ch.type == typeVertexAi then some ch.other
  else if ch.type == typeXunfei then
    some (xunfeiAPIVersion req (lib.upstreamModelName req ch)
      { newInfo.context with apiVersion := ch.other })
  else none

def Channel.sent (ch : Channel) (key organization : String) (headers : HeaderMap) :
    Except String Upstream :=
  match processHeaderOverride lib req key headers with
  | .error e => .error e
  | .ok headerOverride =>
    .ok { apiKey := key, baseURL := ch.getBaseURL lib,
          organization :=
            if ch.type == typeOpenAI && organization != "" then some organization else none
          apiVersion := ch.ownAPIVersion lib req
          headerOverride }

theorem setupContext_organization (ch : Channel) (draw : Nat) (c : Context) :
    (setupContextForSelectedChannel lib req ch draw c).2.organization
      = ch.organizationOver c.organization := by
  unfold setupContextForSelectedChannel Channel.organizationOver
  cases ch.getNextEnabledKey draw <;> simp only <;> split_ifs <;> rfl

variable {ch : Channel} {info : RelayInfo}

variable {a : Attempt} {draw : Nat} {e key : String}

theorem setupContext_error (c : Context) (hkey : ch.getNextEnabledKey draw = .error e) :
    (setupContextForSelectedChannel lib req ch draw c).1 = .error e := by
  simp [setupContextForSelectedChannel, hkey]

/-- The context once the channel is selected with this key. -/
def Channel.contextOver (ch : Channel) (key : String) (c : Context) : Context where
  channelType := ch.type
  paramOverride := req.affinityTemplate ch.paramOverride
  headerOverride := ch.headerOverride
  organization := ch.organizationOver c.organization
  key := key
  baseURL := ch.getBaseURL lib
  apiVersion := if ch.setsApiVersion then ch.other else c.apiVersion
  region := if ch.type == typeVertexAi then ch.other else c.region

theorem setupContext_ok (c : Context) (hkey : ch.getNextEnabledKey draw = .ok key) :
    setupContextForSelectedChannel lib req ch draw c
      = (.ok (), ch.contextOver lib req key c) := by
  simp only [setupContextForSelectedChannel, hkey, Channel.organizationOver, Channel.contextOver]
  split_ifs <;> rfl

theorem usedAPIVersion_own {c : Context} (htype : c.channelType = ch.type)
    (hversion : c.apiVersion = ch.other ∨ ch.setsApiVersion = false)
    (hregion : ch.type = typeVertexAi → c.region = ch.other) :
    usedAPIVersion req (lib.upstreamModelName req ch) c (initChannelMeta req c)
      = ch.ownAPIVersion lib req := by
  simp only [Channel.setsApiVersion, Bool.or_eq_false_iff, beq_eq_false_iff_ne] at hversion
  unfold usedAPIVersion Channel.ownAPIVersion
  simp only [initChannelMeta, htype]
  by_cases hazure : ch.type = typeAzure
  · obtain hv | hv := hversion
    · simp [hazure, typeAzure, typeVertexAi, getAPIVersion, hv]
    · exact absurd hazure hv.1.1.1.1
  by_cases hvertex : ch.type = typeVertexAi
  · simp [hvertex, typeAzure, typeVertexAi, typeCloudflare, hregion hvertex]
  by_cases hcloud : ch.type = typeCloudflare
  · obtain hv | hv := hversion
    · simp [hcloud, typeAzure, typeVertexAi, typeCloudflare, hv]
    · exact absurd hcloud hv.1.2
  by_cases hxunfei : ch.type = typeXunfei
  · obtain hv | hv := hversion
    · simp [hxunfei, typeAzure, typeVertexAi, typeCloudflare, typeXunfei, xunfeiAPIVersion, hv]
    · exact absurd hxunfei hv.1.1.1.2
  · simp [hazure, hvertex, hcloud, hxunfei]

theorem applyParamOverride_eq (a : Attempt) (cm : ChannelMeta) (info : RelayInfo)
    (hparam : cm.paramOverride = req.affinityTemplate a.channel.paramOverride)
    (hheader : cm.headersOverride = a.channel.headerOverride) :
    applyParamOverrideWithRelayInfo lib req a.channel a.facts cm info =
      match a.override lib req (info.headersFor lib a.channel) with
      | .error e => (.error e, info)
      | .ok none => (.ok (), info)
      | .ok (some headers) =>
        (.ok (), { info with runtimeHeadersOverride := headers
                             useRuntimeHeadersOverride := true }) := by
  have heff : getEffectiveHeaderOverride lib info cm = info.headersFor lib a.channel := by
    simp only [getEffectiveHeaderOverride, RelayInfo.headersFor, Channel.ownHeaders, hheader]
  unfold applyParamOverrideWithRelayInfo Attempt.override
  simp only [buildParamOverrideContext, heff, hparam]
  by_cases hskip : (!req.appliesParamOverride || a.channel.passThroughBodyEnabled) = true
  · simp only [hskip, if_true]
  · simp only [hskip]
    cases lib.convertRequest req a.channel with
    | error e => rfl
    | ok body =>
      by_cases hempty : (req.affinityTemplate a.channel.paramOverride).isEmpty = true
      · simp [hempty]
      · simp only [hempty]
        generalize lib.applyParamOverride _ _ _ = answer
        match answer with
        | .error e => rfl
        | .ok (_, headers) => rfl

theorem usedAPIVersion_contextOver (ch : Channel) (key : String) (c : Context) :
    usedAPIVersion req (lib.upstreamModelName req ch) (ch.contextOver lib req key c)
      (initChannelMeta req (ch.contextOver lib req key c)) = ch.ownAPIVersion lib req := by
  refine usedAPIVersion_own lib req rfl ?_ ?_
  · cases hsets : ch.setsApiVersion
    · exact Or.inr rfl
    · exact Or.inl (by simp [Channel.contextOver, hsets])
  · intro hvertex
    simp [Channel.contextOver, hvertex]

theorem sent_eq (ch : Channel) (key : String) (c : Context) (headers : HeaderMap)
    (info : RelayInfo) :
    (match processHeaderOverride lib req key headers with
      | .error e => (.error e, info)
      | .ok headerOverride =>
        (.ok { apiKey := key, baseURL := ch.getBaseURL lib
               organization := sentOrganization (initChannelMeta req (ch.contextOver lib req key c))
               apiVersion := usedAPIVersion req (lib.upstreamModelName req ch)
                (ch.contextOver lib req key c) (initChannelMeta req (ch.contextOver lib req key c))
               headerOverride }, info))
      = (ch.sent lib req key (ch.organizationOver c.organization) headers, info) := by
  rw [usedAPIVersion_contextOver]
  unfold Channel.sent
  cases processHeaderOverride lib req key headers <;> rfl

theorem attempt_error (info : RelayInfo) (hkey : a.channel.getNextEnabledKey a.draw = .error e) :
    attempt lib req a info = (.error e, { info with
      context := (setupContextForSelectedChannel lib req a.channel a.draw info.context).2 }) := by
  have hset := setupContext_error lib req info.context hkey
  unfold attempt
  generalize setupContextForSelectedChannel lib req a.channel a.draw info.context = answer at hset
  obtain ⟨result, context⟩ := answer
  obtain rfl : result = .error e := hset
  rfl

theorem attempt_ok (info : RelayInfo) (hkey : a.channel.getNextEnabledKey a.draw = .ok key) :
    attempt lib req a info =
      match a.override lib req (info.headersFor lib a.channel) with
      | .error e =>
        (.error e, { info with context := a.channel.contextOver lib req key info.context })
      | .ok none =>
        (a.channel.sent lib req key (a.channel.organizationOver info.context.organization)
            (info.headersFor lib a.channel),
          { info with context := a.channel.contextOver lib req key info.context })
      | .ok (some headers) =>
        (a.channel.sent lib req key (a.channel.organizationOver info.context.organization)
            (sanitizeHeaderOverrideMap lib headers.asOverride),
          { context := a.channel.contextOver lib req key info.context,
            runtimeHeadersOverride := headers, useRuntimeHeadersOverride := true }) := by
  unfold attempt
  rw [setupContext_ok lib req info.context hkey]
  simp only
  rw [applyParamOverride_eq lib req a _ _ rfl rfl]
  have hsame : RelayInfo.headersFor lib
      { info with context := a.channel.contextOver lib req key info.context } a.channel
      = info.headersFor lib a.channel := rfl
  rw [hsame]
  cases a.override lib req (info.headersFor lib a.channel) with
  | error e => rfl
  | ok applied =>
    cases applied with
    | none => exact sent_eq lib req a.channel key info.context _ _
    | some headers => exact sent_eq lib req a.channel key info.context _ _

/-! ## Which attempts leave a trace -/

/-- Nothing a later attempt inherits differs from a new request. -/
def RelayInfo.Fresh (info : RelayInfo) : Prop :=
  info.context.organization = "" ∧ info.useRuntimeHeadersOverride = false

/-- The attempt, made first, gets its key and has its param override
applied without an error. -/
def Attempt.appliesOverride (a : Attempt) : Bool :=
  match a.channel.getNextEnabledKey a.draw with
  | .error _ => false
  | .ok _ =>
    match a.override lib req (a.channel.ownHeaders lib) with
    | .ok (some _) => true
    | _ => false

def Attempt.Traceless (a : Attempt) : Prop :=
  a.channel.organization = "" ∧ a.appliesOverride lib req = false

theorem organizationOver_eq_empty (ch : Channel) (inherited : String) :
    ch.organizationOver inherited = "" ↔ inherited = "" ∧ ch.organization = "" := by
  unfold Channel.organizationOver
  by_cases hown : ch.organization = ""
  · simp [hown]
  · simp [hown]

theorem RelayInfo.Fresh.headersFor (h : info.Fresh) (ch : Channel) :
    info.headersFor lib ch = ch.ownHeaders lib := by
  simp [RelayInfo.headersFor, h.2]

/-- One attempt: the state stays fresh exactly when it was fresh and the
attempt leaves no trace. -/
theorem fresh_attempt_iff (a : Attempt) (info : RelayInfo) :
    (attempt lib req a info).2.Fresh ↔ info.Fresh ∧ a.Traceless lib req := by
  cases hkey : a.channel.getNextEnabledKey a.draw with
  | error e =>
    simp only [RelayInfo.Fresh, attempt_error lib req info hkey, setupContext_organization,
      organizationOver_eq_empty, Attempt.Traceless, Attempt.appliesOverride, hkey]
    tauto
  | ok key =>
    rw [attempt_ok lib req info hkey]
    by_cases hflag : info.useRuntimeHeadersOverride = true
    · -- the flag is never reset
      have hleft : ¬ info.Fresh := fun hfresh => by simp [hfresh.2] at hflag
      simp only [hleft, false_and, iff_false]
      generalize a.override lib req _ = answer
      match answer with
      | .error e => exact fun hfresh => by simp [RelayInfo.Fresh, hflag] at hfresh
      | .ok none => exact fun hfresh => by simp [RelayInfo.Fresh, hflag] at hfresh
      | .ok (some headers) => exact fun hfresh => by cases hfresh.2
    · have hown : info.headersFor lib a.channel = a.channel.ownHeaders lib := by
        simp [RelayInfo.headersFor, hflag]
      simp only [hown, Attempt.Traceless, Attempt.appliesOverride, hkey]
      generalize a.override lib req _ = answer
      match answer with
      | .error e => simp [RelayInfo.Fresh, Channel.contextOver, organizationOver_eq_empty]; tauto
      | .ok none => simp [RelayInfo.Fresh, Channel.contextOver, organizationOver_eq_empty]; tauto
      | .ok (some headers) => simp [RelayInfo.Fresh]

theorem fresh_afterAttempts_iff (tried : List Attempt) :
    (afterAttempts lib req tried).Fresh ↔ ∀ a ∈ tried, a.Traceless lib req := by
  have hrun : ∀ info : RelayInfo,
      (tried.foldl (fun info a => (attempt lib req a info).2) info).Fresh ↔
        info.Fresh ∧ ∀ a ∈ tried, a.Traceless lib req := by
    induction tried with
    | nil => simp
    | cons a rest ih =>
      intro info
      rw [List.foldl_cons, ih, fresh_attempt_iff, List.forall_mem_cons, and_assoc]
  have hnew : newInfo.Fresh := ⟨rfl, rfl⟩
  exact (hrun newInfo).trans (and_iff_right hnew)

theorem attempt_fresh (h : info.Fresh) (a : Attempt) :
    (attempt lib req a info).1 = (attempt lib req a newInfo).1 := by
  have hnew : newInfo.Fresh := ⟨rfl, rfl⟩
  cases hkey : a.channel.getNextEnabledKey a.draw with
  | error e =>
    rw [attempt_error lib req info hkey, attempt_error lib req newInfo hkey]
  | ok key =>
    rw [attempt_ok lib req info hkey, attempt_ok lib req newInfo hkey,
      h.headersFor lib, hnew.headersFor lib, h.1, hnew.1]
    generalize a.override lib req _ = answer
    match answer with
    | .error e => rfl
    | .ok none => rfl
    | .ok (some headers) => rfl

/-! ## Nothing less will do

Two channels that differ only in their header override tell a stale
runtime override from none, and an OpenAI channel without an
organization tells a stale organization. Both pass the body through, so
no param override of theirs is involved. -/

def probeChannel (headerOverride : OverrideMap) : Channel :=
  { type := typeOpenAI, key := "", isMultiKey := false, keys := [], multiKeyStatusList := []
    multiKeyMode := .random, pollingIndex := .ok 0, baseURL := none, openAIOrganization := none
    other := "", paramOverride := [], headerOverride, passThroughBodyEnabled := true }

def probe (headerOverride : OverrideMap) (facts : RetryFacts) : Attempt :=
  { channel := probeChannel headerOverride, draw := 0, facts }

theorem attempt_probe (headerOverride : OverrideMap) (facts : RetryFacts) (info : RelayInfo) :
    (attempt lib req (probe headerOverride facts) info).1 =
      (probeChannel headerOverride).sent lib req "" info.context.organization
        (info.headersFor lib (probeChannel headerOverride)) := by
  have hkey : (probe headerOverride facts).channel.getNextEnabledKey 0 = .ok "" := rfl
  have hskip : (probe headerOverride facts).override lib req
      (info.headersFor lib (probe headerOverride facts).channel) = .ok none := by
    simp [Attempt.override, probe, probeChannel]
  rw [attempt_ok lib req info hkey, hskip]
  rfl

theorem processHeaderOverride_nil (apiKey : String) :
    processHeaderOverride lib req apiKey [] = .ok [] := by
  cases htest : req.isChannelTest <;>
    simp [processHeaderOverride, htest, passthroughRules, explicitHeaders]

theorem processHeaderOverride_plain :
    processHeaderOverride lib req "" (sanitizeHeaderOverrideMap lib [("x", .str "1")])
      = .ok [("x", "1")] := by
  have hlower : lib.toLower "x" = "x" := 
    (lib.toLower_ascii "x" (by simp)).trans (by decide)
  have htrim : trimSpace "x" = "x" := by decide
  have hone : trimSpace "1" = "1" := by decide
  have hsource : sanitizeHeaderOverrideMap lib [("x", .str "1")] = [("x", "1")] := by
    simp [sanitizeHeaderOverrideMap, normalizeHeaderContextKey, hlower, htrim, hone, Value.sprint,
      HeaderMap.insert]
  have hrule : isHeaderPassthroughRuleKey lib "x" = false := by
    have hre : hasPrefix "x" "re:" = false ∧ hasPrefix "x" "regex:" = false := by decide
    simp [isHeaderPassthroughRuleKey, htrim, hlower, hre]
  have hpattern : passthroughPattern "x" = none := by decide
  have hvalue : applyHeaderOverridePlaceholders req "1" "" = .ok (some "1") := by
    have hclient : hasPrefix "1" clientHeaderPlaceholderPrefix = false := by decide
    have hreplace : replaceAll "1" apiKeyPlaceholder "" = "1" := by decide
    simp [applyHeaderOverridePlaceholders, hclient, hreplace, hone]
  have hplain : hasPrefix "1" clientHeaderPlaceholderPrefix = false := by decide
  rw [hsource]
  cases htest : req.isChannelTest <;>
    simp [processHeaderOverride, htest, passthroughRules, explicitHeaders, hlower, htrim, hone,
      hrule, hpattern, hvalue, hplain, HeaderMap.insert]

/-- Its own data do not depend on the retry index and the last error,
which a channel's override may ask for. -/
def Attempt.RetryBlind (a : Attempt) : Prop :=
  ∀ facts, (attempt lib req { a with facts } newInfo).1 = (attempt lib req a newInfo).1

theorem probe_retryBlind (headerOverride : OverrideMap) (facts : RetryFacts) :
    (probe headerOverride facts).RetryBlind lib req := by
  intro facts'
  exact (attempt_probe lib req headerOverride facts' newInfo).trans
    (attempt_probe lib req headerOverride facts newInfo).symm

theorem sent_headerOverride (ch : Channel) (key organization : String) (headers : HeaderMap) :
    (ch.sent lib req key organization headers).map (·.headerOverride)
      = processHeaderOverride lib req key headers := by
  unfold Channel.sent
  cases processHeaderOverride lib req key headers <;> rfl

theorem fresh_of_probes (hprobe : ∀ headerOverride,
      (probeChannel headerOverride).sent lib req "" info.context.organization
          (info.headersFor lib (probeChannel headerOverride))
        = (probeChannel headerOverride).sent lib req "" ""
          ((probeChannel headerOverride).ownHeaders lib)) : info.Fresh := by
  have hheaders : ∀ headerOverride,
      processHeaderOverride lib req "" (info.headersFor lib (probeChannel headerOverride))
        = processHeaderOverride lib req "" ((probeChannel headerOverride).ownHeaders lib) := by
    intro headerOverride
    have hmap := congrArg (Except.map (·.headerOverride)) (hprobe headerOverride)
    rwa [sent_headerOverride, sent_headerOverride] at hmap
  have hempty := (hheaders []).trans (processHeaderOverride_nil lib req "")
  have hplain := (hheaders [("x", .str "1")]).trans (processHeaderOverride_plain lib req)
  have hflag : info.useRuntimeHeadersOverride = false := by
    cases huse : info.useRuntimeHeadersOverride with
    | false => rfl
    | true =>
      -- both probes would be sent the same stale map
      simp only [RelayInfo.headersFor, huse, if_true] at hempty hplain
      cases hempty.symm.trans hplain
  have hown : info.headersFor lib (probeChannel []) = [] := by
    simp only [RelayInfo.headersFor, hflag]
    rfl
  have horg := hprobe []
  have hnil : (probeChannel []).ownHeaders lib = [] := rfl
  rw [hown, hnil] at horg
  simp only [Channel.sent, processHeaderOverride_nil, Except.ok.injEq, Upstream.mk.injEq] at horg
  refine ⟨?_, hflag⟩
  by_contra hne
  simp [probeChannel, hne] at horg

/-- Whatever channel comes next sends data of its own and the client's
request alone, exactly when no channel tried before it carried an
organization or had a param override applied. -/
theorem upstream_own_iff_traceless (lib : Library β) (req : ClientRequest)
    (tried : List Attempt) :
    (∀ a : Attempt, a.RetryBlind lib req → ∀ facts,
      (attempt lib req a (afterAttempts lib req tried)).1
        = (attempt lib req { a with facts } newInfo).1) ↔
    ∀ b ∈ tried, b.Traceless lib req := by
  rw [← fresh_afterAttempts_iff]
  generalize afterAttempts lib req tried = info
  constructor
  · intro hown
    refine fresh_of_probes lib req fun headerOverride => ?_
    let facts : RetryFacts := { retryIndex := 0, lastError := none }
    have hsame := hown (probe headerOverride facts) (probe_retryBlind lib req _ facts) facts
    exact ((attempt_probe lib req headerOverride facts info).symm.trans hsame).trans
      (attempt_probe lib req headerOverride facts newInfo)
  · intro hfresh a hblind facts
    rw [attempt_fresh lib req hfresh, hblind facts]

/-! ## Two OpenAI channels -/

/-- A request without client headers; of the operation language the
plain form, which sets keys of the body and leaves the header map. -/
def plainLibrary : Library OverrideMap where
  toLower := asciiLower
  toLower_ascii := fun _ _ => rfl
  compileRegexp := fun _ => .error "error parsing regexp"
  defaultBaseURL := fun _ => "https://api.openai.com"
  upstreamModelName := fun req _ => req.originModelName
  convertRequest := fun req _ => .ok [("model", .str req.originModelName)]
  applyParamOverride := fun override body context => .ok (body ++ override, context.headerOverride)

def chatRequest : ClientRequest where
  originModelName := "gpt-4o"
  requestURLPath := "/v1/chat/completions"
  isChannelTest := false
  apiVersionQuery := ""
  headerNames := []
  header := fun _ => ""
  requestHeaders := []
  appliesParamOverride := true
  affinityTemplate := id

def openAIChannel (key : String) (organization : Option String)
    (paramOverride headerOverride : OverrideMap) : Channel :=
  { type := typeOpenAI, key, isMultiKey := false, keys := [], multiKeyStatusList := []
    multiKeyMode := .random, pollingIndex := .ok 0, baseURL := some "",
    openAIOrganization := organization, other := "", paramOverride, headerOverride
    passThroughBodyEnabled := false }

/-- The first channel has an organization, a temperature override and an
authorization header of its own; the second has none of them and is sent
the organization and the header of the first. -/
theorem first_channel_leaks :
    ¬ ∀ (tried : List Attempt) (a : Attempt),
      (attempt plainLibrary chatRequest a (afterAttempts plainLibrary chatRequest tried)).1
        = (attempt plainLibrary chatRequest a newInfo).1 := by
  intro hclaim
  let first : Attempt :=
    { channel := openAIChannel "sk-1" (some "org-1") [("temperature", .other "0")]
        [("Authorization", .str "Bearer sk-1")]
      draw := 0, facts := { retryIndex := 0, lastError := none } }
  let second : Attempt :=
    { channel := openAIChannel "sk-2" none [] [], draw := 0
      facts := { retryIndex := 1, lastError := none } }
  have hstale : (attempt plainLibrary chatRequest second
      (afterAttempts plainLibrary chatRequest [first])).1.toOption
      = some { apiKey := "sk-2", baseURL := "https://api.openai.com", organization := some "org-1"
               apiVersion := none, headerOverride := [("authorization", "Bearer sk-1")] } := by
    decide
  have hown : (attempt plainLibrary chatRequest second newInfo).1.toOption
      = some { apiKey := "sk-2", baseURL := "https://api.openai.com", organization := none
               apiVersion := none, headerOverride := [] } := by
    decide
  rw [hclaim [first] second, hown] at hstale
  cases hstale

end YouBox.ChannelSwitch
