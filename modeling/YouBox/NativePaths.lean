import YouBox.RelayPath
import YouBox.SubConsume

/-!
# The endpoints passed through to ElevenLabs and to Meshy

A path of one of the two is cut into its segments, and the segments with the
method name the endpoint or none. The path of a task that Meshy left with the
gateway is not an endpoint of Meshy, whatever the method.
-/

namespace YouBox

open Strings

namespace Strings

def trimPrefix (s start : String) : String :=
  if hasPrefix s start then String.ofList (s.toList.drop start.toList.length) else s

/-- `strings.TrimRight(s, "/")`. -/
def trimRightSlash (s : String) : String :=
  String.ofList (s.toList.reverse.dropWhile (· == '/')).reverse

/-- `strings.Trim(s, "/")`. -/
def trimSlash (s : String) : String :=
  String.ofList ((s.toList.dropWhile (· == '/')).reverse.dropWhile (· == '/')).reverse

def upper (s : String) : String := String.ofList (s.toList.map Char.toUpper)

end Strings

def normalizeNativePath (path : String) : String :=
  if path = "" then "/"
  else trimRightSlash (if hasPrefix path "/" then path else "/" ++ path)

def splitPathSegments (path : String) : List String :=
  let path := trimSlash path
  if path = "" then [] else (path.toList.splitOn '/').map String.ofList

namespace Elevenlabs

inductive BillingKind where
  | none
  | characters
  | audioTokens
  | musicDuration
deriving DecidableEq

structure NativeEndpoint where
  name : String
  billingKind : BillingKind
  defaultModel : String
  stream : Bool

def nativeSoundGenerationModel : String := "eleven_text_to_sound_v2"
def nativeMusicModel : String := "music_v2"
def nativeAudioIsolationModel : String := "elevenlabs-audio-isolation"
def nativeForcedAlignmentModel : String := "elevenlabs-forced-alignment"
def defaultTTSModel : String := "eleven_v3"
def defaultSTTModel : String := "scribe_v2"
def defaultSpeechToSpeechModel : String := "eleven_multilingual_sts_v2"

def bareNativeAliases : List String :=
  ["/v1/sound-generation", "/v1/music", "/v1/music/stream", "/v1/audio-isolation",
    "/v1/audio-isolation/stream", "/v1/forced-alignment"]

def isBareNativeAliasPath (path : String) : Bool :=
  let clean := normalizeNativePath path
  bareNativeAliases.contains clean || hasPrefix clean "/v1/speech-to-speech/"

def isNativeProxyPath (path : String) : Bool :=
  hasPrefix path "/elevenlabs/" || isBareNativeAliasPath path

def upstreamPathFromProxyPath (path : String) : String :=
  if hasPrefix path "/elevenlabs" then
    let upstreamPath := trimPrefix path "/elevenlabs"
    if upstreamPath = "" then "/" else upstreamPath
  else path

def blockedNativePaths : List String :=
  ["history", "convai", "workspace", "workspaces", "api-keys", "service-accounts", "webhooks",
    "dubbing", "realtime", "studio"]

def isBlockedNativePath : List String → Bool
  | _ :: resource :: _ => blockedNativePaths.contains resource
  | _ => false

def isReadOnlyVoicePath : List String → Bool
  | [_, "voices"] => true
  | ["v1", "voices", _] => true
  | ["v1", "voices", "settings", "default"] => true
  | ["v1", "voices", _, "settings"] => true
  | _ => false

def postEndpoint : List String → Option NativeEndpoint
  | ["v1", "text-to-speech", _] =>
    some ⟨"text-to-speech", .characters, defaultTTSModel, false⟩
  | ["v1", "text-to-speech", _, "stream"] =>
    some ⟨"text-to-speech", .characters, defaultTTSModel, true⟩
  | ["v1", "text-to-speech", _, "with-timestamps"] =>
    some ⟨"text-to-speech", .characters, defaultTTSModel, false⟩
  | ["v1", "text-to-speech", _, "stream", "with-timestamps"] =>
    some ⟨"text-to-speech", .characters, defaultTTSModel, true⟩
  | ["v1", "speech-to-text"] =>
    some ⟨"speech-to-text", .audioTokens, defaultSTTModel, false⟩
  | ["v1", "speech-to-speech", _] =>
    some ⟨"speech-to-speech", .audioTokens, defaultSpeechToSpeechModel, false⟩
  | ["v1", "speech-to-speech", _, "stream"] =>
    some ⟨"speech-to-speech", .audioTokens, defaultSpeechToSpeechModel, true⟩
  | ["v1", "audio-isolation"] =>
    some ⟨"audio-isolation", .audioTokens, nativeAudioIsolationModel, false⟩
  | ["v1", "audio-isolation", "stream"] =>
    some ⟨"audio-isolation", .audioTokens, nativeAudioIsolationModel, true⟩
  | ["v1", "forced-alignment"] =>
    some ⟨"forced-alignment", .audioTokens, nativeForcedAlignmentModel, false⟩
  | ["v1", "sound-generation"] =>
    some ⟨"sound-generation", .characters, nativeSoundGenerationModel, false⟩
  | ["v1", "music"] => some ⟨"music", .musicDuration, nativeMusicModel, false⟩
  | ["v1", "music", "stream"] => some ⟨"music", .musicDuration, nativeMusicModel, true⟩
  | ["v1", "text-to-dialogue"] =>
    some ⟨"text-to-dialogue", .characters, defaultTTSModel, false⟩
  | ["v1", "text-to-dialogue", "stream"] =>
    some ⟨"text-to-dialogue", .characters, defaultTTSModel, true⟩
  | ["v1", "text-to-dialogue", "with-timestamps"] =>
    some ⟨"text-to-dialogue", .characters, defaultTTSModel, false⟩
  | ["v1", "text-to-dialogue", "stream", "with-timestamps"] =>
    some ⟨"text-to-dialogue", .characters, defaultTTSModel, true⟩
  | _ => none

def matchNativeEndpoint (method upstreamPath : String) : Option NativeEndpoint :=
  let method := upper method
  let cleanPath := normalizeNativePath upstreamPath
  let segments := splitPathSegments cleanPath
  if segments.head? ≠ some "v1" ∧ segments.head? ≠ some "v2" then none
  else if isBlockedNativePath segments then none
  else if method = "GET" then
    if cleanPath = "/v1/models" then some ⟨"models", .none, defaultTTSModel, false⟩
    else if isReadOnlyVoicePath segments then some ⟨"voices", .none, defaultTTSModel, false⟩
    else none
  else if method = "POST" then postEndpoint segments
  else none

end Elevenlabs

namespace Meshy

inductive BillingKind where
  | none
  | request

structure NativeEndpoint where
  name : String
  version : String
  billingKind : BillingKind
  defaultModel : String
  stream : Bool
  taskCreate : Bool

def modelTextTo3D : String := "meshy-text-to-3d"

def isNativeProxyPath (path : String) : Bool := hasPrefix path "/meshy/"

def gatewayTaskIDFromPath (path : String) : String :=
  match splitPathSegments (normalizeNativePath (trimPrefix path "/meshy")) with
  | ["tasks", id] => id
  | _ => ""

def isGatewayTaskPath (path : String) : Bool := gatewayTaskIDFromPath path ≠ ""

def upstreamPathFromProxyPath (path : String) : String :=
  let upstreamPath := trimPrefix path "/meshy"
  if upstreamPath = "" then "/" else upstreamPath

/-- The resources of the first version, with the model of each. -/
def resourceModels : List (String × String) :=
  [("image-to-3d", "meshy-image-to-3d"), ("multi-image-to-3d", "meshy-multi-image-to-3d"),
    ("remesh", "meshy-remesh"), ("convert", "meshy-convert"), ("resize", "meshy-resize"),
    ("retexture", "meshy-retexture"), ("rigging", "meshy-rigging"),
    ("animations", "meshy-animation"), ("uv-unwrap", "meshy-uv-unwrap")]

def modelForResource (version resource : String) : Option String :=
  if resource = "text-to-3d" then if version = "v2" then some modelTextTo3D else none
  else if version = "v1" then resourceModels.lookup resource
  else none

def resourceEndpoint (method version resource model : String) (rest : List String) :
    Option NativeEndpoint :=
  match method, rest with
  | "POST", [] => some ⟨resource, version, .request, model, false, true⟩
  | "GET", [] | "GET", [_] | "DELETE", [_] => some ⟨resource, version, .none, model, false, false⟩
  | "GET", [_, "stream"] => some ⟨resource, version, .none, model, true, false⟩
  | _, _ => none

def matchNativeEndpoint (method upstreamPath : String) : Option NativeEndpoint :=
  let method := upper method
  match splitPathSegments (normalizeNativePath upstreamPath) with
  | "openapi" :: version :: resource :: rest =>
    if method = "GET" ∧ version = "v1" ∧ resource = "balance" ∧ rest = [] then
      some ⟨"balance", version, .none, modelTextTo3D, false, false⟩
    else
      match modelForResource version resource with
      | none => none
      | some model => resourceEndpoint method version resource model rest
  | _ => none

end Meshy

end YouBox
