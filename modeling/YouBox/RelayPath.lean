import Mathlib

/-!
# What a path asks for

`Path2RelayMode` and its kin sort the paths of the gateway into relay modes, by
what a path begins with, ends in or contains. The order of the tests decides
where several of them hold.
-/

namespace YouBox

namespace Strings

def hasPrefix (s start : String) : Bool := start.toList.isPrefixOf s.toList

def hasSuffix (s finish : String) : Bool := finish.toList.isSuffixOf s.toList

def contains (s part : String) : Bool := s.toList.tails.any (part.toList.isPrefixOf ·)

end Strings

open Strings

inductive RelayMode where
  | unknown
  | chatCompletions
  | completions
  | embeddings
  | moderations
  | imagesGenerations
  | imagesEdits
  | edits
  | midjourneyImagine
  | midjourneyDescribe
  | midjourneyBlend
  | midjourneyChange
  | midjourneySimpleChange
  | midjourneyNotify
  | midjourneyTaskFetch
  | midjourneyTaskImageSeed
  | midjourneyTaskFetchByCondition
  | midjourneyAction
  | midjourneyModal
  | midjourneyShorten
  | swapFace
  | midjourneyUpload
  | midjourneyVideo
  | midjourneyEdits
  | audioSpeech
  | audioTranscription
  | audioTranslation
  | sunoFetch
  | sunoFetchByID
  | sunoSubmit
  | videoFetchByID
  | videoSubmit
  | rerank
  | responses
  | realtime
  | gemini
  | responsesCompact
deriving DecidableEq

def path2RelayModeMidjourney (path : String) : RelayMode :=
  if hasSuffix path "/mj/submit/action" then .midjourneyAction
  else if hasSuffix path "/mj/submit/modal" then .midjourneyModal
  else if hasSuffix path "/mj/submit/shorten" then .midjourneyShorten
  else if hasSuffix path "/mj/insight-face/swap" then .swapFace
  else if hasSuffix path "/submit/upload-discord-images" then .midjourneyUpload
  else if hasSuffix path "/mj/submit/imagine" then .midjourneyImagine
  else if hasSuffix path "/mj/submit/video" then .midjourneyVideo
  else if hasSuffix path "/mj/submit/edits" then .midjourneyEdits
  else if hasSuffix path "/mj/submit/blend" then .midjourneyBlend
  else if hasSuffix path "/mj/submit/describe" then .midjourneyDescribe
  else if hasSuffix path "/mj/notify" then .midjourneyNotify
  else if hasSuffix path "/mj/submit/change" then .midjourneyChange
  -- as the mode of a change
  else if hasSuffix path "/mj/submit/simple-change" then .midjourneyChange
  else if hasSuffix path "/fetch" then .midjourneyTaskFetch
  else if hasSuffix path "/image-seed" then .midjourneyTaskImageSeed
  else if hasSuffix path "/list-by-condition" then .midjourneyTaskFetchByCondition
  else .unknown

def path2RelaySuno (method path : String) : RelayMode :=
  if method = "POST" ∧ hasSuffix path "/fetch" then .sunoFetch
  else if method = "GET" ∧ contains path "/fetch/" then .sunoFetchByID
  else if contains path "/submit/" then .sunoSubmit
  else .unknown

def path2RelayMode (path : String) : RelayMode :=
  if hasPrefix path "/v1/chat/completions" || hasPrefix path "/pg/chat/completions" then
    .chatCompletions
  else if hasPrefix path "/v1/completions" then .completions
  else if hasPrefix path "/v1/embeddings" then .embeddings
  else if hasSuffix path "embeddings" then .embeddings
  else if hasPrefix path "/v1/moderations" then .moderations
  else if hasPrefix path "/v1/images/generations" then .imagesGenerations
  else if hasPrefix path "/v1/images/edits" then .imagesEdits
  else if hasPrefix path "/v1/edits" then .edits
  else if hasPrefix path "/v1/responses/compact" then .responsesCompact
  else if hasPrefix path "/v1/responses" then .responses
  else if hasPrefix path "/v1/audio/speech" then .audioSpeech
  else if hasPrefix path "/v1/audio/transcriptions" then .audioTranscription
  else if hasPrefix path "/v1/audio/translations" then .audioTranslation
  else if hasPrefix path "/v1/rerank" then .rerank
  else if hasPrefix path "/v1/realtime" then .realtime
  else if hasPrefix path "/v1beta/models" || hasPrefix path "/v1/models" then .gemini
  else if hasPrefix path "/mj" then path2RelayModeMidjourney path
  else .unknown

end YouBox
