import YouBox.ConfigMap

/-!
# The registered configurations

The types handed to `GlobalConfig.Register`, field by field. Loading one of them
replaces what was in memory unless the JSON of the saved value leaves a place out
or adds to a map, and only the policy of `global` and the rules of
`channel_affinity_setting` have such places: a channel list
that was emptied stays as it was, and so does the path of a key source that has
none any more.
-/

namespace YouBox.Config

open GoJson

/-- The fields of a struct by name and type; `omitted` marks a tag with `omitempty`. -/
def fields : List (String × Bool × Ty) → Fields
  | [] => .nil
  | (name, omitEmpty, type) :: rest => .cons name omitEmpty type (fields rest)

def field (name : String) (type : Ty) : String × Bool × Ty := (name, false, type)

def omitted (name : String) (type : Ty) : String × Bool × Ty := (name, true, type)

def strings : Ty := .slice .string

def performanceSetting : Fields := fields [
  field "disk_cache_enabled" .bool, field "disk_cache_threshold_mb" .int,
  field "disk_cache_max_size_mb" .int, field "disk_cache_path" .string,
  field "monitor_enabled" .bool, field "monitor_cpu_threshold" .int,
  field "monitor_memory_threshold" .int, field "monitor_disk_threshold" .int]

def claudeSettings : Fields := fields [
  field "model_headers_settings" (.map .string (.map .string strings)),
  field "default_max_tokens" (.map .string .int), field "thinking_adapter_enabled" .bool,
  field "thinking_adapter_budget_tokens_percentage" .real]

def chatCompletionsToResponsesPolicy : Fields := fields [
  field "enabled" .bool, field "all_channels" .bool, omitted "channel_ids" (.slice .int),
  omitted "channel_types" (.slice .int), omitted "model_patterns" strings]

def globalSettings : Fields := fields [
  field "pass_through_request_enabled" .bool, field "thinking_model_blacklist" strings,
  field "chat_completions_to_responses_policy" (.struct chatCompletionsToResponsesPolicy)]

def qwenSettings : Fields := fields [field "sync_image_models" strings]

def grokSettings : Fields := fields [
  field "violation_deduction_enabled" .bool, field "violation_deduction_amount" .real]

def geminiSettings : Fields := fields [
  field "safety_settings" (.map .string .string),
  field "version_settings" (.map .string .string), field "supported_imagine_models" strings,
  field "thinking_adapter_enabled" .bool,
  field "thinking_adapter_budget_tokens_percentage" .real,
  field "function_call_thought_signature_enabled" .bool,
  field "remove_function_response_id_enabled" .bool]

def consoleSetting : Fields := fields [
  field "api_info" .string, field "uptime_kuma_groups" .string, field "announcements" .string,
  field "faq" .string, field "api_info_enabled" .bool, field "uptime_kuma_enabled" .bool,
  field "announcements_enabled" .bool, field "faq_enabled" .bool]

def quotaSetting : Fields := fields [field "enable_free_model_pre_consume" .bool]

def monitorSetting : Fields := fields [
  field "auto_test_channel_enabled" .bool, field "auto_test_channel_minutes" .real,
  field "channel_test_mode" .string]

def paymentSetting : Fields := fields [
  field "amount_options" (.slice .int), field "amount_discount" (.map .int .real),
  field "compliance_confirmed" .bool, field "compliance_terms_version" .string,
  field "compliance_confirmed_at" .int, field "compliance_confirmed_by" .int,
  field "compliance_confirmed_ip" .string]

def generalSetting : Fields := fields [
  field "docs_link" .string, field "ping_interval_enabled" .bool,
  field "ping_interval_seconds" .int, field "quota_display_type" .string,
  field "custom_currency_symbol" .string, field "custom_currency_exchange_rate" .real]

def tokenSetting : Fields := fields [field "max_user_tokens" .int]

def toolPriceSetting : Fields := fields [field "prices" (.map .string .real)]

def channelAffinityKeySource : Fields := fields [
  field "type" .string, omitted "key" .string, omitted "path" .string]

def channelAffinityRule : Fields := fields [
  field "name" .string, field "model_regex" strings, field "path_regex" strings,
  omitted "user_agent_include" strings,
  field "key_sources" (.slice (.struct channelAffinityKeySource)),
  field "value_regex" .string, field "ttl_seconds" .int,
  omitted "param_override_template" (.map .string .any),
  field "skip_retry_on_failure" .bool, field "include_using_group" .bool,
  field "include_model_name" .bool, field "include_rule_name" .bool]

def channelAffinitySetting : Fields := fields [
  field "enabled" .bool, field "switch_on_success" .bool,
  field "keep_on_channel_disabled" .bool, field "max_entries" .int,
  field "default_ttl_seconds" .int, field "rules" (.slice (.struct channelAffinityRule))]

def checkinSetting : Fields := fields [
  field "enabled" .bool, field "min_quota" .int, field "max_quota" .int]

def passkeySettings : Fields := fields [
  field "enabled" .bool, field "rp_display_name" .string, field "rp_id" .string,
  field "origins" .string, field "allow_insecure_origin" .bool,
  field "user_verification" .string, field "attachment_preference" .string]

def themeSettings : Fields := fields [field "frontend" .string]

def legalSettings : Fields := fields [
  field "user_agreement" .string, field "privacy_policy" .string]

def oidcSettings : Fields := fields [
  field "enabled" .bool, field "client_id" .string, field "client_secret" .string,
  field "well_known" .string, field "authorization_endpoint" .string,
  field "token_endpoint" .string, field "user_info_endpoint" .string]

def discordSettings : Fields := fields [
  field "enabled" .bool, field "client_id" .string, field "client_secret" .string]

def fetchSetting : Fields := fields [
  field "enable_ssrf_protection" .bool, field "allow_private_ip" .bool,
  field "domain_filter_mode" .bool, field "ip_filter_mode" .bool,
  field "domain_list" strings, field "ip_list" strings, field "allowed_ports" strings,
  field "apply_ip_filter_for_domain" .bool]

def groupRatioSetting : Fields := fields [
  field "group_ratio" (.pointer (.rwMap .string .real)),
  field "group_group_ratio" (.pointer (.rwMap .string (.map .string .real))),
  field "group_special_usable_group" (.pointer (.rwMap .string (.map .string .string)))]

def billingSetting : Fields := fields [
  field "billing_mode" (.map .string .string), field "billing_expr" (.map .string .string)]

def perfMetricsSetting : Fields := fields [
  field "enabled" .bool, field "flush_interval" .int, field "bucket_time" .string,
  field "retention_days" .int]

def registered : List (String × Fields) := [
  ("performance_setting", performanceSetting), ("claude", claudeSettings),
  ("global", globalSettings), ("qwen", qwenSettings), ("grok", grokSettings),
  ("gemini", geminiSettings), ("console_setting", consoleSetting),
  ("quota_setting", quotaSetting), ("monitor_setting", monitorSetting),
  ("payment_setting", paymentSetting), ("general_setting", generalSetting),
  ("token_setting", tokenSetting), ("tool_price_setting", toolPriceSetting),
  ("channel_affinity_setting", channelAffinitySetting), ("checkin_setting", checkinSetting),
  ("passkey", passkeySettings), ("theme", themeSettings), ("legal", legalSettings),
  ("oidc", oidcSettings), ("discord", discordSettings), ("fetch_setting", fetchSetting),
  ("group_ratio_setting", groupRatioSetting), ("billing_setting", billingSetting),
  ("perf_metrics_setting", perfMetricsSetting)]

/-! ## What they have in common -/

theorem registered_wellNamed : ∀ config ∈ registered, config.2.wellNamed = true := by
  decide

theorem registered_keys_nodup : ∀ config ∈ registered, (keys config.2).Nodup := by
  decide

/-- Loading a registered configuration replaces the one in memory exactly when nothing of
that is left in the places the saved one leaves out. -/
theorem load_replaces_iff {H : Host} {txt : Texts H} {config : String × Fields}
    (hmem : config ∈ registered) (c0 : config.2.Live H) (c : config.2.Value H)
    (hread : txt.ReadsBack (documents config.2 c)) :
    (∃ c1, reload txt config.2 c0 c = some c1 ∧ config.2.view H c1 = c) ↔ Loads config.2 c0 c :=
  reload_iff_loads config.2 (registered_wellNamed config hmem) (registered_keys_nodup config hmem)
    c0 c hread

/-! ## Whole numbers and compact documents -/

mutual
/-- The compact form, for texts without quotes and control characters. -/
def compact : Json Int → String
  | .null => "null"
  | .bool b => Strconv.formatBool b
  | .num n => n.repr
  | .str s => "\"" ++ s ++ "\""
  | .arr items => "[" ++ ",".intercalate (compactItems items) ++ "]"
  | .obj members => "\x7b" ++ ",".intercalate (compactMembers members) ++ "\x7d"

def compactItems : List (Json Int) → List String
  | [] => []
  | j :: js => compact j :: compactItems js

def compactMembers : List (String × Json Int) → List String
  | [] => []
  | (name, j) :: members => ("\"" ++ name ++ "\":" ++ compact j) :: compactMembers members
end

def toWhole (n : Int) : Option Int64 :=
  if n = (Int64.ofInt n).toInt then some (Int64.ofInt n) else none

/-- A host whose floating-point numbers are whole, and whose dynamic values are nil. -/
def wholeHost : Host where
  Number := Int
  Real := Int64
  Any := Unit
  ofInt := id
  toInt := some
  toInt_ofInt := fun _ => rfl
  ofReal := fun x => some x.toInt
  toReal := toWhole
  toReal_ofReal := fun x n h => by
    obtain rfl := Option.some.inj h
    simp [toWhole]
  zeroReal := 0
  isZero := (· == 0)
  nil := ()
  isNil := fun _ => true
  ofAny := fun _ => some .null
  toAny := fun _ => ()

/-- Compact texts, of which the given ones are read. -/
def compactTexts (known : List (Json Int)) : Texts wholeHost where
  render := compact
  parse := fun text => known.find? fun j => compact j == text
  formatFloat := fun x : Int64 => x.toInt.repr
  parseFloat := fun text => (Strconv.atoi text).map Int64.ofInt
  truncate := id
  truncateUnsigned := fun x : Int64 => UInt64.ofNat x.toInt.toNat
  isNegative := fun x : Int64 => x.toInt < 0

theorem compact_null_iff (j : Json Int) : compact j = "null" ↔ j = .null := by
  refine ⟨fun h => ?_, fun h => by rw [h]; rfl⟩
  cases j with
  | null => rfl
  | bool b => cases b <;> exact absurd h (by decide)
  | num n =>
    have hlist : n.repr.toList = "null".toList := congrArg String.toList h
    cases n with
    | ofNat n =>
      have hdigits := Strconv.toDigits_all_isDigit n
      rw [← Nat.toList_repr, show n.repr.toList = "null".toList from hlist] at hdigits
      exact absurd hdigits (by decide)
    | negSucc n => simp [Int.repr] at hlist
  | str | arr | obj =>
    have hfirst := congrArg (fun s : String => s.toList.head?) h
    simp [compact] at hfirst

theorem compactTexts_readsBack {known : List (Json Int)}
    (h : ∀ j ∈ known, known.find? (fun i => compact i == compact j) = some j) :
    (compactTexts known).ReadsBack known where
  parse_render := h
  render_null := fun j _ => compact_null_iff j
  parse_format := by
    intro x
    have hatoi : Strconv.atoi (Int64.toInt x).repr = some (Int64.toInt x) :=
      Strconv.atoi_repr (Int64.le_toInt x) (Int64.toInt_lt x)
    simp only [compactTexts, hatoi]
    exact congrArg some (Int64.ofInt_toInt x)

section Examples

variable (S : Type → Type)

def policy (channelIDs : Option (S Int64)) : chatCompletionsToResponsesPolicy.denote wholeHost S :=
  (true, false, channelIDs, none, none, ())

def global (passThrough : Bool) (channelIDs : Option (S Int64)) :
    globalSettings.denote wholeHost S :=
  (passThrough, none, policy S channelIDs, ())

def keySource (type key path : String) : channelAffinityKeySource.denote wholeHost S :=
  (type, key, path, ())

def rule (keySources : Option (S (channelAffinityKeySource.denote wholeHost S))) :
    channelAffinityRule.denote wholeHost S :=
  ("trace", none, none, none, keySources, "", (0 : Int64), none, true, true, false, true, ())

def affinity (rules : Option (S (channelAffinityRule.denote wholeHost S))) :
    channelAffinitySetting.denote wholeHost S :=
  (true, true, false, (100 : Int64), (60 : Int64), rules, ())

end Examples

def savedGlobal : globalSettings.Value wholeHost := global List true (some [3, 4])

theorem savedGlobal_readsBack :
    (compactTexts (documents globalSettings savedGlobal)).ReadsBack
      (documents globalSettings savedGlobal) := by
  refine compactTexts_readsBack (List.forall_mem_cons.mpr ⟨rfl, ?_⟩)
  exact List.forall_mem_cons.mpr ⟨rfl, List.forall_mem_singleton.mpr rfl⟩

theorem global_replaced :
    ("global", globalSettings) ∈ registered ∧
      ∃ c1, reload (compactTexts (documents globalSettings savedGlobal)) globalSettings
          (global Backed false (some ⟨[1], [2]⟩)) savedGlobal = some c1 ∧
        globalSettings.view wholeHost c1 = savedGlobal := by
  have hmem : ("global", globalSettings) ∈ registered := List.mem_of_getElem? (i := 2) rfl
  refine ⟨hmem, (load_replaces_iff hmem _ savedGlobal savedGlobal_readsBack).mpr ?_⟩
  exact ⟨trivial, trivial, ⟨trivial, trivial, fun _ _ _ => trivial, rfl, rfl, trivial⟩, trivial⟩

/-- A key source that reads the request body, and one that reads the context. -/
def bodySource : channelAffinityKeySource.Live wholeHost :=
  keySource Backed "gjson" "" "prompt_cache_key"

def contextSource : channelAffinityKeySource.Value wholeHost := keySource List "context_int" "id" ""

def affinityInMemory : channelAffinitySetting.Live wholeHost :=
  affinity Backed (some ⟨[rule Backed (some ⟨[bodySource], []⟩)], []⟩)

def savedAffinity : channelAffinitySetting.Value wholeHost :=
  affinity List (some [rule List (some [contextSource])])

set_option maxRecDepth 4000 in
theorem savedAffinity_readsBack :
    (compactTexts (documents channelAffinitySetting savedAffinity)).ReadsBack
      (documents channelAffinitySetting savedAffinity) := by
  refine compactTexts_readsBack (List.forall_mem_cons.mpr ⟨rfl, ?_⟩)
  refine List.forall_mem_cons.mpr ⟨rfl, List.forall_mem_cons.mpr ⟨rfl, ?_⟩⟩
  refine List.forall_mem_cons.mpr ⟨rfl, List.forall_mem_cons.mpr ⟨rfl, ?_⟩⟩
  exact List.forall_mem_singleton.mpr rfl

/-- The path of the old key source stays in the new one. -/
theorem path_kept :
    ¬ ∀ config ∈ registered, ∀ (c0 : config.2.Live wholeHost) (c : config.2.Value wholeHost),
      (compactTexts (documents config.2 c)).ReadsBack (documents config.2 c) →
        ∃ c1, reload (compactTexts (documents config.2 c)) config.2 c0 c = some c1 ∧
          config.2.view wholeHost c1 = c := by
  intro hclaim
  have hmem : ("channel_affinity_setting", channelAffinitySetting) ∈ registered :=
    List.mem_of_getElem? (i := 13) rfl
  have hloads : Loads channelAffinitySetting affinityInMemory savedAffinity :=
    (reload_iff_loads channelAffinitySetting rfl (registered_keys_nodup _ hmem) affinityInMemory
      savedAffinity savedAffinity_readsBack).mp
      (hclaim _ hmem affinityInMemory savedAffinity savedAffinity_readsBack)
  obtain ⟨-, -, -, -, -, hrules, -⟩ := hloads
  obtain ⟨-, -, -, -, hsources, -⟩ := hrules 0 _ rfl
  obtain ⟨-, -, hpath, -⟩ := hsources 0 _ rfl
  have hsame : ("prompt_cache_key" : String) = "" := hpath
  exact absurd hsame (by decide)

end YouBox.Config
