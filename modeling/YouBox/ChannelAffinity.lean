import YouBox.SubConsume
import YouBox.TopSplit

/-!
# The keys of channel affinity

A rule, the model, the group and a value of the client are joined with colons to the
key of an affinity entry. It is stored with the namespace in front; a lookup hands the
joined text to the cache, which drops white space and colons in front of it and takes
a text that begins with the namespace for a whole key. `readBack` is what it makes of
the text, `clearText` what a clear makes of a rule's name.

`affinity_iff` says which requests find an entry again and which entries a clear takes:
entries are as isolated as the texts are apart. They are apart for rules that put plain
names of their own in front and requests without a colon (`Named.isolated`).
-/

namespace YouBox.Affinity

/-! ## The cache -/

/-- `strings.TrimLeft(s, ":")`. -/
def trimLeftColon (s : String) : String := String.ofList (s.toList.dropWhile (· == ':'))

/-- `strings.TrimRight(s, ":")`. -/
def trimRightColon (s : String) : String :=
  String.ofList (s.toList.reverse.dropWhile (· == ':')).reverse

/-- `Namespace.prefix`. -/
def nsPrefix (ns : String) : String :=
  let ns := trimRightColon (trimSpace ns)
  if ns = "" then "" else ns ++ ":"

def fullKey (ns key : String) : String :=
  let key := trimSpace key
  let p := nsPrefix ns
  if key = "" then ""
  else if p = "" then trimLeftColon key
  else if p.toList.isPrefixOf key.toList then key
  else p ++ trimLeftColon key

/-- The entries in memory. -/
abbrev Cache := List (String × Int)

namespace Cache

variable (ns : String) (c : Cache)

def get (key : String) : Option Int :=
  let full := fullKey ns key
  if full = "" then none else c.lookup full

def setWithTTL (key : String) (v : Int) : Cache :=
  let full := fullKey ns key
  if full = "" then c else (full, v) :: c.filter fun e => e.1 != full

def deleteMany (keys : List String) : Cache :=
  let dead := (keys.map (fullKey ns)).filter (· != "")
  c.filter fun e => !dead.contains e.1

def deleteByPrefix (key : String) : Cache :=
  let full := fullKey ns key
  if full = "" then c
  else
    let full := if full.toList.getLast? = some ':' then full else full ++ ":"
    c.deleteMany ns ((c.map Prod.fst).filter fun k => full.toList.isPrefixOf k.toList)

end Cache

def channelAffinityCacheNamespace : String := "new-api:channel_affinity:v1"

/-! ## Rules and requests -/

structure ChannelAffinityKeySource where
  type : String
  key : String
  path : String

structure ChannelAffinityRule where
  name : String
  modelRegex : List String
  pathRegex : List String
  userAgentInclude : List String
  keySources : List ChannelAffinityKeySource
  valueRegex : String
  includeUsingGroup : Bool
  includeModelName : Bool
  includeRuleName : Bool

structure ChannelAffinitySetting where
  enabled : Bool
  switchOnSuccess : Bool
  rules : List ChannelAffinityRule

/-- What the rules read of a request; `successChannelID` is the `channel_id` of its
context. -/
structure Request where
  path : String
  userAgent : String
  modelName : String
  usingGroup : String
  getInt : String → Int
  getString : String → String
  header : String → String
  body : String
  successChannelID : Int

/-- `regexp`, where an invalid pattern matches nothing; `strings.ToLower`; and the text of
what `gjson` finds in a body. -/
structure Lib where
  matchString : String → String → Bool
  toLower : String → String
  gjson : String → String → Option String

section Select

variable (lib : Lib) (r : Request)

def matchAnyRegexCached (patterns : List String) (s : String) : Bool :=
  s != "" && patterns.any fun pattern => pattern != "" && lib.matchString pattern s

def matchAnyIncludeFold (patterns : List String) (s : String) : Bool :=
  s != "" && patterns.any fun p =>
    trimSpace p != "" &&
      decide ((lib.toLower (trimSpace p)).toList <:+: (lib.toLower s).toList)

def extractChannelAffinityValue (src : ChannelAffinityKeySource) : String :=
  match src.type with
  | "context_int" =>
    if src.key = "" ∨ r.getInt src.key ≤ 0 then "" else toString (r.getInt src.key)
  | "context_string" => if src.key = "" then "" else trimSpace (r.getString src.key)
  | "request_header" => if src.key = "" then "" else trimSpace (r.header src.key)
  | "gjson" =>
    if src.path = "" ∨ r.body = "" then ""
    else ((lib.gjson r.body src.path).map trimSpace).getD ""
  | _ => ""

/-- The value of the request under a rule that takes it. -/
def ChannelAffinityRule.value (rule : ChannelAffinityRule) : Option String :=
  if !matchAnyRegexCached lib rule.modelRegex r.modelName then none
  else if rule.pathRegex != [] && !matchAnyRegexCached lib rule.pathRegex r.path then none
  else if rule.userAgentInclude != [] && !matchAnyIncludeFold lib rule.userAgentInclude r.userAgent
  then none
  else
    match (rule.keySources.map (extractChannelAffinityValue lib r)).find? (· != "") with
    | none => none
    | some v =>
      if rule.valueRegex != "" && !matchAnyRegexCached lib [rule.valueRegex] v then none
      else some v

/-- The rule that a request selects, its place in the list, and the value. -/
structure Selected where
  index : Nat
  rule : ChannelAffinityRule
  value : String

/-- The loop over the rules. -/
def selectFrom : Nat → List ChannelAffinityRule → Option Selected
  | _, [] => none
  | i, rule :: rules =>
    match rule.value lib r with
    | some v => some ⟨i, rule, v⟩
    | none => selectFrom (i + 1) rules

def ChannelAffinitySetting.select (setting : ChannelAffinitySetting) : Option Selected :=
  if !setting.enabled then none else selectFrom lib r 0 setting.rules

end Select

/-- `strings.Join(parts, ":")`. -/
def joinColon : List String → String
  | [] => ""
  | [part] => part
  | part :: parts => part ++ ":" ++ joinColon parts

def buildChannelAffinityCacheKeySuffix (rule : ChannelAffinityRule)
    (modelName usingGroup affinityValue : String) : String :=
  joinColon ((if rule.includeRuleName && rule.name != "" then [rule.name] else []) ++
    (if rule.includeModelName && modelName != "" then [modelName] else []) ++
    (if rule.includeUsingGroup && usingGroup != "" then [usingGroup] else []) ++ [affinityValue])

def Selected.suffix (a : Selected) (r : Request) : String :=
  buildChannelAffinityCacheKeySuffix a.rule r.modelName r.usingGroup a.value

/-! ## The operations -/

section Operations

variable (lib : Lib) (setting : ChannelAffinitySetting)

def getPreferredChannelByAffinity (r : Request) (c : Cache) : Option Int :=
  match setting.select lib r with
  | none => none
  | some a => c.get channelAffinityCacheNamespace (a.suffix r)

/-- What is recorded for a channel: with `SwitchOnSuccess`, the one that succeeded. -/
def recordedChannel (r : Request) (channelID : Int) : Int :=
  if setting.switchOnSuccess && decide (0 < r.successChannelID) then r.successChannelID
  else channelID

/-- `RecordChannelAffinity` with the key that `GetPreferredChannelByAffinity` has put into
the context. -/
def recordChannelAffinity (r : Request) (channelID : Int) (c : Cache) : Cache :=
  if channelID ≤ 0 then c
  else
    match setting.select lib r with
    | none => c
    | some a =>
      c.setWithTTL channelAffinityCacheNamespace
        (channelAffinityCacheNamespace ++ ":" ++ a.suffix r) (recordedChannel setting r channelID)

/-- The rule of a name that can be cleared, and its place. -/
def clearableRule (ruleName : String) : Except String Nat :=
  let ruleName := trimSpace ruleName
  if ruleName = "" then .error "rule_name 不能为空"
  else
    match setting.rules.findIdx? fun rule => trimSpace rule.name == ruleName with
    | none => .error "未知规则名称"
    | some i =>
      if (setting.rules[i]?).any (·.includeRuleName) then .ok i
      else .error "该规则未启用 include_rule_name，无法按规则清空缓存"

def clearChannelAffinityCacheByRuleName (ruleName : String) (c : Cache) : Except String Cache :=
  (clearableRule setting ruleName).map fun _ =>
    c.deleteByPrefix channelAffinityCacheNamespace (trimSpace ruleName)

/-- The cache after requests have recorded their channels, one after another. -/
def recordAll (history : List (Request × Int)) : Cache :=
  history.foldl (fun c e => recordChannelAffinity lib setting e.1 e.2 c) []

/-! ## What affinity promises -/

/-- The requests select one rule with one value, and agree in what the rule includes. -/
def SameAffinity (A B : Request) : Prop :=
  ∃ a b, setting.select lib A = some a ∧ setting.select lib B = some b ∧ a.index = b.index ∧
    a.value = b.value ∧ (a.rule.includeModelName = true → A.modelName = B.modelName) ∧
    (a.rule.includeUsingGroup = true → A.usingGroup = B.usingGroup)

/-- Whatever has been recorded before, what `A` records is found by the requests of the
same affinity and by no others. -/
def Isolated (A B : Request) : Prop :=
  ∀ history channelID, 0 < channelID →
    let before := recordAll lib setting history
    let after := recordChannelAffinity lib setting A channelID before
    (SameAffinity lib setting A B → getPreferredChannelByAffinity lib setting B after
        = some (recordedChannel setting A channelID)) ∧
      (¬ SameAffinity lib setting A B → getPreferredChannelByAffinity lib setting B after
        = getPreferredChannelByAffinity lib setting B before)

/-- Clearing a rule removes what `A` has recorded exactly if `A` selects the rule. -/
def ClearedExactly (A : Request) (ruleName : String) : Prop :=
  ∀ history channelID a i cleared, 0 < channelID → setting.select lib A = some a →
    clearableRule setting ruleName = .ok i →
    clearChannelAffinityCacheByRuleName setting ruleName
      (recordChannelAffinity lib setting A channelID (recordAll lib setting history))
        = .ok cleared →
    (cleared.lookup (channelAffinityCacheNamespace ++ ":" ++ a.suffix A) = none ↔ a.index = i)

end Operations

/-! ## What the cache makes of a text -/

def nsHead : String := "new-api:channel_affinity:v1:"

/-- What is behind the namespace when the cache is asked for a text. -/
def readBack (s : String) : String :=
  if nsHead.toList.isPrefixOf (trimSpace s).toList then
    String.ofList ((trimSpace s).toList.drop nsHead.toList.length)
  else trimLeftColon (trimSpace s)

/-- What is behind the namespace in the keys that a clear by this name takes. -/
def clearText (name : String) : String :=
  if readBack name = "" ∨ (readBack name).toList.getLast? = some ':' then readBack name
  else readBack name ++ ":"

/-- The text ends in something other than white space. -/
def Ends (s : String) : Prop := ∃ c, s.toList.getLast? = some c ∧ isSpace c = false

section Keys

variable {s v : String}

theorem nsPrefix_channel : nsPrefix channelAffinityCacheNamespace = nsHead := by decide

theorem namespace_colon : channelAffinityCacheNamespace ++ ":" = nsHead := by decide

theorem nsHead_append_ne (s : String) : nsHead ++ s ≠ "" := by
  intro h
  have := congrArg String.toList h
  rw [String.toList_append] at this
  cases this

theorem trimSpace_ne_empty (h : Ends s) : trimSpace s ≠ "" := by
  obtain ⟨c, hc, hspace⟩ := h
  intro hempty
  obtain ⟨pre, post, hs, hpre, hpost⟩ := TopSplit.trimBy_spec isSpace s.toList
  have hnil : TopSplit.trimBy isSpace s.toList = [] := by
    have := congrArg String.toList hempty
    rwa [trimSpace, String.toList_ofList] at this
  rw [hnil, List.append_nil] at hs
  have hmem := List.mem_of_getLast? hc
  rw [hs, List.mem_append] at hmem
  rcases hmem with h | h
  · rw [hpre c h] at hspace
    cases hspace
  · rw [hpost c h] at hspace
    cases hspace

theorem ends_trimSpace (h : trimSpace s ≠ "") : Ends (trimSpace s) := by
  have hlist : (trimSpace s).toList = TopSplit.trimBy isSpace s.toList := String.toList_ofList
  cases hlast : (trimSpace s).toList.getLast? with
  | none =>
    rw [List.getLast?_eq_none_iff] at hlast
    exact absurd (String.toList_inj.mp (hlast.trans rfl)) h
  | some c =>
    refine ⟨c, hlast, TopSplit.not_space_getLast_trimBy s.toList c ?_⟩
    rw [← hlist]
    exact hlast

theorem ends_toString {n : Int} (hn : 0 < n) : Ends (toString n) := by
  have hlist : (toString n).toList = Nat.toDigits 10 n.toNat := by
    rw [Int.toString_eq_repr, Int.repr_eq_if, if_pos hn.le]
    simp
  cases hlast : (toString n).toList.getLast? with
  | none =>
    rw [hlist, List.getLast?_eq_none_iff] at hlast
    exact absurd hlast Nat.toDigits_ne_nil
  | some c =>
    have hmem := List.mem_of_getLast? hlast
    rw [hlist] at hmem
    have hdigit := Nat.isDigit_of_mem_toDigits (by omega) (by omega) hmem
    refine ⟨c, hlast, ?_⟩
    simp only [Char.isDigit, Bool.and_eq_true, decide_eq_true_eq, ge_iff_le,
      UInt32.le_iff_toNat_le] at hdigit
    have hlow : 48 ≤ c.toNat := hdigit.1
    have hhigh : c.toNat ≤ 57 := hdigit.2
    simp only [isSpace, Bool.or_eq_false_iff, Bool.and_eq_false_iff, decide_eq_false_iff_not,
      List.mem_cons, List.not_mem_nil, or_false, not_or, not_le]
    omega

theorem ends_joinColon (front : List String) (h : Ends v) : Ends (joinColon (front ++ [v])) := by
  induction front with
  | nil => exact h
  | cons part front ih =>
    obtain ⟨c, hc, hspace⟩ := ih
    refine ⟨c, ?_, hspace⟩
    obtain ⟨next, rest, hrest⟩ : ∃ next rest, front ++ [v] = next :: rest :=
      List.exists_cons_of_ne_nil (by simp)
    rw [List.cons_append, hrest, joinColon, ← hrest, String.toList_append, String.toList_append,
      List.getLast?_append, hc, Option.some_or]
    simp

theorem fullKey_eq (h : trimSpace s ≠ "") :
    fullKey channelAffinityCacheNamespace s = nsHead ++ readBack s := by
  have hhead : nsHead ≠ "" := by decide
  unfold fullKey readBack
  dsimp only
  rw [nsPrefix_channel, if_neg h, if_neg hhead]
  split
  · rename_i hpre
    obtain ⟨rest, hrest⟩ := List.isPrefixOf_iff_prefix.mp hpre
    refine String.toList_inj.mp ?_
    rw [← hrest, List.drop_left, String.toList_append, String.toList_ofList, hrest]
  · rfl

theorem fullKey_own (h : Ends s) :
    fullKey channelAffinityCacheNamespace (nsHead ++ s) = nsHead ++ s := by
  obtain ⟨c, hc, hspace⟩ := h
  have htrim : trimSpace (nsHead ++ s) = nsHead ++ s := by
    refine trimSpace_eq_self ?_ ?_
    · intro x hx
      have hx' : x = 'n' := by
        rw [String.toList_append] at hx
        exact (Option.some.inj hx).symm
      rw [hx']
      decide
    · intro x hx
      rw [String.toList_append, List.getLast?_append, hc] at hx
      rw [← Option.some.inj hx]
      exact hspace
  have hpre : nsHead.toList.isPrefixOf (nsHead ++ s).toList = true := by
    rw [List.isPrefixOf_iff_prefix, String.toList_append]
    exact List.prefix_append _ _
  have hhead : nsHead ≠ "" := by decide
  unfold fullKey
  dsimp only
  rw [htrim, nsPrefix_channel, if_neg (nsHead_append_ne s), if_neg hhead, if_pos hpre]

theorem lookup_filter (P : String → Bool) (c : Cache) (k : String) :
    (c.filter fun e => P e.1).lookup k = if P k then c.lookup k else none := by
  induction c with
  | nil => simp
  | cons e c ih =>
    obtain ⟨key, value⟩ := e
    by_cases hk : k = key
    · subst hk
      cases hP : P k with
      | true => simp [hP]
      | false => simpa [List.filter_cons, hP] using ih
    · have hbeq : (k == key) = false := beq_false_of_ne hk
      cases hP : P key with
      | true => simp [hP, List.lookup_cons, hbeq, ih]
      | false => simp [hP, List.lookup_cons, hbeq, ih]

end Keys

/-! ## Selections -/

section Selection

variable {lib : Lib} {setting : ChannelAffinitySetting} {A B : Request} {a b : Selected}

theorem value_ends {rule : ChannelAffinityRule} {v : String} (h : rule.value lib A = some v) :
    Ends v := by
  unfold ChannelAffinityRule.value at h
  split_ifs at h
  split at h
  · cases h
  · rename_i w hfind
    split_ifs at h
    cases h
    obtain ⟨src, -, rfl⟩ := List.mem_map.mp (List.mem_of_find?_eq_some hfind)
    have hne : extractChannelAffinityValue lib A src ≠ "" := by
      simpa using List.find?_some hfind
    revert hne
    unfold extractChannelAffinityValue
    split
    · split_ifs with hkey
      · exact fun hne => absurd rfl hne
      · exact fun _ => ends_toString (not_le.mp fun hle => hkey (Or.inr hle))
    · split_ifs
      · exact fun hne => absurd rfl hne
      · exact ends_trimSpace
    · split_ifs
      · exact fun hne => absurd rfl hne
      · exact ends_trimSpace
    · split_ifs
      · exact fun hne => absurd rfl hne
      · cases lib.gjson A.body src.path with
        | none => exact fun hne => absurd rfl hne
        | some text => exact ends_trimSpace
    · exact fun hne => absurd rfl hne

theorem selectFrom_spec {rules : List ChannelAffinityRule} {i : Nat}
    (h : selectFrom lib A i rules = some a) :
    ∃ k, a.index = i + k ∧ rules[k]? = some a.rule ∧ a.rule.value lib A = some a.value := by
  induction rules generalizing i with
  | nil => cases h
  | cons rule rules ih =>
    rw [selectFrom] at h
    split at h
    · rename_i v hv
      cases h
      exact ⟨0, rfl, rfl, hv⟩
    · obtain ⟨k, hk, hrule, hvalue⟩ := ih h
      exact ⟨k + 1, by omega, hrule, hvalue⟩

theorem select_spec (h : setting.select lib A = some a) :
    setting.rules[a.index]? = some a.rule ∧ Ends (a.suffix A) := by
  unfold ChannelAffinitySetting.select at h
  split_ifs at h
  obtain ⟨k, hk, hrule, hvalue⟩ := selectFrom_spec h
  rw [Nat.zero_add] at hk
  exact ⟨hk ▸ hrule, ends_joinColon _ (value_ends hvalue)⟩

variable {c : Cache} {channelID : Int}

theorem record_eq (hA : setting.select lib A = some a) (hpos : 0 < channelID) :
    recordChannelAffinity lib setting A channelID c
      = (nsHead ++ a.suffix A, recordedChannel setting A channelID)
          :: c.filter fun e => e.1 != nsHead ++ a.suffix A := by
  unfold recordChannelAffinity
  rw [if_neg (not_le.mpr hpos), hA]
  unfold Cache.setWithTTL
  dsimp only
  rw [namespace_colon, fullKey_own (select_spec hA).2, if_neg (nsHead_append_ne _)]

theorem get_eq (hB : setting.select lib B = some b) :
    getPreferredChannelByAffinity lib setting B c = c.lookup (nsHead ++ readBack (b.suffix B)) := by
  have hfull := fullKey_eq (trimSpace_ne_empty (select_spec hB).2)
  unfold getPreferredChannelByAffinity
  rw [hB]
  unfold Cache.get
  dsimp only
  rw [hfull, if_neg (nsHead_append_ne _)]

theorem get_record (hA : setting.select lib A = some a) (hB : setting.select lib B = some b)
    (hpos : 0 < channelID) :
    getPreferredChannelByAffinity lib setting B (recordChannelAffinity lib setting A channelID c)
      = if readBack (b.suffix B) = a.suffix A then some (recordedChannel setting A channelID)
        else getPreferredChannelByAffinity lib setting B c := by
  rw [get_eq hB, get_eq hB, record_eq hA hpos, List.lookup_cons]
  by_cases hsame : readBack (b.suffix B) = a.suffix A
  · rw [hsame, beq_self_eq_true, if_pos rfl]
  · have hne : nsHead ++ readBack (b.suffix B) ≠ nsHead ++ a.suffix A := fun h => by
      have hlist := congrArg String.toList h
      rw [String.toList_append, String.toList_append] at hlist
      exact hsame (String.toList_inj.mp (List.append_cancel_left hlist))
    rw [beq_false_of_ne hne, if_neg hsame,
      lookup_filter (fun k => k != nsHead ++ a.suffix A), if_pos (bne_iff_ne.mpr hne)]

/-- A request finds what another has recorded exactly if its text is read back as the
other's; so it should be for the requests of the same affinity. -/
theorem isolated_iff : Isolated lib setting A B ↔
    ∀ a b, setting.select lib A = some a → setting.select lib B = some b →
      (readBack (b.suffix B) = a.suffix A ↔ SameAffinity lib setting A B) := by
  constructor
  · intro h a b hA hB
    obtain ⟨hfound, hother⟩ := h [] 1 Int.one_pos
    have hempty :
        getPreferredChannelByAffinity lib setting B (recordAll lib setting []) = none := by
      rw [get_eq hB]
      rfl
    rw [get_record hA hB Int.one_pos, hempty] at hfound hother
    constructor
    · intro hread
      by_contra hdiffer
      have := hother hdiffer
      rw [if_pos hread] at this
      cases this
    · intro hsame
      by_contra hread
      have := hfound hsame
      rw [if_neg hread] at this
      cases this
  · intro h history channelID hpos
    dsimp only
    cases hA : setting.select lib A with
    | none =>
      have hkept : recordChannelAffinity lib setting A channelID
          (recordAll lib setting history) = recordAll lib setting history := by
        unfold recordChannelAffinity
        rw [hA, if_neg (not_le.mpr hpos)]
      rw [hkept]
      exact ⟨fun ⟨a, _, ha, _⟩ => (by rw [hA] at ha; cases ha), fun _ => rfl⟩
    | some a =>
      cases hB : setting.select lib B with
      | none =>
        refine ⟨fun ⟨_, b, _, hb, _⟩ => (by rw [hB] at hb; cases hb), fun _ => ?_⟩
        unfold getPreferredChannelByAffinity
        rw [hB]
      | some b =>
        rw [get_record hA hB hpos]
        exact ⟨fun hsame => if_pos ((h a b hA hB).mpr hsame),
          fun hdiffer => if_neg fun hread => hdiffer ((h a b hA hB).mp hread)⟩

/-! ## Clearing -/

/-- The keys are as the cache writes them. -/
def Normal (c : Cache) : Prop := ∀ k ∈ c.map Prod.fst, fullKey channelAffinityCacheNamespace k = k

theorem normal_record (hc : Normal c) :
    Normal (recordChannelAffinity lib setting A channelID c) := by
  by_cases hpos : channelID ≤ 0
  · unfold recordChannelAffinity
    rwa [if_pos hpos]
  cases hA : setting.select lib A with
  | none =>
    unfold recordChannelAffinity
    rwa [if_neg hpos, hA]
  | some a =>
    rw [record_eq hA (not_le.mp hpos)]
    intro k hk
    rcases List.mem_cons.mp hk with rfl | hold
    · exact fullKey_own (select_spec hA).2
    · obtain ⟨e, he, rfl⟩ := List.mem_map.mp hold
      exact hc _ (List.mem_map_of_mem (List.mem_filter.mp he).1)

theorem normal_recordAll (history : List (Request × Int)) :
    Normal (recordAll lib setting history) := by
  have hfrom : ∀ c, Normal c →
      Normal (history.foldl (fun c e => recordChannelAffinity lib setting e.1 e.2 c) c) := by
    induction history with
    | nil => exact fun _ hc => hc
    | cons e history ih => exact fun c hc => ih _ (normal_record hc)
  exact hfrom [] (fun k hk => by cases hk)

theorem lookup_deleteByPrefix {name s : String} {v : Int} (hc : Normal c)
    (hname : trimSpace name ≠ "") (hs : c.lookup (nsHead ++ s) = some v) :
    (c.deleteByPrefix channelAffinityCacheNamespace name).lookup (nsHead ++ s) = none ↔
      (clearText name).toList <+: s.toList := by
  have hmem : nsHead ++ s ∈ c.map Prod.fst := by
    obtain ⟨l₁, l₂, rfl, -⟩ := List.lookup_eq_some_iff.mp hs
    simp
  have hhead : (if (nsHead ++ readBack name).toList.getLast? = some ':' then nsHead ++ readBack name
      else nsHead ++ readBack name ++ ":") = nsHead ++ clearText name := by
    unfold clearText
    by_cases hempty : readBack name = ""
    · rw [if_pos (Or.inl hempty), hempty]
      rfl
    · have hlast : (nsHead ++ readBack name).toList.getLast? = (readBack name).toList.getLast? := by
        rw [String.toList_append]
        exact List.getLast?_append_of_ne_nil _ fun h => hempty (String.toList_inj.mp h)
      rw [hlast]
      by_cases hcolon : (readBack name).toList.getLast? = some ':'
      · rw [if_pos hcolon, if_pos (Or.inr hcolon)]
      · rw [if_neg hcolon, if_neg (not_or.mpr ⟨hempty, hcolon⟩), String.append_assoc]
  unfold Cache.deleteByPrefix Cache.deleteMany
  dsimp only
  rw [fullKey_eq hname, if_neg (nsHead_append_ne _), hhead,
    lookup_filter (fun k => !List.contains _ k), hs]
  have hdead : ((((c.map Prod.fst).filter fun k =>
      (nsHead ++ clearText name).toList.isPrefixOf k.toList).map
        (fullKey channelAffinityCacheNamespace)).filter (· != "")).contains (nsHead ++ s) = true ↔
      (clearText name).toList <+: s.toList := by
    rw [List.contains_iff_mem, List.mem_filter, List.mem_map]
    constructor
    · rintro ⟨⟨k, hk, hfull⟩, -⟩
      obtain ⟨hkey, hpre⟩ := List.mem_filter.mp hk
      rw [hc k hkey] at hfull
      subst hfull
      rw [List.isPrefixOf_iff_prefix, String.toList_append, String.toList_append,
        List.prefix_append_right_inj] at hpre
      exact hpre
    · intro hpre
      refine ⟨⟨_, List.mem_filter.mpr ⟨hmem, ?_⟩, hc _ hmem⟩, bne_iff_ne.mpr (nsHead_append_ne s)⟩
      rw [List.isPrefixOf_iff_prefix, String.toList_append, String.toList_append,
        List.prefix_append_right_inj]
      exact hpre
  rw [← hdead]
  split
  · rename_i hkept
    simp only [Bool.not_eq_true', Bool.eq_false_iff] at hkept
    exact iff_of_false nofun hkept
  · rename_i hgone
    simp only [Bool.not_eq_true', Bool.eq_false_iff, not_not] at hgone
    exact iff_of_true rfl hgone

theorem trimSpace_of_clearable {name : String} {i : Nat}
    (h : clearableRule setting name = .ok i) : trimSpace name ≠ "" := by
  unfold clearableRule at h
  intro hempty
  rw [if_pos hempty] at h
  cases h

theorem cleared_iff {name : String} : ClearedExactly lib setting A name ↔
    ∀ a i, setting.select lib A = some a → clearableRule setting name = .ok i →
      ((clearText (trimSpace name)).toList <+: (a.suffix A).toList ↔ a.index = i) := by
  have hstep : ∀ {history channelID a i}, 0 < channelID → setting.select lib A = some a →
      clearableRule setting name = .ok i →
      (((recordChannelAffinity lib setting A channelID
          (recordAll lib setting history)).deleteByPrefix channelAffinityCacheNamespace
            (trimSpace name)).lookup (nsHead ++ a.suffix A) = none ↔
        (clearText (trimSpace name)).toList <+: (a.suffix A).toList) := by
    intro history channelID a i hpos hA hi
    have hname := trimSpace_ne_empty (ends_trimSpace (trimSpace_of_clearable hi))
    have hentry : (recordChannelAffinity lib setting A channelID
        (recordAll lib setting history)).lookup (nsHead ++ a.suffix A)
          = some (recordedChannel setting A channelID) := by
      rw [record_eq hA hpos]
      exact List.lookup_cons_self
    exact lookup_deleteByPrefix (normal_record (normal_recordAll history)) hname hentry
  constructor
  · intro h a i hA hi
    have hcleared := h [] 1 a i _ Int.one_pos hA hi (by
      unfold clearChannelAffinityCacheByRuleName
      rw [hi]
      rfl)
    rwa [namespace_colon, hstep Int.one_pos hA hi] at hcleared
  · intro h history channelID a i cleared hpos hA hi hcleared
    unfold clearChannelAffinityCacheByRuleName at hcleared
    rw [hi] at hcleared
    obtain rfl := Except.ok.inj hcleared
    rw [namespace_colon, hstep hpos hA hi]
    exact h a i hA hi

end Selection

section Named

variable {lib : Lib} {setting : ChannelAffinitySetting} {A B : Request} {a b : Selected}

/-- A name without colons and without white space at its ends that is not the beginning of
the namespace. -/
structure Plain (name : String) : Prop where
  nonempty : name ≠ ""
  colon : ':' ∉ name.toList
  trimmed : trimSpace name = name
  notHead : name ≠ "new-api"

/-- Every rule puts a plain name of its own in front. -/
structure Named (setting : ChannelAffinitySetting) : Prop where
  rules : ∀ rule ∈ setting.rules, rule.includeRuleName = true ∧ Plain rule.name
  distinct : (setting.rules.map (·.name)).Nodup

/-- No colon in the model, the group or the value of the request. -/
def Colonless (lib : Lib) (setting : ChannelAffinitySetting) (r : Request) : Prop :=
  ∀ a, setting.select lib r = some a → ∀ part ∈ [r.modelName, r.usingGroup, a.value],
    ':' ∉ part.toList

/-- What follows the name of the rule. -/
def Selected.tail (a : Selected) (r : Request) : List String :=
  (if a.rule.includeModelName && r.modelName != "" then [r.modelName] else []) ++
    (if a.rule.includeUsingGroup && r.usingGroup != "" then [r.usingGroup] else []) ++ [a.value]

theorem joinColon_toList (parts : List String) :
    (joinColon parts).toList = [':'].intercalate (parts.map String.toList) := by
  induction parts with
  | nil => rfl
  | cons part parts ih =>
    cases parts with
    | nil => simp [joinColon]
    | cons next rest =>
      show (part ++ ":" ++ joinColon (next :: rest)).toList = _
      rw [String.toList_append, String.toList_append, ih, List.append_assoc]
      rfl

theorem joinColon_inj {parts others : List String} (hparts : ∀ p ∈ parts, ':' ∉ p.toList)
    (hothers : ∀ p ∈ others, ':' ∉ p.toList) (hne : parts ≠ []) (hne' : others ≠ []) :
    joinColon parts = joinColon others ↔ parts = others := by
  refine ⟨fun h => ?_, congrArg joinColon⟩
  have hsplit := congrArg (fun s => s.toList.splitOn ':') h
  simp only [joinColon_toList] at hsplit
  rw [List.splitOn_intercalate ':' (List.forall_mem_map.mpr hparts) (by simpa using hne),
    List.splitOn_intercalate ':' (List.forall_mem_map.mpr hothers) (by simpa using hne')] at hsplit
  exact List.map_injective_iff.mpr (fun _ _ => String.toList_inj.mp) hsplit

theorem eq_before_colon {x y u v : List Char} (hx : ':' ∉ x) (hy : ':' ∉ y)
    (h : x ++ ':' :: u <+: y ++ ':' :: v) : x = y := by
  induction x generalizing y with
  | nil =>
    cases y with
    | nil => rfl
    | cons d y => exact absurd (List.cons_prefix_cons.mp h).1 (List.ne_of_not_mem_cons hy)
  | cons c x ih =>
    cases y with
    | nil => exact absurd (List.cons_prefix_cons.mp h).1.symm (List.ne_of_not_mem_cons hx)
    | cons d y =>
      obtain ⟨rfl, hrest⟩ := List.cons_prefix_cons.mp h
      rw [ih (List.not_mem_of_not_mem_cons hx) (List.not_mem_of_not_mem_cons hy) hrest]

/-- A text is read back as it is if it has a plain name in front and does not begin with the
namespace. -/
theorem readBack_plain {name s : String} (h : Plain name) (hends : Ends s)
    (hs : name.toList <+: s.toList) (hns : ¬ nsHead.toList <+: s.toList) : readBack s = s := by
  obtain ⟨c, rest, hname⟩ := List.exists_cons_of_ne_nil
    (fun hnil => h.nonempty (String.toList_inj.mp hnil))
  have hcolon : c ≠ ':' := fun hc => h.colon (hname ▸ hc ▸ List.mem_cons_self)
  obtain ⟨more, hmore⟩ := hs
  have hhead : s.toList = c :: (rest ++ more) := by
    rw [← hmore, hname, List.cons_append]
  have hspace : isSpace c = false := by
    refine @TopSplit.not_space_head_trimBy _ isSpace name.toList c ?_
    have hlist : (trimSpace name).toList = TopSplit.trimBy isSpace name.toList :=
      String.toList_ofList
    rw [← hlist, h.trimmed, hname]
    rfl
  have htrim : trimSpace s = s := by
    refine trimSpace_eq_self (fun d hd => ?_) (fun d hd => ?_)
    · rw [hhead] at hd
      exact Option.some.inj hd ▸ hspace
    · obtain ⟨e, he, hend⟩ := hends
      rw [he] at hd
      exact Option.some.inj hd ▸ hend
  rw [readBack, htrim, if_neg (fun h => hns (List.isPrefixOf_iff_prefix.mp h)), trimLeftColon,
    hhead, List.dropWhile_cons_of_neg (by simpa using hcolon), ← hhead, String.ofList_toList]

theorem Named.rule_plain (h : Named setting) {i : Nat} {rule : ChannelAffinityRule}
    (hrule : setting.rules[i]? = some rule) : rule.includeRuleName = true ∧ Plain rule.name :=
  h.rules rule (List.mem_of_getElem? hrule)

theorem Named.index_inj (h : Named setting) {i j : Nat} {rule other : ChannelAffinityRule}
    (hrule : setting.rules[i]? = some rule) (hother : setting.rules[j]? = some other)
    (hname : rule.name = other.name) : i = j := by
  have hi : i < (setting.rules.map (·.name)).length := by
    rw [List.length_map]
    exact (List.getElem?_eq_some_iff.mp hrule).1
  refine (List.getElem?_inj hi h.distinct).mp ?_
  rw [List.getElem?_map, List.getElem?_map, hrule, hother]
  exact congrArg some hname

theorem model_ne (hA : setting.select lib A = some a) : A.modelName ≠ "" := by
  unfold ChannelAffinitySetting.select at hA
  split_ifs at hA
  obtain ⟨k, -, -, hvalue⟩ := selectFrom_spec hA
  intro hempty
  rw [ChannelAffinityRule.value, if_pos (by simp [matchAnyRegexCached, hempty])] at hvalue
  cases hvalue

theorem tail_ne_nil : a.tail A ≠ [] := by simp [Selected.tail]

theorem tail_colonless (hcolon : Colonless lib setting A) (hA : setting.select lib A = some a) :
    ∀ part ∈ a.tail A, ':' ∉ part.toList := by
  intro part hpart
  refine hcolon a hA part ?_
  unfold Selected.tail at hpart
  split_ifs at hpart <;> simp at hpart ⊢ <;> tauto

/-- Under one rule the parts behind its name are those that the affinity is made of; the
model is there whenever the rule includes it. -/
theorem tail_eq_iff (hA : setting.select lib A = some a) (hB : setting.select lib B = some b)
    (hrule : a.rule = b.rule) : a.tail A = b.tail B ↔ a.value = b.value ∧
      (a.rule.includeModelName = true → A.modelName = B.modelName) ∧
      (a.rule.includeUsingGroup = true → A.usingGroup = B.usingGroup) := by
  have hmodelA := model_ne hA
  have hmodelB := model_ne hB
  unfold Selected.tail
  rw [← hrule]
  cases a.rule.includeModelName <;> cases a.rule.includeUsingGroup <;>
    by_cases hgroupA : A.usingGroup = "" <;> by_cases hgroupB : B.usingGroup = "" <;>
    simp [hmodelA, hmodelB, hgroupA, hgroupB] <;> grind

theorem Named.suffix_eq (h : Named setting) (hA : setting.select lib A = some a) :
    a.suffix A = joinColon (a.rule.name :: a.tail A) := by
  obtain ⟨hincluded, hplain⟩ := h.rule_plain (select_spec hA).1
  simp [Selected.suffix, buildChannelAffinityCacheKeySuffix, Selected.tail, hincluded,
    hplain.nonempty]

theorem Named.parts_colonless (h : Named setting) (hcolon : Colonless lib setting A)
    (hA : setting.select lib A = some a) :
    ∀ part ∈ a.rule.name :: a.tail A, ':' ∉ part.toList := by
  intro part hpart
  rcases List.mem_cons.mp hpart with rfl | htail
  · exact (h.rule_plain (select_spec hA).1).2.colon
  · exact tail_colonless hcolon hA part htail

theorem Named.suffix_toList (h : Named setting) (hA : setting.select lib A = some a) :
    (a.suffix A).toList = a.rule.name.toList ++ ':' :: (joinColon (a.tail A)).toList := by
  obtain ⟨part, rest, htail⟩ := List.exists_cons_of_ne_nil (tail_ne_nil (a := a) (A := A))
  rw [h.suffix_eq hA, htail, joinColon_toList, joinColon_toList]
  rfl

theorem Named.readBack_suffix (h : Named setting) (hA : setting.select lib A = some a) :
    readBack (a.suffix A) = a.suffix A := by
  have hplain := (h.rule_plain (select_spec hA).1).2
  have hlist := h.suffix_toList hA
  refine readBack_plain hplain (select_spec hA).2 ⟨_, hlist.symm⟩ fun hns => ?_
  have hhead : nsHead.toList = "new-api".toList ++ ':' :: "channel_affinity:v1:".toList := by
    decide
  rw [hhead, hlist] at hns
  exact hplain.notHead (String.toList_inj.mp
    (eq_before_colon (by decide) hplain.colon hns)).symm

theorem Named.sameAffinity_iff (h : Named setting) (hcolonA : Colonless lib setting A)
    (hcolonB : Colonless lib setting B) (hA : setting.select lib A = some a)
    (hB : setting.select lib B = some b) :
    readBack (b.suffix B) = a.suffix A ↔ SameAffinity lib setting A B := by
  have hruleA := (select_spec hA).1
  have hruleB := (select_spec hB).1
  rw [h.readBack_suffix hB, eq_comm, h.suffix_eq hA, h.suffix_eq hB,
    joinColon_inj (h.parts_colonless hcolonA hA) (h.parts_colonless hcolonB hB)
      (List.cons_ne_nil _ _) (List.cons_ne_nil _ _), List.cons_eq_cons]
  constructor
  · rintro ⟨hname, htail⟩
    have hindex := h.index_inj hruleA hruleB hname
    rw [hindex, hruleB] at hruleA
    exact ⟨a, b, hA, hB, hindex, (tail_eq_iff hA hB (Option.some.inj hruleA).symm).mp htail⟩
  · rintro ⟨a', b', hA', hB', hindex, hsame⟩
    rw [hA] at hA'
    rw [hB] at hB'
    obtain rfl := Option.some.inj hA'
    obtain rfl := Option.some.inj hB'
    rw [hindex, hruleB] at hruleA
    have hrule := (Option.some.inj hruleA).symm
    exact ⟨congrArg _ hrule, (tail_eq_iff hA hB hrule).mpr hsame⟩

theorem Named.clears_iff (h : Named setting) {name : String} {i : Nat}
    (hA : setting.select lib A = some a) (hi : clearableRule setting name = .ok i) :
    (clearText (trimSpace name)).toList <+: (a.suffix A).toList ↔ a.index = i := by
  obtain ⟨rule, hrule, hname⟩ : ∃ rule, setting.rules[i]? = some rule ∧
      trimSpace rule.name = trimSpace name := by
    unfold clearableRule at hi
    rw [if_neg (trimSpace_of_clearable hi)] at hi
    split at hi
    · cases hi
    · rename_i j hfind
      split_ifs at hi
      obtain rfl := Except.ok.inj hi
      obtain ⟨hlt, hfound, -⟩ := List.findIdx?_eq_some_iff_getElem.mp hfind
      exact ⟨_, List.getElem?_eq_getElem hlt, eq_of_beq hfound⟩
  have hplain := (h.rule_plain hrule).2
  rw [← hname, hplain.trimmed]
  have hread : readBack rule.name = rule.name := by
    refine readBack_plain hplain ?_ (List.prefix_refl _) fun hns => ?_
    · rw [← hplain.trimmed]
      exact ends_trimSpace (by rw [hplain.trimmed]; exact hplain.nonempty)
    · exact hplain.colon (hns.subset (by decide))
  have hclear : (clearText rule.name).toList = rule.name.toList ++ [':'] := by
    unfold clearText
    rw [hread, if_neg, String.toList_append]
    · rfl
    · rintro (hempty | hlast)
      · exact hplain.nonempty hempty
      · exact hplain.colon (List.mem_of_getLast? hlast)
  have hruleA := (select_spec hA).1
  rw [hclear, h.suffix_toList hA]
  constructor
  · intro hprefix
    have hsame := eq_before_colon hplain.colon (h.rule_plain hruleA).2.colon hprefix
    exact (h.index_inj hrule hruleA (String.toList_inj.mp hsame)).symm
  · rintro rfl
    rw [hrule] at hruleA
    rw [Option.some.inj hruleA]
    exact ⟨_, by rw [List.append_assoc]; rfl⟩

/-- Named rules keep the affinities of colonless requests apart, and their entries are cleared
by name. -/
theorem Named.isolated (h : Named setting) (hA : Colonless lib setting A)
    (hB : Colonless lib setting B) (name : String) :
    Isolated lib setting A B ∧ ClearedExactly lib setting A name :=
  ⟨isolated_iff.mpr fun _ _ => h.sameAffinity_iff hA hB,
    cleared_iff.mpr fun _ _ => h.clears_iff⟩

end Named

/-! ## A colon in a model's name -/

end YouBox.Affinity
