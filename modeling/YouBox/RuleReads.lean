import YouBox.RuleExpr

/-!
# What the reader of conditions reads

`Reads cond s`: the reader takes the text `s` for the condition `cond`. There is
one rule for each pattern, with the key and the literal as they stand in the text;
`tryParseRequestCondition_eq_ok_iff` says that these are all, and that no text is
claimed by an earlier pattern than its own.
-/

namespace YouBox

open JsText TopSplit

/-! ## The texts of the patterns -/

def callText (name k : JsString) : JsString := name ++ js "(\"" ++ k ++ js "\")"

def rangeText (fn : TimeFunc) (tz rangeStart rangeEnd : JsString) : JsString :=
  callText fn.name tz ++ js " >= " ++ rangeStart ++ js " || " ++ callText fn.name tz ++ js " < "
    ++ rangeEnd

def timeText (fn : TimeFunc) (tz : JsString) (mode : MatchMode) (value : JsString) : JsString :=
  callText fn.name tz ++ js " " ++ timeOp mode ++ js " " ++ value

def existsText : RuleSource → JsString → JsString
  | .header, path => callText (js "header") path ++ js " != \"\""
  | .param, path => callText (js "param") path ++ js " != nil"

def hasText (source : RuleSource) (path text : JsString) : JsString :=
  callText (js "has(" ++ source.name) path ++ js ", " ++ text ++ js ")"

def containsText : RuleSource → JsString → JsString → JsString
  | .header, path, text => hasText .header path text
  | .param, path, text => callText (js "param") path ++ js " != nil && " ++ hasText .param path text

def compareText (path : JsString) (mode : MatchMode) (value : JsString) : JsString :=
  callText (js "param") path ++ js " != nil && " ++ callText (js "param") path ++ js " "
    ++ compareOp mode ++ js " " ++ value

def eqText (source : RuleSource) (path raw : JsString) : JsString :=
  callText source.name path ++ js " == " ++ raw

inductive ReadsTime : TimeCondition → JsString → Prop
  | range {fn : TimeFunc} {tz s e : JsString} (htz : IsKey tz) (hs : IsNumber s)
      (he : IsNumber e) : ReadsTime ⟨fn, tz, .range, [], s, e⟩ (rangeText fn tz s e)
  | wrapped {fn : TimeFunc} {tz s e : JsString} (htz : IsKey tz) (hs : IsNumber s)
      (he : IsNumber e) :
      ReadsTime ⟨fn, tz, .range, [], s, e⟩ (js "(" ++ rangeText fn tz s e ++ js ")")
  | compare {fn : TimeFunc} {tz v : JsString} {mode : MatchMode} (htz : IsKey tz)
      (hmode : mode ∈ [MatchMode.eq, .gte, .lt]) (hv : IsNumber v) :
      ReadsTime ⟨fn, tz, mode, v, [], []⟩ (timeText fn tz mode v)

inductive ReadsRequest (composite : JsString → Option JsString) :
    ParamHeaderCondition → JsString → Prop
  | exists {source : RuleSource} {path : JsString} (hpath : IsKey path) :
      ReadsRequest composite ⟨source, path, .exists, []⟩ (existsText source path)
  | contains {source : RuleSource} {path text value : JsString} (hpath : IsKey path)
      (htext : parseString text = some value) :
      ReadsRequest composite ⟨source, path, .contains, value⟩ (containsText source path text)
  | compare {path v : JsString} {mode : MatchMode} (hpath : IsKey path)
      (hmode : mode ∈ [MatchMode.gt, .gte, .lt, .lte]) (hv : IsNumber v) :
      ReadsRequest composite ⟨.param, path, mode, v⟩ (compareText path mode v)
  | eq {source : RuleSource} {path raw value : JsString} (hpath : IsKey path) (hne : raw ≠ [])
      (hline : raw.all (fun u => !isLineTerminator u) = true)
      (hraw : parseExprLiteral composite raw = some value) :
      ReadsRequest composite ⟨source, path, .eq, value⟩ (eqText source path raw)

def Reads (composite : JsString → Option JsString) : RequestCondition → JsString → Prop
  | .time cond, s => ReadsTime cond s
  | .request cond, s => ReadsRequest composite cond s

/-! ## The patterns -/

variable {s k r : JsString} {fn : TimeFunc} {mode : MatchMode} {cond : TimeCondition}
  {path : JsString} {source : RuleSource} {text raw : JsString} {fn' : TimeFunc} {x y : JsString}

variable {k' name value : JsString}

theorem callKey_eq_some_iff :
    callKey name s = some (k, r) ↔ IsKey k ∧ s = callText name k ++ r := by
  simp only [callKey, Option.bind_eq_bind, Option.bind_eq_some_iff, expect_eq_some_iff,
    Prod.exists, key_eq_some_iff, Option.pure_def, Option.some.injEq, Prod.mk.injEq]
  constructor
  · rintro ⟨s₁, rfl, k', s₂, ⟨hk, rfl⟩, r', rfl, rfl, rfl⟩
    exact ⟨hk, by simp [callText]; rfl⟩
  · rintro ⟨hk, rfl⟩
    exact ⟨k ++ js "\")" ++ r, by simp [callText], k, js ")" ++ r, ⟨hk, by simp; rfl⟩, r, rfl,
      rfl, rfl⟩

theorem callText_name (name k : JsString) : callText name k = name ++ callText [] k := by
  simp [callText]

theorem callKey_callText (hk : IsKey k) (name r : JsString) :
    callKey name (callText name k ++ r) = some (k, r) :=
  callKey_eq_some_iff.mpr ⟨hk, rfl⟩

theorem callKey_clash {name' : JsString} (h : Clash (name ++ js "(\"") (name' ++ js "(\""))
    (k r : JsString) : callKey name (callText name' k ++ r) = none := by
  have hnone : expect (name ++ js "(\"") (callText name' k ++ r) = none := by
    simpa [callText] using expect_clash h (k ++ js "\")" ++ r)
  simp [callKey, hnone]
theorem oneOf_timeFuncs :
    oneOf timeFuncs s = some (fn, r) ↔ s = fn.name ++ r := by
  rw [timeFuncs, oneOf_map_eq_some_iff (by decide)]
  exact and_iff_right (by cases fn <;> decide)

theorem oneOf_timeOps :
    oneOf timeOps s = some (mode, r)
      ↔ mode ∈ [MatchMode.eq, .gte, .lt] ∧ s = timeOp mode ++ js " " ++ r := by
  have htable : timeOps = [MatchMode.eq, .gte, .lt].map (fun m => (timeOp m ++ js " ", m)) := by
    decide
  rw [htable, oneOf_map_eq_some_iff (by decide)]

theorem oneOf_compareOps :
    oneOf compareOps s = some (mode, r)
      ↔ mode ∈ [MatchMode.gt, .gte, .lt, .lte] ∧ s = compareOp mode ++ js " " ++ r := by
  have htable : compareOps
      = [MatchMode.gt, .gte, .lt, .lte].map (fun m => (compareOp m ++ js " ", m)) := by decide
  rw [htable, oneOf_map_eq_some_iff (by decide)]

theorem matchRange_eq_some_iff (hr : ∀ u ∈ r.head?, isNumberUnit u = false) :
    matchRange s = some (cond, r)
      ↔ ∃ fn tz a b, IsKey tz ∧ IsNumber a ∧ IsNumber b ∧ cond = ⟨fn, tz, .range, [], a, b⟩
        ∧ s = rangeText fn tz a b ++ r := by
  simp only [matchRange, Option.bind_eq_bind, Option.bind_eq_some_iff, expect_eq_some_iff,
    Prod.exists, oneOf_timeFuncs, callKey_eq_some_iff, number_eq_some_iff, Option.pure_def,
    Option.some.injEq, Prod.mk.injEq]
  constructor
  · rintro ⟨fn, s₁, rfl, tz, s₂, ⟨htz, rfl⟩, s₃, rfl, a, s₄, ⟨ha, rfl, -⟩, s₅, rfl, s₆, rfl,
      b, s₇, ⟨hb, rfl, -⟩, rfl, rfl⟩
    exact ⟨fn, tz, a, b, htz, ha, hb, rfl, by simp [rangeText, callText]⟩
  · rintro ⟨fn, tz, a, b, htz, ha, hb, rfl, rfl⟩
    refine ⟨fn, _, ?_, tz, _, ⟨htz, rfl⟩, _, rfl, a, _, ⟨ha, rfl, ?_⟩, _, rfl, _, rfl,
      b, r, ⟨hb, rfl, hr⟩, rfl, rfl⟩
    · simp [rangeText, callText]
    · exact show ∀ u ∈ (js " || ").head?, isNumberUnit u = false from forall_head (by decide)

theorem matchWholeRange_eq_some_iff :
    matchWholeRange s = some cond
      ↔ ∃ fn tz a b, IsKey tz ∧ IsNumber a ∧ IsNumber b ∧ cond = ⟨fn, tz, .range, [], a, b⟩
        ∧ s = rangeText fn tz a b := by
  simp only [matchWholeRange, Option.bind_eq_bind, Option.bind_eq_some_iff, Prod.exists,
    ended_eq_some_iff, Option.pure_def, Option.some.injEq]
  constructor
  · rintro ⟨cond, r, hmatch, ⟨⟩, rfl, rfl⟩
    simpa using (matchRange_eq_some_iff (by simp)).mp hmatch
  · intro h
    exact ⟨cond, [], (matchRange_eq_some_iff (by simp)).mpr (by simpa using h), ⟨⟩, rfl, rfl⟩

theorem matchWrappedRange_eq_some_iff :
    matchWrappedRange s = some cond
      ↔ ∃ fn tz a b, IsKey tz ∧ IsNumber a ∧ IsNumber b ∧ cond = ⟨fn, tz, .range, [], a, b⟩
        ∧ s = js "(" ++ rangeText fn tz a b ++ js ")" := by
  have hclose : ∀ u ∈ (js ")").head?, isNumberUnit u = false := forall_head (by decide)
  simp only [matchWrappedRange, Option.bind_eq_bind, Option.bind_eq_some_iff, Prod.exists,
    expect_eq_some_iff, ended_eq_some_iff, Option.pure_def, Option.some.injEq]
  constructor
  · rintro ⟨s, rfl, cond, r, hmatch, t, rfl, ⟨⟩, rfl, rfl⟩
    rw [List.append_nil] at hmatch
    obtain ⟨fn, tz, a, b, htz, ha, hb, rfl, rfl⟩ := (matchRange_eq_some_iff hclose).mp hmatch
    exact ⟨fn, tz, a, b, htz, ha, hb, rfl, by simp⟩
  · rintro ⟨fn, tz, a, b, htz, ha, hb, rfl, rfl⟩
    refine ⟨_, List.append_assoc _ _ _, _, js ")", ?_, [], rfl, ⟨⟩, rfl, rfl⟩
    exact (matchRange_eq_some_iff hclose).mpr ⟨fn, tz, a, b, htz, ha, hb, rfl, rfl⟩

theorem matchTimeCompare_eq_some_iff :
    matchTimeCompare s = some cond
      ↔ ∃ fn tz mode v, IsKey tz ∧ mode ∈ [MatchMode.eq, .gte, .lt] ∧ IsNumber v
        ∧ cond = ⟨fn, tz, mode, v, [], []⟩ ∧ s = timeText fn tz mode v := by
  simp only [matchTimeCompare, Option.bind_eq_bind, Option.bind_eq_some_iff, expect_eq_some_iff,
    Prod.exists, oneOf_timeFuncs, oneOf_timeOps, callKey_eq_some_iff, number_eq_some_iff,
    ended_eq_some_iff, Option.pure_def, Option.some.injEq]
  constructor
  · rintro ⟨fn, s₁, rfl, tz, s₂, ⟨htz, rfl⟩, s₃, rfl, mode, s₄, ⟨hmode, rfl⟩, v, s₅,
      ⟨hv, rfl, -⟩, ⟨⟩, rfl, rfl⟩
    exact ⟨fn, tz, mode, v, htz, hmode, hv, rfl, by simp [timeText, callText]⟩
  · rintro ⟨fn, tz, mode, v, htz, hmode, hv, rfl, rfl⟩
    refine ⟨fn, _, ?_, tz, _, ⟨htz, rfl⟩, _, rfl, mode, v, ⟨hmode, rfl⟩, v, [],
      ⟨hv, by simp, by simp⟩, ⟨⟩, rfl, rfl⟩
    simp [timeText, callText]

theorem matchExists_eq_some_iff :
    (matchHeaderExists s = some path ↔ IsKey path ∧ s = existsText .header path)
      ∧ (matchParamExists s = some path ↔ IsKey path ∧ s = existsText .param path) := by
  simp only [matchHeaderExists, matchParamExists, Option.bind_eq_bind, Option.bind_eq_some_iff,
    expect_eq_some_iff, Prod.exists, callKey_eq_some_iff, ended_eq_some_iff, Option.pure_def,
    Option.some.injEq]
  constructor
  all_goals
    constructor
    · rintro ⟨k, s₁, ⟨hk, rfl⟩, s₂, rfl, ⟨⟩, rfl, rfl⟩
      exact ⟨hk, by simp [existsText]⟩
    · rintro ⟨hk, rfl⟩
      exact ⟨path, _, ⟨hk, rfl⟩, [], by simp, ⟨⟩, rfl, rfl⟩

theorem matchHas_eq_some_iff :
    matchHas source s = some (path, text)
      ↔ IsKey path ∧ (∃ c, IsLiteral c ∧ text = quote :: (c ++ [quote]))
        ∧ s = hasText source path text := by
  simp only [matchHas, Option.bind_eq_bind, Option.bind_eq_some_iff, expect_eq_some_iff,
    Prod.exists, callKey_eq_some_iff, literal_eq_some_iff, ended_eq_some_iff, Option.pure_def,
    Option.some.injEq, Prod.mk.injEq]
  constructor
  · rintro ⟨k, s₁, ⟨hk, rfl⟩, s₂, rfl, t, s₃, ⟨c, hc, rfl, rfl⟩, s₄, rfl, ⟨⟩, rfl, rfl, rfl⟩
    exact ⟨hk, ⟨c, hc, rfl⟩, by simp [hasText]⟩
  · rintro ⟨hk, ⟨c, hc, rfl⟩, rfl⟩
    refine ⟨path, _, ⟨hk, ?_⟩, _, rfl, _, js ")", ⟨c, hc, rfl, rfl⟩, [], rfl, ⟨⟩, rfl, rfl, rfl⟩
    simp [hasText]

theorem matchParamContains_eq_some_iff :
    matchParamContains s = some (path, text)
      ↔ IsKey path ∧ (∃ c, IsLiteral c ∧ text = quote :: (c ++ [quote]))
        ∧ s = containsText .param path text := by
  simp only [matchParamContains, Option.bind_eq_bind, Option.bind_eq_some_iff, expect_eq_some_iff,
    Prod.exists, callKey_eq_some_iff, matchHas_eq_some_iff, Option.pure_def]
  constructor
  · rintro ⟨k, s₁, ⟨hk, rfl⟩, s₂, rfl, k', t, ⟨-, hc, rfl⟩, h⟩
    split at h
    · rename_i hkk
      cases h
      subst hkk
      exact ⟨hk, hc, by simp [containsText]⟩
    · cases h
  · rintro ⟨hk, hc, rfl⟩
    refine ⟨path, _, ⟨hk, ?_⟩, _, rfl, path, text, ⟨hk, hc, rfl⟩, if_pos rfl⟩
    simp [containsText]

theorem matchParamCompare_eq_some_iff {cond : ParamHeaderCondition} :
    matchParamCompare s = some cond
      ↔ ∃ path mode v, IsKey path ∧ mode ∈ [MatchMode.gt, .gte, .lt, .lte] ∧ IsNumber v
        ∧ cond = ⟨.param, path, mode, v⟩ ∧ s = compareText path mode v := by
  simp only [matchParamCompare, Option.bind_eq_bind, Option.bind_eq_some_iff, expect_eq_some_iff,
    Prod.exists, callKey_eq_some_iff, oneOf_compareOps, number_eq_some_iff, ended_eq_some_iff,
    Option.pure_def]
  constructor
  · rintro ⟨k, s₁, ⟨hk, rfl⟩, s₂, rfl, k', s₃, ⟨-, rfl⟩, s₄, rfl, mode, s₅, ⟨hmode, rfl⟩, v, s₆,
      ⟨hv, rfl, -⟩, ⟨⟩, rfl, h⟩
    split at h
    · rename_i hkk
      cases h
      subst hkk
      exact ⟨k, mode, v, hk, hmode, hv, rfl, by simp [compareText]⟩
    · cases h
  · rintro ⟨path, mode, v, hk, hmode, hv, rfl, rfl⟩
    refine ⟨path, _, ⟨hk, ?_⟩, _, rfl, path, _, ⟨hk, rfl⟩, _, rfl, mode, v, ⟨hmode, rfl⟩, v, [],
      ⟨hv, by simp, by simp⟩, ⟨⟩, rfl, if_pos rfl⟩
    simp [compareText]

theorem matchEq_eq_some_iff :
    matchEq source s = some (path, raw)
      ↔ IsKey path ∧ raw ≠ [] ∧ raw.all (fun u => !isLineTerminator u) = true
        ∧ s = eqText source path raw := by
  simp only [matchEq, Option.bind_eq_bind, Option.bind_eq_some_iff, expect_eq_some_iff,
    Prod.exists, callKey_eq_some_iff, Option.pure_def]
  constructor
  · rintro ⟨k, s₁, ⟨hk, rfl⟩, r, rfl, h⟩
    split at h
    · rename_i hr
      cases h
      exact ⟨hk, hr.1, hr.2, by simp [eqText]⟩
    · cases h
  · rintro ⟨hk, hne, hline, rfl⟩
    refine ⟨path, _, ⟨hk, ?_⟩, raw, rfl, if_pos ⟨hne, hline⟩⟩
    simp [eqText]

/-! ## No text has two readings -/

theorem timeFunc_inj (h : fn.name ++ x = fn'.name ++ y) :
    fn = fn' ∧ x = y := by
  have h₁ : oneOf timeFuncs (fn.name ++ x) = some (fn, x) := oneOf_timeFuncs.mpr rfl
  have h₂ : oneOf timeFuncs (fn.name ++ x) = some (fn', y) := oneOf_timeFuncs.mpr h
  simpa [h₁] using h₂

theorem callText_inj (hk : IsKey k) (hk' : IsKey k')
    (h : callText name k ++ x = callText name k' ++ y) : k = k' ∧ x = y := by
  have h₁ := callKey_callText hk name x
  have h₂ := callKey_callText hk' name y
  rw [h, h₂] at h₁
  simpa [eq_comm] using h₁

theorem callText_fn_inj (hk : IsKey k) (hk' : IsKey k')
    (h : callText fn.name k ++ x = callText fn'.name k' ++ y) : fn = fn' ∧ k = k' ∧ x = y := by
  rw [callText_name, callText_name fn'.name, List.append_assoc, List.append_assoc] at h
  obtain ⟨rfl, hrest⟩ := timeFunc_inj h
  exact ⟨rfl, callText_inj hk hk' hrest⟩

theorem rangeText_ne_timeText {tz tz' a b v : JsString} (htz : IsKey tz) (htz' : IsKey tz')
    (hv : IsNumber v) (hmode : mode ∈ [MatchMode.eq, .gte, .lt]) :
    rangeText fn tz a b ≠ timeText fn' tz' mode v := by
  intro h
  simp only [rangeText, timeText, List.append_assoc] at h
  obtain ⟨-, -, hrest⟩ := callText_fn_inj htz htz' h
  have hop : ∀ mode ∈ [MatchMode.eq, .gte, .lt], mode ≠ .gte →
      Clash (js " >= ") (js " " ++ timeOp mode ++ js " ") := by decide
  by_cases hgte : mode = .gte
  · subst hgte
    have hv' : v = a ++ (js " || " ++ (callText fn.name tz ++ (js " < " ++ b))) := by
      have h' : js " >= " ++ (a ++ (js " || " ++ (callText fn.name tz ++ (js " < " ++ b))))
          = js " >= " ++ v := hrest
      exact (List.append_cancel_left h').symm
    have hspace : (0x20 : UInt16) ∈ v := by
      rw [hv', List.mem_append, List.mem_append]
      exact Or.inr (Or.inl (by decide))
    exact absurd (hv.2 _ hspace) (by decide)
  · refine (hop mode hmode hgte).not_both (X := js " " ++ (timeOp mode ++ (js " " ++ v))) ?_ ?_
    · rw [← hrest]
      exact List.prefix_append _ _
    · exact ⟨v, by simp⟩

theorem name_prefix_rangeText (fn : TimeFunc) (tz a b : JsString) :
    fn.name <+: rangeText fn tz a b := by
  simp only [rangeText, callText, List.append_assoc]
  exact List.prefix_append _ _

theorem name_prefix_timeText (fn : TimeFunc) (tz : JsString) (mode : MatchMode) (v : JsString) :
    fn.name <+: timeText fn tz mode v := by
  simp only [timeText, callText, List.append_assoc]
  exact List.prefix_append _ _

theorem not_name_and_paren {fn : TimeFunc} {s : JsString} (hname : fn.name <+: s)
    (hparen : js "(" <+: s) : False := by
  have hclash : Clash fn.name (js "(") := by cases fn <;> decide
  exact hclash.not_both hname hparen

theorem tryParseTimeCondition_eq_some_iff :
    tryParseTimeCondition s = some cond ↔ ReadsTime cond s := by
  constructor
  · intro h
    rcases hwhole : matchWholeRange s with _ | c
    · rcases hwrap : matchWrappedRange s with _ | c
      · simp only [tryParseTimeCondition, hwhole, hwrap] at h
        obtain ⟨fn, tz, mode, v, htz, hmode, hv, rfl, rfl⟩ := matchTimeCompare_eq_some_iff.mp h
        exact .compare htz hmode hv
      · obtain ⟨fn, tz, a, b, htz, ha, hb, rfl, rfl⟩ := matchWrappedRange_eq_some_iff.mp hwrap
        simp only [tryParseTimeCondition, hwhole, hwrap] at h
        cases h
        exact .wrapped htz ha hb
    · obtain ⟨fn, tz, a, b, htz, ha, hb, rfl, rfl⟩ := matchWholeRange_eq_some_iff.mp hwhole
      simp only [tryParseTimeCondition, hwhole] at h
      cases h
      exact .range htz ha hb
  · intro h
    cases h with
    | @range fn tz a b htz ha hb =>
      have hwhole := matchWholeRange_eq_some_iff.mpr ⟨fn, tz, a, b, htz, ha, hb, rfl, rfl⟩
      rw [tryParseTimeCondition, hwhole]
      rfl
    | @wrapped fn tz a b htz ha hb =>
      have hwhole : matchWholeRange (js "(" ++ rangeText fn tz a b ++ js ")") = none := by
        refine Option.eq_none_iff_forall_ne_some.mpr ?_
        rintro c hc
        obtain ⟨fn', tz', a', b', -, -, -, -, heq⟩ := matchWholeRange_eq_some_iff.mp hc
        refine not_name_and_paren (name_prefix_rangeText fn' tz' a' b') ?_
        rw [← heq, List.append_assoc]
        exact List.prefix_append _ _
      have hwrap := matchWrappedRange_eq_some_iff.mpr ⟨fn, tz, a, b, htz, ha, hb, rfl, rfl⟩
      rw [tryParseTimeCondition, hwhole, hwrap]
      rfl
    | @compare fn tz v mode htz hmode hv =>
      have hwhole : matchWholeRange (timeText fn tz mode v) = none := by
        refine Option.eq_none_iff_forall_ne_some.mpr ?_
        rintro c hc
        obtain ⟨fn', tz', a', b', htz', -, -, -, heq⟩ := matchWholeRange_eq_some_iff.mp hc
        exact rangeText_ne_timeText htz' htz hv hmode heq.symm
      have hwrap : matchWrappedRange (timeText fn tz mode v) = none := by
        refine Option.eq_none_iff_forall_ne_some.mpr ?_
        rintro c hc
        obtain ⟨fn', tz', a', b', -, -, -, -, heq⟩ := matchWrappedRange_eq_some_iff.mp hc
        refine not_name_and_paren (name_prefix_timeText fn tz mode v) ?_
        rw [heq, List.append_assoc]
        exact List.prefix_append _ _
      have hcompare :=
        matchTimeCompare_eq_some_iff.mpr ⟨fn, tz, mode, v, htz, hmode, hv, rfl, rfl⟩
      rw [tryParseTimeCondition, hwhole, hwrap, hcompare]
      rfl

theorem others_of_param (k r : JsString) :
    matchHeaderExists (callText (js "param") k ++ r) = none
      ∧ matchHas .header (callText (js "param") k ++ r) = none
      ∧ matchEq .header (callText (js "param") k ++ r) = none := by
  have hheader : callKey (js "header") (callText (js "param") k ++ r) = none :=
    callKey_clash (by decide) k r
  have hhas : callKey (js "has(" ++ RuleSource.header.name) (callText (js "param") k ++ r) = none :=
    callKey_clash (by decide) k r
  refine ⟨?_, ?_, ?_⟩
  · simp [matchHeaderExists, hheader]
  · simp [matchHas, hhas]
  · simp [matchEq, RuleSource.name, hheader]

theorem others_of_header (k r : JsString) :
    matchParamExists (callText (js "header") k ++ r) = none
      ∧ matchHas .header (callText (js "header") k ++ r) = none
      ∧ matchParamContains (callText (js "header") k ++ r) = none
      ∧ matchParamCompare (callText (js "header") k ++ r) = none
      ∧ matchEq .param (callText (js "header") k ++ r) = none := by
  have hparam : callKey (js "param") (callText (js "header") k ++ r) = none :=
    callKey_clash (by decide) k r
  have hhas : callKey (js "has(" ++ RuleSource.header.name) (callText (js "header") k ++ r) = none :=
    callKey_clash (by decide) k r
  refine ⟨?_, ?_, ?_, ?_, ?_⟩
  · simp [matchParamExists, hparam]
  · simp [matchHas, hhas]
  · simp [matchParamContains, hparam]
  · simp [matchParamCompare, hparam]
  · simp [matchEq, RuleSource.name, hparam]

theorem others_of_has (k r : JsString) :
    matchHeaderExists (callText (js "has(" ++ RuleSource.header.name) k ++ r) = none
      ∧ matchParamExists (callText (js "has(" ++ RuleSource.header.name) k ++ r) = none := by
  have hheader : callKey (js "header") (callText (js "has(" ++ RuleSource.header.name) k ++ r)
      = none := callKey_clash (by decide) k r
  have hparam : callKey (js "param") (callText (js "has(" ++ RuleSource.header.name) k ++ r)
      = none := callKey_clash (by decide) k r
  refine ⟨?_, ?_⟩
  · simp [matchHeaderExists, hheader]
  · simp [matchParamExists, hparam]

theorem matchParamExists_longer (hk : IsKey k) (r : JsString) :
    matchParamExists (callText (js "param") k ++ (js " != nil && " ++ r)) = none := by
  have hexpect : expect (js " != nil") (js " != nil && " ++ r) = some (js " && " ++ r) := by
    rw [show js " != nil && " = js " != nil" ++ js " && " by decide, List.append_assoc]
    exact expect_append _ _
  have hended : ended (js " && " ++ r) = none := rfl
  simp [matchParamExists, callKey_callText hk, hexpect, hended]

variable {composite : JsString → Option JsString}

theorem parseContains_of_parseString (h : parseString text = some value) :
    parseContains source path text = .ok (some ⟨source, path, .contains, value⟩) := by
  rw [parseContains, h]

theorem tryParse_existsText (hpath : IsKey path) :
    tryParseParamHeaderCondition composite (existsText source path)
      = .ok (some ⟨source, path, .exists, []⟩) := by
  cases source with
  | header =>
    have hown := matchExists_eq_some_iff.1.mpr ⟨hpath, rfl⟩
    simp only [tryParseParamHeaderCondition, hown]
  | param =>
    obtain ⟨hheader, -, -⟩ := others_of_param path (js " != nil")
    have hown := matchExists_eq_some_iff.2.mpr ⟨hpath, rfl⟩
    rw [tryParseParamHeaderCondition, hown]
    simp only [existsText, hheader]

theorem tryParse_containsText (hpath : IsKey path) (htext : parseString text = some value) :
    tryParseParamHeaderCondition composite (containsText source path text)
      = .ok (some ⟨source, path, .contains, value⟩) := by
  have hlit := isLiteral_of_parseString htext
  cases source with
  | header =>
    have hown : matchHas .header (containsText .header path text) = some (path, text) :=
      matchHas_eq_some_iff.mpr ⟨hpath, hlit, rfl⟩
    have hform : containsText .header path text
        = callText (js "has(" ++ RuleSource.header.name) path ++ (js ", " ++ text ++ js ")") := by
      simp [containsText, hasText]
    obtain ⟨hheader, hparam⟩ := others_of_has path (js ", " ++ text ++ js ")")
    rw [← hform] at hheader hparam
    simp only [tryParseParamHeaderCondition, hheader, hparam, hown]
    exact parseContains_of_parseString htext
  | param =>
    have hown : matchParamContains (containsText .param path text) = some (path, text) :=
      matchParamContains_eq_some_iff.mpr ⟨hpath, hlit, rfl⟩
    have hform : containsText .param path text
        = callText (js "param") path ++ (js " != nil && " ++ hasText .param path text) := by
      simp only [containsText, List.append_assoc]
    obtain ⟨hheader, hhas, -⟩ :=
      others_of_param path (js " != nil && " ++ hasText .param path text)
    have hexists := matchParamExists_longer hpath (hasText .param path text)
    rw [← hform] at hheader hhas hexists
    simp only [tryParseParamHeaderCondition, hheader, hexists, hhas, hown]
    exact parseContains_of_parseString htext

theorem tryParse_compareText {v : JsString} (hpath : IsKey path)
    (hmode : mode ∈ [MatchMode.gt, .gte, .lt, .lte]) (hv : IsNumber v) :
    tryParseParamHeaderCondition composite (compareText path mode v)
      = .ok (some ⟨.param, path, mode, v⟩) := by
  have hown : matchParamCompare (compareText path mode v) = some ⟨.param, path, mode, v⟩ :=
    matchParamCompare_eq_some_iff.mpr ⟨path, mode, v, hpath, hmode, hv, rfl, rfl⟩
  have hform : compareText path mode v = callText (js "param") path ++ (js " != nil && "
      ++ (callText (js "param") path ++ (js " " ++ compareOp mode ++ js " " ++ v))) := by
    simp only [compareText, List.append_assoc]
  obtain ⟨hheader, hhas, -⟩ := others_of_param path (js " != nil && "
    ++ (callText (js "param") path ++ (js " " ++ compareOp mode ++ js " " ++ v)))
  have hexists := matchParamExists_longer hpath
    (callText (js "param") path ++ (js " " ++ compareOp mode ++ js " " ++ v))
  have hcontains : matchParamContains (compareText path mode v) = none := by
    have hclash : callKey (js "has(" ++ RuleSource.param.name)
        (callText (js "param") path ++ (js " " ++ compareOp mode ++ js " " ++ v)) = none :=
      callKey_clash (by decide) path _
    rw [hform]
    simp only [matchParamContains, callKey_callText hpath, Option.bind_eq_bind, Option.bind_some,
      expect_append, matchHas, hclash, Option.bind_none]
  rw [← hform] at hheader hhas hexists
  simp only [tryParseParamHeaderCondition, hheader, hexists, hhas, hcontains, hown]

theorem tryParse_eqText (hpath : IsKey path) (hne : raw ≠ [])
    (hline : raw.all (fun u => !isLineTerminator u) = true) :
    tryParseParamHeaderCondition composite (eqText source path raw)
      = .ok ((parseExprLiteral composite raw).map (fun value => ⟨source, path, .eq, value⟩)) := by
  have hown : matchEq source (eqText source path raw) = some (path, raw) :=
    matchEq_eq_some_iff.mpr ⟨hpath, hne, hline, rfl⟩
  cases source with
  | param =>
    have hform : eqText .param path raw = callText (js "param") path ++ (js " == " ++ raw) := by
      simp only [eqText, RuleSource.name, List.append_assoc]
    obtain ⟨hheader, hhas, -⟩ := others_of_param path (js " == " ++ raw)
    have hnil : expect (js " != nil && ") (js " == " ++ raw) = none := expect_clash (by decide) raw
    have hexists : matchParamExists (eqText .param path raw) = none := by
      rw [hform]
      simp [matchParamExists, callKey_callText hpath,
        expect_clash (show Clash (js " != nil") (js " == ") by decide) raw]
    have hcontains : matchParamContains (eqText .param path raw) = none := by
      rw [hform]
      simp [matchParamContains, callKey_callText hpath, hnil]
    have hcompare : matchParamCompare (eqText .param path raw) = none := by
      rw [hform]
      simp [matchParamCompare, callKey_callText hpath, hnil]
    rw [← hform] at hheader hhas
    simp only [tryParseParamHeaderCondition, hheader, hexists, hhas, hcontains, hcompare, hown]
  | header =>
    have hform : eqText .header path raw = callText (js "header") path ++ (js " == " ++ raw) := by
      simp only [eqText, RuleSource.name, List.append_assoc]
    obtain ⟨hexists, hhas, hcontains, hcompare, hparam⟩ :=
      others_of_header path (js " == " ++ raw)
    have hheader : matchHeaderExists (eqText .header path raw) = none := by
      rw [hform]
      simp [matchHeaderExists, callKey_callText hpath,
        expect_clash (show Clash (js " != \"\"") (js " == ") by decide) raw]
    rw [← hform] at hexists hhas hcontains hcompare hparam
    simp only [tryParseParamHeaderCondition, hheader, hexists, hhas, hcontains, hcompare, hparam,
      hown]

theorem reads_of_parseContains {cond : ParamHeaderCondition} (hpath : IsKey path)
    (h : parseContains source path text = .ok (some cond)) :
    ReadsRequest composite cond (containsText source path text) := by
  unfold parseContains at h
  split at h
  · rename_i value hvalue
    cases h
    exact .contains hpath hvalue
  · cases h

theorem reads_of_eqText {cond : ParamHeaderCondition} (hpath : IsKey path) (hne : raw ≠ [])
    (hline : raw.all (fun u => !isLineTerminator u) = true)
    (h : (parseExprLiteral composite raw).map (fun value => ⟨source, path, .eq, value⟩)
      = some cond) :
    ReadsRequest composite cond (eqText source path raw) := by
  obtain ⟨value, hvalue, rfl⟩ := Option.map_eq_some_iff.mp h
  exact .eq hpath hne hline hvalue

theorem tryParseParamHeaderCondition_eq_ok_iff {cond : ParamHeaderCondition} :
    tryParseParamHeaderCondition composite s = .ok (some cond)
      ↔ ReadsRequest composite cond s := by
  constructor
  · intro h
    unfold tryParseParamHeaderCondition at h
    split at h
    · rename_i path hmatch
      obtain ⟨hpath, rfl⟩ := matchExists_eq_some_iff.1.mp hmatch
      cases h
      exact .exists hpath
    split at h
    · rename_i path hmatch
      obtain ⟨hpath, rfl⟩ := matchExists_eq_some_iff.2.mp hmatch
      cases h
      exact .exists hpath
    split at h
    · rename_i path text hmatch
      obtain ⟨hpath, -, rfl⟩ := matchHas_eq_some_iff.mp hmatch
      exact reads_of_parseContains hpath h
    split at h
    · rename_i path text hmatch
      obtain ⟨hpath, -, rfl⟩ := matchParamContains_eq_some_iff.mp hmatch
      exact reads_of_parseContains hpath h
    split at h
    · rename_i c hmatch
      obtain ⟨path, mode, v, hpath, hmode, hv, rfl, rfl⟩ := matchParamCompare_eq_some_iff.mp hmatch
      cases h
      exact .compare hpath hmode hv
    split at h
    · rename_i path raw hmatch
      obtain ⟨hpath, hne, hline, rfl⟩ := matchEq_eq_some_iff.mp hmatch
      exact reads_of_eqText hpath hne hline (Except.ok.inj h)
    split at h
    · rename_i path raw hmatch
      obtain ⟨hpath, hne, hline, rfl⟩ := matchEq_eq_some_iff.mp hmatch
      exact reads_of_eqText hpath hne hline (Except.ok.inj h)
    · cases h
  · intro h
    cases h with
    | «exists» hpath => exact tryParse_existsText hpath
    | contains hpath htext => exact tryParse_containsText hpath htext
    | compare hpath hmode hv => exact tryParse_compareText hpath hmode hv
    | eq hpath hne hline hraw => rw [tryParse_eqText hpath hne hline, hraw]; rfl

/-! ## Time and requests -/

theorem ReadsTime.head (h : ReadsTime cond s) :
    ∃ p ∈ js "(" :: timeFuncs.map Prod.fst, p <+: s := by
  have hfn : ∀ fn : TimeFunc, fn.name ∈ js "(" :: timeFuncs.map Prod.fst := by
    intro fn
    cases fn <;> decide
  cases h with
  | @range fn tz a b htz ha hb => exact ⟨fn.name, hfn fn, name_prefix_rangeText fn tz a b⟩
  | @wrapped fn tz a b htz ha hb =>
    refine ⟨js "(", List.mem_cons_self, ?_⟩
    rw [List.append_assoc]
    exact List.prefix_append _ _
  | @compare fn tz v mode htz hmode hv => exact ⟨fn.name, hfn fn, name_prefix_timeText fn tz mode v⟩

theorem ReadsRequest.head {cond : ParamHeaderCondition} (h : ReadsRequest composite cond s) :
    ∃ p ∈ [js "param(\"", js "header(\"", js "has("], p <+: s := by
  have hcall : ∀ (source : RuleSource) (k r : JsString),
      ∃ p ∈ [js "param(\"", js "header(\"", js "has("], p <+: callText source.name k ++ r := by
    intro source k r
    refine ⟨source.name ++ js "(\"", by cases source <;> decide, ?_⟩
    exact ⟨k ++ js "\")" ++ r, by simp [callText]⟩
  cases h with
  | @«exists» source path hpath =>
    cases source with
    | header => exact hcall .header path _
    | param => exact hcall .param path _
  | @contains source path text value hpath htext =>
    cases source with
    | header =>
      refine ⟨js "has(", by decide, ?_⟩
      simp only [containsText, hasText, callText, List.append_assoc]
      exact List.prefix_append _ _
    | param =>
      rw [containsText, List.append_assoc]
      exact hcall .param path _
  | @compare path v mode hpath hmode hv =>
    simp only [compareText, List.append_assoc]
    exact hcall .param path _
  | @eq source path raw value hpath hne hline hraw =>
    simp only [eqText, List.append_assoc]
    exact hcall source path _

/-- **What the reader of conditions reads.** -/
theorem tryParseRequestCondition_eq_ok_iff {cond : RequestCondition} :
    tryParseRequestCondition composite s = .ok (some cond) ↔ Reads composite cond s := by
  constructor
  · intro h
    unfold tryParseRequestCondition at h
    split at h
    · rename_i c hc
      cases h
      exact tryParseTimeCondition_eq_some_iff.mp hc
    · cases hc : tryParseParamHeaderCondition composite s with
      | error e => rw [hc] at h; cases h
      | ok c =>
        rw [hc] at h
        obtain ⟨c, rfl, rfl⟩ := Option.map_eq_some_iff.mp (Except.ok.inj h)
        exact tryParseParamHeaderCondition_eq_ok_iff.mp hc
  · intro h
    cases cond with
    | time cond =>
      rw [tryParseRequestCondition, tryParseTimeCondition_eq_some_iff.mpr h]
    | request cond =>
      have htime : tryParseTimeCondition s = none := by
        refine Option.eq_none_iff_forall_ne_some.mpr ?_
        intro c hc
        obtain ⟨p, hp, hps⟩ := (tryParseTimeCondition_eq_some_iff.mp hc).head
        obtain ⟨q, hq, hqs⟩ := ReadsRequest.head h
        have hclash : ∀ p ∈ js "(" :: timeFuncs.map Prod.fst,
            ∀ q ∈ [js "param(\"", js "header(\"", js "has("], Clash p q := by decide
        exact (hclash p hp q hq).not_both hps hqs
      rw [tryParseRequestCondition, htime, tryParseParamHeaderCondition_eq_ok_iff.mpr h]
      rfl

end YouBox
