import YouBox.RuleReads

/-!
# Whether a condition is read back as it was written

The writer quotes keys and timezones by `JSON.stringify`, but the reader takes what
is between the quotes as it stands. A value that is compared is read back by
`JSON.parse`, if it is on one line. One of several conditions that has ` || ` in its
text is put in brackets, and in brackets only a range is read.

`Writes` is what the writer makes of a condition in normal form. `reads_writes` goes
through the modes once: where the text of a condition is read as that condition, it
is the text that was written, whatever follows, and nothing in it was escaped
(`RequestCondition.Readable`). `reads_groupText` and `reads_of_readBack` say the same
of a condition in its group.
-/

namespace YouBox

open JsText TopSplit

/-! ## Normal forms -/

/-- The condition as the reader returns it: fields that the mode does not use are
empty, texts are trimmed. -/
def TimeCondition.canonical (cond : TimeCondition) : TimeCondition :=
  let cond := cond.normalize
  if cond.mode = .range then
    { cond with value := [], rangeStart := trim cond.rangeStart, rangeEnd := trim cond.rangeEnd }
  else { cond with value := trim cond.value, rangeStart := [], rangeEnd := [] }

def ParamHeaderCondition.canonical (cond : ParamHeaderCondition) : ParamHeaderCondition :=
  let cond := cond.normalize
  { cond with
    path := trim cond.path
    value := if cond.mode = .exists then [] else trim cond.value }

def RequestCondition.canonical : RequestCondition → RequestCondition
  | .time cond => .time cond.canonical
  | .request cond => .request cond.canonical

def RequestRuleGroup.canonical (group : RequestRuleGroup) : RequestRuleGroup :=
  ⟨group.conditions.map RequestCondition.canonical, trim group.multiplier⟩

/-- The writer leaves nothing of the group out. -/
def RequestRuleGroup.Valid (group : RequestRuleGroup) : Prop :=
  isNumericLiteral (trim group.multiplier) = true ∧ group.conditions ≠ []
    ∧ ∀ c ∈ group.conditions, buildRequestConditionExpr c ≠ []

instance (group : RequestRuleGroup) : Decidable group.Valid :=
  inferInstanceAs (Decidable (_ ∧ _ ∧ _))

/-- How a condition in normal form is written. -/
inductive Writes : RequestCondition → JsString → Prop
  | range {fn : TimeFunc} {tz s e : JsString} (htz : tz ≠ []) (hs : IsNumber s)
      (he : IsNumber e) :
      Writes (.time ⟨fn, tz, .range, [], s, e⟩) (rangeText fn (escape tz) s e)
  | time {fn : TimeFunc} {tz v : JsString} {mode : MatchMode} (htz : tz ≠ [])
      (hmode : mode ∈ [MatchMode.eq, .gte, .lt]) (hv : IsNumber v) :
      Writes (.time ⟨fn, tz, mode, v, [], []⟩) (timeText fn (escape tz) mode v)
  | exists {source : RuleSource} {path : JsString} (hpath : path ≠ []) :
      Writes (.request ⟨source, path, .exists, []⟩) (existsText source (escape path))
  | contains {source : RuleSource} {path value : JsString} (hpath : path ≠ []) :
      Writes (.request ⟨source, path, .contains, value⟩)
        (containsText source (escape path) (stringify value))
  | compare {path v : JsString} {mode : MatchMode} (hpath : path ≠ [])
      (hmode : mode ∈ [MatchMode.gt, .gte, .lt, .lte]) (hv : IsNumber v) :
      Writes (.request ⟨.param, path, mode, v⟩) (compareText (escape path) mode v)
  | eq {source : RuleSource} {path value : JsString} (hpath : path ≠ [])
      (hvalue : trim value = value) :
      Writes (.request ⟨source, path, .eq, value⟩)
        (eqText source (escape path) (buildExprLiteral .eq value))

theorem trim_trim (s : JsString) : trim (trim s) = trim s := trimBy_trimBy s

theorem buildExprLiteral_trim (mode : MatchMode) (value : JsString) :
    buildExprLiteral mode (trim value) = buildExprLiteral mode value := by
  simp only [buildExprLiteral, trim_trim]

theorem callText_stringify (name k : JsString) :
    name ++ js "(" ++ stringify k ++ js ")" = callText name (escape k) := by
  have hopen : js "(\"" = js "(" ++ [quote] := by decide
  have hclose : js "\")" = quote :: js ")" := by decide
  simp [callText, stringify, hopen, hclose]

theorem TimeCondition.normalize_mode (cond : TimeCondition) :
    cond.normalize.mode = .range ∨ cond.normalize.mode ∈ [MatchMode.eq, .gte, .lt] := by
  have hoptions : ∀ mode ∈ timeMatchOptions, mode = .range ∨ mode ∈ [MatchMode.eq, .gte, .lt] := by
    decide
  simp only [TimeCondition.normalize]
  split
  · rename_i hmem
    exact hoptions _ hmem
  · exact Or.inr (by decide)

theorem TimeCondition.normalize_timezone (cond : TimeCondition) : cond.normalize.timezone ≠ [] := by
  simp only [TimeCondition.normalize]
  split
  · decide
  · assumption

theorem writes_time {cond : TimeCondition} (h : buildTimeConditionExpr cond ≠ []) :
    Writes (.time cond.canonical) (buildTimeConditionExpr cond) := by
  have htz := cond.normalize_timezone
  unfold buildTimeConditionExpr at h ⊢
  unfold TimeCondition.canonical
  simp only [callText_stringify] at h ⊢
  split
  · rename_i hrange
    rw [if_pos hrange] at h
    split at h
    · exact absurd rfl h
    · rename_i hnum
      rw [if_neg hnum]
      simp only [Bool.or_eq_true, Bool.not_eq_true', not_or, Bool.not_eq_false] at hnum
      rw [show cond.normalize.mode = .range from hrange]
      exact .range htz (isNumber_of_isNumericLiteral hnum.1) (isNumber_of_isNumericLiteral hnum.2)
  · rename_i hrange
    rw [if_neg hrange] at h
    split at h
    · exact absurd rfl h
    · rename_i hnum
      rw [if_neg hnum]
      simp only [Bool.not_eq_true', Bool.not_eq_false] at hnum
      have hmode := cond.normalize_mode.resolve_left hrange
      exact .time htz hmode (isNumber_of_isNumericLiteral hnum)

theorem ParamHeaderCondition.normalize_mode (cond : ParamHeaderCondition) :
    cond.normalize.mode ∈ cond.normalize.source.matchOptions := by
  simp only [ParamHeaderCondition.normalize]
  split
  · assumption
  · cases cond.source <;> decide

theorem has_callText (name k : JsString) :
    js "has(" ++ callText name k = callText (js "has(" ++ name) k := by
  simp [callText]

variable {value : JsString} {c : RequestCondition} {X : JsString} {n : RequestCondition}
  {a t : JsString}

variable {several : Bool} {path : JsString} {source : RuleSource}

theorem writes_compare {mode : MatchMode} (hmode : mode ∈ [MatchMode.gt, .gte, .lt, .lte])
    (hsource : mode ∈ source.matchOptions) (hpath : path ≠ [])
    (h : (if (!isNumericLiteral (trim value)) = true then [] else callText
      source.name (escape path) ++ js " != nil && " ++ callText source.name (escape path) ++ js " "
      ++ compareOp mode ++ js " " ++ trim value) ≠ []) :
    Writes (.request ⟨source, path, mode, trim value⟩)
      (if (!isNumericLiteral (trim value)) = true then []
      else callText source.name (escape path) ++ js " != nil && "
        ++ callText source.name (escape path) ++ js " " ++ compareOp mode ++ js " "
        ++ trim value) := by
  split at h
  · exact absurd rfl h
  · rename_i hnum
    rw [if_neg hnum]
    simp only [Bool.not_eq_true', Bool.not_eq_false] at hnum
    cases source with
    | param => exact .compare hpath hmode (isNumber_of_isNumericLiteral hnum)
    | header =>
      have hheader : ∀ mode ∈ [MatchMode.gt, .gte, .lt, .lte],
          mode ∉ RuleSource.header.matchOptions := by decide
      exact absurd hsource (hheader mode hmode)

theorem writes_request {cond : ParamHeaderCondition}
    (h : buildParamHeaderConditionExpr cond ≠ []) :
    Writes (.request cond.canonical) (buildParamHeaderConditionExpr cond) := by
  have hmode := cond.normalize_mode
  unfold buildParamHeaderConditionExpr at h ⊢
  unfold ParamHeaderCondition.canonical
  revert h hmode
  generalize cond.normalize = cond
  intro h hmode
  obtain ⟨source, path, mode, value⟩ := cond
  simp only [callText_stringify, has_callText] at h hmode ⊢
  split at h
  · exact absurd rfl h
  rename_i hpath
  rw [if_neg hpath]
  cases mode with
  | «exists» => cases source <;> exact .exists hpath
  | contains => cases source <;> exact .contains hpath
  | gt => exact writes_compare (by decide) hmode hpath h
  | gte => exact writes_compare (by decide) hmode hpath h
  | lt => exact writes_compare (by decide) hmode hpath h
  | lte => exact writes_compare (by decide) hmode hpath h
  | eq =>
    simp only
    rw [← buildExprLiteral_trim]
    exact .eq hpath (trim_trim value)
  | range => exact absurd hmode (by cases source <;> decide)
  | other => exact absurd hmode (by cases source <;> decide)

theorem writes_buildRequestConditionExpr (h : buildRequestConditionExpr c ≠ []) :
    Writes c.canonical (buildRequestConditionExpr c) := by
  cases c with
  | time cond => exact writes_time h
  | request cond => exact writes_request h

/-! ## One condition -/

/-- What the reader takes as it stands needs no escape, and what it matches by `.`
has no separator. -/
def RequestCondition.Readable : RequestCondition → Prop
  | .time cond => escape cond.timezone = cond.timezone
  | .request cond =>
    escape cond.path = cond.path ∧ (cond.mode = .eq → hasSeparator cond.value = false)

instance (c : RequestCondition) : Decidable c.Readable :=
  match c with
  | .time cond => inferInstanceAs (Decidable (escape cond.timezone = cond.timezone))
  | .request cond =>
    inferInstanceAs (Decidable (escape cond.path = cond.path
      ∧ (cond.mode = .eq → hasSeparator cond.value = false)))

theorem escape_eq_of_read {name k x y : JsString} (hk : IsKey k) (hx : callText name k ++ x <+: X)
    (hy : callText name (escape k) ++ y <+: X) :
    escape k = k := by
  have hform : ∀ k x : JsString, callText name k ++ x
      = (name ++ js "(\"") ++ (k ++ quote :: (js ")" ++ x)) := by
    intro k x
    simp [callText]
    rfl
  rw [hform] at hx hy
  obtain ⟨Y, rfl⟩ := (List.prefix_append _ _).trans hx
  have hx := (List.prefix_append_right_inj _).mp hx
  have hy := (List.prefix_append_right_inj _).mp hy
  exact (key_determined hk.2 (quote_notMem_escape hk.2) hx hy).symm

theorem buildExprLiteral_plain (hvalue : trim value = value)
    (h : (value = js "true" ∨ value = js "false") ∨ isNumericLiteral value = true) :
    buildExprLiteral .eq value = value := by
  unfold buildExprLiteral
  simp only [hvalue]
  rw [if_neg (by decide)]
  split
  · rfl
  · rename_i hbool
    rw [if_pos (h.resolve_left hbool)]

theorem buildExprLiteral_eq_cases (value : JsString) (hvalue : trim value = value) :
    (buildExprLiteral .eq value = value
        ∧ (value = js "true" ∨ value = js "false" ∨ isNumericLiteral value = true))
      ∨ buildExprLiteral .eq value = stringify value := by
  unfold buildExprLiteral
  simp only [hvalue]
  rw [if_neg (by decide)]
  split
  · rename_i h
    exact Or.inl ⟨rfl, by tauto⟩
  · split
    · rename_i h
      exact Or.inl ⟨rfl, Or.inr (Or.inr h)⟩
    · exact Or.inr rfl

theorem buildExprLiteral_head (hvalue : trim value = value) :
    ∃ u l, buildExprLiteral .eq value = u :: l
      ∧ (u = quote ∧ buildExprLiteral .eq value = stringify value
        ∨ u ∈ js "tf0123456789.eE+-") := by
  rcases buildExprLiteral_eq_cases value hvalue with ⟨h, htrue | hfalse | hnum⟩ | h
  · exact ⟨0x74, js "rue", by rw [h, htrue]; decide, Or.inr (by decide)⟩
  · exact ⟨0x66, js "alse", by rw [h, hfalse]; decide, Or.inr (by decide)⟩
  · obtain ⟨hne, hall⟩ := isNumber_of_isNumericLiteral hnum
    cases value with
    | nil => exact absurd rfl hne
    | cons u l =>
      have hsub : ∀ w ∈ js "0123456789.eE+-", w ∈ js "tf0123456789.eE+-" :=
        forall_units (by decide)
      exact ⟨u, l, h, Or.inr (hsub u (mem_of_isNumberUnit (hall u List.mem_cons_self)))⟩
  · exact ⟨quote, escape value ++ [quote], h, Or.inl ⟨rfl, h⟩⟩

variable {composite : JsString → Option JsString}

theorem literal_read {raw : JsString} (hraw : parseExprLiteral composite raw = some value)
    (hvalue : trim value = value) (hlast : ∀ u ∈ raw.getLast?, isWhiteSpace u = false)
    (hX : raw <+: X) (hX' : buildExprLiteral .eq value <+: X) :
    raw = buildExprLiteral .eq value := by
  obtain ⟨u, l, hlit, hu⟩ := buildExprLiteral_head hvalue
  -- both start with `u`, which is no space
  obtain ⟨r, rfl⟩ : ∃ r, raw = u :: r := by
    cases raw with
    | nil =>
      have hnil : parseExprLiteral composite [] = none := rfl
      rw [hnil] at hraw
      cases hraw
    | cons w r =>
      rw [hlit] at hX'
      obtain ⟨Y, rfl⟩ := hX'
      rw [List.cons_append, List.cons_prefix_cons] at hX
      exact ⟨r, by rw [hX.1]⟩
  have hspace : isWhiteSpace u = false := by
    rcases hu with ⟨rfl, -⟩ | hu
    · decide
    · have hall : ∀ w ∈ js "tf0123456789.eE+-", isWhiteSpace w = false := forall_units (by decide)
      exact hall u hu
  have htrim : trim (u :: r) = u :: r := by
    refine trimBy_eq_self ?_ hlast
    intro w hw
    obtain rfl : u = w := by simpa using hw
    exact hspace
  simp only [parseExprLiteral, htrim] at hraw
  split at hraw
  · rename_i hbool
    cases hraw
    exact (buildExprLiteral_plain hvalue (Or.inl hbool)).symm
  split at hraw
  · rename_i hnum
    cases hraw
    exact (buildExprLiteral_plain hvalue (Or.inr hnum)).symm
  split at hraw
  · -- two literals of strings at one place
    rename_i hquote
    obtain rfl : u = quote := by simpa using hquote
    rcases hu with ⟨-, hstring⟩ | hu
    · obtain ⟨c, hc, hr⟩ := isLiteral_of_parseString hraw
      obtain ⟨Y, rfl⟩ := (List.prefix_append [quote] r).trans hX
      rw [hstring] at hX' ⊢
      rw [hr] at hX ⊢
      have hX := (List.prefix_append_right_inj [quote]).mp hX
      have hX' := (List.prefix_append_right_inj [quote]).mp hX'
      rw [stringify, literal_determined hc (isLiteral_escape value) hX hX']
    · exact absurd hu (by decide)
  · -- an array or an object starts otherwise
    rename_i hbool hnum hquote
    exfalso
    unfold parseJsonRest at hraw
    split at hraw
    · rename_i hbracket
      rcases hu with ⟨rfl, -⟩ | hu
      · exact hquote rfl
      · have hall : ∀ w ∈ js "tf0123456789.eE+-", w ≠ 0x5b ∧ w ≠ 0x7b := forall_units (by decide)
        simp only [List.head?_cons, Option.some.injEq] at hbracket
        rcases hbracket with h | h
        · exact (hall u hu).1 h
        · exact (hall u hu).2 h
    · cases hraw

theorem buildExprLiteral_oneLine (hvalue : trim value = value) :
    (buildExprLiteral .eq value).all (fun u => !isLineTerminator u) = true
      ↔ hasSeparator value = false := by
  have hany : (buildExprLiteral .eq value).any isLineTerminator = hasSeparator value := by
    rcases buildExprLiteral_eq_cases value hvalue with ⟨h, htrue | hfalse | hnum⟩ | h
    · rw [h, htrue]
      decide
    · rw [h, hfalse]
      decide
    · have hall : ∀ w ∈ js "0123456789.eE+-",
          isLineTerminator w = false ∧ (w == 0x2028 || w == 0x2029) = false :=
        forall_units (by decide)
      have hunits := fun u hu =>
        hall u (mem_of_isNumberUnit ((isNumber_of_isNumericLiteral hnum).2 u hu))
      rw [h, hasSeparator, List.any_eq_false.mpr, List.any_eq_false.mpr]
      · exact fun u hu => Bool.eq_false_iff.mp (hunits u hu).2
      · exact fun u hu => Bool.eq_false_iff.mp (hunits u hu).1
    · rw [h, stringify, List.any_cons, List.any_append, any_lineTerminator_escape]
      simp [isLineTerminator, quote]
  rw [← List.not_any_eq_all_not, hany, Bool.not_eq_true']

theorem containsText_inj {text : JsString} (htext : parseString text = some value)
    (ha : containsText source path text <+: X)
    (ht : containsText source path (stringify value) <+: X) : text = stringify value := by
  obtain ⟨p, hp⟩ : ∃ p, ∀ text, containsText source path text = p ++ (text ++ js ")") := by
    cases source with
    | header => exact ⟨_, fun text => List.append_assoc _ _ _⟩
    | param =>
      refine ⟨callText (js "param") path ++ js " != nil && "
        ++ (callText (js "has(" ++ RuleSource.param.name) path ++ js ", "), fun text => ?_⟩
      simp only [containsText, hasText, List.append_assoc]
  obtain ⟨c, hc, rfl⟩ := isLiteral_of_parseString htext
  rw [hp] at ha ht
  obtain ⟨Y, rfl⟩ := (List.prefix_append _ _).trans ha
  have ha := (List.prefix_append_right_inj _).mp ha
  have ht := (List.prefix_append_right_inj _).mp ht
  obtain ⟨Z, rfl⟩ := (List.prefix_append [quote] _).trans ha
  have ha := (List.prefix_append_right_inj [quote]).mp ha
  have ht := (List.prefix_append_right_inj [quote]).mp ht
  rw [stringify, literal_determined hc (isLiteral_escape value)
    ((List.prefix_append _ _).trans ha) ((List.prefix_append _ _).trans ht)]

/-- **A condition that is read was written so**, whatever follows: the texts agree,
and what the reader takes as it stands was not escaped. -/
theorem reads_writes (hr : Reads composite n a) (hw : Writes n t)
    (hlast : ∀ u ∈ a.getLast?, isWhiteSpace u = false) (ha : a <+: X) (ht : t <+: X) :
    a = t ∧ n.Readable := by
  cases hw with
  | @range fn tz s e htz hs he =>
    cases hr with
    | range hkey _ _ =>
      have hk : escape tz = tz := by
        simp only [rangeText, List.append_assoc] at ha ht
        exact escape_eq_of_read hkey ha ht
      exact ⟨by rw [hk], hk⟩
    | wrapped hkey _ _ =>
      rw [List.append_assoc] at ha
      exact absurd ((List.prefix_append _ _).trans ha)
        (fun h => not_name_and_paren ((name_prefix_rangeText fn _ s e).trans ht) h)
    | compare _ hmode _ => exact absurd hmode (by decide)
  | @time fn tz v mode htz hmode hv =>
    cases hr with
    | range _ _ _ => exact absurd hmode (by decide)
    | wrapped _ _ _ => exact absurd hmode (by decide)
    | compare hkey _ _ =>
      have hk : escape tz = tz := by
        simp only [timeText, List.append_assoc] at ha ht
        exact escape_eq_of_read hkey ha ht
      exact ⟨by rw [hk], hk⟩
  | @«exists» source path hpath =>
    cases hr with
    | «exists» hkey =>
      have hk : escape path = path := by
        cases source <;> exact escape_eq_of_read hkey ha ht
      exact ⟨by rw [hk], hk, fun h => by cases h⟩
    | compare _ hmode _ => exact absurd hmode (by decide)
  | @contains source path value hpath =>
    cases hr with
    | @contains _ _ text _ hkey htext =>
      have hk : escape path = path := by
        cases source with
        | header =>
          simp only [containsText, hasText, List.append_assoc] at ha ht
          exact escape_eq_of_read hkey ha ht
        | param =>
          simp only [containsText, List.append_assoc] at ha ht
          exact escape_eq_of_read hkey ha ht
      rw [hk] at ht ⊢
      exact ⟨by rw [containsText_inj htext ha ht], hk, fun h => by cases h⟩
    | compare _ hmode _ => exact absurd hmode (by decide)
  | @compare path v mode hpath hmode hv =>
    cases hr with
    | «exists» _ => exact absurd hmode (by decide)
    | contains _ _ => exact absurd hmode (by decide)
    | compare hkey _ _ =>
      have hk : escape path = path := by
        simp only [compareText, List.append_assoc] at ha ht
        exact escape_eq_of_read hkey ha ht
      refine ⟨by rw [hk], hk, ?_⟩
      rintro (rfl : mode = .eq)
      exact absurd hmode (by decide)
    | eq _ _ _ _ => exact absurd hmode (by decide)
  | @eq source path value hpath hvalue =>
    cases hr with
    | compare _ hmode _ => exact absurd hmode (by decide)
    | @eq _ _ raw _ hkey hne hline hraw =>
      have hk : escape path = path := by
        simp only [eqText, List.append_assoc] at ha ht
        exact escape_eq_of_read hkey ha ht
      rw [hk] at ht ⊢
      obtain ⟨Y, rfl⟩ := (List.prefix_append _ _).trans ha
      have ha := (List.prefix_append_right_inj _).mp ha
      have ht := (List.prefix_append_right_inj _).mp ht
      have hlast : ∀ u ∈ raw.getLast?, isWhiteSpace u = false := by
        intro u hu
        refine hlast u ?_
        rw [eqText, List.getLast?_append, Option.mem_def.mp hu]
        rfl
      have hlit := literal_read hraw hvalue hlast ha ht
      rw [hlit] at hline
      exact ⟨by rw [hlit], hk, fun _ => (buildExprLiteral_oneLine hvalue).mp hline⟩

theorem parseExprLiteral_buildExprLiteral (hvalue : trim value = value) :
    parseExprLiteral composite (buildExprLiteral .eq value) = some value := by
  rcases buildExprLiteral_eq_cases value hvalue with ⟨h, htrue | hfalse | hnum⟩ | h
  · rw [h, htrue]
    rfl
  · rw [h, hfalse]
    rfl
  · rw [h, parseExprLiteral]
    simp only [hvalue, hnum, if_true, ite_self]
  · have htrim : trim (stringify value) = stringify value := by
      refine trimBy_eq_self ?_ ?_
      · intro u hu
        obtain rfl : quote = u := by simpa [stringify] using hu
        decide
      · intro u hu
        obtain rfl : quote = u := by
          rw [stringify, ← List.cons_append, List.getLast?_concat, Option.mem_def] at hu
          exact Option.some.inj hu
        decide
    have hquote : ∀ s ∈ [js "true", js "false"], stringify value ≠ s := by
      intro s hs heq
      have hall : ∀ s ∈ [js "true", js "false"], s.head? ≠ some quote := by decide
      exact hall s hs (heq ▸ rfl)
    have hnum : isNumericLiteral (stringify value) ≠ true := by
      intro hnum
      exact absurd ((isNumber_of_isNumericLiteral hnum).2 quote List.mem_cons_self) (by decide)
    rw [h, parseExprLiteral]
    simp only [htrim]
    rw [if_neg, if_neg hnum, if_pos (show (stringify value).head? = some quote from rfl)]
    · exact parseString_stringify value
    · rintro (heq | heq)
      · exact hquote _ (by decide) heq
      · exact hquote _ (by decide) heq

theorem reads_of_readable (hw : Writes n t) (h : n.Readable) : Reads composite n t := by
  have hkey : ∀ {k : JsString}, k ≠ [] → escape k = k → IsKey k :=
    fun hne hk => ⟨hne, quote_notMem_of_escape_eq hk⟩
  cases hw with
  | range htz hs he =>
    have hk := hkey htz h
    rw [show escape _ = _ from h]
    exact .range hk hs he
  | time htz hmode hv =>
    have hk := hkey htz h
    rw [show escape _ = _ from h]
    exact .compare hk hmode hv
  | «exists» hpath =>
    have hk := hkey hpath h.1
    rw [h.1]
    exact .exists hk
  | contains hpath =>
    have hk := hkey hpath h.1
    rw [h.1]
    exact .contains hk (parseString_stringify _)
  | compare hpath hmode hv =>
    have hk := hkey hpath h.1
    rw [h.1]
    exact .compare hk hmode hv
  | eq hpath hvalue =>
    have hk := hkey hpath h.1
    obtain ⟨u, l, hlit, -⟩ := buildExprLiteral_head hvalue
    rw [h.1]
    exact .eq hk (hlit ▸ List.cons_ne_nil u l) ((buildExprLiteral_oneLine hvalue).mpr (h.2 rfl))
      (parseExprLiteral_buildExprLiteral hvalue)

/-! ## A condition in its group -/

def RequestCondition.isRange : RequestCondition → Bool
  | .time cond => cond.mode = .range
  | .request _ => false

/-- The text of a condition that is one of several, or the only one. -/
def groupText (several : Bool) (c : RequestCondition) : JsString :=
  if several then wrapOr (buildRequestConditionExpr c) else buildRequestConditionExpr c

/-- A condition that its group reads back: readable, and wrapped only if a range. -/
def RequestCondition.ReadBack (several : Bool) (c : RequestCondition) : Prop :=
  c.canonical.Readable
    ∧ (several = true → js " || " <:+: buildRequestConditionExpr c → c.canonical.isRange = true)

instance (several : Bool) (c : RequestCondition) : Decidable (c.ReadBack several) :=
  inferInstanceAs (Decidable (_ ∧ _))

theorem wrapped_cases (several : Bool) (c : RequestCondition) :
    (groupText several c = buildRequestConditionExpr c
        ∧ (several = true → ¬ js " || " <:+: buildRequestConditionExpr c))
      ∨ (groupText several c = js "(" ++ buildRequestConditionExpr c ++ js ")"
        ∧ several = true ∧ js " || " <:+: buildRequestConditionExpr c) := by
  unfold groupText wrapOr
  split
  · split
    · exact Or.inr ⟨rfl, by assumption, by assumption⟩
    · exact Or.inl ⟨rfl, fun _ => by assumption⟩
  · rename_i hone
    exact Or.inl ⟨rfl, fun h => absurd h hone⟩

theorem reads_writes_wrapped (hr : Reads composite n a) (hw : Writes n t) (ha : a <+: X)
    (ht : js "(" ++ t ++ js ")" <+: X) :
    a = js "(" ++ t ++ js ")" ∧ n.Readable ∧ n.isRange = true := by
  have hparen : js "(" <+: X := by
    rw [List.append_assoc] at ht
    exact (List.prefix_append _ _).trans ht
  cases n with
  | request cond =>
    obtain ⟨p, hp, hpa⟩ := ReadsRequest.head hr
    have hclash : ∀ p ∈ [js "param(\"", js "header(\"", js "has("], Clash p (js "(") := by decide
    exact ((hclash p hp).not_both (hpa.trans ha) hparen).elim
  | time cond =>
    cases hr with
    | @range fn tz s e _ _ _ =>
      exact (not_name_and_paren ((name_prefix_rangeText fn tz s e).trans ha) hparen).elim
    | @compare fn tz v mode _ _ _ =>
      exact (not_name_and_paren ((name_prefix_timeText fn tz mode v).trans ha) hparen).elim
    | @wrapped fn tz s e hkey _ _ =>
      cases hw with
      | range htz hs he =>
        have hk : escape tz = tz := by
          obtain ⟨Y, rfl⟩ := hparen
          simp only [rangeText, List.append_assoc] at ha ht
          exact escape_eq_of_read hkey ((List.prefix_append_right_inj _).mp ha)
            ((List.prefix_append_right_inj _).mp ht)
        exact ⟨by rw [hk], hk, rfl⟩
      | time _ hmode _ => exact absurd hmode (by decide)

theorem reads_groupText (hr : Reads composite c.canonical a)
    (hne : buildRequestConditionExpr c ≠ []) (hlast : ∀ u ∈ a.getLast?, isWhiteSpace u = false)
    (ha : a <+: X) (ht : groupText several c <+: X) :
    a = groupText several c ∧ c.ReadBack several := by
  have hw := writes_buildRequestConditionExpr hne
  rcases wrapped_cases several c with ⟨heq, hno⟩ | ⟨heq, hsev, hor⟩
  · rw [heq] at ht ⊢
    obtain ⟨rfl, hread⟩ := reads_writes hr hw hlast ha ht
    exact ⟨rfl, hread, fun hsev hor => absurd hor (hno hsev)⟩
  · rw [heq] at ht ⊢
    obtain ⟨rfl, hread, hrange⟩ := reads_writes_wrapped hr hw ha ht
    exact ⟨rfl, hread, fun _ _ => hrange⟩

theorem reads_wrapped (hw : Writes n t) (h : n.Readable) (hrange : n.isRange = true) :
    Reads composite n (js "(" ++ t ++ js ")") := by
  cases hw with
  | @range fn tz s e htz hs he =>
    have hk : IsKey tz := ⟨htz, quote_notMem_of_escape_eq h⟩
    rw [show escape tz = tz from h]
    exact .wrapped hk hs he
  | @time fn tz v mode htz hmode hv =>
    obtain rfl : mode = .range := by simpa [RequestCondition.isRange] using hrange
    exact absurd hmode (by decide)
  | «exists» _ => cases hrange
  | contains _ => cases hrange
  | compare _ _ _ => cases hrange
  | eq _ _ => cases hrange

theorem reads_of_readBack (hne : buildRequestConditionExpr c ≠ []) (h : c.ReadBack several) :
    Reads composite c.canonical (groupText several c) := by
  have hw := writes_buildRequestConditionExpr hne
  rcases wrapped_cases several c with ⟨heq, -⟩ | ⟨heq, hsev, hor⟩
  · rw [heq]
    exact reads_of_readable hw h.1
  · rw [heq]
    exact reads_wrapped hw h.1 (h.2 hsev hor)

/-! ## The edges of the texts -/

theorem isNumber_last {n : JsString} (h : IsNumber n) (p : JsString) :
    ∃ u ∈ js "0123456789.eE+-", (p ++ n).getLast? = some u := by
  obtain ⟨hne, hall⟩ := h
  have hlast := List.getLast?_eq_getLast_of_ne_nil hne
  refine ⟨n.getLast hne, mem_of_isNumberUnit (hall _ (List.getLast_mem hne)), ?_⟩
  rw [List.getLast?_append, hlast]
  rfl

theorem Writes.last (h : Writes n t) :
    ∃ u ∈ js "0123456789.eE+-\"l)", t.getLast? = some u := by
  have hnumber : ∀ {v : JsString} (p : JsString), IsNumber v →
      ∃ u ∈ js "0123456789.eE+-\"l)", (p ++ v).getLast? = some u := by
    intro v p hv
    obtain ⟨u, hu, hlast⟩ := isNumber_last hv p
    have hsub : ∀ w ∈ js "0123456789.eE+-", w ∈ js "0123456789.eE+-\"l)" := forall_units (by decide)
    exact ⟨u, hsub u hu, hlast⟩
  have hfixed : ∀ (p q : JsString) (u : UInt16), q.getLast? = some u →
      u ∈ js "0123456789.eE+-\"l)" → ∃ u ∈ js "0123456789.eE+-\"l)", (p ++ q).getLast? = some u := by
    intro p q u hlast hu
    refine ⟨u, hu, ?_⟩
    rw [List.getLast?_append, hlast]
    rfl
  cases h with
  | range _ _ he => exact hnumber _ he
  | time _ _ hv => exact hnumber _ hv
  | @«exists» source path _ =>
    cases source with
    | header => exact hfixed _ (js " != \"\"") quote (by decide) (by decide)
    | param => exact hfixed _ (js " != nil") 0x6c (by decide) (by decide)
  | @contains source path value _ =>
    cases source with
    | header => exact hfixed _ (js ")") closeParen (by decide) (by decide)
    | param =>
      rw [containsText, hasText, ← List.append_assoc]
      exact hfixed _ (js ")") closeParen (by decide) (by decide)
  | compare _ _ hv => exact hnumber _ hv
  | @eq source path value _ hvalue =>
    rw [eqText]
    rcases buildExprLiteral_eq_cases value hvalue with ⟨h, htrue | hfalse | hnum⟩ | h
    · rw [h, htrue]
      exact hfixed _ (js "true") 0x65 (by decide) (by decide)
    · rw [h, hfalse]
      exact hfixed _ (js "false") 0x65 (by decide) (by decide)
    · rw [h]
      exact hnumber _ (isNumber_of_isNumericLiteral hnum)
    · rw [h]
      refine hfixed _ (stringify value) quote ?_ (by decide)
      rw [stringify, ← List.cons_append, List.getLast?_concat]

theorem Writes.head (h : Writes n t) :
    ∃ u ∈ js "hmwdp", t.head? = some u := by
  have hfn : ∀ (fn : TimeFunc) (r : JsString), fn.name <+: r →
      ∃ u ∈ js "hmwdp", r.head? = some u := by
    intro fn r hpre
    obtain ⟨x, rfl⟩ := hpre
    cases fn
    · exact ⟨0x68, by decide, rfl⟩
    · exact ⟨0x6d, by decide, rfl⟩
    · exact ⟨0x77, by decide, rfl⟩
    · exact ⟨0x6d, by decide, rfl⟩
    · exact ⟨0x64, by decide, rfl⟩
  have hsource : ∀ (source : RuleSource) (k r : JsString),
      ∃ u ∈ js "hmwdp", (callText source.name k ++ r).head? = some u := by
    intro source k r
    cases source
    · exact ⟨0x70, by decide, rfl⟩
    · exact ⟨0x68, by decide, rfl⟩
  cases h with
  | range _ _ _ => exact hfn _ _ (name_prefix_rangeText _ _ _ _)
  | time _ _ _ => exact hfn _ _ (name_prefix_timeText _ _ _ _)
  | @«exists» source path _ =>
    cases source with
    | header => exact hsource .header _ _
    | param => exact hsource .param _ _
  | @contains source path value _ =>
    cases source with
    | header => exact ⟨0x68, by decide, rfl⟩
    | param =>
      rw [containsText, List.append_assoc]
      exact hsource .param _ _
  | compare _ _ _ =>
    simp only [compareText, List.append_assoc]
    exact hsource .param _ _
  | eq _ _ =>
    simp only [eqText, List.append_assoc]
    exact hsource _ _ _

/-- The texts of a group start and end with something that is neither space nor part
of the separator. -/
theorem groupText_edges (several : Bool) (hne : buildRequestConditionExpr c ≠ []) :
    (∃ u t, groupText several c = u :: t ∧ isWhiteSpace u = false)
      ∧ ∀ u ∈ (groupText several c).getLast?, isWhiteSpace u = false ∧ u ∉ js " && " := by
  have hw := writes_buildRequestConditionExpr hne
  have hheads : ∀ u ∈ js "hmwdp", isWhiteSpace u = false := forall_units (by decide)
  have hlasts : ∀ u ∈ js "0123456789.eE+-\"l)", isWhiteSpace u = false ∧ u ∉ js " && " :=
    forall_units (by decide)
  rcases wrapped_cases several c with ⟨heq, -⟩ | ⟨heq, -, -⟩
  · rw [heq]
    obtain ⟨u, hu, hhead⟩ := hw.head
    obtain ⟨w, hmem, hlast⟩ := hw.last
    constructor
    · obtain ⟨t, ht⟩ := List.head?_eq_some_iff.mp hhead
      exact ⟨u, t, ht, hheads u hu⟩
    · intro x hx
      rw [hlast] at hx
      exact Option.some.inj hx ▸ hlasts w hmem
  · rw [heq]
    refine ⟨⟨openParen, _, rfl, by decide⟩, ?_⟩
    intro x hx
    rw [List.getLast?_append] at hx
    obtain rfl : closeParen = x := Option.some.inj hx
    decide

theorem combinedTexts_eq (cs : List RequestCondition) :
    combinedTexts (cs.map buildRequestConditionExpr)
      = cs.map (groupText (decide (cs.length ≠ 1))) := by
  match cs with
  | [] => rfl
  | [c] => rfl
  | c :: d :: cs =>
    have hsev : decide ((c :: d :: cs).length ≠ 1) = true := by simp
    rw [hsev]
    simp [combinedTexts, groupText]

end YouBox
