import YouBox.RuleRoundTrip

/-!
# Combining a billing expression with its request rules

`combineBillingExpr` writes a base in brackets, times the rules;
`splitBillingExprAndRequestRules` takes the factors of an expression apart again: those
that are read as rules, and the one other, without its outer brackets. The backend's
`ParseExprVersion` looks for a version at the start of the whole.

They are inverse exactly if (`Combinable`) the base needs no trimming and, with rules,
its brackets balance, it is not in brackets itself, in brackets it is not taken for a
rule, and every factor of the rules is. The version is lost with the bracket before it:
that of a base with `v2:` becomes the default.

Why these are needed (`base_of_split`): the factors have all brackets of the whole and
are not longer, so the one that is not a rule is the base in one pair of brackets.
-/

namespace YouBox

open JsText TopSplit

/-! ## The editor -/

/-- The loop of `hasFullOuterParens`; the first argument is `depth`. -/
def outerLoop : Int → JsString → Bool
  | depth, [] => depth = 0
  | depth, c :: cs =>
    let depth := depth + shift openParen closeParen c
    if depth = 0 ∧ cs ≠ [] then false else outerLoop depth cs

def hasFullOuterParens (expr : JsString) : Bool :=
  expr.head? = some openParen && expr.getLast? = some closeParen && outerLoop 0 expr

variable {s : JsString} {parts rs bs : List JsString} {b r : JsString}

theorem length_of_hasFullOuterParens (h : hasFullOuterParens s = true) :
    (trim s.tail.dropLast).length < s.length := by
  have hne : 0 < s.length := by
    cases s with
    | nil => cases h
    | cons c s => exact Nat.succ_pos _
  have htrim : (trim s.tail.dropLast).length ≤ s.tail.dropLast.length := length_trimBy_le _
  simp only [List.length_dropLast, List.length_tail] at htrim
  omega

/-- The loop of `unwrapOuterParens`. -/
def unwrapLoop (current : JsString) : JsString :=
  if _h : hasFullOuterParens current = true then unwrapLoop (trim current.tail.dropLast)
  else current
termination_by current.length
decreasing_by exact length_of_hasFullOuterParens _h

def unwrapOuterParens (expr : JsString) : JsString := unwrapLoop (trim expr)

/-- `parsed && parsed.length > 0` -/
def isRequestRule (composite : JsString → Option JsString) (part : JsString) :
    Except SyntaxError Bool :=
  (tryParseRequestRuleExpr composite part).map (fun parsed => parsed.any (fun gs => gs ≠ []))

/-- `ruleParts` and `baseParts`. -/
def classifyParts (composite : JsString → Option JsString) :
    List JsString → Except SyntaxError (List JsString × List JsString)
  | [] => .ok ([], [])
  | part :: parts =>
    match isRequestRule composite part with
    | .error e => .error e
    | .ok rule =>
      (classifyParts composite parts).map fun (ruleParts, baseParts) =>
        if rule then (part :: ruleParts, baseParts) else (ruleParts, part :: baseParts)

structure SplitExpr where
  billingExpr : JsString
  requestRuleExpr : JsString

def splitBillingExprAndRequestRules (composite : JsString → Option JsString) (expr : JsString) :
    Except SyntaxError SplitExpr :=
  let trimmed := trim expr
  if trimmed = [] then .ok ⟨[], []⟩
  else
    let parts := splitTopLevelMultiply trimmed
    if parts.length ≤ 1 then .ok ⟨trimmed, []⟩
    else
      (classifyParts composite parts).map fun (ruleParts, baseParts) =>
        match ruleParts, baseParts with
        | _ :: _, [base] => ⟨unwrapOuterParens base, joinWith (js " * ") ruleParts⟩
        | _, _ => ⟨trimmed, []⟩

def combineBillingExpr (baseExpr requestRuleExpr : JsString) : JsString :=
  let base := trim baseExpr
  let rules := trim requestRuleExpr
  if base = [] then []
  else if rules = [] then base
  else js "(" ++ base ++ js ") * " ++ rules

/-! ## The backend -/

def defaultExprVersion : Nat := 1

/-- The version and the body. The backend reads the same text in UTF-8; a version is
ASCII. -/
def parseExprVersion (exprStr : JsString) : Nat × JsString :=
  match expect (js "v1:") exprStr with
  | some body => (1, body)
  | none =>
  match expect (js "v2:") exprStr with
  | some body => (2, body)
  | none => (defaultExprVersion, exprStr)

theorem parseExprVersion_eq_two (h : js "v2:" <+: s) :
    (parseExprVersion s).1 = 2 := by
  obtain ⟨body, rfl⟩ := h
  rw [parseExprVersion, expect_clash (by decide), expect_append]

theorem parseExprVersion_eq_one (h : ¬ js "v2:" <+: s) :
    (parseExprVersion s).1 = 1 := by
  unfold parseExprVersion
  split
  · rfl
  · split
    · rename_i body hbody
      exact absurd ⟨body, (expect_eq_some_iff.mp hbody).symm⟩ h
    · rfl

/-! ## Outer brackets -/

theorem uncut_of_outerLoop {d : Int} (h : outerLoop d s = true) :
    uncut openParen closeParen (js " * ") d s = true ∧ d + depth openParen closeParen s = 0 := by
  induction s generalizing d with
  | nil => exact ⟨rfl, by simpa [outerLoop, depth] using h⟩
  | cons c cs ih =>
    simp only [outerLoop] at h
    split at h
    · cases h
    · rename_i hno
      obtain ⟨huncut, hdepth⟩ := ih h
      refine ⟨uncut_cons.mpr ⟨?_, huncut⟩, ?_⟩
      · rintro ⟨hzero, hpre⟩
        have hlen := hpre.length_le
        rw [show cs = [] by by_contra hcs; exact hno ⟨hzero, hcs⟩] at hlen
        exact absurd hlen (by simp [js])
      · rw [depth_cons]
        omega

theorem eq_of_hasFullOuterParens (h : hasFullOuterParens s = true) :
    s = js "(" ++ s.tail.dropLast ++ js ")" := by
  simp only [hasFullOuterParens, Bool.and_eq_true, decide_eq_true_eq] at h
  obtain ⟨⟨hhead, hlast⟩, -⟩ := h
  obtain ⟨t, rfl⟩ := List.head?_eq_some_iff.mp hhead
  have ht : t ≠ [] := by
    rintro rfl
    exact absurd hlast (by decide)
  rw [List.getLast?_cons, List.getLast?_eq_getLast_of_ne_nil ht] at hlast
  have hclose : t.getLast ht = closeParen := by simpa using hlast
  have hsplit := List.dropLast_append_getLast ht
  rw [hclose] at hsplit
  rw [List.tail_cons]
  exact congrArg (openParen :: ·) hsplit.symm

theorem unwrapLoop_of_not (h : hasFullOuterParens s = false) : unwrapLoop s = s := by
  rw [unwrapLoop, dif_neg (by rw [h]; exact Bool.false_ne_true)]

theorem unwrapLoop_of_full (h : hasFullOuterParens s = true) :
    unwrapLoop s = unwrapLoop (trim s.tail.dropLast) := by
  rw [unwrapLoop, dif_pos h]

theorem length_unwrapLoop_le (s : JsString) : (unwrapLoop s).length ≤ s.length := by
  induction s using unwrapLoop.induct with
  | case1 s h ih =>
    rw [unwrapLoop_of_full h]
    exact Nat.le_trans ih (Nat.le_of_lt (length_of_hasFullOuterParens h))
  | case2 s h => rw [unwrapLoop_of_not (by simpa using h)]

theorem unwrapLoop_eq_self (h : s.length ≤ (unwrapLoop s).length) :
    unwrapLoop s = s ∧ hasFullOuterParens s = false := by
  cases hfull : hasFullOuterParens s with
  | false => exact ⟨unwrapLoop_of_not hfull, rfl⟩
  | true =>
    have hle := length_unwrapLoop_le (trim s.tail.dropLast)
    have hlt := length_of_hasFullOuterParens hfull
    rw [unwrapLoop_of_full hfull] at h
    omega

/-! ## The factors -/

variable {composite : JsString → Option JsString}

theorem classifyParts_cons {part : JsString} :
    classifyParts composite (part :: parts) = .ok (rs, bs)
      ↔ ∃ rs' bs', classifyParts composite parts = .ok (rs', bs')
        ∧ ((isRequestRule composite part = .ok true ∧ rs = part :: rs' ∧ bs = bs')
          ∨ (isRequestRule composite part = .ok false ∧ rs = rs' ∧ bs = part :: bs')) := by
  rw [classifyParts]
  cases hrule : isRequestRule composite part with
  | error e => simp
  | ok rule =>
    cases hrest : classifyParts composite parts with
    | error e => cases rule <;> simp [Except.map]
    | ok p =>
      obtain ⟨rs', bs'⟩ := p
      cases rule <;> simp [Except.map, eq_comm, and_comm]

/-- **What the factors are taken for**: none may throw, those that are read as rules are
the rules. -/
theorem classifyParts_eq_ok_iff :
    classifyParts composite parts = .ok (rs, bs)
      ↔ (∀ p ∈ parts, ∃ rule, isRequestRule composite p = .ok rule)
        ∧ rs = parts.filter (fun p => isRequestRule composite p = .ok true)
        ∧ bs = parts.filter (fun p => isRequestRule composite p = .ok false) := by
  induction parts generalizing rs bs with
  | nil => simp [classifyParts, eq_comm]
  | cons part parts ih =>
    rw [classifyParts_cons]
    simp only [ih, List.forall_mem_cons, List.filter_cons]
    constructor
    · rintro ⟨rs', bs', ⟨hall, rfl, rfl⟩, ⟨hrule, rfl, rfl⟩ | ⟨hrule, rfl, rfl⟩⟩
      · exact ⟨⟨⟨true, hrule⟩, hall⟩, by simp [hrule], by simp [hrule]⟩
      · exact ⟨⟨⟨false, hrule⟩, hall⟩, by simp [hrule], by simp [hrule]⟩
    · rintro ⟨⟨⟨rule, hrule⟩, hall⟩, rfl, rfl⟩
      refine ⟨_, _, ⟨hall, rfl, rfl⟩, ?_⟩
      cases rule with
      | true => exact Or.inl ⟨hrule, by simp [hrule], by simp [hrule]⟩
      | false => exact Or.inr ⟨hrule, by simp [hrule], by simp [hrule]⟩

theorem sum_classifyParts (h : classifyParts composite parts = .ok (rs, bs)) (f : JsString → Nat) :
    (parts.map f).sum = (rs.map f).sum + (bs.map f).sum := by
  induction parts generalizing rs bs with
  | nil =>
    obtain ⟨-, rfl, rfl⟩ := classifyParts_eq_ok_iff.mp h
    rfl
  | cons part parts ih =>
    obtain ⟨rs', bs', hrest, ⟨-, rfl, rfl⟩ | ⟨-, rfl, rfl⟩⟩ := classifyParts_cons.mp h
    · simp only [List.map_cons, List.sum_cons, ih hrest]
      omega
    · simp only [List.map_cons, List.sum_cons, ih hrest]
      omega

/-- The one factor that is not a rule is the base in brackets: it has one opening
bracket more and is at most two units longer. -/
theorem base_of_split {base : JsString} (hrs : rs ≠ []) (h : classifyParts composite
      (splitTopLevelMultiply (js "(" ++ b ++ js ") * " ++ joinWith (js " * ") rs)) = .ok (rs,
      [base])) (hunwrap : unwrapLoop base = b) :
    base = js "(" ++ b ++ js ")" ∧ hasFullOuterParens base = true
      ∧ hasFullOuterParens b = false := by
  have hcount := sum_classifyParts h (List.count openParen)
  have hlength := sum_classifyParts h (fun p => p.length + (js " * ").length)
  have hopen : (js "(").count openParen = 1 ∧ (js ") * ").count openParen = 0 := by decide
  have hlens : (js "(").length = 1 ∧ (js ")").length = 1 ∧ (js ") * ").length = 4
    ∧ (js " * ").length = 3 := by decide
  have hcount' : (joinWith (js " * ") rs).count openParen
      = (rs.map (List.count openParen)).sum := count_joinWith (by decide) rs
  have hlength' : (joinWith (js " * ") rs).length + (js " * ").length
      = (rs.map (fun p => p.length + (js " * ").length)).sum := length_joinWith hrs
  have hle : ((splitTopLevelMultiply (js "(" ++ b ++ js ") * " ++ joinWith (js " * ") rs)).map
        (fun p => p.length + (js " * ").length)).sum
      ≤ (js "(" ++ b ++ js ") * " ++ joinWith (js " * ") rs).length + (js " * ").length :=
    length_parts_le isSeparator_multiply _
  rw [splitTopLevelMultiply, count_parts isSeparator_multiply (by decide) (by decide)] at hcount
  simp only [List.count_append, List.map_cons, List.map_nil, List.sum_cons, List.sum_nil]
    at hcount
  rw [hlength] at hle
  simp only [List.length_append, List.map_cons, List.map_nil, List.sum_cons, List.sum_nil] at hle
  cases hfull : hasFullOuterParens base with
  | false =>
    rw [unwrapLoop_of_not hfull] at hunwrap
    rw [hunwrap] at hcount
    omega
  | true =>
    have heq := eq_of_hasFullOuterParens hfull
    have hbase := congrArg List.length heq
    simp only [List.length_append] at hbase
    rw [unwrapLoop_of_full hfull] at hunwrap
    have hinner := length_unwrapLoop_le (trim base.tail.dropLast)
    have htrim : (trim base.tail.dropLast).length ≤ base.tail.dropLast.length :=
      length_trimBy_le _
    rw [hunwrap] at hinner
    -- what is in the brackets is as long as the base, so nothing more is taken off
    have hself : trim base.tail.dropLast = base.tail.dropLast :=
      trimBy_eq_self_of_length (show _ ≤ (trim base.tail.dropLast).length by omega)
    obtain ⟨hloop, hbare⟩ := unwrapLoop_eq_self
      (show (trim base.tail.dropLast).length ≤ (unwrapLoop (trim base.tail.dropLast)).length by
        rw [hunwrap]; omega)
    rw [hunwrap, hself] at hloop
    rw [hself, ← hloop] at hbare
    rw [← hloop] at heq
    exact ⟨heq, rfl, hbare⟩

theorem split_eq_ok_iff (htrim : trim s = s) (hne : s ≠ []) {e : SplitExpr} :
    splitBillingExprAndRequestRules composite s = .ok e
      ↔ ((splitTopLevelMultiply s).length ≤ 1 ∧ e = ⟨s, []⟩)
        ∨ (1 < (splitTopLevelMultiply s).length
          ∧ ∃ rs bs, classifyParts composite (splitTopLevelMultiply s) = .ok (rs, bs)
            ∧ ((rs ≠ [] ∧ ∃ base, bs = [base]
                ∧ e = ⟨unwrapOuterParens base, joinWith (js " * ") rs⟩)
              ∨ ((rs = [] ∨ bs.length ≠ 1) ∧ e = ⟨s, []⟩))) := by
  unfold splitBillingExprAndRequestRules
  simp only [htrim, if_neg hne]
  by_cases hlen : (splitTopLevelMultiply s).length ≤ 1
  · have hnot : ¬ 1 < (splitTopLevelMultiply s).length := by omega
    simp only [hlen, if_true, hnot, Except.ok.injEq, true_and, false_and, or_false, eq_comm]
  · have hgt : 1 < (splitTopLevelMultiply s).length := by omega
    simp only [hlen, if_false, hgt, true_and, false_and, false_or]
    cases hclass : classifyParts composite (splitTopLevelMultiply s) with
    | error e => simp [Except.map]
    | ok p =>
      obtain ⟨rs, bs⟩ := p
      simp only [Except.map, Except.ok.injEq, Prod.mk.injEq]
      constructor
      · intro h
        refine ⟨rs, bs, ⟨rfl, rfl⟩, ?_⟩
        split at h
        · rename_i r rs base
          exact Or.inl ⟨List.cons_ne_nil _ _, base, rfl, h.symm⟩
        · rename_i hno
          refine Or.inr ⟨?_, h.symm⟩
          cases rs with
          | nil => exact Or.inl rfl
          | cons r rs =>
            refine Or.inr (fun hone => ?_)
            obtain ⟨base, rfl⟩ := List.length_eq_one_iff.mp hone
            exact hno r rs base rfl rfl
      · rintro ⟨rs', bs', ⟨rfl, rfl⟩, ⟨hrs, base, rfl, rfl⟩ | ⟨hno, rfl⟩⟩
        · obtain ⟨r, rs, rfl⟩ := List.exists_cons_of_ne_nil hrs
          rfl
        · split
          · rename_i r rs base
            rcases hno with hno | hno
            · cases hno
            · exact absurd rfl hno
          · rfl

theorem wrapped_edges (b : JsString) :
    (trim (js "(" ++ b ++ js ")") = js "(" ++ b ++ js ")" ∧ js "(" ++ b ++ js ")" ≠ [])
      ∧ ∀ u ∈ (js "(" ++ b ++ js ")").getLast?, u ∉ js " * " := by
  have hlast : ∀ u ∈ (js "(" ++ b ++ js ")").getLast?, u = closeParen := by
    intro u hu
    rw [List.getLast?_append] at hu
    exact (Option.some.inj hu).symm
  refine ⟨trim_of_edges ⟨openParen, b ++ js ")", rfl, by decide⟩ ?_, ?_⟩
  · intro u hu
    rw [hlast u hu]
    decide
  · intro u hu
    rw [hlast u hu]
    decide

theorem splitTopLevelMultiply_wrapped (r : JsString)
    (h : hasFullOuterParens (js "(" ++ b ++ js ")") = true) :
    splitTopLevelMultiply (js "(" ++ b ++ js ") * " ++ r)
      = (js "(" ++ b ++ js ")") :: splitTopLevelMultiply r := by
  have hloop : outerLoop 0 (js "(" ++ b ++ js ")") = true := (Bool.and_eq_true_iff.mp h).2
  obtain ⟨huncut, hdepth⟩ := uncut_of_outerLoop hloop
  obtain ⟨⟨htrim, hne⟩, hlast⟩ := wrapped_edges b
  have hcut := pieces_append isSeparator_multiply hlast huncut hdepth (v := r)
  have hform : js "(" ++ b ++ js ") * " ++ r = js "(" ++ b ++ js ")" ++ js " * " ++ r := by
    rw [show js ") * " = js ")" ++ js " * " by decide, ← List.append_assoc]
  have hself : trimBy isWhiteSpace (js "(" ++ b ++ js ")") = js "(" ++ b ++ js ")" := htrim
  rw [splitTopLevelMultiply, hform, parts_of_cut hcut (by rw [hself]; exact hne), hself]
  rfl

theorem trim_unwrapLoop (h : trim s = s) : trim (unwrapLoop s) = unwrapLoop s := by
  induction s using unwrapLoop.induct with
  | case1 s hfull ih =>
    rw [unwrapLoop_of_full hfull]
    exact ih (trim_trim _)
  | case2 s hfull =>
    rw [unwrapLoop_of_not (by simpa using hfull)]
    exact h

/-! ## When combining can be undone -/

/-- The base alone is not taken for a base and rules: it has one factor, or none of its
factors is a rule, or not exactly one is not. -/
def StaysWhole (composite : JsString → Option JsString) (b : JsString) : Prop :=
  (splitTopLevelMultiply b).length ≤ 1
    ∨ ((∀ p ∈ splitTopLevelMultiply b, ∃ rule, isRequestRule composite p = .ok rule)
      ∧ ((∀ p ∈ splitTopLevelMultiply b, isRequestRule composite p ≠ .ok true)
        ∨ ((splitTopLevelMultiply b).filter
            (fun p => isRequestRule composite p = .ok false)).length ≠ 1))

/-- Base and rules can be told apart in their product, which has the base's version. -/
structure Separable (composite : JsString → Option JsString) (b r : JsString) : Prop where
  ne_nil : b ≠ []
  balanced : hasFullOuterParens (js "(" ++ b ++ js ")") = true
  bare : hasFullOuterParens b = false
  base : isRequestRule composite (js "(" ++ b ++ js ")") = .ok false
  rules : ∀ p ∈ splitTopLevelMultiply r, isRequestRule composite p = .ok true
  rejoined : joinWith (js " * ") (splitTopLevelMultiply r) = r
  version : ¬ js "v2:" <+: b

structure Combinable (composite : JsString → Option JsString) (b r : JsString) : Prop where
  trimmed : trim b = b
  alone : r = [] → StaysWhole composite b
  ruled : r ≠ [] → Separable composite b r

theorem combineBillingExpr_nil (b : JsString) : combineBillingExpr b [] = trim b := by
  unfold combineBillingExpr
  simp only
  split
  · rename_i h
    exact h.symm
  · rfl

theorem combineBillingExpr_rules (hb : trim b ≠ []) (htrim : trim r = r) (hr : r ≠ []) :
    combineBillingExpr b r = js "(" ++ trim b ++ js ") * " ++ r := by
  unfold combineBillingExpr
  simp only [htrim, if_neg hb, if_neg hr]

theorem joinWith_rules_ne_nil (hrs : rs ≠ [])
    (h : classifyParts composite (splitTopLevelMultiply s) = .ok (rs, bs)) :
    joinWith (js " * ") rs ≠ [] := by
  obtain ⟨-, heq, -⟩ := classifyParts_eq_ok_iff.mp h
  refine joinWith_ne_nil hrs ?_
  intro t ht
  rw [heq] at ht
  exact ne_nil_of_mem_parts (List.mem_of_mem_filter ht)

theorem billingExpr_of_split_alone (htrim : trim s = s)
    (h : splitBillingExprAndRequestRules composite s = .ok ⟨b, []⟩) : b = s := by
  by_cases hs : s = []
  · subst hs
    exact (congrArg SplitExpr.billingExpr (Except.ok.inj h)).symm
  rcases (split_eq_ok_iff htrim hs).mp h with ⟨-, he⟩ | ⟨-, rs, bs, hclass, hcases⟩
  · exact congrArg SplitExpr.billingExpr he
  · rcases hcases with ⟨hrs, base, rfl, he⟩ | ⟨-, he⟩
    · exact absurd (congrArg SplitExpr.requestRuleExpr he).symm (joinWith_rules_ne_nil hrs hclass)
    · exact congrArg SplitExpr.billingExpr he

theorem split_alone_iff (htrim : trim b = b) :
    splitBillingExprAndRequestRules composite b = .ok ⟨b, []⟩ ↔ StaysWhole composite b := by
  by_cases hb : b = []
  · subst hb
    exact iff_of_true rfl (Or.inl (Nat.zero_le 1))
  rw [split_eq_ok_iff htrim hb]
  unfold StaysWhole
  by_cases hlen : (splitTopLevelMultiply b).length ≤ 1
  · exact iff_of_true (Or.inl ⟨hlen, rfl⟩) (Or.inl hlen)
  have hnorule : (∀ p ∈ splitTopLevelMultiply b, isRequestRule composite p ≠ .ok true)
      ↔ (splitTopLevelMultiply b).filter (fun p => isRequestRule composite p = .ok true) = [] := by
    simp [List.filter_eq_nil_iff]
  rw [hnorule]
  constructor
  · rintro (⟨hle, -⟩ | ⟨-, rs, bs, hclass, ⟨hrs, base, rfl, he⟩ | ⟨hno, -⟩⟩)
    · exact absurd hle hlen
    · exact absurd (congrArg SplitExpr.requestRuleExpr he).symm (joinWith_rules_ne_nil hrs hclass)
    · obtain ⟨hall, hrs, hbs⟩ := classifyParts_eq_ok_iff.mp hclass
      rw [hrs, hbs] at hno
      exact Or.inr ⟨hall, hno⟩
  · rintro (hle | ⟨hall, hno⟩)
    · exact absurd hle hlen
    · exact Or.inr ⟨by omega, _, _, classifyParts_eq_ok_iff.mpr ⟨hall, rfl, rfl⟩, Or.inr ⟨hno, rfl⟩⟩

theorem classifyParts_wrapped_iff :
    classifyParts composite (b :: parts) = .ok (rs, [b])
      ↔ isRequestRule composite b = .ok false
        ∧ (∀ p ∈ parts, isRequestRule composite p = .ok true) ∧ rs = parts := by
  rw [classifyParts_eq_ok_iff]
  constructor
  · rintro ⟨hall, hrs, hbs⟩
    have hb : isRequestRule composite b = .ok false := by
      have hmem : b ∈ (b :: parts).filter (fun p => isRequestRule composite p = .ok false) := by
        rw [← hbs]
        exact List.mem_cons_self
      simpa using (List.mem_filter.mp hmem).2
    have hrules : ∀ p ∈ parts, isRequestRule composite p = .ok true := by
      rw [List.filter_cons_of_pos (by simpa using hb)] at hbs
      have hnone := List.filter_eq_nil_iff.mp (List.cons.inj hbs).2.symm
      intro p hp
      obtain ⟨rule, hrule⟩ := hall p (List.mem_cons_of_mem b hp)
      cases rule with
      | true => exact hrule
      | false => exact absurd (by simpa using hrule) (hnone p hp)
    refine ⟨hb, hrules, ?_⟩
    rw [hrs, List.filter_cons_of_neg (by simp [hb]), List.filter_eq_self]
    exact fun p hp => by simpa using hrules p hp
  · rintro ⟨hb, hrules, rfl⟩
    refine ⟨?_, ?_, ?_⟩
    · exact List.forall_mem_cons.mpr ⟨⟨false, hb⟩, fun p hp => ⟨true, hrules p hp⟩⟩
    · rw [List.filter_cons_of_neg (by simp [hb]), List.filter_eq_self.mpr]
      exact fun p hp => by simpa using hrules p hp
    · rw [List.filter_cons_of_pos (by simpa using hb), List.filter_eq_nil_iff.mpr]
      exact fun p hp => by simp [hrules p hp]

theorem trim_wrapped (htrim : trim r = r) (hr : r ≠ []) :
    trim (js "(" ++ b ++ js ") * " ++ r) = js "(" ++ b ++ js ") * " ++ r
      ∧ js "(" ++ b ++ js ") * " ++ r ≠ [] := by
  refine trim_of_edges ⟨openParen, b ++ js ") * " ++ r, rfl, by decide⟩ ?_
  intro u hu
  have hlast : u ∈ r.getLast? := by
    rw [List.getLast?_append, List.getLast?_eq_getLast_of_ne_nil hr] at hu
    rw [List.getLast?_eq_getLast_of_ne_nil hr]
    exact hu
  rw [← htrim] at hlast
  exact not_space_getLast_trimBy r u hlast

theorem unwrapOuterParens_wrapped (htrim : trim b = b)
    (hfull : hasFullOuterParens (js "(" ++ b ++ js ")") = true)
    (hbare : hasFullOuterParens b = false) :
    unwrapOuterParens (js "(" ++ b ++ js ")") = b := by
  obtain ⟨⟨hself, -⟩, -⟩ := wrapped_edges b
  have hinner : (js "(" ++ b ++ js ")").tail.dropLast = b := by
    show (b ++ [closeParen]).dropLast = b
    exact List.dropLast_concat
  rw [unwrapOuterParens, hself, unwrapLoop_of_full hfull, hinner, htrim, unwrapLoop_of_not hbare]

/-- With rules: what is split off is what was combined exactly if it is separable, the
version apart. -/
theorem split_ruled_iff (htrim : trim r = r) (hr : r ≠ []) :
    splitBillingExprAndRequestRules composite (combineBillingExpr b r) = .ok ⟨b, r⟩
      ↔ trim b = b ∧ b ≠ [] ∧ hasFullOuterParens (js "(" ++ b ++ js ")") = true
        ∧ hasFullOuterParens b = false
        ∧ isRequestRule composite (js "(" ++ b ++ js ")") = .ok false
        ∧ (∀ p ∈ splitTopLevelMultiply r, isRequestRule composite p = .ok true)
        ∧ joinWith (js " * ") (splitTopLevelMultiply r) = r := by
  constructor
  · intro h
    have hb : trim b ≠ [] := by
      intro hb
      have hempty : combineBillingExpr b r = [] := by
        unfold combineBillingExpr
        simp only [if_pos hb]
      rw [hempty] at h
      exact hr (congrArg SplitExpr.requestRuleExpr (Except.ok.inj h)).symm
    rw [combineBillingExpr_rules hb htrim hr] at h
    obtain ⟨hself, hne⟩ := trim_wrapped (b := trim b) htrim hr
    rcases (split_eq_ok_iff hself hne).mp h with ⟨-, he⟩ | ⟨-, rs, bs, hclass, hcases⟩
    · exact absurd (congrArg SplitExpr.requestRuleExpr he) hr
    rcases hcases with ⟨hrs, base, rfl, he⟩ | ⟨-, he⟩
    · obtain ⟨hbase, hrules⟩ := SplitExpr.mk.inj he
      -- the base is a part, so it is trimmed, and so is what it is unwrapped to
      have hmem : base ∈ splitTopLevelMultiply (js "(" ++ trim b ++ js ") * " ++ r) := by
        obtain ⟨-, -, hbs⟩ := classifyParts_eq_ok_iff.mp hclass
        exact List.mem_of_mem_filter (hbs ▸ List.mem_cons_self)
      have htrimmed : trim base = base := trimBy_of_mem_parts hmem
      rw [unwrapOuterParens, htrimmed] at hbase
      have htrimb : trim b = b := by
        rw [hbase]
        exact trim_unwrapLoop htrimmed
      rw [htrimb] at hclass hb
      subst hrules
      obtain ⟨rfl, hfull, hbare⟩ := base_of_split hrs hclass hbase.symm
      rw [splitTopLevelMultiply_wrapped _ hfull] at hclass
      obtain ⟨hisbase, hisrule, hparts⟩ := classifyParts_wrapped_iff.mp hclass
      exact ⟨htrimb, hb, hfull, hbare, hisbase, hisrule, by rw [← hparts]⟩
    · exact absurd (congrArg SplitExpr.requestRuleExpr he) hr
  · rintro ⟨htrimb, hb, hfull, hbare, hisbase, hisrule, hjoin⟩
    rw [combineBillingExpr_rules (by rw [htrimb]; exact hb) htrim hr, htrimb]
    obtain ⟨hself, hne⟩ := trim_wrapped (b := b) htrim hr
    have hparts := splitTopLevelMultiply_wrapped r hfull
    have hrne : splitTopLevelMultiply r ≠ [] := by
      intro hnil
      rw [hnil] at hjoin
      exact hr hjoin.symm
    refine (split_eq_ok_iff hself hne).mpr (Or.inr ⟨?_, splitTopLevelMultiply r, _, ?_, Or.inl
      ⟨hrne, js "(" ++ b ++ js ")", rfl, ?_⟩⟩)
    · rw [hparts, List.length_cons]
      have := List.length_pos_iff.mpr hrne
      omega
    · rw [hparts]
      exact classifyParts_wrapped_iff.mpr ⟨hisbase, hisrule, rfl⟩
    · rw [unwrapOuterParens_wrapped htrimb hfull hbare, hjoin]

/-- **Combining and splitting are inverse, and the version is kept**, exactly if base and
rules are combinable. -/
theorem combine_split_iff (composite : JsString → Option JsString) (b : JsString)
    (groups : List RequestRuleGroup) :
    (splitBillingExprAndRequestRules composite (combineBillingExpr b (buildRequestRuleExpr groups))
          = .ok ⟨b, buildRequestRuleExpr groups⟩
        ∧ (parseExprVersion (combineBillingExpr b (buildRequestRuleExpr groups))).1
          = (parseExprVersion b).1)
      ↔ Combinable composite b (buildRequestRuleExpr groups) := by
  have htrim := trim_buildRequestRuleExpr groups
  revert htrim
  generalize buildRequestRuleExpr groups = r
  intro htrim
  by_cases hr : r = []
  · subst hr
    rw [combineBillingExpr_nil]
    constructor
    · rintro ⟨hsplit, -⟩
      have hb : b = trim b := billingExpr_of_split_alone (trim_trim b) hsplit
      rw [← hb] at hsplit
      exact ⟨hb.symm, fun _ => (split_alone_iff hb.symm).mp hsplit, fun h => absurd rfl h⟩
    · rintro ⟨hb, halone, -⟩
      rw [hb]
      exact ⟨(split_alone_iff hb).mpr (halone rfl), rfl⟩
  · rw [split_ruled_iff htrim hr]
    have hversion : ∀ {b : JsString}, trim b = b → b ≠ [] →
        (parseExprVersion (combineBillingExpr b r)).1 = 1 := by
      intro b hb hne
      rw [combineBillingExpr_rules (by rw [hb]; exact hne) htrim hr]
      refine parseExprVersion_eq_one (fun hpre => ?_)
      have hclash : Clash (js "v2:") (js "(") := by decide
      refine hclash.not_both hpre ?_
      rw [List.append_assoc, List.append_assoc]
      exact List.prefix_append _ _
    constructor
    · rintro ⟨⟨hb, hne, hfull, hbare, hbase, hrules, hjoin⟩, hv⟩
      rw [hversion hb hne] at hv
      have hnot : ¬ js "v2:" <+: b := by
        intro hpre
        rw [parseExprVersion_eq_two hpre] at hv
        cases hv
      exact ⟨hb, fun h => absurd h hr, fun _ => ⟨hne, hfull, hbare, hbase, hrules, hjoin, hnot⟩⟩
    · rintro ⟨hb, -, hruled⟩
      obtain ⟨hne, hfull, hbare, hbase, hrules, hjoin, hnot⟩ := hruled hr
      refine ⟨⟨hb, hne, hfull, hbare, hbase, hrules, hjoin⟩, ?_⟩
      rw [hversion hb hne, parseExprVersion_eq_one hnot]

/-- The preset of the editor for documents and videos. -/
def documentBase : JsString :=
  js "v2:tier(\"standard\", p * 0.20 + img * 0.45 + doc * 0.45 + ai * 6.50 + vid * 12.00)"

def headerRule : List RequestRuleGroup :=
  [⟨[.request ⟨.header, js "x", .exists, []⟩], js "2"⟩]

theorem version_lost :
    (parseExprVersion documentBase).1 = 2
      ∧ (parseExprVersion (combineBillingExpr documentBase (buildRequestRuleExpr headerRule))).1
        = 1 := by
  decide

/-- A base of the first version can be combined with the same rule. -/
example : Combinable (fun _ => none) (js "tier(\"base\", p * 2)")
    (buildRequestRuleExpr headerRule) := by
  refine ⟨by decide, fun h => absurd h (by decide), fun _ => ?_⟩
  constructor <;> decide

end YouBox
