import YouBox.RuleConditions

/-!
# Whether rules are read back as they were written

The round trip of the rule editor: `buildRequestRuleExpr`, then
`tryParseRequestRuleExpr`. The writer joins texts by operators; the reader cuts at
every such operator outside brackets, also at those within one condition and
within a string, and counts brackets within strings.

So rules are read back exactly if (`ReadBack`) every condition is readable in its
group, no condition is cut at ` && ` and no group at ` * `, and the brackets of each
but the last balance (`Splits`). That excludes most conditions on a parameter:
`contains` and the comparisons are written with ` && ` in them.

That these are needed is the lockstep rule, twice: with the conditions of a group,
followed by its multiplier, and with the groups.
-/

namespace YouBox

open JsText TopSplit

theorem isSeparator_and : IsSeparator openParen closeParen (js " && ") isWhiteSpace :=
  ⟨forall_units (by decide), ⟨0x20, 0x26, js "& ", by decide, by decide, by decide⟩⟩

theorem isSeparator_multiply : IsSeparator openParen closeParen (js " * ") isWhiteSpace :=
  ⟨forall_units (by decide), ⟨0x20, 0x2a, js " ", by decide, by decide, by decide⟩⟩

theorem forall₂_imp_mem {α β : Type} {R S : α → β → Prop} {as : List α} {bs : List β}
    (h : List.Forall₂ R as bs) (himp : ∀ a ∈ as, ∀ b ∈ bs, R a b → S a b) :
    List.Forall₂ S as bs := by
  induction h with
  | nil => exact .nil
  | @cons a b as bs hab _ ih =>
    refine .cons (himp a List.mem_cons_self b List.mem_cons_self hab) (ih ?_)
    exact fun x hx y hy => himp x (List.mem_cons_of_mem a hx) y (List.mem_cons_of_mem b hy)

theorem readAll_eq_ok_iff {α β ε : Type} {read : α → Except ε (Option β)} {as : List α}
    {bs : List β} :
    readAll read as = .ok (some bs)
      ↔ List.Forall₂ (fun a b => read a = .ok (some b)) as bs := by
  induction as generalizing bs with
  | nil =>
    rw [readAll, List.forall₂_nil_left_iff]
    constructor
    · intro h
      exact (Option.some.inj (Except.ok.inj h)).symm
    · rintro rfl
      rfl
  | cons a as ih =>
    rw [readAll, List.forall₂_cons_left_iff]
    constructor
    · intro h
      split at h
      · cases h
      · cases h
      · rename_i b hb
        cases hrest : readAll read as with
        | error e => rw [hrest] at h; cases h
        | ok rest =>
          rw [hrest] at h
          obtain ⟨bs', rfl, rfl⟩ := Option.map_eq_some_iff.mp (Except.ok.inj h)
          exact ⟨b, bs', hb, ih.mp hrest, rfl⟩
    · rintro ⟨b, bs', hb, hrest, rfl⟩
      rw [hb, ih.mpr hrest]
      rfl

/-! ## The text of a group -/

def factorText (inner multiplier : JsString) : JsString :=
  js "(" ++ inner ++ js " ? " ++ multiplier ++ js " : 1)"

theorem isNumber_reverse {n : JsString} : IsNumber n.reverse ↔ IsNumber n := by
  simp [IsNumber]

variable {a s : JsString} {groups : List RequestRuleGroup}

theorem matchFactor_eq_some_iff {inner multiplier : JsString} :
    matchFactor s = some (inner, multiplier)
      ↔ inner ≠ [] ∧ IsNumber multiplier ∧ s = factorText inner multiplier := by
  simp only [matchFactor, Option.bind_eq_bind, Option.bind_eq_some_iff, expect_eq_some_iff,
    Prod.exists, number_eq_some_iff, Option.pure_def]
  constructor
  · rintro ⟨s₁, rfl, s₂, hs₂, n, s₃, ⟨hn, rfl, -⟩, s₄, rfl, h⟩
    split at h
    · cases h
    · rename_i hne
      cases h
      refine ⟨by simpa using hne, isNumber_reverse.mpr hn, ?_⟩
      have hs₁ := congrArg List.reverse hs₂
      simp only [List.reverse_reverse, List.reverse_append] at hs₁
      rw [hs₁, factorText]
      simp
  · rintro ⟨hne, hn, rfl⟩
    refine ⟨inner ++ (js " ? " ++ (multiplier ++ js " : 1)")), ?_, _, ?_, multiplier.reverse, _,
      ⟨isNumber_reverse.mpr hn, rfl, ?_⟩, inner.reverse, rfl, ?_⟩
    · simp only [factorText, List.append_assoc]
    · simp
    · exact show ∀ u ∈ (js " ? ").reverse.head?, isNumberUnit u = false from
        forall_head (by decide)
    · rw [if_neg (by simpa using hne), List.reverse_reverse, List.reverse_reverse]

variable {composite : JsString → Option JsString}

theorem tryParseRuleGroupFactor_eq_ok_iff {g : RequestRuleGroup} :
    tryParseRuleGroupFactor composite a = .ok (some g)
      ↔ g.conditions ≠ [] ∧ ∃ inner, inner ≠ [] ∧ IsNumber g.multiplier
        ∧ a = factorText inner g.multiplier
        ∧ List.Forall₂ (fun p c => Reads composite c p) (splitTopLevelAnd inner) g.conditions := by
  have hread : ∀ {inner : JsString} {cs : List RequestCondition},
      readAll (fun p => tryParseRequestCondition composite (trim p)) (splitTopLevelAnd inner)
          = .ok (some cs)
        ↔ List.Forall₂ (fun p c => Reads composite c p) (splitTopLevelAnd inner) cs := by
    intro inner cs
    rw [readAll_eq_ok_iff]
    constructor
    · intro h
      refine forall₂_imp_mem h ?_
      intro p hp c _ hpc
      rw [show trim p = p from trimBy_of_mem_parts hp] at hpc
      exact tryParseRequestCondition_eq_ok_iff.mp hpc
    · intro h
      refine forall₂_imp_mem h ?_
      intro p hp c _ hpc
      rw [show trim p = p from trimBy_of_mem_parts hp]
      exact tryParseRequestCondition_eq_ok_iff.mpr hpc
  unfold tryParseRuleGroupFactor
  constructor
  · intro h
    split at h
    · cases h
    · rename_i inner multiplier hmatch
      obtain ⟨hne, hnum, rfl⟩ := matchFactor_eq_some_iff.mp hmatch
      cases hcs : readAll (fun p => tryParseRequestCondition composite (trim p))
          (splitTopLevelAnd inner) with
      | error e => rw [hcs] at h; cases h
      | ok cs =>
        rw [hcs] at h
        obtain ⟨cs, hfilter, rfl⟩ := Option.map_eq_some_iff.mp (Except.ok.inj h)
        obtain ⟨rfl, hcsne⟩ := Option.filter_eq_some_iff.mp hfilter
        exact ⟨by simpa using hcsne, inner, hne, hnum, rfl, hread.mp hcs⟩
  · rintro ⟨hcs, inner, hne, hnum, rfl, hreads⟩
    rw [matchFactor_eq_some_iff.mpr ⟨hne, hnum, rfl⟩]
    simp only
    rw [hread.mpr hreads]
    simp [Except.map, hcs]

/-! ## One group -/

/-- The texts that the group joins. -/
def RequestRuleGroup.texts (g : RequestRuleGroup) : List JsString :=
  g.conditions.map (groupText (decide (g.conditions.length ≠ 1)))

/-- Every condition is read back in its group, and they come apart where they were
joined. -/
structure RequestRuleGroup.ReadBack (g : RequestRuleGroup) : Prop where
  conditions : ∀ c ∈ g.conditions, c.ReadBack (decide (g.conditions.length ≠ 1))
  splits : Splits openParen closeParen (js " && ") g.texts

theorem buildRuleGroupFactor_eq {g : RequestRuleGroup} (hvalid : g.Valid) :
    buildRuleGroupFactor g = factorText (joinWith (js " && ") g.texts) (trim g.multiplier) := by
  obtain ⟨hnum, hne, hconds⟩ := hvalid
  have hfilter : (g.conditions.map buildRequestConditionExpr).filter (fun e => e ≠ [])
      = g.conditions.map buildRequestConditionExpr := by
    refine List.filter_eq_self.mpr ?_
    intro e he
    obtain ⟨c, hc, rfl⟩ := List.mem_map.mp he
    simpa using hconds c hc
  unfold buildRuleGroupFactor
  simp only [hnum, Bool.not_true, Bool.false_eq_true, if_false, hfilter, combinedTexts_eq]
  rw [if_neg (by simpa using hne)]
  rfl

theorem texts_edges {g : RequestRuleGroup} (hvalid : g.Valid) :
    ∀ t ∈ g.texts, (∃ u t', t = u :: t' ∧ isWhiteSpace u = false)
      ∧ ∀ u ∈ t.getLast?, isWhiteSpace u = false ∧ u ∉ js " && " := by
  intro t ht
  obtain ⟨c, hc, rfl⟩ := List.mem_map.mp ht
  exact groupText_edges _ (hvalid.2.2 c hc)

theorem trim_of_edges {t : JsString} (hhead : ∃ u t', t = u :: t' ∧ isWhiteSpace u = false)
    (hlast : ∀ u ∈ t.getLast?, isWhiteSpace u = false) : trim t = t ∧ t ≠ [] := by
  obtain ⟨u, t', rfl, hu⟩ := hhead
  refine ⟨trimBy_eq_self ?_ hlast, List.cons_ne_nil u t'⟩
  intro x hx
  obtain rfl : u = x := by simpa using hx
  exact hu

theorem splitTopLevelAnd_joinWith {g : RequestRuleGroup} (hvalid : g.Valid)
    (h : pieces openParen closeParen (js " && ") 0 0 (joinWith (js " && ") g.texts) = g.texts) :
    splitTopLevelAnd (joinWith (js " && ") g.texts) = g.texts := by
  have htrim : ∀ t ∈ g.texts, trim t = t ∧ t ≠ [] := fun t ht =>
    trim_of_edges (texts_edges hvalid t ht).1 (fun u hu => ((texts_edges hvalid t ht).2 u hu).1)
  exact parts_of_pieces h (fun t ht => (htrim t ht).1) (fun t ht => (htrim t ht).2)

/-- **A group that is read was written so**, whatever follows. -/
theorem group_read {g : RequestRuleGroup} (hvalid : g.Valid) {X : JsString}
    (h : tryParseRuleGroupFactor composite a = .ok (some g.canonical)) (ha : a <+: X)
    (hf : buildRuleGroupFactor g <+: X) : a = buildRuleGroupFactor g ∧ g.ReadBack := by
  have hfactor := buildRuleGroupFactor_eq hvalid
  have htexts : g.texts ≠ [] := by simpa [RequestRuleGroup.texts] using hvalid.2.1
  have hedges := texts_edges hvalid
  obtain ⟨-, inner, -, -, rfl, hreads⟩ := tryParseRuleGroupFactor_eq_ok_iff.mp h
  have hreads : List.Forall₂ (fun p c => Reads composite c.canonical p) (splitTopLevelAnd inner)
      g.conditions := List.forall₂_map_right_iff.mp hreads
  have hdet : List.Forall₂ Determines (splitTopLevelAnd inner) g.texts := by
    refine List.forall₂_map_right_iff.mpr (forall₂_imp_mem hreads ?_)
    intro p hp c hc hpc Y hpY hY
    have hlast : ∀ u ∈ p.getLast?, isWhiteSpace u = false := by
      rw [← trimBy_of_mem_parts hp]
      exact not_space_getLast_trimBy p
    exact (reads_groupText hpc (hvalid.2.2 c hc) hlast hpY hY).1
  -- both go on with the multiplier
  have htail : js " ? " ++ (trim g.multiplier ++ js " : 1)")
      = 0x20 :: 0x3f :: (js " " ++ (trim g.multiplier ++ js " : 1)")) := rfl
  have hshape : ∀ inner, factorText inner (trim g.multiplier)
      = js "(" ++ (inner ++ (js " ? " ++ (trim g.multiplier ++ js " : 1)"))) := by
    intro inner
    simp only [factorText, List.append_assoc]
  rw [hfactor, hshape] at hf
  rw [show g.canonical.multiplier = trim g.multiplier from rfl, hshape] at ha
  obtain ⟨Y, rfl⟩ := (List.prefix_append _ _).trans ha
  obtain ⟨hinner, hpieces⟩ := lockstep isSeparator_and htail (by decide) (by decide) (by decide)
    hdet htexts (fun t ht => (hedges t ht).1) rfl ((List.prefix_append_right_inj _).mp ha)
    ((List.prefix_append_right_inj _).mp hf)
  subst hinner
  rw [splitTopLevelAnd_joinWith hvalid hpieces] at hreads
  refine ⟨hfactor.symm, ?_, ?_⟩
  · intro c hc
    have hc' := List.forall₂_same.mp (List.forall₂_map_left_iff.mp hreads) c hc
    refine (reads_groupText hc' (hvalid.2.2 c hc) ?_ (List.prefix_refl _) (List.prefix_refl _)).2
    exact fun u hu => ((groupText_edges _ (hvalid.2.2 c hc)).2 u hu).1
  · exact (pieces_joinWith_iff isSeparator_and htexts
      (fun t ht u hu => ((hedges t ht).2 u hu).2)).mp hpieces

theorem group_of_readBack {g : RequestRuleGroup} (hvalid : g.Valid) (h : g.ReadBack) :
    tryParseRuleGroupFactor composite (buildRuleGroupFactor g) = .ok (some g.canonical) := by
  have htexts : g.texts ≠ [] := by simpa [RequestRuleGroup.texts] using hvalid.2.1
  have hedges := texts_edges hvalid
  have hpieces := (pieces_joinWith_iff isSeparator_and htexts
    (fun t ht u hu => ((hedges t ht).2 u hu).2)).mpr h.splits
  have hinner : joinWith (js " && ") g.texts ≠ [] := by
    refine joinWith_ne_nil htexts ?_
    intro t ht
    obtain ⟨⟨u, t', rfl, -⟩, -⟩ := hedges t ht
    exact List.cons_ne_nil u t'
  rw [buildRuleGroupFactor_eq hvalid]
  refine tryParseRuleGroupFactor_eq_ok_iff.mpr ⟨?_, joinWith (js " && ") g.texts, hinner,
    isNumber_of_isNumericLiteral hvalid.1, rfl, ?_⟩
  · simpa [RequestRuleGroup.canonical] using hvalid.2.1
  · rw [splitTopLevelAnd_joinWith hvalid hpieces]
    refine List.forall₂_map_right_iff.mpr (List.forall₂_map_left_iff.mpr
      (List.forall₂_same.mpr ?_))
    exact fun c hc => reads_of_readBack (hvalid.2.2 c hc) (h.conditions c hc)

/-! ## All groups -/

/-- What the round trip needs of the rules. -/
structure ReadBack (groups : List RequestRuleGroup) : Prop where
  each : ∀ g ∈ groups, g.ReadBack
  splits : Splits openParen closeParen (js " * ") (groups.map buildRuleGroupFactor)

theorem factor_edges {g : RequestRuleGroup} (hne : buildRuleGroupFactor g ≠ []) :
    (∃ u t, buildRuleGroupFactor g = u :: t ∧ isWhiteSpace u = false)
      ∧ ∀ u ∈ (buildRuleGroupFactor g).getLast?, isWhiteSpace u = false ∧ u ∉ js " * " := by
  obtain ⟨inner, multiplier, heq⟩ : ∃ inner multiplier,
      buildRuleGroupFactor g = factorText inner multiplier := by
    unfold buildRuleGroupFactor at hne ⊢
    simp only at hne ⊢
    split at hne
    · exact absurd rfl hne
    · rename_i hnum
      split at hne
      · exact absurd rfl hne
      · rename_i hconds
        rw [if_neg hnum, if_neg hconds]
        exact ⟨_, _, rfl⟩
  rw [heq]
  refine ⟨⟨openParen, _, rfl, by decide⟩, ?_⟩
  intro u hu
  rw [factorText, List.getLast?_append] at hu
  obtain rfl : closeParen = u := Option.some.inj hu
  decide

theorem trim_buildRequestRuleExpr (groups : List RequestRuleGroup) :
    trim (buildRequestRuleExpr groups) = buildRequestRuleExpr groups := by
  have hedges : ∀ t ∈ (groups.map buildRuleGroupFactor).filter (fun e => e ≠ []),
      (∃ u t', t = u :: t' ∧ isWhiteSpace u = false)
        ∧ ∀ u ∈ t.getLast?, isWhiteSpace u = false ∧ u ∉ js " * " := by
    intro t ht
    obtain ⟨hmem, hne⟩ := List.mem_filter.mp ht
    obtain ⟨g, -, rfl⟩ := List.mem_map.mp hmem
    exact factor_edges (by simpa using hne)
  exact trimBy_joinWith (fun t ht => (hedges t ht).1) (fun t ht u hu => ((hedges t ht).2 u hu).1)

theorem RequestRuleGroup.Valid.factor_ne_nil {g : RequestRuleGroup} (hvalid : g.Valid) :
    buildRuleGroupFactor g ≠ [] := by
  rw [buildRuleGroupFactor_eq hvalid]
  exact List.cons_ne_nil openParen _

theorem buildRequestRuleExpr_eq (hvalid : ∀ g ∈ groups, g.Valid) :
    buildRequestRuleExpr groups = joinWith (js " * ") (groups.map buildRuleGroupFactor) := by
  have hfilter : (groups.map buildRuleGroupFactor).filter (fun e => e ≠ [])
      = groups.map buildRuleGroupFactor := by
    refine List.filter_eq_self.mpr ?_
    intro e he
    obtain ⟨g, hg, rfl⟩ := List.mem_map.mp he
    simpa using (hvalid g hg).factor_ne_nil
  rw [buildRequestRuleExpr, hfilter]

theorem factors_edges (hvalid : ∀ g ∈ groups, g.Valid) :
    ∀ t ∈ groups.map buildRuleGroupFactor, (∃ u t', t = u :: t' ∧ isWhiteSpace u = false)
      ∧ ∀ u ∈ t.getLast?, isWhiteSpace u = false ∧ u ∉ js " * " := by
  intro t ht
  obtain ⟨g, hg, rfl⟩ := List.mem_map.mp ht
  exact factor_edges (hvalid g hg).factor_ne_nil

theorem splitTopLevelMultiply_of_pieces {ts : List JsString}
    (hedges : ∀ t ∈ ts, (∃ u t', t = u :: t' ∧ isWhiteSpace u = false)
      ∧ ∀ u ∈ t.getLast?, isWhiteSpace u = false ∧ u ∉ js " * ")
    (h : pieces openParen closeParen (js " * ") 0 0 s = ts) : splitTopLevelMultiply s = ts := by
  have hself : ∀ t ∈ ts, trim t = t ∧ t ≠ [] := fun t ht =>
    trim_of_edges (hedges t ht).1 (fun u hu => ((hedges t ht).2 u hu).1)
  exact parts_of_pieces h (fun t ht => (hself t ht).1) (fun t ht => (hself t ht).2)

/-- **The round trip of the rule editor**: what it writes is read back, in normal
form, exactly if it reads back (`ReadBack`). -/
theorem ruleExpr_read_back_iff (composite : JsString → Option JsString)
    (groups : List RequestRuleGroup) (hvalid : ∀ g ∈ groups, g.Valid) :
    tryParseRequestRuleExpr composite (buildRequestRuleExpr groups)
        = .ok (some (groups.map RequestRuleGroup.canonical))
      ↔ ReadBack groups := by
  have hedges := factors_edges hvalid
  have htrim := trim_buildRequestRuleExpr groups
  by_cases hnil : groups = []
  · subst hnil
    exact iff_of_true rfl ⟨by simp, by constructor <;> simp⟩
  have hfactors : groups.map buildRuleGroupFactor ≠ [] := by simpa using hnil
  have hne : buildRequestRuleExpr groups ≠ [] := by
    rw [buildRequestRuleExpr_eq hvalid]
    refine joinWith_ne_nil hfactors ?_
    intro t ht
    obtain ⟨g, hg, rfl⟩ := List.mem_map.mp ht
    exact (hvalid g hg).factor_ne_nil
  simp only [tryParseRequestRuleExpr, htrim, if_neg hne, readAll_eq_ok_iff,
    List.forall₂_map_right_iff]
  have hsplits := pieces_joinWith_iff isSeparator_multiply hfactors
    (fun t ht u hu => ((hedges t ht).2 u hu).2)
  rw [← buildRequestRuleExpr_eq hvalid] at hsplits
  constructor
  · intro h
    have hdet : List.Forall₂ Determines (splitTopLevelMultiply (buildRequestRuleExpr groups))
        (groups.map buildRuleGroupFactor) := by
      refine List.forall₂_map_right_iff.mpr (forall₂_imp_mem h ?_)
      intro p _ g hg hpg X hpX hX
      exact (group_read (hvalid g hg) hpg hpX hX).1
    -- nothing follows the rules; any tail will do
    have htail : js " ?" = 0x20 :: 0x3f :: [] := by decide
    obtain ⟨-, hpieces⟩ := lockstep isSeparator_multiply htail (by decide) (by decide) (by decide)
      hdet hfactors (fun t ht => (hedges t ht).1) rfl List.prefix_rfl
      (by rw [← buildRequestRuleExpr_eq hvalid])
    rw [splitTopLevelMultiply_of_pieces hedges hpieces] at h
    refine ⟨?_, hsplits.mp hpieces⟩
    intro g hg
    have hg' := List.forall₂_same.mp (List.forall₂_map_left_iff.mp h) g hg
    exact (group_read (hvalid g hg) hg' (List.prefix_refl _) (List.prefix_refl _)).2
  · intro h
    rw [splitTopLevelMultiply_of_pieces hedges (hsplits.mpr h.splits)]
    refine List.forall₂_map_left_iff.mpr (List.forall₂_same.mpr ?_)
    exact fun g hg => group_of_readBack (hvalid g hg) (h.each g hg)

/-- A header that exists and a night, and an equality with quotes in it. -/
def ruleDemo : List RequestRuleGroup :=
  [⟨[.request ⟨.header, js "x-tier", .exists, []⟩,
      .time ⟨.hour, js "UTC", .range, [], js "21", js "6"⟩], js "0.5"⟩,
    ⟨[.request ⟨.param, js "model", .eq, js " a \"b\" "⟩], js "2"⟩]

theorem ruleDemo_read_back :
    (∀ g ∈ ruleDemo, g.Valid) ∧ ReadBack ruleDemo
      ∧ tryParseRequestRuleExpr (fun _ => none) (buildRequestRuleExpr ruleDemo)
        = .ok (some (ruleDemo.map RequestRuleGroup.canonical)) := by
  have hvalid : ∀ g ∈ ruleDemo, g.Valid := by decide
  have hread : tryParseRequestRuleExpr (fun _ => none) (buildRequestRuleExpr ruleDemo)
      = .ok (some (ruleDemo.map RequestRuleGroup.canonical)) := by decide
  exact ⟨hvalid, (ruleExpr_read_back_iff _ ruleDemo hvalid).mp hread, hread⟩

/-- One comparison of a parameter: `(param("n") != nil && param("n") > 5 ? 2 : 1)`. -/
def comparedParameter : List RequestRuleGroup :=
  [⟨[.request ⟨.param, js "n", .gt, js "5"⟩], js "2"⟩]

/-- The reader cuts it in two and knows neither half. -/
theorem comparedParameter_not_read :
    (∀ g ∈ comparedParameter, g.Valid)
      ∧ tryParseRequestRuleExpr (fun _ => none) (buildRequestRuleExpr comparedParameter)
        = .ok none := by
  decide

end YouBox
