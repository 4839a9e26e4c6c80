import YouBox.ModelRequest
import YouBox.NegativeIndex

/-!
# Incoming paths of advanced custom channels

A configured path has at most one `{model}`, and a request path matches it with a
model in that place; `:generateContent` also stands for `:streamGenerateContent`.
What comes before the placeholder and what comes after it are looked for in the
request path each on its own, and where they meet in it a request path that has no
room for a model matches too (`Overlapping`).
-/

namespace YouBox.AdvancedCustom

open Strings Distributor

def trimSuffix (s finish : String) : String :=
  if hasSuffix s finish then String.ofList (s.toList.take (s.toList.length - finish.toList.length))
  else s

def matchAdvancedCustomIncomingPathTemplate (configuredPath requestPath : String) : Bool :=
  if !contains configuredPath "{model}" then configuredPath == requestPath
  else
    match split configuredPath "{model}" with
    | [first, last] =>
      if !hasPrefix requestPath first || !hasSuffix requestPath last then false
      else
        let model := trimSuffix (trimPrefix requestPath first) last
        model != "" && !contains model "/"
    | _ => false

/-- `strings.Replace(configuredPath, ":generateContent", ":streamGenerateContent", 1)`. -/
def streamPath (configuredPath : String) : String :=
  String.ofList (Override.replaceFirst ":generateContent".toList ":streamGenerateContent".toList
    configuredPath.toList)

def matchAdvancedCustomIncomingPath (configuredPath requestPath : String) : Bool :=
  if matchAdvancedCustomIncomingPathTemplate configuredPath requestPath then true
  else if contains configuredPath ":generateContent" then
    matchAdvancedCustomIncomingPathTemplate (streamPath configuredPath) requestPath
  else false

/-! ## The parts of a template -/

def placeholder : List Char := "{model}".toList

/-- What stands around the only placeholder. -/
def Parts (t first last : List Char) : Prop :=
  t = first ++ placeholder ++ last ∧ ¬ placeholder <:+: first ∧ ¬ placeholder <:+: last

theorem contains_iff {s part : String} : contains s part = true ↔ part.toList <:+: s.toList := by
  simp only [contains, List.any_eq_true, List.mem_tails, List.isPrefixOf_iff_prefix]
  exact ⟨fun ⟨t, ht, hp⟩ => hp.isInfix.trans ht.isInfix,
    fun h => (List.infix_iff_prefix_suffix.mp h).imp fun t ht => ⟨ht.2, ht.1⟩⟩

theorem splitFrom_skip (part l cs : List Char) :
    splitFrom placeholder l.length part (l ++ cs) = splitFrom placeholder 0 part cs := by
  induction l with
  | nil => rfl
  | cons x rest ih => exact ih

/-- The placeholder begins with a character that is not in it again, so a match does
not begin before it. -/
theorem not_placeholder_prefix {x : Char} {first last : List Char}
    (h : ¬ placeholder <:+: x :: first) :
    ¬ placeholder <+: x :: first ++ (placeholder ++ last) := by
  intro hp
  obtain hin | ⟨tail, htail⟩ :=
    List.prefix_or_prefix_of_prefix hp (List.prefix_append (x :: first) _)
  · exact h hin.isInfix
  have hlast : tail <+: placeholder ++ last :=
    (List.prefix_append_right_inj (x :: first)).mp (by rwa [htail])
  cases tail with
  | nil => exact h (by rw [← htail, List.append_nil])
  | cons y tail =>
    obtain rfl : y = '{' := by
      obtain ⟨rest, hrest⟩ := hlast
      exact (List.cons.inj hrest).1
    have hmem : '{' ∈ placeholder.tail := by
      rw [← htail]
      exact List.mem_append_right _ List.mem_cons_self
    revert hmem
    decide

theorem splitFrom_ne_nil : ∀ skip part cs, splitFrom placeholder skip part cs ≠ []
  | _, _, [] => by simp [splitFrom]
  | skip + 1, part, _ :: cs => splitFrom_ne_nil skip part cs
  | 0, part, c :: cs => by
    rw [splitFrom]
    split
    · simp
    · exact splitFrom_ne_nil 0 (c :: part) cs

theorem splitFrom_of_absent {part cs : List Char} (h : ¬ placeholder <:+: cs) :
    splitFrom placeholder 0 part cs = [String.ofList (part.reverse ++ cs)] := by
  induction cs generalizing part with
  | nil => simp [splitFrom]
  | cons c cs ih =>
    rw [splitFrom, if_neg (by simpa using fun hp => h (List.IsPrefix.isInfix hp)),
      ih fun hin => h (hin.trans (List.suffix_cons c cs).isInfix)]
    simp

theorem splitFrom_first {part first last : List Char} (h : ¬ placeholder <:+: first) :
    splitFrom placeholder 0 part (first ++ (placeholder ++ last)) =
      String.ofList (part.reverse ++ first) :: splitFrom placeholder 0 [] last := by
  induction first generalizing part with
  | nil =>
    have hcut := splitFrom_skip [] placeholder.tail last
    rw [List.append_nil, List.nil_append]
    exact congrArg (_ :: ·) hcut
  | cons x first ih =>
    have hx : ¬ placeholder <+: x :: first ++ (placeholder ++ last) := not_placeholder_prefix h
    rw [List.cons_append, splitFrom, if_neg (by simpa using hx),
      ih fun hin => h (hin.trans (List.suffix_cons x first).isInfix)]
    simp

theorem first_placeholder (before after : List Char) :
    ∃ first last, before ++ (placeholder ++ after) = first ++ (placeholder ++ last) ∧
      ¬ placeholder <:+: first := by
  by_cases h : placeholder <:+: before
  · obtain ⟨p, s, rfl⟩ := h
    have : p.length < (p ++ placeholder ++ s).length := by simp [placeholder]
    simpa using first_placeholder p (s ++ (placeholder ++ after))
  · exact ⟨before, after, rfl, h⟩
termination_by before.length

theorem split_pair_iff {t : String} {first last : String} :
    split t "{model}" = [first, last] ↔ Parts t.toList first.toList last.toList := by
  constructor
  · intro h
    by_cases hin : placeholder <:+: t.toList
    · obtain ⟨p, s, hps⟩ := hin
      obtain ⟨p', s', hp's', hp'⟩ := first_placeholder p s
      rw [List.append_assoc, hp's'] at hps
      rw [split, ← hps] at h
      obtain ⟨rfl, hrest⟩ := List.cons.inj ((splitFrom_first hp').symm.trans h)
      rw [← hps]
      by_cases hs' : placeholder <:+: s'
      · -- a second placeholder makes a third part
        obtain ⟨q, u, rfl⟩ := hs'
        obtain ⟨q', u', hqu, hq'⟩ := first_placeholder q u
        rw [List.append_assoc, hqu, splitFrom_first hq'] at hrest
        exact absurd (List.cons.inj hrest).2 (splitFrom_ne_nil 0 [] u')
      · rw [splitFrom_of_absent hs'] at hrest
        obtain ⟨rfl, -⟩ := List.cons.inj hrest
        simpa [Parts] using ⟨hp', hs'⟩
    · rw [split, show "{model}".toList = placeholder from rfl, splitFrom_of_absent hin] at h
      cases h
  · rintro ⟨ht, hfirst, hlast⟩
    rw [split, ht, List.append_assoc]
    refine (splitFrom_first hfirst).trans ?_
    rw [splitFrom_of_absent hlast]
    simp

/-! ## What matches -/

/-- The path is the template with a model for the placeholder. -/
def IsInstance (t r : List Char) : Prop :=
  (¬ placeholder <:+: t ∧ r = t) ∨
    ∃ first last model, Parts t first last ∧ r = first ++ model ++ last ∧ model ≠ [] ∧ '/' ∉ model

/-- The path has both parts of the template but not one behind the other, and what follows
the first part passes for a model. -/
def Overlapping (t r : List Char) : Prop :=
  ∃ first last rest, Parts t first last ∧ r = first ++ rest ∧ last <:+ r ∧
    rest.length < last.length ∧ rest ≠ [] ∧ '/' ∉ rest

theorem Parts.infix {t first last : List Char} (h : Parts t first last) : placeholder <:+: t :=
  ⟨first, last, h.1.symm⟩

theorem model_iff {model : String} :
    (model != "" && !contains model "/") = true ↔ model.toList ≠ [] ∧ '/' ∉ model.toList := by
  have hslash : contains model "/" = true ↔ '/' ∈ model.toList := by
    rw [contains_iff]
    exact List.singleton_infix_iff ..
  rw [Bool.and_eq_true, bne_iff_ne, Bool.not_eq_true', ← Bool.not_eq_true, hslash]
  simp

theorem trimmed {r first last : String} {rest : List Char} (h : r.toList = first.toList ++ rest) :
    (trimSuffix (trimPrefix r first) last).toList =
      if last.toList <:+ rest then rest.take (rest.length - last.toList.length) else rest := by
  have hpre : trimPrefix r first = String.ofList rest := by
    rw [trimPrefix, if_pos (by simp [hasPrefix, h]), h, List.drop_left]
  rw [hpre, trimSuffix]
  by_cases hlast : last.toList <:+ rest <;> simp [hasSuffix, hlast]

/-- With both parts in the path, what is between them, or behind the first where they meet. -/
theorem parts_match_iff (r first last : String) :
    (if !hasPrefix r first || !hasSuffix r last then false
      else
        let model := trimSuffix (trimPrefix r first) last
        model != "" && !contains model "/") = true ↔
      (∃ model, r.toList = first.toList ++ model ++ last.toList ∧ model ≠ [] ∧ '/' ∉ model) ∨
        ∃ rest, r.toList = first.toList ++ rest ∧ last.toList <:+ r.toList ∧
          rest.length < last.toList.length ∧ rest ≠ [] ∧ '/' ∉ rest := by
  have htests : (!hasPrefix r first || !hasSuffix r last) = false ↔
      first.toList <+: r.toList ∧ last.toList <:+ r.toList := by
    simp [hasPrefix, hasSuffix]
  constructor
  · intro h
    split at h
    · cases h
    rename_i hboth
    obtain ⟨⟨rest, hrest⟩, hlast⟩ := htests.mp (Bool.eq_false_iff.mpr hboth)
    have hmodel := model_iff.mp h
    rw [trimmed hrest.symm] at hmodel
    by_cases hin : last.toList <:+ rest
    · obtain ⟨model, rfl⟩ := hin
      rw [if_pos (List.suffix_append model _), List.length_append, Nat.add_sub_cancel,
        List.take_left] at hmodel
      exact .inl ⟨model, by rw [← hrest, List.append_assoc], hmodel⟩
    · rw [if_neg hin] at hmodel
      refine .inr ⟨rest, hrest.symm, hlast, ?_, hmodel⟩
      obtain h | h := List.suffix_or_suffix_of_suffix hlast (hrest ▸ List.suffix_append _ rest)
      · exact absurd h hin
      · exact lt_of_le_of_ne h.length_le fun heq => hin (h.eq_of_length heq ▸ List.suffix_rfl)
  · rintro (⟨model, hr, hmodel⟩ | ⟨rest, hr, hlast, hlen, hmodel⟩)
    · rw [List.append_assoc] at hr
      rw [if_neg (by rw [Bool.not_eq_true, htests, hr]; exact ⟨List.prefix_append _ _,
        (List.suffix_append _ _).trans (List.suffix_append _ _)⟩)]
      refine model_iff.mpr ?_
      rwa [trimmed hr, if_pos (List.suffix_append _ _), List.length_append, Nat.add_sub_cancel,
        List.take_left]
    · rw [if_neg (by rw [Bool.not_eq_true, htests]; exact ⟨⟨rest, hr.symm⟩, hlast⟩)]
      refine model_iff.mpr ?_
      rwa [trimmed hr, if_neg fun hin => absurd hin.length_le (by omega)]

theorem template_iff (t r : String) :
    matchAdvancedCustomIncomingPathTemplate t r = true ↔
      IsInstance t.toList r.toList ∨ Overlapping t.toList r.toList := by
  unfold matchAdvancedCustomIncomingPathTemplate
  by_cases hin : placeholder <:+: t.toList
  · have hcontains : contains t "{model}" = true := contains_iff.mpr hin
    rw [hcontains, Bool.not_true, if_neg Bool.false_ne_true]
    have hsplit : ∀ {first last : List Char}, Parts t.toList first last →
        split t "{model}" = [String.ofList first, String.ofList last] := by
      intro first last h
      exact split_pair_iff.mpr (by simpa using h)
    split
    · rename_i first last hpair
      have hparts := split_pair_iff.mp hpair
      refine (parts_match_iff r first last).trans (or_congr ⟨?_, ?_⟩ ⟨?_, ?_⟩)
      · rintro ⟨model, h⟩
        exact .inr ⟨_, _, model, hparts, h⟩
      · rintro (⟨hnot, -⟩ | ⟨f, l, model, hfl, h⟩)
        · exact absurd hin hnot
        · obtain ⟨rfl, rfl⟩ : first = String.ofList f ∧ last = String.ofList l := by
            simpa using hpair.symm.trans (hsplit hfl)
          exact ⟨model, by simpa using h⟩
      · rintro ⟨rest, h⟩
        exact ⟨_, _, rest, hparts, h⟩
      · rintro ⟨f, l, rest, hfl, h⟩
        obtain ⟨rfl, rfl⟩ : first = String.ofList f ∧ last = String.ofList l := by
          simpa using hpair.symm.trans (hsplit hfl)
        exact ⟨rest, by simpa using h⟩
    · rename_i hpair
      refine iff_of_false Bool.false_ne_true ?_
      rintro ((⟨hnot, -⟩ | ⟨f, l, -, hfl, -⟩) | ⟨f, l, -, hfl, -⟩)
      · exact hnot hin
      · exact hpair _ _ (hsplit hfl)
      · exact hpair _ _ (hsplit hfl)
  · have hcontains : contains t "{model}" = false :=
      Bool.eq_false_iff.mpr fun h => hin (contains_iff.mp h)
    rw [hcontains, Bool.not_false, if_pos rfl, beq_iff_eq]
    constructor
    · rintro rfl
      exact .inl (.inl ⟨hin, rfl⟩)
    · rintro ((⟨-, h⟩ | ⟨_, _, _, h, -⟩) | ⟨_, _, _, h, -⟩)
      · exact String.toList_inj.mp h.symm
      · exact absurd h.infix hin
      · exact absurd h.infix hin

/-- The configured path, and for streaming too. -/
def templates (configuredPath : String) : List String := [configuredPath, streamPath configuredPath]

theorem replaceFirst_of_not_infix {old new l : List Char} (h : ¬ old <:+: l) :
    Override.replaceFirst old new l = l := by
  induction l with
  | nil => rfl
  | cons c rest ih =>
    rw [Override.replaceFirst, if_neg (by simpa using fun hp => h (List.IsPrefix.isInfix hp)),
      ih fun hin => h (hin.trans (List.suffix_cons c rest).isInfix)]

theorem incomingPath_iff (configuredPath requestPath : String) :
    matchAdvancedCustomIncomingPath configuredPath requestPath = true ↔
      (∃ t ∈ templates configuredPath, IsInstance t.toList requestPath.toList) ∨
        ∃ t ∈ templates configuredPath, Overlapping t.toList requestPath.toList := by
  have hboth : matchAdvancedCustomIncomingPath configuredPath requestPath = true ↔
      ∃ t ∈ templates configuredPath,
        matchAdvancedCustomIncomingPathTemplate t requestPath = true := by
    simp only [templates, List.mem_cons, List.not_mem_nil, or_false, exists_eq_or_imp,
      exists_eq_left, matchAdvancedCustomIncomingPath]
    by_cases hgen : contains configuredPath ":generateContent" = true
    · cases matchAdvancedCustomIncomingPathTemplate configuredPath requestPath <;> simp [hgen]
    · rw [streamPath, replaceFirst_of_not_infix fun h => hgen (contains_iff.mpr h),
        String.ofList_toList]
      simp [hgen]
  simp only [hboth, template_iff, and_or_left, exists_or]

/-- **A template matches exactly its instances** unless the request path is too short for
both parts, and then unless the other template has it for an instance. -/
theorem matches_instances_iff (configuredPath requestPath : String) :
    (matchAdvancedCustomIncomingPath configuredPath requestPath = true ↔
        ∃ t ∈ templates configuredPath, IsInstance t.toList requestPath.toList) ↔
      ((∃ t ∈ templates configuredPath, Overlapping t.toList requestPath.toList) →
        ∃ t ∈ templates configuredPath, IsInstance t.toList requestPath.toList) := by
  rw [incomingPath_iff, or_iff_left_iff_imp]

/-- `/v1/{model}/chat` has no model in `/v1/chat`, and matches it. -/
theorem overlap_matches :
    ¬ (matchAdvancedCustomIncomingPath "/v1/{model}/chat" "/v1/chat" = true ↔
      ∃ t ∈ templates "/v1/{model}/chat", IsInstance t.toList "/v1/chat".toList) := by
  intro h
  obtain ⟨t, ht, hinst⟩ := h.mp rfl
  obtain rfl : t = "/v1/{model}/chat" := by
    have hstream : streamPath "/v1/{model}/chat" = "/v1/{model}/chat" := rfl
    simpa [templates, hstream] using ht
  obtain ⟨hnot, -⟩ | ⟨first, last, model, hparts, hr, -⟩ := hinst
  · exact hnot (contains_iff.mp rfl)
  · have hsplit : split "/v1/{model}/chat" "{model}" = [String.ofList first, String.ofList last] :=
      split_pair_iff.mpr (by simpa using hparts)
    have hvalue : split "/v1/{model}/chat" "{model}" = ["/v1/", "/chat"] := rfl
    obtain ⟨hfirst, hlast⟩ : "/v1/" = String.ofList first ∧ "/chat" = String.ofList last := by
      simpa using hvalue.symm.trans hsplit
    -- nine characters around the model, of the eight of the path
    have hlen := congrArg List.length hr
    rw [← String.toList_ofList (l := first), ← String.toList_ofList (l := last), ← hfirst, ← hlast]
      at hlen
    simp only [List.length_append] at hlen
    have : "/v1/chat".toList.length = 8 := rfl
    have : "/v1/".toList.length = 4 := rfl
    have : "/chat".toList.length = 5 := rfl
    omega

end YouBox.AdvancedCustom
