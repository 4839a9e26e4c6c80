import YouBox.ChannelRows
import YouBox.SubGroups

/-!
# Names of models

What the upstream update makes of lists of model names: they are trimmed, blank
ones and repetitions dropped, and they are compared as sets. A list goes back into
the `models` column as one text with commas, and what is in that text is again a
list of names. A name without a comma survives this (`mem_modelSet_of_join`); an
upstream name with one comes apart.
-/

namespace YouBox.ChannelDB

def normalizeModelNames (models : List String) : List String :=
  (models.filterMap fun model =>
    if trimSpace model ≠ "" then some (trimSpace model) else none).eraseDups

def mergeModelNames (base appended : List String) : List String :=
  (normalizeModelNames appended).foldl
    (fun merged model => if model ∈ merged then merged else merged ++ [model])
    (normalizeModelNames base)

def subtractModelNames (base removed : List String) : List String :=
  (normalizeModelNames base).filter fun model => model ∉ normalizeModelNames removed

/-- What the detection uses of other packages: `regexp.MatchString`, with nothing
for an expression that does not compile, and the entries of a JSON object of
texts. -/
structure UpstreamLib where
  matchString : String → String → Option Bool
  parseMapping : String → Option (List (String × String))

/-- One entry of an ignore list against a name. -/
def UpstreamLib.ignores (lib : UpstreamLib) (ignoredModel modelName : String) : Bool :=
  if "regex:".toList <+: ignoredModel.toList then
    (lib.matchString (trimSpace (String.ofList (ignoredModel.toList.drop 6))) modelName).getD false
  else ignoredModel == modelName

def UpstreamLib.normalizeChannelModelMapping (lib : UpstreamLib) (ch : Channel) :
    List (String × String) :=
  let rawMapping := trimSpace (ch.modelMapping.getD "")
  if rawMapping = "" ∨ rawMapping = "{}" then []
  else
    ((lib.parseMapping rawMapping).getD []).foldl
      (fun normalized entry =>
        let source := trimSpace entry.1
        let target := trimSpace entry.2
        if source = "" ∨ target = "" then normalized
        else normalized.filter (fun other => other.1 != source) ++ [(source, target)])
      []

/-- The names to add and the names to remove. -/
def UpstreamLib.collectPendingUpstreamModelChangesFromModels (lib : UpstreamLib)
    (localModels upstreamModels ignoredModels : List String)
    (modelMapping : List (String × String)) : List String × List String :=
  let localModels := normalizeModelNames localModels
  let upstreamModels := normalizeModelNames upstreamModels
  let covered := localModels ++ modelMapping.map Prod.snd
  let pendingAdd := upstreamModels.filter fun modelName =>
    modelName ∉ covered ∧
      !(normalizeModelNames ignoredModels).any fun ignored => lib.ignores ignored modelName
  let pendingRemove := localModels.filter fun modelName =>
    modelName ∉ modelMapping.map Prod.fst ∧ modelName ∉ upstreamModels
  (normalizeModelNames pendingAdd, normalizeModelNames pendingRemove)

/-- The names in the `models` column. -/
def Channel.modelSet (ch : Channel) : List String := normalizeModelNames ch.getModels

/-! ## Membership -/

variable {ch : Channel} {models : List String} {m t : String}

theorem mem_normalizeModelNames :
    m ∈ normalizeModelNames models ↔ ∃ model ∈ models, trimSpace model = m ∧ m ≠ "" := by
  simp only [normalizeModelNames, List.mem_eraseDups, List.mem_filterMap]
  constructor
  · rintro ⟨model, hmodel, hm⟩
    split at hm
    · rename_i hne
      cases hm
      exact ⟨model, hmodel, rfl, hne⟩
    · cases hm
  · rintro ⟨model, hmodel, rfl, hne⟩
    exact ⟨model, hmodel, if_pos hne⟩

theorem mem_mergeModelNames {base appended : List String} :
    m ∈ mergeModelNames base appended ↔
      m ∈ normalizeModelNames base ∨ m ∈ normalizeModelNames appended := by
  unfold mergeModelNames
  generalize normalizeModelNames base = merged
  generalize normalizeModelNames appended = more
  induction more generalizing merged with
  | nil => simp
  | cons model rest ih =>
    rw [List.foldl_cons, ih, List.mem_cons]
    split
    · rename_i hmem
      constructor
      · rintro (h | h)
        · exact Or.inl h
        · exact Or.inr (Or.inr h)
      · rintro (h | rfl | h)
        · exact Or.inl h
        · exact Or.inl hmem
        · exact Or.inr h
    · rw [List.mem_append, List.mem_singleton, or_assoc]

theorem trimSpace_sublist (s : String) : (trimSpace s).toList.Sublist s.toList := by
  rw [trimSpace, String.toList_ofList]
  exact (((List.dropWhile_sublist _).reverse.trans
    (by rw [List.reverse_reverse])).trans (List.dropWhile_sublist _))

/-! ## The column of models -/

theorem mem_splitOn_append_sep {c : Char} {pre s t : List Char} (hpre : ∀ x ∈ pre, x = c)
    (ht : t ≠ []) : t ∈ (pre ++ s).splitOn c ↔ t ∈ s.splitOn c := by
  induction pre with
  | nil => rfl
  | cons x rest ih =>
    obtain ⟨rfl, hrest⟩ := List.forall_mem_cons.mp hpre
    rw [List.cons_append, ← List.nil_append (x :: (rest ++ s)), List.splitOn_append_cons_self,
      List.mem_append, ih hrest]
    simp [ht]

/-- The pieces of a text are those of what is left of it without the separators at
its ends, and empty ones. -/
theorem mem_splitOn_trimBy {c : Char} {s t : List Char} (ht : t ≠ []) (h : t ∈ s.splitOn c) :
    t ∈ (TopSplit.trimBy (· == c) s).splitOn c := by
  obtain ⟨pre, post, hs, hpre, hpost⟩ := TopSplit.trimBy_spec (· == c) s
  rw [hs, List.append_assoc,
    mem_splitOn_append_sep (fun x hx => beq_iff_eq.mp (hpre x hx)) ht] at h
  cases post with
  | nil => rwa [List.append_nil] at h
  | cons x rest =>
    obtain ⟨hx, hrest⟩ := List.forall_mem_cons.mp hpost
    obtain rfl := beq_iff_eq.mp hx
    rw [List.splitOn_append_cons_self, List.mem_append] at h
    obtain h | h := h
    · exact h
    · -- behind the text there are only separators
      rw [← List.append_nil rest,
        mem_splitOn_append_sep (fun y hy => beq_iff_eq.mp (hrest y hy)) ht] at h
      simp [ht] at h

theorem mem_splitComma_intercalate {ts : List String} (h : t ∈ ts) (hc : ',' ∉ t.toList) :
    t.toList ∈ (",".intercalate ts).toList.splitOn ',' := by
  induction ts with
  | nil => cases h
  | cons u rest ih =>
    cases rest with
    | nil =>
      obtain rfl := List.mem_singleton.mp h
      rw [String.intercalate_singleton, List.splitOn_eq_singleton hc]
      exact List.mem_singleton.mpr rfl
    | cons v rest =>
      have hsplit : (",".intercalate (u :: v :: rest)).toList.splitOn ',' =
          u.toList.splitOn ',' ++ (",".intercalate (v :: rest)).toList.splitOn ',' := by
        rw [String.intercalate_cons_cons, String.toList_append, String.toList_append,
          List.append_assoc]
        exact List.splitOn_append_cons_self _ _
      rw [hsplit, List.mem_append]
      obtain rfl | h := List.mem_cons.mp h
      · rw [List.splitOn_eq_singleton hc]
        exact Or.inl (List.mem_singleton.mpr rfl)
      · exact Or.inr (ih h)

theorem not_mem_of_mem_splitOn {c : Char} {s piece : List Char} (h : piece ∈ s.splitOn c) :
    c ∉ piece := by
  induction s generalizing piece with
  | nil =>
    obtain rfl := List.mem_singleton.mp h
    exact List.not_mem_nil
  | cons x rest ih =>
    rw [List.splitOn_cons_eq_if_modifyHead] at h
    split at h
    · obtain rfl | h := List.mem_cons.mp h
      · exact List.not_mem_nil
      · exact ih h
    · rename_i hx
      cases hrest : rest.splitOn c with
      | nil => exact absurd hrest (List.splitOn_ne_nil c rest)
      | cons first more =>
        rw [hrest, List.modifyHead_cons] at h
        obtain rfl | h := List.mem_cons.mp h
        · intro hmem
          obtain rfl | hmem := List.mem_cons.mp hmem
          · exact hx (beq_self_eq_true c)
          · exact ih (hrest ▸ List.mem_cons_self) hmem
        · exact ih (hrest ▸ List.mem_cons_of_mem first h)

theorem not_mem_of_mem_splitComma {s : String} (h : t ∈ splitComma s) : ',' ∉ t.toList := by
  obtain ⟨piece, hpiece, rfl⟩ := List.mem_map.mp h
  rw [String.toList_ofList]
  exact not_mem_of_mem_splitOn hpiece

theorem mem_modelSet (h : m ∈ ch.modelSet) : m ≠ "" ∧ trimSpace m = m ∧ ',' ∉ m.toList := by
  obtain ⟨model, hmodel, rfl, hne⟩ := mem_normalizeModelNames.mp h
  refine ⟨hne, trimSpace_trimSpace model, ?_⟩
  intro hcomma
  unfold Channel.getModels at hmodel
  split at hmodel
  · cases hmodel
  · exact not_mem_of_mem_splitComma hmodel ((trimSpace_sublist model).subset hcomma)

theorem mem_modelSet_of_join (hjoin : ch.models = ",".intercalate models) (hmem : m ∈ models)
    (hne : m ≠ "") (htrim : trimSpace m = m) (hcomma : ',' ∉ m.toList) : m ∈ ch.modelSet := by
  have hpiece := mem_splitOn_trimBy (by simpa using hne) (mem_splitComma_intercalate hmem hcomma)
  rw [← hjoin] at hpiece
  refine mem_normalizeModelNames.mpr ⟨m, ?_, htrim, hne⟩
  unfold Channel.getModels
  split
  · rename_i hempty
    rw [hempty] at hpiece
    exact absurd hpiece (by simpa [TopSplit.trimBy] using hne)
  · refine List.mem_map.mpr ⟨m.toList, ?_, String.ofList_toList⟩
    rwa [trimChar, String.toList_ofList]

end YouBox.ChannelDB
