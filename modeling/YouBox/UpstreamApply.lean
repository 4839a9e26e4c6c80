import YouBox.Draw
import YouBox.UpstreamSync

/-!
# Applying what a detection has found

`applyChannelUpstreamModelUpdates` adds and removes the selected ones of the changes that a
detection has stored, takes the others that are selected to be ignored into the ignore list,
and takes what it adds out of it.

The lists are without repetitions and blanks (`Names`), and the column gives back the list
that was written into it (`modelSet_join`). A selection is applied exactly (`Exact`). A
second detection finds something in one case only (`settled_iff`): an entry of the ignore
list that is an expression may have the spelling of a name the upstream offers. When that
name is added, the entry goes, and with it what it kept back.
-/

namespace YouBox.ChannelDB

/-! ## The source's functions -/

def intersectModelNames (base allowed : List String) : List String :=
  (normalizeModelNames base).filter fun model => model ∈ normalizeModelNames allowed

def applySelectedModelChanges (originModels addModels removeModels : List String) : List String :=
  let normalizedAdd := normalizeModelNames addModels
  let normalizedRemove := subtractModelNames (normalizeModelNames removeModels) normalizedAdd
  subtractModelNames (mergeModelNames originModels normalizedAdd) normalizedRemove

structure Applied where
  channel : Channel
  addedModels : List String
  removedModels : List String
  remainingModels : List String
  remainingRemoveModels : List String
  modelsChanged : Bool

/-- Whose statements do not fail. -/
def applyChannelUpstreamModelUpdates (channel : Channel) (now : Int)
    (addModelsInput ignoreModelsInput removeModelsInput : List String) : Applied :=
  let settings := channel.getOtherSettings
  let pendingAddModels := normalizeModelNames settings.upstreamModelUpdateLastDetectedModels
  let pendingRemoveModels := normalizeModelNames settings.upstreamModelUpdateLastRemovedModels
  let addModels := intersectModelNames addModelsInput pendingAddModels
  let ignoreModels := intersectModelNames ignoreModelsInput pendingAddModels
  let removeModels :=
    subtractModelNames (intersectModelNames removeModelsInput pendingRemoveModels) addModels
  let originModels := normalizeModelNames channel.getModels
  let nextModels := applySelectedModelChanges originModels addModels removeModels
  let modelsChanged := decide (originModels ≠ nextModels)
  let ignored := mergeModelNames settings.upstreamModelUpdateIgnoredModels ignoreModels
  let remainingModels := subtractModelNames pendingAddModels (addModels ++ ignoreModels)
  let remainingRemoveModels := subtractModelNames pendingRemoveModels removeModels
  { channel := { channel with
      models := if modelsChanged then ",".intercalate nextModels else channel.models
      settings := some { settings with
        upstreamModelUpdateIgnoredModels :=
          if addModels ≠ [] then subtractModelNames ignored addModels else ignored
        upstreamModelUpdateLastDetectedModels := remainingModels
        upstreamModelUpdateLastRemovedModels := remainingRemoveModels
        upstreamModelUpdateLastCheckTime := now } }
    addedModels := addModels
    removedModels := removeModels
    remainingModels
    remainingRemoveModels
    modelsChanged }

/-! ## A detection and what is applied of it -/

def Channel.ignoredModels (ch : Channel) : List String :=
  ch.getOtherSettings.upstreamModelUpdateIgnoredModels

/-- An entry of the ignore list keeps the name back. -/
def UpstreamLib.Ignored (lib : UpstreamLib) (ch : Channel) (m : String) : Prop :=
  ∃ i ∈ normalizeModelNames ch.ignoredModels, lib.ignores i m = true

section Detection

variable (lib : UpstreamLib) (ch : Channel) (upstream : List String)
  (mapping : List (String × String))

def UpstreamLib.detected : List String × List String :=
  lib.collectPendingUpstreamModelChangesFromModels ch.getModels upstream ch.ignoredModels mapping

/-- The channel with what the detection stores. -/
def UpstreamLib.stored : Channel :=
  { ch with settings := some { ch.getOtherSettings with
      upstreamModelUpdateLastDetectedModels := (lib.detected ch upstream mapping).1
      upstreamModelUpdateLastRemovedModels := (lib.detected ch upstream mapping).2 } }

/-- The upstream serves the name, and neither the channel nor an alias nor the ignore list
has it. -/
def UpstreamLib.Offered (m : String) : Prop :=
  m ∈ normalizeModelNames upstream ∧ m ∉ ch.modelSet ∧ m ∉ mapping.map Prod.snd ∧
    ¬ lib.Ignored ch m

/-- All changes are applied, and another detection finds none. -/
def UpstreamLib.Settles (now : Int) : Prop :=
  let pending := lib.detected ch upstream mapping
  let applied := applyChannelUpstreamModelUpdates (lib.stored ch upstream mapping) now
    pending.1 [] pending.2
  lib.detected applied.channel upstream mapping = ([], [])

/-- What applying a selection does. A column that is not written keeps what it has, be it a
name twice. -/
structure UpstreamLib.Exact (now : Int) (add ignore remove : List String) (applied : Applied) :
    Prop where
  kept : ∀ m ∈ ch.modelSet, m ∈ normalizeModelNames upstream ∨ m ∈ mapping.map Prod.fst →
    m ∈ applied.channel.modelSet
  added : ∀ m ∈ applied.channel.modelSet, m ∉ ch.modelSet →
    m ∉ mapping.map Prod.snd ∧ ¬ lib.Ignored ch m
  nodup : applied.modelsChanged = true → applied.channel.getModels.Nodup
  order : applied.channel.modelSet.filter (· ∈ ch.modelSet)
    = ch.modelSet.filter (· ∈ applied.channel.modelSet)
  remaining : applied.remainingModels = (lib.detected ch upstream mapping).1.filter
    fun m => m ∉ normalizeModelNames add ∧ m ∉ normalizeModelNames ignore
  remainingRemove : applied.remainingRemoveModels = (lib.detected ch upstream mapping).2.filter
    fun m => m ∉ normalizeModelNames remove

def UpstreamLib.AppliesExactly : Prop :=
  (∀ now, lib.Settles ch upstream mapping now) ∧
    ∀ now add ignore remove, lib.Exact ch upstream mapping now add ignore remove
      (applyChannelUpstreamModelUpdates (lib.stored ch upstream mapping) now add ignore remove)

/-- A name the upstream serves and nobody else covers is, if the ignore list keeps it back,
kept back by an entry that is not itself offered. -/
def UpstreamLib.FirmlyIgnored : Prop :=
  ∀ m ∈ normalizeModelNames upstream, m ∉ ch.modelSet → m ∉ mapping.map Prod.snd →
    lib.Ignored ch m →
      ∃ i ∈ normalizeModelNames ch.ignoredModels, lib.ignores i m = true ∧
        ¬ lib.Offered ch upstream mapping i

end Detection

/-! ## Lists of names -/

/-- What a normalised list is. -/
structure Names (l : List String) : Prop where
  nodup : l.Nodup
  trimmed : ∀ m ∈ l, trimSpace m = m ∧ m ≠ ""

theorem names_normalize (l : List String) : Names (normalizeModelNames l) where
  nodup := Draw.nodup_eraseDups _
  trimmed m hm := by
    obtain ⟨model, _, rfl, hne⟩ := mem_normalizeModelNames.mp hm
    exact ⟨trimSpace_trimSpace model, hne⟩

namespace Names

variable {l r : List String} {m : String}

theorem filter (h : Names l) (q : String → Bool) : Names (l.filter q) where
  nodup := h.nodup.filter q
  trimmed m hm := h.trimmed m (List.mem_of_mem_filter hm)

theorem normalize (h : Names l) : normalizeModelNames l = l := by
  have htrim : (l.filterMap fun model =>
      if trimSpace model ≠ "" then some (trimSpace model) else none) = l := by
    refine (List.filterMap_congr fun m hm => ?_).trans (List.filterMap_some)
    obtain ⟨heq, hne⟩ := h.trimmed m hm
    simp [heq, hne]
  rw [normalizeModelNames, htrim]
  have hnd := h.nodup
  clear htrim h
  induction l with
  | nil => rfl
  | cons a rest ih =>
    obtain ⟨ha, hrest⟩ := List.nodup_cons.mp hnd
    have hother : rest.filter (fun b => !b == a) = rest :=
      List.filter_eq_self.mpr fun b hb => by simpa using fun hba : b = a => ha (hba ▸ hb)
    rw [List.eraseDups_cons, hother, ih hrest]

theorem subtract (h : Names l) (r : List String) :
    subtractModelNames l r = l.filter (· ∉ normalizeModelNames r) := by
  rw [subtractModelNames, h.normalize]

theorem merge (hl : Names l) (hr : Names r) :
    mergeModelNames l r = l ++ r.filter (· ∉ l) := by
  rw [mergeModelNames, hl.normalize, hr.normalize]
  have hnd := hr.nodup
  clear hr hl
  induction r generalizing l with
  | nil => simp
  | cons a rest ih =>
    obtain ⟨ha, hrest⟩ := List.nodup_cons.mp hnd
    rw [List.foldl_cons]
    by_cases hmem : a ∈ l
    · rw [if_pos hmem, ih hrest]
      simp [hmem]
    · rw [if_neg hmem, ih hrest, List.filter_cons_of_pos (by simpa using hmem), List.append_assoc]
      refine congrArg (l ++ a :: ·) (List.filter_congr fun b hb => ?_)
      have hne : b ≠ a := fun h => ha (h ▸ hb)
      simp [hne]

theorem append (hl : Names l) (hr : Names r) (hdisjoint : ∀ m ∈ r, m ∉ l) : Names (l ++ r) where
  nodup := List.nodup_append.mpr ⟨hl.nodup, hr.nodup, fun a ha b hb h => hdisjoint b hb (h ▸ ha)⟩
  trimmed m hm := by
    rcases List.mem_append.mp hm with hm | hm
    · exact hl.trimmed m hm
    · exact hr.trimmed m hm

end Names

theorem Names.intersect {r : List String} (h : Names r) (l : List String) :
    intersectModelNames l r = (normalizeModelNames l).filter (· ∈ r) := by
  rw [intersectModelNames, h.normalize]

theorem applySelected_eq {l a r : List String} (hl : Names l) (ha : Names a) (hr : Names r)
    (hnew : ∀ m ∈ a, m ∉ l) (hkeep : ∀ m ∈ r, m ∉ a) :
    applySelectedModelChanges l a r = (l ++ a).filter (· ∉ r) := by
  have hadd : a.filter (· ∉ l) = a := List.filter_eq_self.mpr fun m hm => by simpa using hnew m hm
  have hremove : r.filter (· ∉ a) = r :=
    List.filter_eq_self.mpr fun m hm => by simpa using hkeep m hm
  simp only [applySelectedModelChanges, ha.normalize, hr.normalize, hl.merge ha, hadd,
    hr.subtract, hremove, (hl.append ha hnew).subtract]

theorem names_subtract (l r : List String) : Names (subtractModelNames l r) :=
  (names_normalize l).filter _

/-! ## The column -/

theorem toList_intercalate (ts : List String) :
    (",".intercalate ts).toList = TopSplit.joinWith [','] (ts.map String.toList) := by
  induction ts with
  | nil => rfl
  | cons t rest ih =>
    cases rest with
    | nil => simp
    | cons u rest =>
      rw [String.intercalate_cons_cons, String.toList_append, String.toList_append, ih]
      rfl

theorem joinWith_intercalate {α : Type*} (sep : List α) (ts : List (List α)) :
    TopSplit.joinWith sep ts = sep.intercalate ts := by
  induction ts with
  | nil => rfl
  | cons t rest ih =>
    cases rest with
    | nil => simp
    | cons u rest => rw [TopSplit.joinWith, ih, List.intercalate_cons_cons]

theorem getModels_join {ch : Channel} {ts : List String} (h : Names ts)
    (hcomma : ∀ t ∈ ts, ',' ∉ t.toList) (hjoin : ch.models = ",".intercalate ts) :
    ch.getModels = ts := by
  by_cases hts : ts = []
  · subst hts
    exact if_pos hjoin
  have hpiece : ∀ t ∈ ts.map String.toList, t ≠ [] ∧ ',' ∉ t := by
    intro t ht
    obtain ⟨u, hu, rfl⟩ := List.mem_map.mp ht
    exact ⟨by simpa using (h.trimmed u hu).2, hcomma u hu⟩
  have hnil : ts.map String.toList ≠ [] := by simpa using hts
  have htrim : TopSplit.trimBy (· == ',') ch.models.toList = ch.models.toList := by
    rw [hjoin, toList_intercalate]
    refine TopSplit.trimBy_joinWith (fun t ht => ?_) fun t ht c hc => ?_
    · obtain ⟨c, rest, rfl⟩ := List.exists_cons_of_ne_nil (hpiece t ht).1
      exact ⟨c, rest, rfl, by
        simpa using fun heq : c = ',' => (hpiece _ ht).2 (heq ▸ List.mem_cons_self)⟩
    · simpa using fun heq : c = ',' => (hpiece t ht).2 (heq ▸ List.mem_of_getLast? hc)
  have hne : ch.models ≠ "" := by
    intro hempty
    have hjoined : TopSplit.joinWith [','] (ts.map String.toList) ≠ [] :=
      TopSplit.joinWith_ne_nil hnil fun t ht => (hpiece t ht).1
    rw [← toList_intercalate, ← hjoin, hempty] at hjoined
    exact hjoined rfl
  rw [Channel.getModels, if_neg hne, splitComma, trimChar, htrim, String.toList_ofList, hjoin,
    toList_intercalate, joinWith_intercalate,
    List.splitOn_intercalate ',' (fun t ht => (hpiece t ht).2) hnil]
  simp

theorem modelSet_join {ch : Channel} {ts : List String} (h : Names ts)
    (hcomma : ∀ t ∈ ts, ',' ∉ t.toList) (hjoin : ch.models = ",".intercalate ts) :
    ch.modelSet = ts := by
  rw [Channel.modelSet, getModels_join h hcomma hjoin, h.normalize]

/-! ## A detection -/

variable {lib : UpstreamLib} {ch : Channel} {upstream : List String}
  {mapping : List (String × String)} {m : String}

theorem detected_eq : lib.detected ch upstream mapping =
    ((normalizeModelNames upstream).filter fun m => m ∉ ch.modelSet ++ mapping.map Prod.snd ∧
        !(normalizeModelNames ch.ignoredModels).any fun i => lib.ignores i m,
      ch.modelSet.filter fun m => m ∉ mapping.map Prod.fst ∧ m ∉ normalizeModelNames upstream) := by
  refine Prod.ext ?_ ?_
  · exact ((names_normalize upstream).filter _).normalize
  · exact ((names_normalize ch.getModels).filter _).normalize

theorem mem_detected_add :
    m ∈ (lib.detected ch upstream mapping).1 ↔ lib.Offered ch upstream mapping m := by
  rw [detected_eq]
  simp [UpstreamLib.Offered, UpstreamLib.Ignored, and_assoc]

theorem mem_detected_remove : m ∈ (lib.detected ch upstream mapping).2 ↔
    m ∈ ch.modelSet ∧ m ∉ mapping.map Prod.fst ∧ m ∉ normalizeModelNames upstream := by
  rw [detected_eq]
  simp

theorem mem_normalize_trimmed {l : List String} (h : ∀ m ∈ l, trimSpace m = m ∧ m ≠ "") :
    m ∈ normalizeModelNames l ↔ m ∈ l := by
  rw [mem_normalizeModelNames]
  constructor
  · rintro ⟨model, hmodel, rfl, _⟩
    rwa [(h model hmodel).1]
  · exact fun hm => ⟨m, hm, h m hm⟩

theorem names_detected : Names (lib.detected ch upstream mapping).1 ∧
    Names (lib.detected ch upstream mapping).2 :=
  ⟨names_normalize _, names_normalize _⟩

theorem removed_not_added (hm : m ∈ (lib.detected ch upstream mapping).2) :
    m ∉ (lib.detected ch upstream mapping).1 := by
  rw [mem_detected_remove] at hm
  rw [mem_detected_add]
  exact fun hoffered => hm.2.2 hoffered.1

/-! ## What a selection applies -/

section Applied

variable (lib ch upstream mapping)
variable (now : Int) (add ignore remove : List String)

/-- The selected names among those that were found to be new. -/
def UpstreamLib.chosenAdd (add : List String) : List String :=
  (normalizeModelNames add).filter (· ∈ (lib.detected ch upstream mapping).1)

def UpstreamLib.chosenRemove : List String :=
  (normalizeModelNames remove).filter (· ∈ (lib.detected ch upstream mapping).2)

def UpstreamLib.nextModels : List String :=
  (ch.modelSet ++ lib.chosenAdd ch upstream mapping add).filter
    (· ∉ lib.chosenRemove ch upstream mapping remove)

def UpstreamLib.nextIgnored : List String :=
  let ignored := mergeModelNames ch.ignoredModels (lib.chosenAdd ch upstream mapping ignore)
  let addModels := lib.chosenAdd ch upstream mapping add
  if addModels ≠ [] then subtractModelNames ignored addModels else ignored

variable {lib ch upstream mapping add ignore remove}

theorem chosenAdd_new (hm : m ∈ lib.chosenAdd ch upstream mapping add) : m ∉ ch.modelSet :=
  (mem_detected_add.mp (by simpa using (List.mem_filter.mp hm).2)).2.1

theorem chosenRemove_not_added (hm : m ∈ lib.chosenRemove ch upstream mapping remove) :
    m ∉ lib.chosenAdd ch upstream mapping add := by
  intro hadd
  exact removed_not_added (by simpa using (List.mem_filter.mp hm).2)
    (by simpa using (List.mem_filter.mp hadd).2)

theorem names_chosenAdd : Names (lib.chosenAdd ch upstream mapping add) :=
  (names_normalize add).filter _

theorem names_chosenRemove : Names (lib.chosenRemove ch upstream mapping remove) :=
  (names_normalize remove).filter _

theorem names_nextModels : Names (lib.nextModels ch upstream mapping add remove) :=
  ((names_normalize ch.getModels).append names_chosenAdd fun _ => chosenAdd_new).filter _

theorem remaining_eq : subtractModelNames (lib.detected ch upstream mapping).1
      (lib.chosenAdd ch upstream mapping add ++ lib.chosenAdd ch upstream mapping ignore)
    = (lib.detected ch upstream mapping).1.filter
        fun m => m ∉ normalizeModelNames add ∧ m ∉ normalizeModelNames ignore := by
  rw [names_detected.1.subtract]
  refine List.filter_congr fun m hm => ?_
  have hmem : m ∈ normalizeModelNames (lib.chosenAdd ch upstream mapping add
      ++ lib.chosenAdd ch upstream mapping ignore)
      ↔ m ∈ normalizeModelNames add ∨ m ∈ normalizeModelNames ignore := by
    rw [mem_normalize_trimmed fun m hm => ?_]
    · simp [UpstreamLib.chosenAdd, hm]
    · rcases List.mem_append.mp hm with hm | hm
      · exact names_chosenAdd.trimmed m hm
      · exact names_chosenAdd.trimmed m hm
  simp [hmem]

theorem remainingRemove_eq : subtractModelNames (lib.detected ch upstream mapping).2
      (lib.chosenRemove ch upstream mapping remove)
    = (lib.detected ch upstream mapping).2.filter fun m => m ∉ normalizeModelNames remove := by
  rw [names_detected.2.subtract, names_chosenRemove.normalize]
  refine List.filter_congr fun m hm => ?_
  simp [UpstreamLib.chosenRemove, hm]

theorem applied_eq : applyChannelUpstreamModelUpdates (lib.stored ch upstream mapping) now add
      ignore remove =
    { channel := { ch with
        models := if ch.modelSet ≠ lib.nextModels ch upstream mapping add remove
          then ",".intercalate (lib.nextModels ch upstream mapping add remove) else ch.models
        settings := some { ch.getOtherSettings with
          upstreamModelUpdateIgnoredModels := lib.nextIgnored ch upstream mapping add ignore
          upstreamModelUpdateLastDetectedModels := (lib.detected ch upstream mapping).1.filter
            fun m => m ∉ normalizeModelNames add ∧ m ∉ normalizeModelNames ignore
          upstreamModelUpdateLastRemovedModels :=
            (lib.detected ch upstream mapping).2.filter fun m => m ∉ normalizeModelNames remove
          upstreamModelUpdateLastCheckTime := now } }
      addedModels := lib.chosenAdd ch upstream mapping add
      removedModels := lib.chosenRemove ch upstream mapping remove
      remainingModels := (lib.detected ch upstream mapping).1.filter
        fun m => m ∉ normalizeModelNames add ∧ m ∉ normalizeModelNames ignore
      remainingRemoveModels :=
        (lib.detected ch upstream mapping).2.filter fun m => m ∉ normalizeModelNames remove
      modelsChanged := decide (ch.modelSet ≠ lib.nextModels ch upstream mapping add remove) } := by
  have hnames := @names_detected lib ch upstream mapping
  have hremove : subtractModelNames (lib.chosenRemove ch upstream mapping remove)
      (lib.chosenAdd ch upstream mapping add) = lib.chosenRemove ch upstream mapping remove := by
    rw [names_chosenRemove.subtract, names_chosenAdd.normalize]
    exact List.filter_eq_self.mpr fun m hm => by simpa using chosenRemove_not_added hm
  have hnext := applySelected_eq (names_normalize ch.getModels) names_chosenAdd names_chosenRemove
    (fun m => chosenAdd_new) (fun m => chosenRemove_not_added)
    (a := lib.chosenAdd ch upstream mapping add) (r := lib.chosenRemove ch upstream mapping remove)
  have hadd := hnames.1.intersect add
  have hignore := hnames.1.intersect ignore
  have hchosen := hnames.2.intersect remove
  rw [← UpstreamLib.chosenAdd] at hadd hignore
  rw [← UpstreamLib.chosenRemove] at hchosen
  have hsettings : (lib.stored ch upstream mapping).getOtherSettings = { ch.getOtherSettings with
      upstreamModelUpdateLastDetectedModels := (lib.detected ch upstream mapping).1
      upstreamModelUpdateLastRemovedModels := (lib.detected ch upstream mapping).2 } := rfl
  have hmodels : (lib.stored ch upstream mapping).getModels = ch.getModels := rfl
  simp only [applyChannelUpstreamModelUpdates, hsettings, hmodels, hnames.1.normalize,
    hnames.2.normalize, hadd, hignore, hchosen, hremove, hnext, remaining_eq, remainingRemove_eq,
    decide_eq_true_eq]
  rfl

theorem nextModels_no_comma (hupstream : ∀ u ∈ upstream, ',' ∉ u.toList)
    (hm : m ∈ lib.nextModels ch upstream mapping add remove) : ',' ∉ m.toList := by
  rcases List.mem_append.mp (List.mem_of_mem_filter hm) with hm | hm
  · exact (mem_modelSet hm).2.2
  · have hoffered := mem_detected_add.mp (by simpa using (List.mem_filter.mp hm).2)
    obtain ⟨u, hu, rfl, _⟩ := mem_normalizeModelNames.mp hoffered.1
    exact fun hcomma => hupstream u hu ((trimSpace_sublist u).subset hcomma)

theorem applied_modelSet (hupstream : ∀ u ∈ upstream, ',' ∉ u.toList) :
    (applyChannelUpstreamModelUpdates (lib.stored ch upstream mapping) now add ignore
      remove).channel.modelSet = lib.nextModels ch upstream mapping add remove := by
  rw [applied_eq]
  by_cases hsame : ch.modelSet = lib.nextModels ch upstream mapping add remove
  · exact (modelSet_congr (if_neg (not_not.mpr hsame))).trans hsame
  · exact modelSet_join names_nextModels (fun _ => nextModels_no_comma hupstream) (if_pos hsame)

theorem mem_chosenAdd : m ∈ lib.chosenAdd ch upstream mapping add ↔
    m ∈ normalizeModelNames add ∧ lib.Offered ch upstream mapping m := by
  rw [UpstreamLib.chosenAdd, List.mem_filter, decide_eq_true_eq, mem_detected_add]

theorem mem_chosenRemove : m ∈ lib.chosenRemove ch upstream mapping remove ↔
    m ∈ normalizeModelNames remove ∧ m ∈ ch.modelSet ∧ m ∉ mapping.map Prod.fst ∧
      m ∉ normalizeModelNames upstream := by
  rw [UpstreamLib.chosenRemove, List.mem_filter, decide_eq_true_eq, mem_detected_remove]

theorem mem_nextModels : m ∈ lib.nextModels ch upstream mapping add remove ↔
    (m ∈ ch.modelSet ∨ m ∈ lib.chosenAdd ch upstream mapping add) ∧
      m ∉ lib.chosenRemove ch upstream mapping remove := by
  rw [UpstreamLib.nextModels, List.mem_filter, List.mem_append, decide_eq_true_eq]

theorem nextModels_order : (lib.nextModels ch upstream mapping add remove).filter
      (· ∈ ch.modelSet)
    = ch.modelSet.filter (· ∈ lib.nextModels ch upstream mapping add remove) := by
  have hnew : ((lib.chosenAdd ch upstream mapping add).filter
      (· ∉ lib.chosenRemove ch upstream mapping remove)).filter (· ∈ ch.modelSet) = [] := by
    rw [List.filter_eq_nil_iff]
    intro m hm
    simpa using chosenAdd_new (List.mem_of_mem_filter hm)
  rw [UpstreamLib.nextModels, List.filter_append, List.filter_append, hnew, List.append_nil,
    List.filter_filter]
  refine List.filter_congr fun m hm => ?_
  rw [← List.filter_append, ← UpstreamLib.nextModels]
  simp [mem_nextModels, hm]

theorem applied_exact (hupstream : ∀ u ∈ upstream, ',' ∉ u.toList) :
    lib.Exact ch upstream mapping now add ignore remove
      (applyChannelUpstreamModelUpdates (lib.stored ch upstream mapping) now add ignore
        remove) := by
  refine ⟨fun m hm hserved => ?_, fun m hm hnew => ?_, ?_, ?_, ?_, ?_⟩
  · rw [applied_modelSet now hupstream, mem_nextModels]
    refine ⟨.inl hm, fun hremove => ?_⟩
    obtain ⟨_, _, hsource, hgone⟩ := mem_chosenRemove.mp hremove
    exact hserved.elim hgone hsource
  · rw [applied_modelSet now hupstream, mem_nextModels] at hm
    obtain ⟨_, _, _, htarget, hignored⟩ := mem_chosenAdd.mp (hm.1.resolve_left hnew)
    exact ⟨htarget, hignored⟩
  · rw [applied_eq]
    intro hchanged
    rw [getModels_join names_nextModels (fun _ => nextModels_no_comma hupstream)
      (if_pos (of_decide_eq_true hchanged))]
    exact names_nextModels.nodup
  · rw [applied_modelSet now hupstream]
    exact nextModels_order
  · rw [applied_eq]
  · rw [applied_eq]

end Applied

/-! ## A second detection -/

theorem mem_nextIgnored :
    m ∈ normalizeModelNames (lib.nextIgnored ch upstream mapping
        (lib.detected ch upstream mapping).1 []) ↔
      m ∈ normalizeModelNames ch.ignoredModels ∧ ¬ lib.Offered ch upstream mapping m := by
  have hadd : m ∈ lib.chosenAdd ch upstream mapping (lib.detected ch upstream mapping).1
      ↔ lib.Offered ch upstream mapping m := by
    rw [mem_chosenAdd, names_detected.1.normalize, mem_detected_add, and_self]
  have hignored := names_normalize ch.ignoredModels
  change m ∈ normalizeModelNames (if lib.chosenAdd ch upstream mapping
      (lib.detected ch upstream mapping).1 ≠ [] then
    subtractModelNames (normalizeModelNames ch.ignoredModels)
      (lib.chosenAdd ch upstream mapping (lib.detected ch upstream mapping).1)
    else normalizeModelNames ch.ignoredModels) ↔ _
  by_cases hnone : lib.chosenAdd ch upstream mapping (lib.detected ch upstream mapping).1 = []
  · rw [if_neg (not_not.mpr hnone), hignored.normalize, ← hadd, hnone]
    simp
  · rw [if_pos hnone, (names_subtract _ _).normalize, hignored.subtract,
      names_chosenAdd.normalize, List.mem_filter, decide_eq_true_eq, hadd]

/-- A second detection finds nothing to remove, and to add what nothing keeps back any more. -/
theorem settled_iff {now : Int} (hupstream : ∀ u ∈ upstream, ',' ∉ u.toList) :
    lib.Settles ch upstream mapping now ↔ lib.FirmlyIgnored ch upstream mapping := by
  have hignored : ∀ m, lib.Ignored (applyChannelUpstreamModelUpdates
      (lib.stored ch upstream mapping) now (lib.detected ch upstream mapping).1 []
        (lib.detected ch upstream mapping).2).channel m ↔
      ∃ i ∈ normalizeModelNames ch.ignoredModels, lib.ignores i m = true ∧
        ¬ lib.Offered ch upstream mapping i := by
    intro m
    rw [UpstreamLib.Ignored, applied_eq]
    change (∃ i ∈ normalizeModelNames (lib.nextIgnored ch upstream mapping
      (lib.detected ch upstream mapping).1 []), _) ↔ _
    simp only [mem_nextIgnored, and_assoc]
    exact exists_congr fun i => and_congr_right fun _ => and_comm
  have hnext : ∀ m, m ∈ lib.nextModels ch upstream mapping (lib.detected ch upstream mapping).1
      (lib.detected ch upstream mapping).2 ↔
        (m ∈ ch.modelSet ∨ lib.Offered ch upstream mapping m) ∧
          ¬ (m ∈ ch.modelSet ∧ m ∉ mapping.map Prod.fst ∧ m ∉ normalizeModelNames upstream) := by
    intro m
    rw [mem_nextModels, mem_chosenAdd, mem_chosenRemove, names_detected.1.normalize,
      names_detected.2.normalize, mem_detected_add, mem_detected_remove, and_self, and_self]
  rw [UpstreamLib.Settles, Prod.ext_iff, List.eq_nil_iff_forall_not_mem,
    List.eq_nil_iff_forall_not_mem]
  simp only [mem_detected_add, mem_detected_remove, applied_modelSet now hupstream, hnext,
    UpstreamLib.Offered.eq_1 lib (applyChannelUpstreamModelUpdates _ _ _ _ _).channel, hignored]
  constructor
  · rintro ⟨hadd, -⟩ m hserved hlocal htarget hkept
    by_contra hfree
    refine hadd m ⟨hserved, ?_, htarget, hfree⟩
    rintro ⟨hlocal' | hoffered, -⟩
    · exact hlocal hlocal'
    · exact hoffered.2.2.2 hkept
  · intro hfirm
    refine ⟨?_, ?_⟩
    · rintro m ⟨hserved, hnot, htarget, hfree⟩
      have hlocal : m ∉ ch.modelSet := fun hm => hnot ⟨.inl hm, fun hgone => hgone.2.2 hserved⟩
      by_cases hkept : lib.Ignored ch m
      · exact hfree (hfirm m hserved hlocal htarget hkept)
      · exact hnot ⟨.inr ⟨hserved, hlocal, htarget, hkept⟩, fun hgone => hgone.2.2 hserved⟩
    · rintro m ⟨⟨hlocal | hoffered, hstay⟩, hsource, hgone⟩
      · exact hstay ⟨hlocal, hsource, hgone⟩
      · exact hgone hoffered.1

/-- A selection is applied exactly, and a second detection finds nothing, if and only if what
the ignore list keeps back does not hang on an entry that is itself offered. -/
theorem applies_exactly_iff (lib : UpstreamLib) (ch : Channel) (upstream : List String)
    (mapping : List (String × String)) (hupstream : ∀ u ∈ upstream, ',' ∉ u.toList) :
    lib.AppliesExactly ch upstream mapping ↔ lib.FirmlyIgnored ch upstream mapping := by
  constructor
  · exact fun h => (settled_iff hupstream).mp (h.1 0)
  · exact fun h => ⟨fun _ => (settled_iff hupstream).mpr h,
      fun now add ignore remove => applied_exact now hupstream⟩

/-! An upstream that lists a name in the spelling of an expression. -/

/-- The one expression there is, `^foo`. -/
def fooLib : UpstreamLib where
  matchString pattern s := some (pattern == "^foo" && "foo".toList.isPrefixOf s.toList)
  parseMapping _ := none

def fooChannel : Channel :=
  { twoKeys none with settings := some ⟨true, false, 0, [], [], ["regex:^foo"], ""⟩ }

theorem fooChannel_firm :
    fooLib.AppliesExactly fooChannel ["foo1", "b"] [] ↔
      fooLib.FirmlyIgnored fooChannel ["foo1", "b"] [] :=
  applies_exactly_iff fooLib fooChannel ["foo1", "b"] [] (by decide)

/-- Adding the name `regex:^foo` takes the expression out of the ignore list. -/
theorem expression_offered : ¬ ∀ (lib : UpstreamLib) (ch : Channel) (upstream : List String)
    (mapping : List (String × String)), (∀ u ∈ upstream, ',' ∉ u.toList) →
      lib.AppliesExactly ch upstream mapping := by
  intro hall
  have hsettles := (hall fooLib fooChannel ["regex:^foo", "foo1"] [] (by decide)).1 0
  have hfirm := (settled_iff (by decide)).mp hsettles
  have hignored : normalizeModelNames fooChannel.ignoredModels = ["regex:^foo"] := by decide
  have hserved : normalizeModelNames ["regex:^foo", "foo1"] = ["regex:^foo", "foo1"] := by decide
  have hlocal : fooChannel.modelSet = ["m"] := by decide
  obtain ⟨i, hi, -, hoffered⟩ := hfirm "foo1" (by simp [hserved]) (by simp [hlocal]) (by simp)
    ⟨"regex:^foo", by simp [hignored], by decide⟩
  rw [hignored, List.mem_singleton] at hi
  subst hi
  refine hoffered ⟨by simp [hserved], by simp [hlocal], by simp, ?_⟩
  rintro ⟨i, hi, hkept⟩
  rw [hignored, List.mem_singleton] at hi
  subst hi
  revert hkept
  decide

end YouBox.ChannelDB
