import YouBox.Strconv
import YouBox.UpstreamModels

/-!
# Status code rules

`ParseHTTPStatusCodeRanges` reads a list of codes and ranges, sorts it and merges what
overlaps or touches. The matcher stops at the first range that begins behind the code,
which is right because of `Apart`: every range ends before the next one begins, with a
code between them.
-/

namespace YouBox.StatusCodes

open Strconv

structure StatusCodeRange where
  start : Int
  stop : Int

namespace StatusCodeRange

def toText (r : StatusCodeRange) : String :=
  if r.start = r.stop then r.start.repr else r.start.repr ++ "-" ++ r.stop.repr

/-- The order of `sort.Slice`. -/
def le (r s : StatusCodeRange) : Bool :=
  if r.start = s.start then r.stop ≤ s.stop else r.start < s.start

def Covers (r : StatusCodeRange) (code : Int) : Prop := r.start ≤ code ∧ code ≤ r.stop

structure Valid (r : StatusCodeRange) : Prop where
  low : 100 ≤ r.start
  ordered : r.start ≤ r.stop
  high : r.stop ≤ 599

end StatusCodeRange

def statusCodeRangesToString (ranges : List StatusCodeRange) : String :=
  ",".intercalate (ranges.map StatusCodeRange.toText)

/-- The loop of `shouldMatchStatusCodeRanges`. -/
def matchRanges (code : Int) : List StatusCodeRange → Bool
  | [] => false
  | r :: rest =>
    if code < r.start then false else if code ≤ r.stop then true else matchRanges code rest

def shouldMatchStatusCodeRanges (ranges : List StatusCodeRange) (code : Int) : Bool :=
  if code < 100 ∨ code > 599 then false else matchRanges code ranges

/-- The token without blanks. -/
def compact (token : String) : List Char := (trimSpace token).toList.filter (· != ' ')

/-- Of an error the caller keeps nothing but that there is one. -/
def parseHTTPStatusCodeToken (token : String) : Option StatusCodeRange :=
  if compact token = [] then none
  else if '-' ∈ compact token then
    match (compact token).splitOn '-' with
    | [first, last] =>
      if first = [] ∨ last = [] then none
      else
        match atoi (String.ofList first), atoi (String.ofList last) with
        | some start, some stop =>
          if start > stop then none
          else if start < 100 ∨ stop > 599 then none
          else some ⟨start, stop⟩
        | _, _ => none
    | _ => none
  else
    match atoi (String.ofList (compact token)) with
    | none => none
    | some code => if code < 100 ∨ code > 599 then none else some ⟨code, code⟩

/-- The segments of the input that are not blank; a wide comma separates like a comma. -/
def segments (input : String) : List String :=
  let text := (trimSpace input).toList.map fun c => if c = '，' then ',' else c
  ((splitComma (String.ofList text)).map trimSpace).filter (· ≠ "")

/-- The loop over the sorted ranges, `last` being the end of what is merged. -/
def merge (last : StatusCodeRange) : List StatusCodeRange → List StatusCodeRange
  | [] => [last]
  | r :: rest =>
    if r.start ≤ last.stop + 1 then
      merge (if r.stop > last.stop then { last with stop := r.stop } else last) rest
    else last :: merge r rest

def parseHTTPStatusCodeRanges (input : String) : Except String (List StatusCodeRange) :=
  if trimSpace input = "" then .ok []
  else
    let invalid := (segments input).filter fun seg => (parseHTTPStatusCodeToken seg).isNone
    if invalid ≠ [] then
      .error ("invalid http status code rules: " ++ ", ".intercalate invalid)
    else
      match ((segments input).filterMap parseHTTPStatusCodeToken).mergeSort StatusCodeRange.le with
      | [] => .ok []
      | first :: rest => .ok (merge first rest)

/-! ## What a segment means -/

/-- The segment is a code, or a range of codes, between 100 and 599. -/
def Denotes (seg : String) (r : StatusCodeRange) : Prop :=
  r.Valid ∧
    (('-' ∉ compact seg ∧ atoi (String.ofList (compact seg)) = some r.start ∧ r.stop = r.start) ∨
      ∃ first last, compact seg = first ++ '-' :: last ∧ '-' ∉ first ∧ '-' ∉ last ∧
        atoi (String.ofList first) = some r.start ∧ atoi (String.ofList last) = some r.stop)

theorem splitOn_pair_iff {text first last : List Char} : text.splitOn '-' = [first, last] ↔
    text = first ++ '-' :: last ∧ '-' ∉ first ∧ '-' ∉ last := by
  constructor
  · intro h
    have hmem : ∀ part ∈ text.splitOn '-', '-' ∉ part := fun _ =>
      ChannelDB.not_mem_of_mem_splitOn
    have htext : ['-'].intercalate (text.splitOn '-') = text := List.intercalate_splitOn '-'
    rw [h] at hmem htext
    exact ⟨by simpa [List.intercalate] using htext.symm, hmem _ (by simp), hmem _ (by simp)⟩
  · rintro ⟨rfl, hfirst, hlast⟩
    rw [List.splitOn_append_cons_self, List.splitOn_eq_singleton hfirst,
      List.splitOn_eq_singleton hlast, List.singleton_append]

theorem atoi_empty : atoi (String.ofList []) = none := by decide

theorem token_iff (seg : String) (r : StatusCodeRange) :
    parseHTTPStatusCodeToken seg = some r ↔ Denotes seg r := by
  unfold parseHTTPStatusCodeToken
  by_cases hempty : compact seg = []
  · rw [if_pos hempty]
    refine iff_of_false nofun ?_
    rintro ⟨-, ⟨-, hatoi, -⟩ | ⟨first, last, htext, -⟩⟩
    · rw [hempty, atoi_empty] at hatoi
      cases hatoi
    · rw [hempty] at htext
      simp at htext
  rw [if_neg hempty]
  by_cases hdash : '-' ∈ compact seg
  · rw [if_pos hdash]
    constructor
    · intro h
      split at h
      · rename_i first last hpair
        obtain ⟨htext, hfirst, hlast⟩ := splitOn_pair_iff.mp hpair
        split at h
        · cases h
        split at h
        · rename_i start stop hstart hstop
          split at h
          · cases h
          split at h
          · cases h
          rename_i hordered hbounds
          cases h
          rw [not_or, not_lt, not_lt] at hbounds
          exact ⟨⟨hbounds.1, not_lt.mp hordered, hbounds.2⟩,
            .inr ⟨first, last, htext, hfirst, hlast, hstart, hstop⟩⟩
        · cases h
      · cases h
    · rintro ⟨⟨hlow, hordered, hhigh⟩,
        ⟨hnot, -⟩ | ⟨first, last, htext, hfirst, hlast, hstart, hstop⟩⟩
      · exact absurd hdash hnot
      rw [splitOn_pair_iff.mpr ⟨htext, hfirst, hlast⟩]
      have hne : ¬ (first = [] ∨ last = []) := by
        rintro (rfl | rfl)
        · rw [atoi_empty] at hstart; cases hstart
        · rw [atoi_empty] at hstop; cases hstop
      simp only [if_neg hne, hstart, hstop, if_neg (not_lt.mpr hordered)]
      rw [if_neg (by omega)]
  · rw [if_neg hdash]
    constructor
    · intro h
      split at h
      · cases h
      · rename_i code hcode
        split at h
        · cases h
        rename_i hbounds
        cases h
        rw [not_or, not_lt, not_lt] at hbounds
        exact ⟨⟨hbounds.1, le_refl _, hbounds.2⟩, .inl ⟨hdash, hcode, rfl⟩⟩
    · rintro ⟨⟨hlow, hordered, hhigh⟩, ⟨-, hcode, hsame⟩ | ⟨first, last, htext, -⟩⟩
      · rw [hcode]
        simp only
        rw [if_neg (by omega)]
        obtain ⟨start, stop⟩ := r
        cases hsame
        rfl
      · rw [htext] at hdash
        simp at hdash

/-! ## Sorting and merging -/

/-- Sorted, and a code between any two ranges. -/
def Apart (ranges : List StatusCodeRange) : Prop :=
  ranges.Pairwise fun r s => r.stop + 1 < s.start

variable {ranges : List StatusCodeRange} {r s : StatusCodeRange} {input : String}

theorem le_start (h : r.le s = true) : r.start ≤ s.start := by
  unfold StatusCodeRange.le at h
  split at h
  · omega
  · exact le_of_lt (by simpa using h)

theorem le_of_apart (hr : r.Valid) (h : r.stop + 1 < s.start) : r.le s = true := by
  have := hr.ordered
  rw [StatusCodeRange.le, if_neg (by omega)]
  simpa using by omega

theorem sort_pairwise (ranges : List StatusCodeRange) :
    (ranges.mergeSort StatusCodeRange.le).Pairwise fun r s => r.start ≤ s.start := by
  refine (List.pairwise_mergeSort ?_ ?_ ranges).imp le_start
  · intro a b c
    simp only [StatusCodeRange.le]
    split_ifs <;> simp <;> omega
  · intro a b
    simp only [StatusCodeRange.le, Bool.or_eq_true]
    split_ifs <;> simp <;> omega

section Merge

variable {last : StatusCodeRange} {rest : List StatusCodeRange}

/-- What merging makes of sorted ranges: they are apart, begin where the first did, and
cover what was covered. -/
theorem merge_spec (hlast : last.Valid) (hrest : ∀ r ∈ rest, r.Valid)
    (hsorted : (last :: rest).Pairwise fun r s => r.start ≤ s.start) :
    Apart (merge last rest) ∧ (∀ r ∈ merge last rest, r.Valid ∧ last.start ≤ r.start) ∧
      ∀ code, (∃ r ∈ merge last rest, r.Covers code) ↔ ∃ r ∈ last :: rest, r.Covers code := by
  induction rest generalizing last with
  | nil => simp [merge, Apart, hlast]
  | cons r rest ih =>
    obtain ⟨hr, hrest⟩ := List.forall_mem_cons.mp hrest
    obtain ⟨hle, htail⟩ := List.pairwise_cons.mp hsorted
    obtain ⟨hler, hlerest⟩ := List.forall_mem_cons.mp hle
    rw [merge]
    split
    · rename_i htouch
      have hlow := hlast.low
      have hordered := hlast.ordered
      split
      · rename_i hlonger
        have hsorted' : (⟨last.start, r.stop⟩ :: rest : List StatusCodeRange).Pairwise
            fun r s => r.start ≤ s.start := List.pairwise_cons.mpr ⟨hlerest, htail.of_cons⟩
        have hlonger' : (⟨last.start, r.stop⟩ : StatusCodeRange).Valid :=
          ⟨hlow, hordered.trans (le_of_lt hlonger), hr.high⟩
        obtain ⟨hapart, hvalid, hcovers⟩ := ih hlonger' hrest hsorted'
        refine ⟨hapart, hvalid, fun code => ?_⟩
        rw [hcovers]
        simp only [List.exists_mem_cons_iff, ← or_assoc]
        refine or_congr_left ?_
        simp only [StatusCodeRange.Covers]
        omega
      · rename_i hinside
        obtain ⟨hapart, hvalid, hcovers⟩ :=
          ih hlast hrest (List.pairwise_cons.mpr ⟨hlerest, htail.of_cons⟩)
        refine ⟨hapart, hvalid, fun code => ?_⟩
        rw [hcovers]
        simp only [List.exists_mem_cons_iff, ← or_assoc]
        refine or_congr_left ?_
        simp only [StatusCodeRange.Covers]
        omega
    · rename_i hgap
      obtain ⟨hapart, hvalid, hcovers⟩ := ih hr hrest htail
      refine ⟨List.pairwise_cons.mpr ⟨fun x hx => ?_, hapart⟩, ?_, ?_⟩
      · have := (hvalid x hx).2
        omega
      · refine List.forall_mem_cons.mpr ⟨⟨hlast, le_refl _⟩, fun x hx => ?_⟩
        exact ⟨(hvalid x hx).1, hler.trans (hvalid x hx).2⟩
      · intro code
        rw [List.exists_mem_cons_iff, List.exists_mem_cons_iff, hcovers]

theorem merge_of_apart (h : Apart (last :: rest)) : merge last rest = last :: rest := by
  induction rest generalizing last with
  | nil => rfl
  | cons r rest ih =>
    obtain ⟨hlast, hrest⟩ := List.pairwise_cons.mp h
    have := hlast r List.mem_cons_self
    rw [merge, if_neg (by omega), ih hrest]

end Merge

theorem matchRanges_iff {code : Int} (h : Apart ranges) (hvalid : ∀ r ∈ ranges, r.Valid) :
    matchRanges code ranges = true ↔ ∃ r ∈ ranges, r.Covers code := by
  induction ranges with
  | nil => simp [matchRanges]
  | cons r rest ih =>
    obtain ⟨hr, hrest⟩ := List.forall_mem_cons.mp hvalid
    obtain ⟨hapart, htail⟩ := List.pairwise_cons.mp h
    rw [List.exists_mem_cons_iff, ← ih htail hrest, matchRanges]
    have := hr.ordered
    split
    · rename_i hbefore
      refine iff_of_false Bool.false_ne_true (not_or.mpr ⟨fun hc => ?_, fun hc => ?_⟩)
      · exact absurd hc.1 (not_le.mpr hbefore)
      · -- the later ranges begin later still
        obtain ⟨x, hx, hc⟩ := (ih htail hrest).mp hc
        have := hapart x hx
        have := hc.1
        omega
    split
    · rename_i hlow hhigh
      exact iff_of_true rfl (.inl ⟨not_lt.mp hlow, hhigh⟩)
    · rename_i hhigh
      exact (or_iff_right fun hc : r.Covers code => hhigh hc.2).symm

/-! ## The printed rules -/

theorem plain_char {c : Char} (h : c.isDigit = true ∨ c = '-' ∨ c = ',') :
    isSpace c = false ∧ c ≠ '，' ∧ c ≠ ' ' := by
  have hn : 44 ≤ c.toNat ∧ c.toNat ≤ 57 := by
    obtain h | rfl | rfl := h
    · have := Char.isDigit_iff_toNat.mp h
      exact ⟨le_trans (by decide) this.1, this.2⟩
    · decide
    · decide
  refine ⟨?_, ?_, ?_⟩
  · simp [isSpace]
    omega
  · rintro rfl
    revert hn
    decide
  · rintro rfl
    revert hn
    decide

theorem repr_digits {n : Int} (hn : 0 ≤ n) : ∀ c ∈ n.repr.toList, c.isDigit = true := by
  obtain ⟨k, rfl⟩ := Int.eq_ofNat_of_zero_le hn
  simp only [Int.repr, Nat.toList_repr]
  exact List.all_eq_true.mp (toDigits_all_isDigit k)

theorem trimSpace_plain {s : String}
    (h : ∀ c ∈ s.toList, c.isDigit = true ∨ c = '-' ∨ c = ',') : trimSpace s = s :=
  trimSpace_eq_self (fun c hc => (plain_char (h c (List.mem_of_head? hc))).1)
    (fun c hc => (plain_char (h c (List.mem_of_getLast? hc))).1)

section Printed

variable {r : StatusCodeRange}

theorem toText_digits (h : r.Valid) : ∀ c ∈ r.toText.toList, c.isDigit = true ∨ c = '-' := by
  have hstart := repr_digits (show 0 ≤ r.start from le_trans (by decide) h.low)
  have hstop := repr_digits (show 0 ≤ r.stop from le_trans (by decide) (h.low.trans h.ordered))
  unfold StatusCodeRange.toText
  intro c hc
  split at hc
  · exact .inl (hstart c hc)
  · simp only [String.toList_append, List.mem_append] at hc
    obtain (hc | hc) | hc := hc
    · exact .inl (hstart c hc)
    · exact .inr (List.mem_singleton.mp hc)
    · exact .inl (hstop c hc)

theorem toText_plain (h : r.Valid) : ∀ c ∈ r.toText.toList, c.isDigit = true ∨ c = '-' ∨ c = ',' :=
  fun c hc => (toText_digits h c hc).imp_right .inl

theorem compact_toText (h : r.Valid) : compact r.toText = r.toText.toList := by
  rw [compact, trimSpace_plain (toText_plain h), List.filter_eq_self]
  exact fun c hc => bne_iff_ne.mpr (plain_char (toText_plain h c hc)).2.2

theorem denotes_toText (h : r.Valid) : Denotes r.toText r := by
  obtain ⟨hlow, hordered, hhigh⟩ := h
  have hdash : ∀ {n : Int}, 100 ≤ n → '-' ∉ n.repr.toList := fun hn hmem =>
    absurd (repr_digits (le_trans (by decide) hn) '-' hmem) (by decide)
  have hatoi : ∀ {n : Int}, 100 ≤ n → n ≤ 599 → atoi (String.ofList n.repr.toList) = some n := by
    intro n hn hn'
    rw [String.ofList_toList]
    exact atoi_repr (by omega) (by omega)
  refine ⟨⟨hlow, hordered, hhigh⟩, ?_⟩
  rw [compact_toText ⟨hlow, hordered, hhigh⟩]
  unfold StatusCodeRange.toText
  split
  · rename_i hsame
    exact .inl ⟨hdash hlow, hatoi hlow (hsame ▸ hhigh), hsame.symm⟩
  · exact .inr ⟨_, _, by simp, hdash hlow, hdash (hlow.trans hordered),
      hatoi hlow (hordered.trans hhigh), hatoi (hlow.trans hordered) hhigh⟩

theorem segments_printed (hvalid : ∀ r ∈ ranges, r.Valid) (hne : ranges ≠ []) :
    segments (statusCodeRangesToString ranges) = ranges.map StatusCodeRange.toText := by
  have hplain : ∀ c ∈ (statusCodeRangesToString ranges).toList,
      c.isDigit = true ∨ c = '-' ∨ c = ',' := by
    intro c hc
    unfold statusCodeRangesToString at hc
    induction ranges with
    | nil => exact absurd rfl hne
    | cons r rest ih =>
      obtain ⟨hr, hrest⟩ := List.forall_mem_cons.mp hvalid
      cases rest with
      | nil => exact toText_plain hr c (by simpa using hc)
      | cons r' rest =>
        rw [List.map_cons, List.map_cons, String.intercalate_cons_cons, String.toList_append,
          String.toList_append, List.mem_append, List.mem_append] at hc
        obtain (hc | hc) | hc := hc
        · exact toText_plain hr c hc
        · exact .inr (.inr (List.mem_singleton.mp hc))
        · exact ih hrest (List.cons_ne_nil _ _) hc
  have hwide : (statusCodeRangesToString ranges).toList.map (fun c => if c = '，' then ',' else c)
      = (statusCodeRangesToString ranges).toList :=
    (List.map_congr_left fun c hc => if_neg (plain_char (hplain c hc)).2.1).trans (List.map_id _)
  have hcomma : ∀ l ∈ (ranges.map StatusCodeRange.toText).map String.toList, ',' ∉ l := by
    intro l hl hmem
    simp only [List.mem_map, exists_exists_and_eq_and] at hl
    obtain ⟨r, hr, rfl⟩ := hl
    have := toText_digits (hvalid r hr) ',' hmem
    revert this
    decide
  have hsplit :
      splitComma (statusCodeRangesToString ranges) = ranges.map StatusCodeRange.toText := by
    rw [splitComma, statusCodeRangesToString, String.toList_intercalate]
    refine (congrArg _ (List.splitOn_intercalate ',' hcomma (by simpa using hne))).trans ?_
    rw [List.map_map]
    exact (List.map_congr_left fun t _ => String.ofList_toList).trans (List.map_id _)
  simp only [segments, trimSpace_plain hplain, hwide, String.ofList_toList, hsplit, List.map_map]
  have htrim :
      ranges.map (trimSpace ∘ StatusCodeRange.toText) = ranges.map StatusCodeRange.toText :=
    List.map_congr_left fun r hr => trimSpace_plain (toText_plain (hvalid r hr))
  rw [htrim, List.filter_eq_self]
  intro t ht
  obtain ⟨r, hr, rfl⟩ := List.mem_map.mp ht
  have hdenotes := denotes_toText (hvalid r hr)
  have hsome := (token_iff _ _).mpr hdenotes
  simp only [decide_eq_true_eq]
  intro hblank
  have hnone : parseHTTPStatusCodeToken "" = none := by decide
  rw [hblank, hnone] at hsome
  cases hsome

end Printed

/-! ## What the rules are parsed to -/

theorem segments_blank (h : trimSpace input = "") : segments input = [] := by
  simp only [segments, h]
  decide

theorem parse_segments (h : ∀ seg ∈ segments input, ∃ r, Denotes seg r) :
    parseHTTPStatusCodeRanges input =
      match ((segments input).filterMap parseHTTPStatusCodeToken).mergeSort StatusCodeRange.le with
      | [] => .ok []
      | first :: rest => .ok (merge first rest) := by
  unfold parseHTTPStatusCodeRanges
  split
  · rename_i hblank
    rw [segments_blank hblank]
    simp
  · have hnone :
        (segments input).filter (fun seg => (parseHTTPStatusCodeToken seg).isNone) = [] := by
      rw [List.filter_eq_nil_iff]
      intro seg hseg
      obtain ⟨r, hr⟩ := h seg hseg
      simp [(token_iff seg r).mpr hr]
    simp only [hnone, ne_eq, not_true_eq_false, if_false]

theorem parse_refused (h : ∃ seg ∈ segments input, ∀ r, ¬ Denotes seg r) :
    ∃ e, parseHTTPStatusCodeRanges input = .error e := by
  obtain ⟨seg, hseg, hnone⟩ := h
  unfold parseHTTPStatusCodeRanges
  rw [if_neg fun hblank => by rw [segments_blank hblank] at hseg; cases hseg]
  have hinvalid : (segments input).filter
      (fun seg => (parseHTTPStatusCodeToken seg).isNone) ≠ [] := by
    refine List.ne_nil_of_mem (List.mem_filter.mpr ⟨hseg, ?_⟩)
    rw [Option.isNone_iff_eq_none, Option.eq_none_iff_forall_ne_some]
    exact fun r hr => hnone r ((token_iff seg r).mp hr)
  simp only [if_pos hinvalid]
  exact ⟨_, rfl⟩

theorem parse_error_iff (input : String) : (∃ e, parseHTTPStatusCodeRanges input = .error e) ↔
    ∃ seg ∈ segments input, ∀ r, ¬ Denotes seg r := by
  refine ⟨fun ⟨e, he⟩ => ?_, parse_refused⟩
  by_contra hnone
  rw [parse_segments (by simpa using hnone)] at he
  split at he <;> cases he

theorem parse_ok (h : parseHTTPStatusCodeRanges input = .ok ranges) :
    Apart ranges ∧ (∀ r ∈ ranges, r.Valid) ∧
      ∀ code, (∃ r ∈ ranges, r.Covers code) ↔
        ∃ seg ∈ segments input, ∃ r, Denotes seg r ∧ r.Covers code := by
  have hall : ∀ seg ∈ segments input, ∃ r, Denotes seg r := by
    by_contra hnone
    obtain ⟨e, he⟩ := parse_refused (show ∃ seg ∈ segments input, ∀ r, ¬ Denotes seg r by
      simpa using hnone)
    rw [he] at h
    cases h
  rw [parse_segments hall] at h
  have hmem : ∀ r, r ∈ ((segments input).filterMap parseHTTPStatusCodeToken).mergeSort
      StatusCodeRange.le ↔ ∃ seg ∈ segments input, Denotes seg r := by
    intro r
    rw [List.mem_mergeSort, List.mem_filterMap]
    exact exists_congr fun seg => and_congr_right fun _ => token_iff seg r
  have hsorted := sort_pairwise ((segments input).filterMap parseHTTPStatusCodeToken)
  have hcovers : ∀ code, (∃ r ∈ ((segments input).filterMap parseHTTPStatusCodeToken).mergeSort
      StatusCodeRange.le, r.Covers code) ↔
        ∃ seg ∈ segments input, ∃ r, Denotes seg r ∧ r.Covers code := by
    intro code
    simp only [hmem]
    exact ⟨fun ⟨r, ⟨seg, hseg, hr⟩, hc⟩ => ⟨seg, hseg, r, hr, hc⟩,
      fun ⟨seg, hseg, r, hr, hc⟩ => ⟨r, ⟨seg, hseg, hr⟩, hc⟩⟩
  have hvalid : ∀ r ∈ ((segments input).filterMap parseHTTPStatusCodeToken).mergeSort
      StatusCodeRange.le, r.Valid := fun r hr => by
    obtain ⟨seg, -, hdenotes⟩ := (hmem r).mp hr
    exact hdenotes.1
  generalize ((segments input).filterMap parseHTTPStatusCodeToken).mergeSort
    StatusCodeRange.le = sorted at h hsorted hcovers hvalid
  cases sorted with
  | nil =>
    cases h
    exact ⟨List.Pairwise.nil, hvalid, hcovers⟩
  | cons first rest =>
    cases h
    obtain ⟨hfirst, hrest⟩ := List.forall_mem_cons.mp hvalid
    obtain ⟨hapart, hvalid', hsame⟩ := merge_spec hfirst hrest hsorted
    exact ⟨hapart, fun r hr => (hvalid' r hr).1, fun code => (hsame code).trans (hcovers code)⟩

theorem parse_printed (hapart : Apart ranges) (hvalid : ∀ r ∈ ranges, r.Valid) :
    parseHTTPStatusCodeRanges (statusCodeRangesToString ranges) = .ok ranges := by
  by_cases hne : ranges = []
  · subst hne
    exact if_pos (by decide)
  have hsegments := segments_printed hvalid hne
  have htoken : ∀ r ∈ ranges, (parseHTTPStatusCodeToken ∘ StatusCodeRange.toText) r = some r := by
    intro r hr
    rw [Function.comp_apply, token_iff]
    exact denotes_toText (hvalid r hr)
  have hread : (ranges.map StatusCodeRange.toText).filterMap parseHTTPStatusCodeToken = ranges := by
    rw [List.filterMap_map, List.filterMap_congr htoken, List.filterMap_some]
  have hsorted : ranges.Pairwise fun r s => r.le s = true :=
    hapart.imp_of_mem fun hr _ h => le_of_apart (hvalid _ hr) h
  have hdenoted : ∀ seg ∈ segments (statusCodeRangesToString ranges), ∃ r, Denotes seg r := by
    rw [hsegments]
    exact List.forall_mem_map.mpr fun r hr => ⟨r, denotes_toText (hvalid r hr)⟩
  have hparse := parse_segments hdenoted
  rw [hsegments, hread, List.mergeSort_of_pairwise hsorted] at hparse
  rw [hparse]
  cases ranges with
  | nil => exact absurd rfl hne
  | cons first rest => exact congrArg Except.ok (merge_of_apart hapart)

/-- **Rules are parsed to their meaning.** -/
theorem status_rules_meaning (input : String) :
    ((∃ e, parseHTTPStatusCodeRanges input = .error e) ↔
      ∃ seg ∈ segments input, ∀ r, ¬ Denotes seg r) ∧
    ∀ ranges, parseHTTPStatusCodeRanges input = .ok ranges →
      Apart ranges ∧ (∀ r ∈ ranges, r.Valid) ∧
      (∀ code, shouldMatchStatusCodeRanges ranges code = true ↔
        ∃ seg ∈ segments input, ∃ r, Denotes seg r ∧ r.Covers code) ∧
      parseHTTPStatusCodeRanges (statusCodeRangesToString ranges) = .ok ranges := by
  refine ⟨parse_error_iff input, fun ranges h => ?_⟩
  obtain ⟨hapart, hvalid, hcovers⟩ := parse_ok h
  refine ⟨hapart, hvalid, fun code => ?_, parse_printed hapart hvalid⟩
  rw [← hcovers, shouldMatchStatusCodeRanges]
  split
  · rename_i hout
    refine iff_of_false Bool.false_ne_true ?_
    rintro ⟨r, hr, hlow, hhigh⟩
    obtain ⟨h100, -, h599⟩ := hvalid r hr
    omega
  · exact matchRanges_iff hapart hvalid

end YouBox.StatusCodes
