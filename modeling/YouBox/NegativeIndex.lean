import YouBox.Strconv

/-!
# Negative indices in the paths of an override

`processNegativeIndex` replaces the negative indices of a path, which count from
the end of an array. It looks for the array at the text in front of the first
place where the index occurs in the path it was given, and writes the result over
the first place where the index still stands.

`resolvePath` is what is meant: segment by segment, with the array at the
resolved prefix. `processNegativeIndex_eq_iff` compares the two. The code's own
result is taken apart by segments first (`processed_segments`).
-/

namespace YouBox.Override

open Strconv

/-! ## The code -/

/-- What `gjson.GetBytes` finds in a document: at some paths an array, of so many
elements. -/
structure Document where
  arrayLength : List Char → Option Nat
  length_lt : ∀ path n, arrayLength path = some n → n < 2 ^ 63

/-- The index that a segment begins with: a minus sign and digits. -/
def negativeHead : List Char → Option (List Char)
  | '-' :: rest =>
    if rest.takeWhile Char.isDigit = [] then none else some ('-' :: rest.takeWhile Char.isDigit)
  | _ => none

/-- The groups that `\.(-\d+)` matches in a path, from left to right. -/
def negatives : List Char → List (List Char)
  | [] => []
  | c :: rest => (if c = '.' then (negativeHead rest).toList else []) ++ negatives rest

/-- `strings.Split(path, sep)[0]`. -/
def before (sep : List Char) : List Char → List Char
  | [] => []
  | c :: rest => if sep.isPrefixOf (c :: rest) then [] else c :: before sep rest

/-- `strings.TrimSuffix(s, ".")`. -/
def trimDot (s : List Char) : List Char := if s.getLast? = some '.' then s.dropLast else s

/-- `strings.Replace(s, old, new, 1)`. -/
def replaceFirst (old new : List Char) : List Char → List Char
  | [] => []
  | c :: rest =>
    if old.isPrefixOf (c :: rest) then new ++ (c :: rest).drop old.length
    else c :: replaceFirst old new rest

/-- The index from the front, where the array is long enough. -/
def place (length : Nat) (negIndex : List Char) : Option (List Char) :=
  let actualIndex : Int := length + atoiValue (String.ofList negIndex)
  if 0 ≤ actualIndex ∧ actualIndex < length then some (Nat.toDigits 10 actualIndex.toNat) else none

/-- The text where the array of an index is looked for. -/
def arrayPath (path negIndex : List Char) : List Char := trimDot (before negIndex path)

def replaceIndex (doc : Document) (path result negIndex : List Char) : List Char :=
  match (doc.arrayLength (arrayPath path negIndex)).bind (place · negIndex) with
  | some index => replaceFirst ('.' :: negIndex) ('.' :: index) result
  | none => result

def processNegativeIndex (doc : Document) (path : List Char) : List Char :=
  (negatives path).foldl (replaceIndex doc path) path

/-! ## What is meant -/

/-- The number of a segment `-k`. -/
def negativeIndex? : List Char → Option Nat
  | '-' :: digits =>
    if digits ≠ [] ∧ digits.all Char.isDigit ∧ 0 < Nat.ofDigitChars 10 digits 0 then
      some (Nat.ofDigitChars 10 digits 0)
    else none
  | _ => none

/-- A segment behind a resolved prefix. -/
def resolveSegment (doc : Document) (done segment : List Char) : List Char :=
  match negativeIndex? segment, doc.arrayLength done with
  | some k, some n => if k ≤ n then Nat.toDigits 10 (n - k) else segment
  | _, _ => segment

def resolveFrom (doc : Document) : List Char → List (List Char) → List Char
  | done, [] => done
  | done, segment :: rest =>
    resolveFrom doc (done ++ '.' :: resolveSegment doc done segment) rest

/-- The path with every negative index replaced, from left to right. -/
def resolvePath (doc : Document) (path : List Char) : List Char :=
  match path.splitOn '.' with
  | [] => []
  | first :: segments => resolveFrom doc first segments

/-! ## Segments -/

/-- A path from its first segment and the others. -/
def joined (first : List Char) (segments : List (List Char)) : List Char :=
  first ++ segments.flatMap ('.' :: ·)

theorem joined_cons (first segment : List Char) (rest : List (List Char)) :
    joined first (segment :: rest) = joined (first ++ '.' :: segment) rest := by
  rw [joined, joined, List.flatMap_cons, List.append_assoc]

theorem intercalate_eq_joined (first : List Char) (segments : List (List Char)) :
    ['.'].intercalate (first :: segments) = joined first segments := by
  induction segments generalizing first with
  | nil => rw [joined, List.flatMap_nil, List.append_nil, List.intercalate_singleton]
  | cons segment rest ih =>
    rw [List.intercalate_cons_cons, ih, joined, joined, List.flatMap_cons, List.append_assoc]
    rfl

/-- Segments that hold no dot. -/
def Dotless (segments : List (List Char)) : Prop := ∀ s ∈ segments, '.' ∉ s

theorem exists_segments (path : List Char) :
    ∃ first segments, path.splitOn '.' = first :: segments ∧ path = joined first segments ∧
      Dotless (first :: segments) := by
  suffices h : ∃ first segments, path = joined first segments ∧ Dotless (first :: segments) by
    obtain ⟨first, segments, hpath, hdot⟩ := h
    refine ⟨first, segments, ?_, hpath, hdot⟩
    rw [hpath, ← intercalate_eq_joined]
    exact List.splitOn_intercalate '.' hdot (List.cons_ne_nil _ _)
  induction path with
  | nil => exact ⟨[], [], rfl, List.forall_mem_singleton.mpr List.not_mem_nil⟩
  | cons c rest ih =>
    obtain ⟨first, segments, rfl, hdot⟩ := ih
    obtain ⟨hfirst, hsegments⟩ := List.forall_mem_cons.mp hdot
    by_cases hc : c = '.'
    · refine ⟨[], first :: segments, ?_, List.forall_mem_cons.mpr ⟨List.not_mem_nil, hdot⟩⟩
      rw [hc, joined_cons]
      rfl
    · refine ⟨c :: first, segments, rfl, List.forall_mem_cons.mpr ⟨?_, hsegments⟩⟩
      rw [List.mem_cons, not_or]
      exact ⟨fun h => hc h.symm, hfirst⟩

variable {first : List Char} {segments : List (List Char)}
  {segment negIndex tail l index : List Char} {doc : Document} {path : List Char}

theorem joined_inj {first' : List Char} {segments' : List (List Char)}
    (hdot : Dotless (first :: segments)) (hdot' : Dotless (first' :: segments')) :
    joined first segments = joined first' segments' ↔
      first = first' ∧ segments = segments' := by
  constructor
  · intro h
    rw [← intercalate_eq_joined, ← intercalate_eq_joined] at h
    have hsplit := congrArg (List.splitOn '.') h
    rw [List.splitOn_intercalate '.' hdot (List.cons_ne_nil _ _),
      List.splitOn_intercalate '.' hdot' (List.cons_ne_nil _ _)] at hsplit
    exact List.cons.inj hsplit
  · rintro ⟨rfl, rfl⟩
    rfl

/-! ## Indices -/

theorem negativeHead_some (h : negativeHead segment = some negIndex) :
    ∃ digits rest, digits ≠ [] ∧ digits.all Char.isDigit = true ∧
      (∀ c ∈ rest.head?, c.isDigit = false) ∧ negIndex = '-' :: digits ∧
      segment = '-' :: (digits ++ rest) := by
  unfold negativeHead at h
  split at h
  · rename_i rest
    split at h
    · cases h
    · rename_i hne
      injection h with h
      refine ⟨rest.takeWhile Char.isDigit, rest.dropWhile Char.isDigit, hne, ?_, ?_, h.symm, ?_⟩
      · exact List.all_takeWhile
      · intro c hc
        have := List.head?_dropWhile_not Char.isDigit rest
        rw [hc] at this
        simpa using this
      · rw [List.takeWhile_append_dropWhile]
  · cases h

theorem takeWhile_digits {digits rest : List Char} (hdigits : digits.all Char.isDigit = true)
    (hrest : ∀ c ∈ rest.head?, c.isDigit = false) :
    (digits ++ rest).takeWhile Char.isDigit = digits := by
  rw [List.takeWhile_append_of_pos (List.all_eq_true.mp hdigits)]
  cases rest with
  | nil => rw [List.takeWhile_nil, List.append_nil]
  | cons c rest =>
    rw [List.takeWhile_cons_of_neg (by rw [hrest c rfl]; exact Bool.false_ne_true),
      List.append_nil]

theorem negativeHead_digits {digits rest : List Char} (hne : digits ≠ [])
    (hdigits : digits.all Char.isDigit = true) (hrest : ∀ c ∈ rest.head?, c.isDigit = false) :
    negativeHead ('-' :: (digits ++ rest)) = some ('-' :: digits) := by
  rw [negativeHead, takeWhile_digits hdigits hrest, if_neg hne]

/-- The rest of a path behind a segment: nothing, or a dot. -/
def Ends (tail : List Char) : Prop := ∀ c ∈ tail.head?, c = '.'

theorem ends_segments (segments : List (List Char)) : Ends (segments.flatMap ('.' :: ·)) := by
  cases segments with
  | nil => exact nofun
  | cons segment rest =>
    rintro c hc
    cases hc
    rfl

theorem takeWhile_ends (rest : List Char) (htail : Ends tail) :
    (rest ++ tail).takeWhile Char.isDigit = rest.takeWhile Char.isDigit := by
  induction rest with
  | nil =>
    cases tail with
    | nil => rfl
    | cons c tail =>
      rw [htail c rfl]
      rfl
  | cons c rest ih => rw [List.cons_append, List.takeWhile_cons, List.takeWhile_cons, ih]

theorem negativeHead_ends (segment : List Char) (htail : Ends tail) :
    negativeHead (segment ++ tail) = negativeHead segment := by
  cases segment with
  | nil =>
    cases tail with
    | nil => rfl
    | cons c tail =>
      rw [htail c rfl]
      rfl
  | cons c rest =>
    by_cases hc : c = '-'
    · rw [hc, List.cons_append, negativeHead, negativeHead, takeWhile_ends rest htail]
    · have hnone : ∀ l, negativeHead (c :: l) = none := fun l => by
        unfold negativeHead
        split
        · rename_i heq
          exact absurd (List.cons.inj heq).1 hc
        · rfl
      rw [List.cons_append, hnone, hnone]

theorem negatives_dotless (hl : '.' ∉ l) (tail : List Char) :
    negatives (l ++ tail) = negatives tail := by
  induction l with
  | nil => rfl
  | cons c rest ih =>
    rw [List.mem_cons, not_or] at hl
    rw [List.cons_append, negatives, if_neg (fun h => hl.1 h.symm), ih hl.2, List.nil_append]

theorem negatives_joined (hdot : Dotless (first :: segments)) :
    negatives (joined first segments) = segments.filterMap negativeHead := by
  obtain ⟨hfirst, hsegments⟩ := List.forall_mem_cons.mp hdot
  rw [joined, negatives_dotless hfirst]
  clear hdot hfirst
  induction segments with
  | nil => rfl
  | cons segment rest ih =>
    obtain ⟨hsegment, hrest⟩ := List.forall_mem_cons.mp hsegments
    rw [List.flatMap_cons, List.cons_append, negatives, if_pos rfl,
      negativeHead_ends segment (ends_segments rest), negatives_dotless hsegment, ih hrest,
      List.filterMap_cons]
    cases negativeHead segment <;> rfl

/-! ## Replacing -/

/-- The first segment that begins with an index is changed. -/
def replaceHead (negIndex index : List Char) : List (List Char) → List (List Char)
  | [] => []
  | segment :: rest =>
    if negIndex.isPrefixOf segment then (index ++ segment.drop negIndex.length) :: rest
    else segment :: replaceHead negIndex index rest

theorem prefix_ends_iff (hl : '.' ∉ l) (htail : Ends tail) :
    l <+: segment ++ tail ↔ l <+: segment := by
  constructor
  · intro h
    rcases Nat.le_total l.length segment.length with hle | hle
    · exact List.prefix_of_prefix_length_le h (List.prefix_append _ _) hle
    · obtain ⟨rest, rfl⟩ := List.prefix_of_prefix_length_le (List.prefix_append segment tail) h hle
      rw [List.prefix_append_right_inj] at h
      cases rest with
      | nil => rw [List.append_nil]
      | cons c rest =>
        obtain ⟨after, hafter⟩ := h
        have hc : c = '.' := htail c (by rw [← hafter]; rfl)
        rw [hc] at hl
        exact absurd (List.mem_append_right _ List.mem_cons_self) hl
  · exact fun h => h.trans (List.prefix_append _ _)

theorem replaceFirst_dotless (hl : '.' ∉ l) (negIndex new tail : List Char) :
    replaceFirst ('.' :: negIndex) new (l ++ tail) =
      l ++ replaceFirst ('.' :: negIndex) new tail := by
  induction l with
  | nil => rfl
  | cons c rest ih =>
    rw [List.mem_cons, not_or] at hl
    have hc : ¬ ('.' == c) = true := fun h => hl.1 (beq_iff_eq.mp h)
    rw [List.cons_append, replaceFirst, List.isPrefixOf, Bool.eq_false_iff.mpr hc, Bool.false_and,
      if_neg Bool.false_ne_true, ih hl.2]
    rfl

theorem replaceFirst_joined (index : List Char) (hdot : Dotless (first :: segments))
    (hneg : '.' ∉ negIndex) :
    replaceFirst ('.' :: negIndex) ('.' :: index) (joined first segments) =
      joined first (replaceHead negIndex index segments) := by
  obtain ⟨hfirst, hsegments⟩ := List.forall_mem_cons.mp hdot
  rw [joined, replaceFirst_dotless hfirst, joined]
  congr 1
  clear hdot hfirst
  induction segments with
  | nil => rfl
  | cons segment rest ih =>
    obtain ⟨hsegment, hrest⟩ := List.forall_mem_cons.mp hsegments
    have hprefix : ('.' :: negIndex).isPrefixOf ('.' :: (segment ++ rest.flatMap ('.' :: ·))) =
        negIndex.isPrefixOf segment := by
      rw [List.isPrefixOf, beq_self_eq_true, Bool.true_and, Bool.eq_iff_iff,
        List.isPrefixOf_iff_prefix, List.isPrefixOf_iff_prefix,
        prefix_ends_iff hneg (ends_segments rest)]
    rw [List.flatMap_cons, List.cons_append, replaceFirst, hprefix, replaceHead]
    split
    · rename_i h
      have hle := (List.isPrefixOf_iff_prefix.mp h).length_le
      rw [List.length_cons, List.drop_succ_cons, List.drop_append_of_le_length hle,
        List.flatMap_cons]
      simp only [List.cons_append, List.append_assoc]
    · rw [replaceFirst_dotless hsegment, ih hrest, List.flatMap_cons, List.cons_append]

/-! ## The code's result by segments -/

/-- What the code puts in the place of an index. -/
def decision (doc : Document) (path negIndex : List Char) : Option (List Char) :=
  (doc.arrayLength (arrayPath path negIndex)).bind (place · negIndex)

/-- A segment as the code leaves it. -/
def codeSegment (doc : Document) (path segment : List Char) : List Char :=
  match negativeHead segment with
  | none => segment
  | some negIndex =>
    match decision doc path negIndex with
    | none => segment
    | some index => index ++ segment.drop negIndex.length

/-- No index that is replaced begins the text of an earlier one that stays. -/
def Clear (doc : Document) (path : List Char) (segments : List (List Char)) : Prop :=
  segments.Pairwise fun a b => ∀ na ∈ negativeHead a, ∀ nb ∈ negativeHead b,
    nb <+: na → decision doc path na = none → decision doc path nb = none

theorem place_digits {n : Nat} (h : place n negIndex = some index) :
    ∃ i, index = Nat.toDigits 10 i := by
  unfold place at h
  dsimp only at h
  split at h
  · injection h with h
    exact ⟨_, h.symm⟩
  · cases h

theorem decision_digits (h : decision doc path negIndex = some index) :
    ∃ i, index = Nat.toDigits 10 i := by
  obtain ⟨n, _, h⟩ := Option.bind_eq_some_iff.mp h
  exact place_digits h

theorem toDigits_not_minus (i : Nat) {rest : List Char} :
    Nat.toDigits 10 i ++ l ≠ '-' :: rest := by
  intro h
  cases hd : Nat.toDigits 10 i with
  | nil => exact Nat.toDigits_ne_nil hd
  | cons c cs =>
    rw [hd, List.cons_append] at h
    have hmem : c ∈ Nat.toDigits 10 i := hd ▸ List.mem_cons_self
    have hc := List.all_eq_true.mp (toDigits_all_isDigit i) c hmem
    rw [(List.cons.inj h).1] at hc
    exact absurd hc (by decide)

theorem prefix_head {other : List Char} (hneg : negativeHead other = some negIndex)
    (h : negIndex <+: segment) : ∃ n, negativeHead segment = some n ∧ negIndex <+: n := by
  obtain ⟨digits, rest, hne, hdigits, hrest, rfl, rfl⟩ := negativeHead_some hneg
  obtain ⟨tail, rfl⟩ := h
  have htake : (digits ++ tail).takeWhile Char.isDigit = digits ++ tail.takeWhile Char.isDigit :=
    List.takeWhile_append_of_pos (List.all_eq_true.mp hdigits)
  refine ⟨'-' :: (digits ++ tail.takeWhile Char.isDigit), ?_, ?_⟩
  · rw [List.cons_append, negativeHead, htake, if_neg]
    exact fun h => hne (List.append_eq_nil_iff.mp h).1
  · exact ⟨tail.takeWhile Char.isDigit, rfl⟩

theorem negativeHead_begins (h : negativeHead segment = some negIndex) : negIndex <+: segment := by
  obtain ⟨digits, rest, _, _, _, rfl, rfl⟩ := negativeHead_some h
  exact ⟨rest, rfl⟩

theorem codeSegment_apart {a b : List Char} (hneg : negativeHead b = some negIndex)
    (hindex : decision doc path negIndex = some index) (hclear : ∀ na ∈ negativeHead a, ∀ nb ∈
      negativeHead b, nb <+: na → decision doc path na = none → decision doc path nb = none) :
    ¬ negIndex <+: codeSegment doc path a := by
  intro h
  unfold codeSegment at h
  split at h
  · rename_i hnone
    obtain ⟨n, hn, _⟩ := prefix_head hneg h
    rw [hnone] at hn
    cases hn
  · rename_i na hna
    split at h
    · rename_i hstays
      obtain ⟨n, hn, hpre⟩ := prefix_head hneg h
      rw [hna] at hn
      injection hn with hn
      have := hclear na hna negIndex hneg (hn ▸ hpre) hstays
      rw [hindex] at this
      cases this
    · rename_i i hi
      obtain ⟨k, rfl⟩ := decision_digits hi
      obtain ⟨digits, rest, _, _, _, rfl, _⟩ := negativeHead_some hneg
      obtain ⟨tail, htail⟩ := h
      exact toDigits_not_minus k htail.symm

theorem replaceHead_append {done rest : List (List Char)} (h : ∀ s ∈ done, ¬ negIndex <+: s) :
    replaceHead negIndex index (done ++ rest) = done ++ replaceHead negIndex index rest := by
  induction done with
  | nil => rfl
  | cons s done ih =>
    obtain ⟨hs, hdone⟩ := List.forall_mem_cons.mp h
    rw [List.cons_append, replaceHead, if_neg (by rwa [List.isPrefixOf_iff_prefix]), ih hdone]
    rfl

theorem codeSegment_dotless {s : List Char} (hs : '.' ∉ s) :
    '.' ∉ codeSegment doc path s := by
  unfold codeSegment
  split
  · exact hs
  · split
    · exact hs
    · rename_i i hi
      obtain ⟨k, rfl⟩ := decision_digits hi
      rw [List.mem_append, not_or]
      refine ⟨fun hmem => ?_, fun hmem => hs (List.mem_of_mem_drop hmem)⟩
      have := List.all_eq_true.mp (toDigits_all_isDigit k) _ hmem
      exact absurd this (by decide)

theorem foldl_replaceIndex (done todo : List (List Char)) (hdot : Dotless (first :: (done ++ todo)))
    (hclear : Clear doc path (done ++ todo)) :
    (todo.filterMap negativeHead).foldl (replaceIndex doc path)
        (joined first (done.map (codeSegment doc path) ++ todo)) =
      joined first ((done ++ todo).map (codeSegment doc path)) := by
  induction todo generalizing done with
  | nil => rw [List.filterMap_nil, List.foldl_nil, List.append_nil, List.append_nil]
  | cons s rest ih =>
    have hnext : done ++ s :: rest = done ++ [s] ++ rest := (List.append_cons done s rest)
    have ih := ih (done ++ [s]) (hnext ▸ hdot) (hnext ▸ hclear)
    rw [← hnext, List.map_append, List.map_singleton, List.append_assoc,
      List.singleton_append] at ih
    rw [← ih]
    cases hneg : negativeHead s with
    | none => rw [List.filterMap_cons_none hneg, codeSegment, hneg]
    | some negIndex =>
      rw [List.filterMap_cons_some hneg, List.foldl_cons]
      congr 1
      cases hindex : decision doc path negIndex with
      | none =>
        have hstays : codeSegment doc path s = s := by
          rw [codeSegment, hneg]
          dsimp only
          rw [hindex]
        rw [decision] at hindex
        rw [replaceIndex, hindex, hstays]
      | some index =>
        have happly : replaceIndex doc path = fun result n =>
            match decision doc path n with
            | some i => replaceFirst ('.' :: n) ('.' :: i) result
            | none => result := rfl
        have hapart : ∀ d ∈ done.map (codeSegment doc path), ¬ negIndex <+: d := by
          intro d hd
          obtain ⟨a, ha, rfl⟩ := List.mem_map.mp hd
          exact codeSegment_apart hneg hindex
            ((List.pairwise_append.mp hclear).2.2 a ha s List.mem_cons_self)
        have hdot' : Dotless (first :: (done.map (codeSegment doc path) ++ s :: rest)) := by
          intro t ht
          rcases List.mem_cons.mp ht with rfl | ht
          · exact hdot _ List.mem_cons_self
          · rcases List.mem_append.mp ht with ht | ht
            · obtain ⟨a, ha, rfl⟩ := List.mem_map.mp ht
              exact codeSegment_dotless
                (hdot _ (List.mem_cons_of_mem _ (List.mem_append_left _ ha)))
            · exact hdot _ (List.mem_cons_of_mem _ (List.mem_append_right _ ht))
        have hneg' : '.' ∉ negIndex := fun h => hdot s
          (List.mem_cons_of_mem _ (List.mem_append_right _ List.mem_cons_self))
          ((negativeHead_begins hneg).subset h)
        rw [happly]
        dsimp only
        rw [hindex]
        dsimp only
        rw [replaceFirst_joined index hdot' hneg', replaceHead_append hapart, replaceHead,
          if_pos (List.isPrefixOf_iff_prefix.mpr (negativeHead_begins hneg)), codeSegment,
          hneg]
        dsimp only
        rw [hindex]

theorem processed_segments {doc : Document} {first : List Char} {segments : List (List Char)}
    (hdot : Dotless (first :: segments)) (hclear : Clear doc (joined first segments) segments) :
    processNegativeIndex doc (joined first segments) =
      joined first (segments.map (codeSegment doc (joined first segments))) := by
  rw [processNegativeIndex, negatives_joined hdot]
  exact foldl_replaceIndex [] segments hdot hclear

/-! ## The code against what is meant -/

/-- For each index, the array that the code looks at says the same as the one at the
resolved prefix; where a segment goes on behind the digits, no index is found. -/
def Aimed (doc : Document) (path : List Char) : List Char → List (List Char) → Prop
  | _, [] => True
  | done, segment :: rest =>
    (∀ negIndex ∈ negativeHead segment, decision doc path negIndex =
      if negIndex = segment then (doc.arrayLength done).bind (place · negIndex) else none) ∧
    Aimed doc path (done ++ '.' :: resolveSegment doc done segment) rest

theorem place_eq {n : Nat} (hn : n < 2 ^ 63) {digits : List Char} (hne : digits ≠ [])
    (hdigits : digits.all Char.isDigit = true) :
    place n ('-' :: digits) =
      if 0 < Nat.ofDigitChars 10 digits 0 ∧ Nat.ofDigitChars 10 digits 0 ≤ n then
        some (Nat.toDigits 10 (n - Nat.ofDigitChars 10 digits 0))
      else none := by
  have hempty : digits.isEmpty = false := Bool.eq_false_iff.mpr (mt List.isEmpty_iff.mp hne)
  have hvalue : atoiValue (String.ofList ('-' :: digits)) =
      max (-(2 ^ 63)) (min (2 ^ 63 - 1) (-(Nat.ofDigitChars 10 digits 0 : Int))) := by
    rw [atoiValue, String.toList_ofList, signed]
    simp only [hempty, hdigits, Bool.not_true, Bool.or_self, Bool.false_eq_true, if_false, if_true]
  unfold place
  dsimp only
  rw [hvalue]
  generalize Nat.ofDigitChars 10 digits 0 = k
  by_cases hk : 0 < k ∧ k ≤ n
  · have hsum : (n : Int) + max (-(2 ^ 63)) (min (2 ^ 63 - 1) (-(k : Int))) = (n - k : Nat) := by
      omega
    rw [if_pos hk, hsum, if_pos (by omega), Int.toNat_natCast]
  · rw [if_neg hk, if_neg (by omega)]

theorem negativeIndex?_none (h : negativeHead segment ≠ some segment) :
    negativeIndex? segment = none := by
  unfold negativeIndex?
  split
  · rename_i digits
    split
    · rename_i hd
      refine absurd ?_ h
      have := @negativeHead_digits digits [] hd.1 hd.2.1 nofun
      rwa [List.append_nil] at this
    · rfl
  · rfl

theorem resolveSegment_whole (doc : Document) (done : List Char)
    (h : negativeHead segment = some segment) :
    resolveSegment doc done segment =
      ((doc.arrayLength done).bind (place · segment)).getD segment := by
  obtain ⟨digits, rest, hne, hdigits, _, hself, _⟩ := negativeHead_some h
  rw [resolveSegment, hself, negativeIndex?]
  cases hn : doc.arrayLength done with
  | none =>
    split
    · rename_i heq
      cases heq
    · rfl
  | some n =>
    rw [Option.bind_some, place_eq (doc.length_lt done n hn) hne hdigits]
    by_cases hk : 0 < Nat.ofDigitChars 10 digits 0
    · rw [if_pos ⟨hne, hdigits, hk⟩]
      dsimp only
      by_cases hle : Nat.ofDigitChars 10 digits 0 ≤ n
      · rw [if_pos hle, if_pos ⟨hk, hle⟩, Option.getD_some]
      · rw [if_neg hle, if_neg (fun h => hle h.2), Option.getD_none]
    · rw [if_neg (fun h => hk h.2.2), if_neg (fun h => hk h.1), Option.getD_none]

theorem resolveSegment_part (doc : Document) (done : List Char)
    (h : negativeHead segment ≠ some segment) : resolveSegment doc done segment = segment := by
  rw [resolveSegment, negativeIndex?_none h]

theorem codeSegment_eq_iff (doc : Document) (path done segment : List Char) :
    codeSegment doc path segment = resolveSegment doc done segment ↔
      ∀ negIndex ∈ negativeHead segment, decision doc path negIndex =
        if negIndex = segment then (doc.arrayLength done).bind (place · negIndex) else none := by
  cases hneg : negativeHead segment with
  | none =>
    rw [codeSegment, hneg, resolveSegment_part doc done (by rw [hneg]; exact nofun)]
    exact iff_of_true rfl nofun
  | some negIndex =>
    have hset : codeSegment doc path segment = match decision doc path negIndex with
        | none => segment
        | some index => index ++ segment.drop negIndex.length := by rw [codeSegment, hneg]
    have hminus : ∃ rest, segment = '-' :: rest := by
      obtain ⟨digits, rest, _, _, _, _, hseg⟩ := negativeHead_some hneg
      exact ⟨_, hseg⟩
    have hmem : (∀ n ∈ some negIndex, decision doc path n =
        if n = segment then (doc.arrayLength done).bind (place · n) else none) ↔
        decision doc path negIndex =
          if negIndex = segment then (doc.arrayLength done).bind (place · negIndex) else none :=
      ⟨fun h => h negIndex rfl, fun h n hn => by cases hn; exact h⟩
    have hstays : ∀ index, decision doc path negIndex = some index →
        index ++ segment.drop negIndex.length ≠ segment := by
      intro index hindex heq
      obtain ⟨i, rfl⟩ := decision_digits hindex
      obtain ⟨rest, hrest⟩ := hminus
      exact toDigits_not_minus i (heq.trans hrest)
    rw [hset, hmem]
    by_cases hwhole : negIndex = segment
    · rw [if_pos hwhole, resolveSegment_whole doc done (by rw [hneg, hwhole]), hwhole]
      rw [hwhole] at hstays
      rw [List.drop_length] at hstays ⊢
      cases hindex : decision doc path segment with
      | none =>
        cases hreal : (doc.arrayLength done).bind (place · segment) with
        | none => exact iff_of_true rfl rfl
        | some index =>
          refine iff_of_false (fun h => ?_) nofun
          obtain ⟨n, _, hplace⟩ := Option.bind_eq_some_iff.mp hreal
          obtain ⟨i, rfl⟩ := place_digits hplace
          obtain ⟨rest, hrest⟩ := hminus
          rw [Option.getD_some, hrest, eq_comm, ← List.append_nil (Nat.toDigits 10 i)] at h
          exact toDigits_not_minus i h
      | some index =>
        have hstays := hstays index hindex
        dsimp only
        rw [List.append_nil] at hstays ⊢
        cases hreal : (doc.arrayLength done).bind (place · segment) with
        | none => exact iff_of_false hstays nofun
        | some other => rw [Option.getD_some, Option.some_inj]
    · rw [if_neg hwhole,
        resolveSegment_part doc done (by rw [hneg]; exact fun h => hwhole (Option.some.inj h))]
      cases hindex : decision doc path negIndex with
      | none => exact iff_of_true rfl rfl
      | some index => exact iff_of_false (hstays index hindex) nofun

/-- The segments of the resolved path behind the first. -/
def resolved (doc : Document) : List Char → List (List Char) → List (List Char)
  | _, [] => []
  | done, segment :: rest =>
    resolveSegment doc done segment ::
      resolved doc (done ++ '.' :: resolveSegment doc done segment) rest

theorem resolveFrom_eq (doc : Document) (done : List Char) (segments : List (List Char)) :
    resolveFrom doc done segments = joined done (resolved doc done segments) := by
  induction segments generalizing done with
  | nil => rw [resolveFrom, resolved, joined, List.flatMap_nil, List.append_nil]
  | cons segment rest ih => rw [resolveFrom, ih, resolved, joined_cons]

theorem resolveSegment_dotless {done s : List Char} (hs : '.' ∉ s) :
    '.' ∉ resolveSegment doc done s := by
  unfold resolveSegment
  split
  · split
    · intro hmem
      have := List.all_eq_true.mp (toDigits_all_isDigit _) _ hmem
      exact absurd this (by decide)
    · exact hs
  · exact hs

theorem resolved_dotless (h : Dotless segments) (done : List Char) :
    Dotless (resolved doc done segments) := by
  induction segments generalizing done with
  | nil => exact nofun
  | cons segment rest ih =>
    obtain ⟨hsegment, hrest⟩ := List.forall_mem_cons.mp h
    exact List.forall_mem_cons.mpr ⟨resolveSegment_dotless hsegment, ih hrest _⟩

theorem map_codeSegment_eq_iff (doc : Document) (path done : List Char)
    (segments : List (List Char)) :
    segments.map (codeSegment doc path) = resolved doc done segments ↔
      Aimed doc path done segments := by
  induction segments generalizing done with
  | nil => exact iff_of_true rfl trivial
  | cons segment rest ih =>
    rw [List.map_cons, resolved, List.cons_eq_cons, codeSegment_eq_iff, ih, Aimed]

/-- Where each replacement meets the segment it is for, the code resolves a path if and only
if, for every index, the array it looks at is as good as the one at the resolved prefix. -/
theorem processNegativeIndex_eq_iff (doc : Document) (path : List Char)
    (hclear : Clear doc path (path.splitOn '.').tail) :
    processNegativeIndex doc path = resolvePath doc path ↔
      Aimed doc path ((path.splitOn '.').headD []) (path.splitOn '.').tail := by
  obtain ⟨first, segments, hsplit, hpath, hdot⟩ := exists_segments path
  obtain ⟨hfirst, hsegments⟩ := List.forall_mem_cons.mp hdot
  rw [hsplit] at hclear ⊢
  rw [resolvePath, hsplit]
  dsimp only
  rw [List.tail_cons] at hclear
  rw [List.tail_cons, List.headD_cons, resolveFrom_eq]
  have hcode : processNegativeIndex doc path =
      joined first (segments.map (codeSegment doc path)) := by
    have h := @processed_segments doc first segments hdot (hpath ▸ hclear)
    rwa [← hpath] at h
  have hdone : Dotless (first :: segments.map (codeSegment doc path)) :=
    List.forall_mem_cons.mpr ⟨hfirst, List.forall_mem_map.mpr fun s hs =>
      codeSegment_dotless (hsegments s hs)⟩
  rw [hcode, joined_inj hdone (List.forall_mem_cons.mpr ⟨hfirst, resolved_dotless hsegments _⟩),
    map_codeSegment_eq_iff]
  exact and_iff_right rfl

/-- `{"a": [{"b": [1, 2]}, {"b": [3, 4]}]}`. -/
def pairsDocument : Document where
  arrayLength path :=
    if path ∈ ["a".toList, "a.0.b".toList, "a.1.b".toList] then some 2 else none
  length_lt path n h := by
    split_ifs at h
    injection h
    omega

/-- The second `-1` is resolved for the first, to the element it is meant for. -/
theorem last_of_last_resolved :
    processNegativeIndex pairsDocument "a.-1.b.-1".toList = "a.1.b.1".toList ∧
      (processNegativeIndex pairsDocument "a.-1.b.-1".toList =
          resolvePath pairsDocument "a.-1.b.-1".toList ↔
        Aimed pairsDocument "a.-1.b.-1".toList (("a.-1.b.-1".toList.splitOn '.').headD [])
          ("a.-1.b.-1".toList.splitOn '.').tail) := by
  have hclear : Clear pairsDocument "a.-1.b.-1".toList ("a.-1.b.-1".toList.splitOn '.').tail := by
    unfold Clear
    decide
  exact ⟨by decide, processNegativeIndex_eq_iff pairsDocument "a.-1.b.-1".toList hclear⟩

/-- `{"a": [{"b": [1, 2, 3]}, {"b": [4]}]}`. -/
def nestedDocument : Document where
  arrayLength path :=
    if path = "a".toList then some 2
    else if path = "a.0.b".toList then some 3
    else if path = "a.1.b".toList then some 1
    else none
  length_lt path n h := by
    split_ifs at h <;> injection h <;> omega

/-- The second `-1` is the last element of `a.1.b`, which is the element 0. -/
theorem inner_index_taken_from_outer :
    processNegativeIndex nestedDocument "a.-1.b.-1".toList = "a.1.b.1".toList ∧
      resolvePath nestedDocument "a.-1.b.-1".toList = "a.1.b.0".toList := by
  constructor <;> decide

end YouBox.Override
