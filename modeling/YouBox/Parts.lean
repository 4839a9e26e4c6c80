import YouBox.Interleave

/-!
# A text in numbered parts

`overRange m t` is the text that the parts `t 0`, ..., `t (m - 1)` make.
Pieces that come part by part add up to it (`join_of_sorted`).

A part can be said as it goes, or be given whole at the end. `firstOf` is
what a reader takes who looks at the end only if nothing was said, and
there only at the first part that is not empty. `firstOf_eq_iff` says
when this is all of the text: everything was said, or there is no second
part. The other direction counts characters.
-/

namespace YouBox.Parts

open Interleave

def overRange (m : Nat) (t : Nat → String) : String :=
  String.join ((List.range m).map t)

theorem overRange_succ (m : Nat) (t : Nat → String) :
    overRange (m + 1) t = overRange m t ++ t m := by
  simp [overRange, List.range_succ, String.join_append]

variable {j m : Nat} {t : Nat → String}

theorem overRange_congr {u : Nat → String} (h : ∀ n < m, t n = u n) :
    overRange m t = overRange m u := by
  unfold overRange
  congr 1
  exact List.map_congr_left fun n hn => h n (List.mem_range.1 hn)

theorem length_overRange (m : Nat) (t : Nat → String) :
    (overRange m t).length = ∑ n ∈ Finset.range m, (t n).length := by
  induction m with
  | zero => rfl
  | succ m ih => rw [overRange_succ, String.length_append, ih, Finset.sum_range_succ]

theorem overRange_eq_empty_iff : overRange m t = "" ↔ ∀ n < m, t n = "" := by
  rw [← String.length_eq_zero_iff, length_overRange, Finset.sum_eq_zero_iff]
  simp [String.length_eq_zero_iff]

theorem overRange_prepend {u : Nat → String} {piece : String} (hj : j < m)
    (hlow : ∀ n < j, t n = "") (hat : u j = piece ++ t j) (hne : ∀ n, n ≠ j → u n = t n) :
    overRange m u = piece ++ overRange m t := by
  induction m with
  | zero => omega
  | succ m ih =>
    rw [overRange_succ, overRange_succ]
    rcases Nat.lt_succ_iff_lt_or_eq.1 hj with hj | rfl
    · rw [ih hj, hne m (by omega), String.append_assoc]
    · have ht : overRange j t = "" := overRange_eq_empty_iff.2 hlow
      have hu : overRange j u = "" := overRange_eq_empty_iff.2 fun n hn => by
        rw [hne n (by omega), hlow n hn]
      rw [ht, hu, hat]
      simp

theorem overRange_single (hj : j < m) (hrest : ∀ n < m, n ≠ j → t n = "") :
    overRange m t = t j := by
  have hempty : overRange m (fun _ => "") = "" := overRange_eq_empty_iff.2 fun _ _ => rfl
  have hself : overRange m (fun n => if n = j then t j else "") = t j := by
    have hat : (if j = j then t j else "") = t j ++ "" := by simp
    have hput := overRange_prepend (t := fun _ => "") (u := fun n => if n = j then t j else "") hj
      (fun _ _ => rfl) hat fun n hn => by simp [hn]
    rw [hput, hempty, String.append_empty]
  rw [← hself]
  refine overRange_congr fun n hn => ?_
  by_cases h : n = j
  · simp [h]
  · simp [h, hrest n hn h]

/-! ## The parts of a list -/

section Filter

variable {α : Type} (l : List α) (p : α → Bool)

/-- The numbers of the elements that `p` picks. -/
def numbers : List Nat :=
  (List.range l.length).filter fun n => (l[n]?).any p

theorem mem_numbers {n : Nat} : n ∈ numbers l p ↔ ∃ x, l[n]? = some x ∧ p x = true := by
  rw [numbers, List.mem_filter, List.mem_range, Option.any_eq_true]
  refine and_iff_right_of_imp ?_
  rintro ⟨x, hx, -⟩
  exact (List.getElem?_eq_some_iff.1 hx).1

theorem numbers_nodup : (numbers l p).Nodup :=
  List.nodup_range.filter _

theorem numbers_append (x : α) :
    numbers (l ++ [x]) p = numbers l p ++ if p x then [l.length] else [] := by
  have hsame : (List.range l.length).filter (fun n => ((l ++ [x])[n]?).any p) = numbers l p :=
    List.filter_congr fun n hn => by rw [List.getElem?_append_left (List.mem_range.1 hn)]
  rw [numbers, List.length_append, List.length_singleton, List.range_succ, List.filter_append, hsame]
  by_cases hp : p x <;> simp [hp]

theorem filter_eq_numbers (d : α) :
    l.filter p = (numbers l p).map fun n => (l[n]?).getD d := by
  induction l using List.reverseRecOn with
  | nil => rfl
  | append_singleton l x ih =>
    have hsame : (numbers l p).map (fun n => ((l ++ [x])[n]?).getD d)
        = (numbers l p).map fun n => (l[n]?).getD d :=
      List.map_congr_left fun n hn => by
        obtain ⟨y, hy, -⟩ := (mem_numbers l p).1 hn
        rw [List.getElem?_append_left (List.getElem?_eq_some_iff.1 hy).1]
    rw [List.filter_append, numbers_append, List.map_append, hsame, ih]
    by_cases hp : p x <;> simp [hp]

theorem join_filter_eq_overRange (f : α → String) :
    String.join ((l.filter p).map f)
      = overRange l.length fun n => (l[n]?).elim "" fun x => if p x then f x else "" := by
  induction l using List.reverseRecOn with
  | nil => rfl
  | append_singleton l x ih =>
    rw [List.filter_append, List.map_append, String.join_append, ih, List.length_append,
      List.length_singleton, overRange_succ]
    have hsame := overRange_congr (m := l.length) (t := fun n => (l[n]?).elim "" fun x =>
      if p x then f x else "") (u := fun n => ((l ++ [x])[n]?).elim "" fun x =>
      if p x then f x else "") fun n hn => by rw [List.getElem?_append_left hn]
    rw [hsame]
    by_cases hp : p x <;> simp [hp]

end Filter

/-! ## Pieces in order -/

theorem textOf_cons (n : Nat) (w : Nat × String) (rest : List (Nat × String)) :
    textOf n (w :: rest) = textOf n [w] ++ textOf n rest :=
  textOf_append n [w] rest

theorem join_of_sorted {ws : List (Nat × String)} (hsorted : (ws.map (·.1)).Pairwise (· ≤ ·))
    (hlt : ∀ w ∈ ws, w.1 < m) :
    String.join (ws.map (·.2)) = overRange m (fun n => textOf n ws) := by
  induction ws with
  | nil => exact (overRange_eq_empty_iff.2 fun _ _ => rfl).symm
  | cons w rest ih =>
    obtain ⟨hle, hsorted⟩ := List.pairwise_cons.1 hsorted
    have hlow : ∀ n < w.1, textOf n rest = "" := by
      intro n hn
      refine textOf_of_notMem fun hmem => ?_
      exact absurd (hle n hmem) (Nat.not_le.2 hn)
    rw [List.map_cons, String.join_cons, ih hsorted fun v hv => hlt v (List.mem_cons_of_mem w hv)]
    refine (overRange_prepend (hlt w List.mem_cons_self) hlow ?_ fun n hn => ?_).symm
    · rw [textOf_cons, textOf_single_self]
    · rw [textOf_cons, textOf_single_of_ne w.2 hn, String.empty_append]

/-! ## Said or given at the end -/

def firstOf (said : String) (texts : List String) : String :=
  if said ≠ "" then said else (texts.find? (· ≠ "")).getD ""

@[simp] theorem firstOf_nil (said : String) : firstOf said [] = said := by
  unfold firstOf
  split <;> simp_all

theorem firstOf_append_single (said : String) (texts : List String) (text : String) :
    firstOf said (texts ++ [text])
      = if firstOf said texts ≠ "" then firstOf said texts else text := by
  unfold firstOf
  by_cases hsaid : said = ""
  · simp only [hsaid, ne_eq, not_true_eq_false, if_false, List.find?_append]
    cases hfind : texts.find? (· ≠ "") with
    | some found =>
      have hne := List.find?_some hfind
      simp_all
    | none => by_cases htext : text = "" <;> simp [htext]
  · simp [hsaid]

section Said

variable {m : Nat} {said t : Nat → String} {given : List Nat}

theorem firstOf_of_said (hall : ∀ n < m, said n = t n) (hgiven : ∀ n ∈ given, n < m) :
    firstOf (overRange m said) (given.map t) = overRange m t := by
  rw [overRange_congr hall, firstOf]
  split
  · rfl
  · rename_i hempty
    have hparts := overRange_eq_empty_iff.1 (not_not.1 hempty)
    have hnone : (given.map t).find? (· ≠ "") = none := by
      rw [List.find?_eq_none]
      intro text htext
      obtain ⟨n, hn, rfl⟩ := List.mem_map.1 htext
      simp [hparts n (hgiven n hn)]
    rw [hnone, not_not.1 hempty]
    rfl

theorem firstOf_unsaid (hj : j ∈ given) (htext : t j ≠ "") :
    ∃ i ∈ given, t i ≠ "" ∧ firstOf "" (given.map t) = t i := by
  have hmem : t j ∈ given.map t := List.mem_map_of_mem hj
  cases hfind : (given.map t).find? (· ≠ "") with
  | none =>
    have hnone := List.find?_eq_none.1 hfind (t j) hmem
    simp [htext] at hnone
  | some found =>
    obtain ⟨i, hi, rfl⟩ := List.mem_map.1 (List.mem_of_find?_eq_some hfind)
    have hne := List.find?_some hfind
    refine ⟨i, hi, by simpa using hne, ?_⟩
    rw [firstOf, if_neg (by simp), hfind, Option.getD_some]

theorem length_lt_of_unsaid (hj : j < m) (hsaid : ∀ n < m, said n = t n ∨ said n = "")
    (hunsaid : said j = "") (htext : t j ≠ "") :
    (overRange m said).length < (overRange m t).length := by
  rw [length_overRange, length_overRange]
  refine Finset.sum_lt_sum (fun n hn => ?_) ⟨j, Finset.mem_range.2 hj, ?_⟩
  · rcases hsaid n (Finset.mem_range.1 hn) with h | h <;> simp [h]
  · rw [hunsaid, String.length_empty]
    exact Nat.pos_of_ne_zero fun h => htext (String.length_eq_zero_iff.1 h)

theorem part_empty_of_whole {i : Nat} (hi : i < m) (hwhole : t i = overRange m t) :
    ∀ n < m, n ≠ i → t n = "" := by
  have hsum := Finset.add_sum_erase (Finset.range m) (fun n => (t n).length)
    (Finset.mem_range.2 hi)
  rw [← length_overRange, ← hwhole] at hsum
  have hzero : ∑ n ∈ (Finset.range m).erase i, (t n).length = 0 := by omega
  intro n hn hne
  have hmem : n ∈ (Finset.range m).erase i := Finset.mem_erase.2 ⟨hne, Finset.mem_range.2 hn⟩
  exact String.length_eq_zero_iff.1 (Finset.sum_eq_zero_iff.1 hzero n hmem)

theorem firstOf_eq_iff (hgiven : ∀ n ∈ given, n < m)
    (hsaid : ∀ n < m, said n = t n ∨ said n = "" ∧ n ∈ given) :
    firstOf (overRange m said) (given.map t) = overRange m t ↔
      (∀ n < m, said n = t n) ∨ ∀ i < m, ∀ j < m, t i ≠ "" → t j ≠ "" → i = j := by
  have hparts : ∀ n < m, said n = t n ∨ said n = "" := fun n hn => (hsaid n hn).imp_right And.left
  by_cases hall : ∀ n < m, said n = t n
  · exact iff_of_true (firstOf_of_said hall hgiven) (.inl hall)
  · push Not at hall
    obtain ⟨j, hj, hne⟩ := hall
    obtain ⟨hunsaid, hjgiven⟩ := (hsaid j hj).resolve_left hne
    have htext : t j ≠ "" := fun h => hne (hunsaid.trans h.symm)
    have hshort := length_lt_of_unsaid hj hparts hunsaid htext
    constructor
    · intro heq
      right
      have hnothing : overRange m said = "" := by
        by_contra hsome
        rw [firstOf, if_pos hsome] at heq
        exact absurd (congrArg String.length heq) (Nat.ne_of_lt hshort)
      rw [hnothing] at heq
      obtain ⟨i, hi, -, hfirst⟩ := firstOf_unsaid hjgiven htext
      have hrest := part_empty_of_whole (hgiven i hi) (hfirst.symm.trans heq)
      intro a ha b hb hta htb
      have hai : a = i := by_contra fun h => hta (hrest a ha h)
      have hbi : b = i := by_contra fun h => htb (hrest b hb h)
      rw [hai, hbi]
    · intro hor
      have hone := hor.resolve_left fun hall => hne (hall j hj)
      have honly : ∀ n < m, n ≠ j → t n = "" := fun n hn hnj =>
        by_contra fun h => hnj (hone n hn j hj h htext)
      have hnothing : overRange m said = "" := overRange_eq_empty_iff.2 fun n hn => by
        by_cases hnj : n = j
        · rw [hnj, hunsaid]
        · rcases hparts n hn with h | h
          · rw [h, honly n hn hnj]
          · exact h
      obtain ⟨i, hi, hti, hfirst⟩ := firstOf_unsaid hjgiven htext
      rw [hnothing, hfirst, hone i (hgiven i hi) j hj hti htext, overRange_single hj honly]

end Said

end YouBox.Parts
