import Mathlib

/-!
# Weighted draws and ranks

Two things a selection is made of, over any type of candidates.

A draw walks a list with a random remainder, takes each candidate's
weight off it and stops where less than `slack` is left. Below the total
weight it always stops, and a candidate heavier than the slack is
stopped at by some remainder. Without slack exactly as many remainders
stop at a candidate as it weighs (`card_draw`).

A rank is a position among the distinct values of a list in descending
order, which is the number of distinct values above. It depends on which
values there are, not on how often or in which order they are listed.

The last section is about fixed-width sums that stay within range, where
they are the sums of the integers.
-/

namespace YouBox.Draw

/-! ## Draws -/

section

variable {α : Type*} {slack : Int} {weight : α → Int}

def draw (slack : Int) (weight : α → Int) : Int → List α → Option α
  | _, [] => none
  | r, x :: rest =>
    if r - weight x < slack then some x else draw slack weight (r - weight x) rest

variable {r : Int}

theorem mem_of_draw {l : List α} {x : α} (h : draw slack weight r l = some x) : x ∈ l := by
  induction l generalizing r with
  | nil => cases h
  | cons y rest ih =>
    unfold draw at h
    split at h
    · exact Option.some.inj h ▸ List.mem_cons_self
    · exact List.mem_cons_of_mem y (ih h)

/-- Without slack a draw never stops at a candidate of weight zero. -/
theorem weight_pos_of_draw {l : List α} {x : α} (hr : 0 ≤ r) (h : draw 0 weight r l = some x) :
    0 < weight x := by
  induction l generalizing r with
  | nil => cases h
  | cons y rest ih =>
    unfold draw at h
    split at h
    · obtain rfl := Option.some.inj h
      omega
    · exact ih (by omega) h

theorem isSome_draw (slack : Int) {l : List α} (hslack : 0 ≤ slack) (hr : 0 ≤ r)
    (hlt : r < (l.map weight).sum) : (draw slack weight r l).isSome = true := by
  induction l generalizing r with
  | nil =>
    simp only [List.map_nil, List.sum_nil] at hlt
    omega
  | cons y rest ih =>
    unfold draw
    split
    · rfl
    · simp only [List.map_cons, List.sum_cons] at hlt
      exact ih (by omega) (by omega)

theorem sum_map_nonneg {l : List α} (h : ∀ x ∈ l, 0 ≤ weight x) : 0 ≤ (l.map weight).sum := by
  refine List.sum_nonneg ?_
  intro w hw
  obtain ⟨x, hx, rfl⟩ := List.mem_map.1 hw
  exact h x hx

/-- Some remainder stops at any candidate heavier than the slack. -/
theorem exists_draw (slack : Int) (weight : α → Int) {l : List α} {x : α} (hslack : 0 ≤ slack)
    (hpos : ∀ y ∈ l, 0 ≤ weight y) (hx : x ∈ l) (hheavy : slack < weight x) :
    ∃ r, slack ≤ r ∧ r < (l.map weight).sum ∧ draw slack weight r l = some x := by
  induction l with
  | nil => cases hx
  | cons y rest ih =>
    obtain ⟨hy, hrest⟩ := List.forall_mem_cons.1 hpos
    have hsum : 0 ≤ (rest.map weight).sum := sum_map_nonneg hrest
    rw [List.map_cons, List.sum_cons]
    obtain rfl | hmem := List.mem_cons.1 hx
    · refine ⟨slack, le_rfl, by omega, ?_⟩
      unfold draw
      rw [if_pos (by omega)]
    · -- skip the head by adding its weight
      obtain ⟨r, hlow, hhigh, hdraw⟩ := ih hrest hmem
      refine ⟨r + weight y, by omega, by omega, ?_⟩
      unfold draw
      rw [if_neg (by omega), Int.add_sub_cancel]
      exact hdraw

/-- Where the remainders of the first candidate end, those of the rest begin. -/
theorem draw_cons_iff {x y : α} {rest : List α} :
    draw 0 weight r (y :: rest) = some x
      ↔ if r < weight y then y = x else draw 0 weight (r - weight y) rest = some x := by
  rw [draw]
  by_cases h : r < weight y
  · rw [if_pos (by omega), if_pos h, Option.some.injEq]
  · rw [if_neg (by omega), if_neg h]

open Finset in
/-- Below the total weight a candidate is stopped at by as many remainders as
it weighs, once for each time it is listed. -/
theorem card_draw [DecidableEq α] (weight : α → Int) {l : List α}
    (hpos : ∀ y ∈ l, 0 ≤ weight y) (x : α) :
    (((Ico 0 (l.map weight).sum).filter fun r => draw 0 weight r l = some x).card : Int)
      = l.count x * weight x := by
  induction l with
  | nil => simp
  | cons y rest ih =>
    obtain ⟨hy, hrest⟩ := List.forall_mem_cons.1 hpos
    have hsum : 0 ≤ (rest.map weight).sum := sum_map_nonneg hrest
    have hhead : (∑ r ∈ Ico 0 (weight y),
        if draw 0 weight r (y :: rest) = some x then (1 : Int) else 0)
        = if y = x then weight y else 0 := by
      have hsame : ∀ r ∈ Ico 0 (weight y),
          (if draw 0 weight r (y :: rest) = some x then (1 : Int) else 0)
            = if y = x then 1 else 0 := by
        intro r hr
        simp only [draw_cons_iff, if_pos (mem_Ico.1 hr).2]
      rw [sum_congr rfl hsame, sum_const, Int.card_Ico]
      by_cases hyx : y = x
      · simp [hyx, hyx ▸ hy]
      · simp [hyx]
    have htail : (∑ r ∈ Ico (weight y) (weight y + (rest.map weight).sum),
        if draw 0 weight r (y :: rest) = some x then (1 : Int) else 0)
        = rest.count x * weight x := by
      have hshift := sum_Ico_add'
        (fun r => if draw 0 weight r (y :: rest) = some x then (1 : Int) else 0)
        0 (rest.map weight).sum (weight y)
      rw [Int.zero_add, Int.add_comm _ (weight y)] at hshift
      rw [← hshift, ← ih hrest, card_filter, Nat.cast_sum]
      refine sum_congr rfl fun r hr => ?_
      have hr := (mem_Ico.1 hr).1
      simp only [draw_cons_iff, if_neg (show ¬ r + weight y < weight y by omega),
        Int.add_sub_cancel, Nat.cast_ite, Nat.cast_one, Nat.cast_zero]
    rw [List.map_cons, List.sum_cons, card_filter, Nat.cast_sum]
    simp only [Nat.cast_ite, Nat.cast_one, Nat.cast_zero]
    rw [← Ico_union_Ico_eq_Ico hy (by omega), sum_union (Ico_disjoint_Ico_consecutive _ _ _),
      hhead, htail, List.count_cons]
    by_cases hyx : y = x
    · subst hyx
      simp only [if_true, beq_self_eq_true, Nat.cast_add, Nat.cast_one]
      ring
    · simp [hyx]

end

/-! ## Ranks -/

section

variable {α : Type*} [BEq α] [LawfulBEq α]

theorem nodup_eraseDups (l : List α) : l.eraseDups.Nodup := by
  induction hn : l.length using Nat.strong_induction_on generalizing l with
  | _ n ih =>
    cases l with
    | nil => exact List.nodup_nil
    | cons a rest =>
      rw [List.eraseDups_cons, List.nodup_cons]
      refine ⟨by simp, ih _ ?_ _ rfl⟩
      subst hn
      exact Nat.lt_succ_of_le (List.length_filter_le _ rest)

variable [LE α] [DecidableLE α]

/-- The distinct values, from the highest down. -/
def descending (l : List α) : List α :=
  l.eraseDups.mergeSort fun a b => decide (b ≤ a)

theorem mem_descending {l : List α} {x : α} : x ∈ descending l ↔ x ∈ l := by
  rw [descending, List.mem_mergeSort, List.mem_eraseDups]

variable [Std.IsLinearOrder α]

omit [LawfulBEq α] in
theorem pairwise_descending (l : List α) : (descending l).Pairwise fun a b => b ≤ a := by
  have htrans : ∀ a b c : α, decide (b ≤ a) = true → decide (c ≤ b) = true →
      decide (c ≤ a) = true := by
    intro a b c hab hbc
    simp only [decide_eq_true_eq] at hab hbc ⊢
    exact Std.le_trans hbc hab
  have htotal : ∀ a b : α, (decide (b ≤ a) || decide (a ≤ b)) = true := by
    intro a b
    simpa using Std.le_total (a := b) (b := a)
  simpa [descending] using List.pairwise_mergeSort htrans htotal l.eraseDups

/-- Lists with the same values have the same ranks. -/
theorem descending_congr {l l' : List α} (h : ∀ x, x ∈ l ↔ x ∈ l') :
    descending l = descending l' := by
  have hperm : l.eraseDups.Perm l'.eraseDups := by
    rw [List.perm_ext_iff_of_nodup (nodup_eraseDups l) (nodup_eraseDups l')]
    intro x
    rw [List.mem_eraseDups, List.mem_eraseDups, h]
  refine List.Perm.eq_of_pairwise (fun a b _ _ hab hba => Std.le_antisymm hba hab)
    (pairwise_descending l) (pairwise_descending l') ?_
  exact (List.mergeSort_perm _ _).trans (hperm.trans (List.mergeSort_perm _ _).symm)

theorem head_descending {l : List α} {x : α} (hx : x ∈ l) (hmax : ∀ y ∈ l, y ≤ x) :
    (descending l)[0]? = some x := by
  have hpair := pairwise_descending l
  cases hd : descending l with
  | nil =>
    have := mem_descending.2 hx
    rw [hd] at this
    cases this
  | cons z rest =>
    rw [hd] at hpair
    have hz : z ≤ x := hmax z (mem_descending.1 (hd ▸ List.mem_cons_self))
    have hxz : x ≤ z := by
      obtain rfl | hmem := List.mem_cons.1 (hd ▸ mem_descending.2 hx)
      · exact Std.le_refl x
      · exact (List.pairwise_cons.1 hpair).1 x hmem
    simp [Std.le_antisymm hz hxz]

omit [LawfulBEq α] [Std.IsLinearOrder α] in
theorem length_descending (l : List α) : (descending l).length = l.eraseDups.length :=
  (List.mergeSort_perm _ _).length_eq

/-- How many distinct values of the list are above a value. -/
def rank (l : List α) (x : α) : Nat :=
  l.eraseDups.countP fun y => !decide (y ≤ x)

omit [BEq α] [LawfulBEq α] in
/-- In a strictly descending list the values above a member are those before. -/
theorem countP_of_getElem? {D : List α} (hD : D.Pairwise fun a b => b ≤ a) (hnd : D.Nodup)
    {k : Nat} {x : α} (hk : D[k]? = some x) : D.countP (fun y => !decide (y ≤ x)) = k := by
  induction D generalizing k with
  | nil => cases hk
  | cons a rest ih =>
    obtain ⟨ha, hrest⟩ := List.pairwise_cons.1 hD
    obtain ⟨hfresh, hnodup⟩ := List.nodup_cons.1 hnd
    cases k with
    | zero =>
      obtain rfl : a = x := by simpa using hk
      rw [List.countP_eq_zero]
      intro y hy
      have hle : y ≤ a := by
        rcases List.mem_cons.1 hy with rfl | hy
        · exact Std.le_refl y
        · exact ha y hy
      simpa using hle
    | succ k =>
      rw [List.getElem?_cons_succ] at hk
      have hx := List.mem_of_getElem? hk
      have habove : ¬ a ≤ x := fun hle => hfresh (Std.le_antisymm hle (ha x hx) ▸ hx)
      rw [List.countP_cons_of_pos (by simpa using habove), ih hrest hnodup hk]

/-- The value at a position is the one with that many distinct values above. -/
theorem getElem?_descending {l : List α} {k : Nat} {x : α} :
    (descending l)[k]? = some x ↔ x ∈ l ∧ rank l x = k := by
  have hperm : (descending l).Perm l.eraseDups := List.mergeSort_perm _ _
  have hnd : (descending l).Nodup := hperm.nodup_iff.2 (nodup_eraseDups l)
  have hrank : ∀ {j : Nat}, (descending l)[j]? = some x → rank l x = j := by
    intro j hj
    rw [rank, ← hperm.countP_eq]
    exact countP_of_getElem? (pairwise_descending l) hnd hj
  constructor
  · intro h
    exact ⟨mem_descending.1 (List.mem_of_getElem? h), hrank h⟩
  · rintro ⟨hx, rfl⟩
    obtain ⟨j, hj⟩ := List.mem_iff_getElem?.1 (mem_descending.2 hx)
    rw [hrank hj]
    exact hj

end

/-! ## Machine arithmetic within range -/

theorem bmod_of_range {n : Int} (hlow : -2 ^ 63 ≤ n) (hhigh : n < 2 ^ 63) :
    n.bmod (2 ^ 64) = n :=
  Int.bmod_eq_of_le (by omega) (by omega)

variable {a b : Int64}

theorem toInt_add (hlow : -2 ^ 63 ≤ a.toInt + b.toInt) (hhigh : a.toInt + b.toInt < 2 ^ 63) :
    (a + b).toInt = a.toInt + b.toInt := by
  rw [Int64.toInt_add, bmod_of_range hlow hhigh]

theorem toInt_sub (hlow : -2 ^ 63 ≤ a.toInt - b.toInt) (hhigh : a.toInt - b.toInt < 2 ^ 63) :
    (a - b).toInt = a.toInt - b.toInt := by
  rw [Int64.toInt_sub, bmod_of_range hlow hhigh]

theorem toInt_mul (hlow : -2 ^ 63 ≤ a.toInt * b.toInt) (hhigh : a.toInt * b.toInt < 2 ^ 63) :
    (a * b).toInt = a.toInt * b.toInt := by
  rw [Int64.toInt_mul, bmod_of_range hlow hhigh]

theorem toInt_toInt64 {x : UInt64} (h : x.toNat < 2 ^ 63) : x.toInt64.toInt = x.toNat := by
  have hlt : 2 * x.toBitVec.toNat < 2 ^ 64 := by
    rw [UInt64.toNat_toBitVec]
    omega
  rw [Int64.toInt, UInt64.toBitVec_toInt64, BitVec.toInt_eq_toNat_of_lt hlt, UInt64.toNat_toBitVec]

theorem toInt_foldl_add {l : List Int64} {acc : Int64} (hacc : 0 ≤ acc.toInt)
    (hl : ∀ x ∈ l, 0 ≤ x.toInt) (hsum : acc.toInt + (l.map Int64.toInt).sum < 2 ^ 63) :
    (l.foldl (· + ·) acc).toInt = acc.toInt + (l.map Int64.toInt).sum := by
  induction l generalizing acc with
  | nil => simp
  | cons x rest ih =>
    obtain ⟨hx, hrest⟩ := List.forall_mem_cons.1 hl
    have hnonneg : 0 ≤ (rest.map Int64.toInt).sum := sum_map_nonneg hrest
    rw [List.map_cons, List.sum_cons] at hsum ⊢
    have hadd : (acc + x).toInt = acc.toInt + x.toInt := toInt_add (by omega) (by omega)
    rw [List.foldl_cons, ih (by omega) hrest (by omega), hadd]
    omega

/-- A sum over `uint` whose terms add up within its range. -/
theorem toNat_foldl_add {α : Type*} {f : α → UInt64} {l : List α} {acc : UInt64}
    (hsum : acc.toNat + (l.map fun x => (f x).toNat).sum < 2 ^ 64) :
    (l.foldl (fun sum x => sum + f x) acc).toNat
      = acc.toNat + (l.map fun x => (f x).toNat).sum := by
  induction l generalizing acc with
  | nil => simp
  | cons x rest ih =>
    rw [List.map_cons, List.sum_cons] at hsum ⊢
    have hadd : (acc + f x).toNat = acc.toNat + (f x).toNat := by
      rw [UInt64.toNat_add, Nat.mod_eq_of_lt (by omega)]
    rw [List.foldl_cons, ih (by omega), hadd]
    omega

end YouBox.Draw
