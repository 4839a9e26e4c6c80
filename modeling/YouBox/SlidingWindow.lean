import Mathlib

/-!
# Limiting what happens within a span

A limiter counts events by keeping the newest `limit` times, newest first. It
forgets a time that is too old to count, alone or with all the others; what it
keeps of the whole history is `Holds`. The span is full exactly if the list is
and its oldest time still counts (`Holds.full_iff`), so that one comparison
decides for the whole history. Recording, forgetting and waiting keep `Holds`.

Events let in by that comparison alone keep to the limit in every window, not
only in those that end at an event (`Admitted.inWindow_le`).
-/

namespace YouBox.SlidingWindow

/-- How many of the times lie within the span before `now`. -/
def within (span now : Int) (times : List Int) : Nat :=
  times.countP fun t => decide (now - t < span)

structure Holds (limit : Nat) (span now : Int) (kept all : List Int) : Prop where
  bound : kept.length ≤ limit
  split : ∃ rest, all = kept ++ rest ∧ (kept.length < limit → ∀ t ∈ rest, span ≤ now - t)
  sorted : all.Pairwise (· ≥ ·)
  past : ∀ t ∈ all, t ≤ now

variable {limit : Nat} {span now : Int} {kept all : List Int}

theorem within_append (span now : Int) (xs ys : List Int) :
    within span now (xs ++ ys) = within span now xs + within span now ys :=
  List.countP_append

theorem within_eq_zero {times : List Int} (h : ∀ t ∈ times, span ≤ now - t) :
    within span now times = 0 := by
  refine List.countP_eq_zero.mpr fun t ht hwithin => ?_
  have hspan := h t ht
  rw [decide_eq_true_eq] at hwithin
  omega

theorem within_le_length (span now : Int) (times : List Int) :
    within span now times ≤ times.length :=
  List.countP_le_length

theorem holds_nil (limit : Nat) (span now : Int) : Holds limit span now [] [] :=
  ⟨Nat.zero_le _, ⟨[], rfl, by simp⟩, List.Pairwise.nil, by simp⟩

theorem Holds.later {now' : Int} (h : Holds limit span now kept all) (hle : now ≤ now') :
    Holds limit span now' kept all := by
  obtain ⟨rest, hall, hrest⟩ := h.split
  refine ⟨h.bound, ⟨rest, hall, fun hlt t ht => ?_⟩, h.sorted, fun t ht => ?_⟩
  · have hspan := hrest hlt t ht
    omega
  · exact (h.past t ht).trans hle

/-- Recording a time drops the oldest one when the list is full. -/
theorem Holds.push {t : Int} (h : Holds limit span now kept all)
    (ht : now ≤ t) : Holds limit span t ((t :: kept).take limit) (t :: all) := by
  obtain ⟨rest, hall, hrest⟩ := (h.later ht).split
  have hpast := (h.later ht).past
  refine ⟨List.length_take_le _ _, ?_, List.pairwise_cons.mpr ⟨hpast, h.sorted⟩, ?_⟩
  · refine ⟨(t :: kept).drop limit ++ rest, ?_, ?_⟩
    · rw [← List.append_assoc, List.take_append_drop, hall, List.cons_append]
    · intro hlt x hx
      have hshort : kept.length + 1 < limit := by
        rw [List.length_take, List.length_cons] at hlt
        omega
      rw [List.drop_eq_nil_of_le (by rw [List.length_cons]; omega), List.nil_append] at hx
      exact hrest (by omega) x hx
  · intro x hx
    rcases List.mem_cons.mp hx with rfl | hx
    · exact le_rfl
    · exact hpast x hx

/-- Forgetting all, once the newest is too old. -/
theorem Holds.clear (hlimit : 0 < limit) (h : Holds limit span now kept all)
    (hold : ∀ t, kept.head? = some t → span ≤ now - t) : Holds limit span now [] all := by
  obtain ⟨rest, hall, hrest⟩ := h.split
  refine ⟨Nat.zero_le _, ⟨all, rfl, fun _ t ht => ?_⟩, h.sorted, h.past⟩
  cases hkept : kept with
  | nil =>
    rw [hkept] at hall hrest
    rw [hall] at ht
    exact hrest hlimit t ht
  | cons newest older =>
    have hnewest := hold newest (by rw [hkept]; rfl)
    have hsorted := h.sorted
    rw [hall, hkept] at hsorted ht
    rcases List.mem_cons.mp ht with rfl | ht
    · exact hnewest
    · have hle : newest ≥ t := List.rel_of_pairwise_cons hsorted ht
      omega

/-- **The list decides**: the span is full if the list is and its oldest time
still counts. -/
theorem Holds.full_iff (hlimit : 0 < limit) (h : Holds limit span now kept all) :
    limit ≤ within span now all ↔
      limit ≤ kept.length ∧ ∃ oldest, kept.getLast? = some oldest ∧ now - oldest < span := by
  obtain ⟨rest, hall, hrest⟩ := h.split
  have hbound := h.bound
  have hcount : within span now all = within span now kept + within span now rest := by
    rw [hall, within_append]
  by_cases hshort : kept.length < limit
  · have hzero := within_eq_zero (hrest hshort)
    have hle := within_le_length span now kept
    constructor
    · intro hfull
      omega
    · rintro ⟨hlength, -⟩
      omega
  · have hlength : kept.length = limit := by omega
    have hne : kept ≠ [] := List.ne_nil_of_length_pos (by omega)
    obtain ⟨newer, oldest, hkept⟩ : ∃ newer oldest, kept = newer ++ [oldest] :=
      ⟨_, _, (List.dropLast_concat_getLast hne).symm⟩
    have hlast : kept.getLast? = some oldest := by simp [hkept]
    have hsorted := h.sorted
    rw [hall] at hsorted
    by_cases hcounts : now - oldest < span
    · -- the oldest kept counts, so all kept do
      refine iff_of_true ?_ ⟨hlength.ge, oldest, hlast, hcounts⟩
      have hevery : within span now kept = kept.length := by
        refine List.countP_eq_length.mpr fun t ht => ?_
        rw [hkept] at ht hsorted
        rw [decide_eq_true_eq]
        rcases List.mem_append.mp ht with ht | ht
        · have hge : t ≥ oldest := (List.pairwise_append.mp
            (List.pairwise_append.mp hsorted).1).2.2 t ht oldest (by simp)
          omega
        · rw [List.mem_singleton.mp ht]
          exact hcounts
      omega
    · -- it does not, and so nothing that was dropped
      refine iff_of_false (fun hfull => ?_) ?_
      · have hdropped : within span now rest = 0 := by
          refine within_eq_zero fun t ht => ?_
          have hge : oldest ≥ t :=
            (List.pairwise_append.mp hsorted).2.2 oldest (by simp [hkept]) t ht
          omega
        have hnewer : within span now kept ≤ newer.length := by
          have hone : within span now [oldest] = 0 :=
            within_eq_zero fun t ht => by rw [List.mem_singleton.mp ht]; omega
          rw [hkept, within_append, hone]
          exact within_le_length span now newer
        have hlen : kept.length = newer.length + 1 := by simp [hkept]
        omega
      · rintro ⟨-, x, hx, hwithin⟩
        obtain rfl := Option.some.inj (hlast.symm.trans hx)
        exact hcounts hwithin

/-! ## Windows at any place -/

/-- How many of the times lie in the window `[start, start + span)`. -/
def inWindow (span start : Int) (times : List Int) : Nat :=
  times.countP fun t => decide (start ≤ t ∧ t < start + span)

/-- Each time, newest first, came when fewer than `limit` before it still counted. -/
def Admitted (limit : Nat) (span : Int) : List Int → Prop
  | [] => True
  | t :: earlier => within span t earlier < limit ∧ Admitted limit span earlier

theorem inWindow_cons (span start t : Int) (times : List Int) :
    inWindow span start (t :: times) =
      inWindow span start times + if start ≤ t ∧ t < start + span then 1 else 0 := by
  unfold inWindow
  rw [List.countP_cons]
  simp only [decide_eq_true_eq]

theorem inWindow_le_within {span start t : Int} (times : List Int)
    (ht : t < start + span) : inWindow span start times ≤ within span t times := by
  refine List.countP_mono_left fun s _ hs => ?_
  rw [decide_eq_true_eq] at hs ⊢
  omega

/-- **No window holds more than the limit**: its newest time was let in, and then
the others of the window still counted. -/
theorem Admitted.inWindow_le {times : List Int} (h : Admitted limit span times) (start : Int) :
    inWindow span start times ≤ limit := by
  induction times with
  | nil => exact Nat.zero_le _
  | cons t earlier ih =>
    obtain ⟨hroom, hearlier⟩ := h
    rw [inWindow_cons]
    split
    · rename_i hin
      have hcounted := inWindow_le_within earlier hin.2
      omega
    · exact ih hearlier

end YouBox.SlidingWindow
