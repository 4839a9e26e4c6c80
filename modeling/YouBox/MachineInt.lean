import Mathlib

/-!
# Signed words of 64 bits

The value a machine operation leaves is the integer it stands for, brought back
into the range of the word. Within the range nothing happens; the sum of two
words that are not negative is either exact or negative, so a test for a
negative sum finds every wrap. A sum that is wrapped at each addition is the
wrapped sum of the integers.
-/

namespace YouBox

/-- The value an `int64` operation leaves. -/
def wrap64 (x : Int) : Int := x.bmod (2 ^ 64)

theorem wrap64_of_fits {x : Int} (hlo : -(2 ^ 63) ≤ x) (hhi : x < 2 ^ 63) : wrap64 x = x := by
  unfold wrap64
  exact Int.bmod_eq_of_le (by norm_num; omega) (by norm_num; omega)

theorem wrap64_range (x : Int) : -(2 ^ 63) ≤ wrap64 x ∧ wrap64 x < 2 ^ 63 := by
  unfold wrap64
  have hlo := @Int.le_bmod x (2 ^ 64) (by norm_num)
  have hhi := @Int.bmod_lt x (2 ^ 64) (by norm_num)
  norm_num at hlo hhi ⊢
  omega

theorem wrap64_le {x : Int} (h : 0 ≤ x) : wrap64 x ≤ x := by
  unfold wrap64
  rw [Int.bmod_def]
  norm_num
  omega

theorem wrap64_wrap64 (x : Int) : wrap64 (wrap64 x) = wrap64 x :=
  wrap64_of_fits (wrap64_range x).1 (wrap64_range x).2

theorem wrap64_wrap64_add (x y : Int) : wrap64 (wrap64 x + y) = wrap64 (x + y) := by
  unfold wrap64
  exact Int.bmod_add_bmod

/-- A word that is not negative. -/
def Natural64 (x : Int) : Prop := 0 ≤ x ∧ x < 2 ^ 63

theorem Natural64.wrap64 {x : Int} (h : Natural64 x) : YouBox.wrap64 x = x :=
  wrap64_of_fits (le_trans (by norm_num) h.1) h.2

/-- The sum of two words that are not negative leaves the range upwards by less than
the range, so that it turns negative. -/
theorem wrap64_add_nonneg_iff {x y : Int} (hx : Natural64 x) (hy : Natural64 y) :
    0 ≤ wrap64 (x + y) ↔ x + y < 2 ^ 63 := by
  obtain ⟨hx0, hx1⟩ := hx
  obtain ⟨hy0, hy1⟩ := hy
  constructor
  · intro h
    by_contra hbig
    have hwrap : wrap64 (x + y) = x + y - 2 ^ 64 := by
      have hself : wrap64 (x + y - 2 ^ 64) = x + y - 2 ^ 64 :=
        wrap64_of_fits (by omega) (by omega)
      rw [← hself]
      unfold wrap64
      exact (Int.sub_bmod_right (x + y) (2 ^ 64)).symm
    omega
  · intro h
    rw [wrap64_of_fits (by omega) h]
    omega

theorem natural64_add {x y : Int} (hx : Natural64 x) (hy : Natural64 y) (h : x + y < 2 ^ 63) :
    Natural64 (x + y) :=
  ⟨Int.add_nonneg hx.1 hy.1, h⟩

theorem foldl_wrap64_add {σ α : Type*} (field : σ → Int) (count : α → Int) (counts : α → Bool)
    (add : σ → α → σ)
    (hadd : ∀ s x, field (add s x) = if counts x then wrap64 (field s + count x) else field s)
    {s : σ} (hs : wrap64 (field s) = field s) (l : List α) :
    field (l.foldl add s) = wrap64 (field s + ((l.filter counts).map count).sum) := by
  induction l generalizing s with
  | nil => simp [hs]
  | cons x rest ih =>
    have hstep : wrap64 (field (add s x)) = field (add s x) := by
      rw [hadd]
      split
      · exact wrap64_wrap64 _
      · exact hs
    rw [List.foldl_cons, ih hstep, hadd]
    cases hx : counts x with
    | false => simp [hx]
    | true => simp [hx, wrap64_wrap64_add, Int.add_assoc]

end YouBox
