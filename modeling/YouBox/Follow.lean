import Mathlib

/-!
# Following a partial map

From a point one goes on as long as the map says where. Since it names one
successor at most, two things can happen and they exclude each other: the points
come to an end, which is the one `eval` gives, or to a point passed before
(`Loops`).

`walk` goes along with a list of the points passed. Where the map leads into a
finite list, one step more than the list is long is always enough, and what it
finds is which of the two is the case (`walk_spec`).
-/

namespace YouBox.Follow

open Relation StateTransition

variable {α : Type*} {next : α → Option α}

/-- Following leads to a point that it has passed. -/
def Loops (next : α → Option α) (a : α) : Prop :=
  ∃ b, Reaches next a b ∧ Reaches₁ next b b

theorem eval_eq_iff {a e : α} (h : e ∈ eval next a) : e = a ↔ next a = none := by
  constructor
  · rintro rfl
    exact (mem_eval.1 h).2
  · intro hnone
    exact Part.mem_unique h (mem_eval.2 ⟨ReflTransGen.refl, hnone⟩)

theorem cycle_of_reaches {b c : α} (hcycle : Reaches₁ next b b) (hc : Reaches next b c) :
    Reaches₁ next c c := by
  induction hc with
  | refl => exact hcycle
  | tail _ hstep ih => exact TransGen.tail' (reaches₁_fwd ih hstep) hstep

theorem not_loops_of_eval {a e : α} (h : e ∈ eval next a) : ¬ Loops next a := by
  rintro ⟨b, hb, hcycle⟩
  rw [reaches_eval hb] at h
  exact eval_maximal₁ h e (cycle_of_reaches hcycle (mem_eval.1 h).1)

/-! ## Walking with the points passed -/

/-- The points passed on the way from `start` to `a`. -/
structure Trail (next : α → Option α) (start : α) (passed : List α) (a : α) : Prop where
  nodup : passed.Nodup
  here : a ∈ passed
  after : ∀ b ∈ passed, Reaches next start b
  before : ∀ b ∈ passed, Reaches next b a

theorem Trail.start (a : α) : Trail next a [a] a where
  nodup := List.pairwise_singleton _ a
  here := List.mem_singleton_self a
  after _ hb := List.mem_singleton.1 hb ▸ ReflTransGen.refl
  before _ hb := List.mem_singleton.1 hb ▸ ReflTransGen.refl

theorem Trail.step {start a b : α} {passed : List α} (h : Trail next start passed a)
    (hb : b ∈ next a) (hnew : b ∉ passed) : Trail next start (b :: passed) b where
  nodup := List.nodup_cons.2 ⟨hnew, h.nodup⟩
  here := List.mem_cons_self
  after := by
    intro c hc
    rcases List.mem_cons.1 hc with rfl | hc
    · exact (h.after a h.here).tail hb
    · exact h.after c hc
  before := by
    intro c hc
    rcases List.mem_cons.1 hc with rfl | hc
    · exact ReflTransGen.refl
    · exact (h.before c hc).tail hb

theorem Trail.loops {start a b : α} {passed : List α} (h : Trail next start passed a)
    (hb : b ∈ next a) (hpassed : b ∈ passed) : Loops next start :=
  ⟨b, h.after b hpassed, TransGen.tail' (h.before b hpassed) hb⟩

/-- Where the map leads into a finite list, a trail is not longer than it and
the start. -/
theorem Trail.length_le {start a : α} {passed targets : List α}
    (htargets : ∀ a b, b ∈ next a → b ∈ targets) (h : Trail next start passed a) :
    passed.length ≤ targets.length + 1 := by
  have hsub : passed ⊆ start :: targets := by
    intro b hb
    rcases (h.after b hb).cases_tail with rfl | ⟨c, -, hstep⟩
    · exact List.mem_cons_self
    · exact List.mem_cons_of_mem start (htargets c b hstep)
  exact (h.nodup.subperm hsub).length_le

variable [DecidableEq α]

/-- The end, or the first point that was passed before; `none` when the fuel
runs out. -/
def walk (next : α → Option α) : Nat → List α → α → Option (Except α α)
  | 0, _, _ => none
  | fuel + 1, passed, a =>
    match next a with
    | none => some (.ok a)
    | some b => if b ∈ passed then some (.error b) else walk next fuel (b :: passed) b

theorem walk_of_trail {targets : List α} (htargets : ∀ a b, b ∈ next a → b ∈ targets)
    {fuel : Nat} {passed : List α} {start a : α} (h : Trail next start passed a)
    (hfuel : targets.length + 2 ≤ fuel + passed.length) :
    (∃ e, walk next fuel passed a = some (.ok e) ∧ e ∈ eval next start) ∨
      ∃ b, walk next fuel passed a = some (.error b) ∧ Loops next start := by
  induction fuel generalizing passed a with
  | zero =>
    have hlen := h.length_le htargets
    omega
  | succ fuel ih =>
    cases hnext : next a with
    | none =>
      refine Or.inl ⟨a, ?_, mem_eval.2 ⟨h.after a h.here, hnext⟩⟩
      rw [walk, hnext]
    | some b =>
      by_cases hpassed : b ∈ passed
      · refine Or.inr ⟨b, ?_, h.loops hnext hpassed⟩
        rw [walk, hnext]
        exact if_pos hpassed
      · have hgo : walk next (fuel + 1) passed a = walk next fuel (b :: passed) b := by
          rw [walk, hnext]
          exact if_neg hpassed
        rw [hgo]
        refine ih (h.step hnext hpassed) ?_
        rw [List.length_cons]
        omega

theorem walk_spec {targets : List α} (htargets : ∀ a b, b ∈ next a → b ∈ targets)
    {fuel : Nat} (hfuel : targets.length < fuel) (a : α) :
    (∃ e, walk next fuel [a] a = some (.ok e) ∧ e ∈ eval next a) ∨
      ∃ b, walk next fuel [a] a = some (.error b) ∧ Loops next a :=
  walk_of_trail htargets (Trail.start a) (by rw [List.length_singleton]; omega)

end YouBox.Follow
