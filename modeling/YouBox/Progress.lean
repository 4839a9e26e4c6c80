import Mathlib

/-!
# Systems that come to an end

That a system ends where it should, whatever it does: `Inevitable` says that
from a state there is always a step that is due until the end is there, and that
no choice of steps goes on without it. Steps that need not come, because somebody
else decides about them, are steps that are not `due`.

It is proved with a measure (`inevitable_of_measure`): the states `inside` are
kept by the steps, each of which makes the measure smaller, and as long as the end
is not there some step is due.
-/

namespace YouBox.Progress

open Relation

variable {σ α : Type*} {due step : σ → σ → Prop} {final : σ → Prop} {s : σ}

/-- Every way to take steps from `s` comes to a state in `final`. -/
inductive Inevitable (due step : σ → σ → Prop) (final : σ → Prop) : σ → Prop where
  | now {s : σ} (h : final s) : Inevitable due step final s
  | later {s : σ} (hdue : ∃ s', due s s')
      (hall : ∀ s', step s s' → Inevitable due step final s') : Inevitable due step final s

theorem Inevitable.reaches (h : Inevitable due step final s)
    (hsub : ∀ {s s'}, due s s' → step s s') : ∃ s', ReflTransGen step s s' ∧ final s' := by
  induction h with
  | now h => exact ⟨_, ReflTransGen.refl, h⟩
  | later hdue _ ih =>
    obtain ⟨s', hs⟩ := hdue
    obtain ⟨e, he, hfinal⟩ := ih s' (hsub hs)
    exact ⟨e, ReflTransGen.head (hsub hs) he, hfinal⟩

/-- **The measure rule.** -/
theorem inevitable_of_measure [Preorder α] [WellFoundedLT α] (inside : σ → Prop) (measure : σ → α)
    (hkeep : ∀ {s s'}, inside s → ¬ final s → step s s' → inside s' ∧ measure s' < measure s)
    (hdue : ∀ {s}, inside s → ¬ final s → ∃ s', due s s') (h : inside s) :
    Inevitable due step final s := by
  induction hm : measure s using WellFoundedLT.induction generalizing s with
  | ind m ih =>
    subst hm
    by_cases hfinal : final s
    · exact Inevitable.now hfinal
    · refine Inevitable.later (hdue h hfinal) ?_
      intro s' hs
      obtain ⟨hin, hlt⟩ := hkeep h hfinal hs
      exact ih _ hlt hin rfl

end YouBox.Progress
