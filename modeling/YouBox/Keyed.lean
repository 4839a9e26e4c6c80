import Mathlib

/-!
# Counters by key

Entries under keys whose values are added up: `addTo` adds to the entry of a key or makes
one, `held` is what a quantity of the values comes to for one key, over all entries. The
quantity `f` is any that `plus` adds, so that one lemma serves each of the numbers that an
entry has.
-/

namespace YouBox.Keyed

variable {κ α : Type*} [DecidableEq κ] {f : α → Int} {plus : α → α → α}

/-- `entries[key] += value`. -/
def addTo (plus : α → α → α) (key : κ) (value : α) : List (κ × α) → List (κ × α)
  | [] => [(key, value)]
  | e :: rest =>
    if e.1 = key then (key, plus e.2 value) :: rest else e :: addTo plus key value rest

def held (f : α → Int) (k : κ) (es : List (κ × α)) : Int :=
  (es.map fun e => if e.1 = k then f e.2 else 0).sum

@[simp] theorem held_nil (f : α → Int) (k : κ) : held f k [] = 0 := rfl

@[simp] theorem held_cons (f : α → Int) (k : κ) (e : κ × α) (es : List (κ × α)) :
    held f k (e :: es) = (if e.1 = k then f e.2 else 0) + held f k es := by
  simp [held]

theorem held_addTo (hplus : ∀ a b, f (plus a b) = f a + f b) (key : κ) (value : α) (k : κ)
    (es : List (κ × α)) :
    held f k (addTo plus key value es) = held f k es + if key = k then f value else 0 := by
  induction es with
  | nil => simp [addTo]
  | cons e es ih =>
    unfold addTo
    split
    · rename_i heq
      subst heq
      simp only [held_cons, hplus]
      split <;> omega
    · rw [held_cons, held_cons, ih]
      omega

theorem held_eraseIdx (f : α → Int) (k : κ) {es : List (κ × α)} {n : Nat} {e : κ × α}
    (h : es[n]? = some e) :
    held f k (es.eraseIdx n) = held f k es - if e.1 = k then f e.2 else 0 := by
  induction es generalizing n with
  | nil => simp at h
  | cons x xs ih =>
    cases n with
    | zero =>
      obtain rfl : x = e := by simpa using h
      simp
    | succ n =>
      rw [List.eraseIdx_cons_succ, held_cons, held_cons, ih (by simpa using h)]
      omega

/-- What every value has, it has after an addition of one that has it. -/
theorem forall_addTo {P : α → Prop} {key : κ} {value : α} {es : List (κ × α)}
    (h : ∀ e ∈ es, P e.2) (hvalue : P value) (hplus : ∀ a, P a → P (plus a value)) :
    ∀ e ∈ addTo plus key value es, P e.2 := by
  induction es with
  | nil => simpa [addTo] using hvalue
  | cons x xs ih =>
    obtain ⟨hx, hxs⟩ := List.forall_mem_cons.mp h
    unfold addTo
    split
    · exact List.forall_mem_cons.mpr ⟨hplus _ hx, hxs⟩
    · exact List.forall_mem_cons.mpr ⟨hx, ih hxs⟩

end YouBox.Keyed
