import Mathlib

/-!
# Interleaved executions over a shared store

The generic half of every concurrency argument in this development,
independent of what the executions do. A `Machine` says what one atomic
step of one execution does to the shared store and to its own control
state; a `Conf` is a store with any number of executions on it; a run
picks, over and over, an execution and an answer of the environment and
takes that one step.

Runs are *guarded*: `Steps M ok` is the closure of the steps that meet
`ok`, a predicate on the configuration before the step, the execution
chosen and the environment's answer. `Sched.free` is the guard of the
unrestricted runs, and a guard is how "in every run in which ..." is
stated.

A few rules carry the proofs built on top of it:

- `Steps.invariant`: what holds initially and is kept by every guarded
  step holds in every configuration reached;
- `Steps.conserved`: where every step moves something between the store and the
  execution that takes it, the total stays;
- `meters_eq`: what the meter on an execution shows, where every step changes
  the store by what it changes of the execution that takes it;
- `atMostOne_step`: if executions only *enter* a section while nobody
  else is inside, at most one execution is ever inside;
- `LockInv.step`: if the store records a lock that is free whenever somebody
  enters a section and taken while somebody is inside, at most one execution
  is inside;
- `OneShot.uses_le_one`: if, on top of that, a section is entered only
  while something is unused and left either without trace or by using it
  up, it is used at most once;
- `SpendInv.step` and `Gone.step`: if executions spend a thing by taking it
  out of what is available, it is spent at most once, and never after it has
  gone otherwise;
- `Meets.invariant`: the invariant rule for the runs of a single client, and
  `Meets.iff_always` where the guard is exact.
-/

namespace YouBox

namespace Sched

variable {σ ℓ ε : Type*}

/-- What one atomic step of an execution does: on store `s`, in control
state `l` and with the environment answering `e`, the new store and the
new control state, or `none` when the execution cannot move (it has
finished, or it waits for a lock). -/
structure Machine (σ ℓ ε : Type*) where
  next : ε → σ → ℓ → Option (σ × ℓ)

/-- A shared store and the control states of the executions on it. -/
structure Conf (σ ℓ : Type*) where
  store : σ
  threads : List ℓ

/-- Execution `i` takes one step. -/
def Conf.stepAt (M : Machine σ ℓ ε) (c : Conf σ ℓ) (i : Nat) (e : ε) :
    Option (Conf σ ℓ) :=
  match c.threads[i]? with
  | none => none
  | some l =>
    match M.next e c.store l with
    | none => none
    | some (s', l') => some ⟨s', c.threads.set i l'⟩

/-- A condition on steps: the configuration before the step, the
execution that moves and the environment's answer. -/
abbrev Guard (σ ℓ ε : Type*) := Conf σ ℓ → Nat → ε → Prop

/-- The guard of the unrestricted runs. -/
def free : Guard σ ℓ ε := fun _ _ _ => True

def Step (M : Machine σ ℓ ε) (ok : Guard σ ℓ ε) (c c' : Conf σ ℓ) : Prop :=
  ∃ i e, ok c i e ∧ c.stepAt M i e = some c'

/-- The runs all of whose steps meet `ok`. -/
abbrev Steps (M : Machine σ ℓ ε) (ok : Guard σ ℓ ε) :
    Conf σ ℓ → Conf σ ℓ → Prop :=
  Relation.ReflTransGen (Step M ok)

/-! ## One step -/

variable {M : Machine σ ℓ ε} {c : Conf σ ℓ} {i : Nat} {e : ε} {ts : List ℓ} {l' l : ℓ}
  {ok : Guard σ ℓ ε} {c₀ : Conf σ ℓ} {s s' : σ} {enters inside : ℓ → Prop}
  {issued avail : κ → σ → Prop} {spent : κ → ℓ → Prop} {k : κ}

/-- Everything a step can be: a live execution `l` at `i` moved to `l'`
and nobody else changed. -/
theorem stepAt_eq_some {c' : Conf σ ℓ} (h : c.stepAt M i e = some c') :
    ∃ l s' l', c.threads[i]? = some l ∧ M.next e c.store l = some (s', l')
      ∧ c' = ⟨s', c.threads.set i l'⟩ := by
  unfold Conf.stepAt at h
  cases hl : c.threads[i]? with
  | none => rw [hl] at h; cases h
  | some l =>
    rw [hl] at h
    cases hn : M.next e c.store l with
    | none => simp only [hn] at h; cases h
    | some p =>
      obtain ⟨s', l'⟩ := p
      simp only [hn] at h
      exact ⟨l, s', l', rfl, hn, (Option.some.inj h).symm⟩

/-- The control states after a step: the one that moved, and the others
as they were. -/
theorem threads_set_cases {j : Nat} {x : ℓ} (h : (ts.set i l')[j]? = some x) :
    (j = i ∧ x = l') ∨ (j ≠ i ∧ ts[j]? = some x) := by
  by_cases hij : j = i
  · subst hij
    have hlt : j < ts.length := by
      have := (List.getElem?_eq_some_iff.mp h).1
      simpa using this
    rw [List.getElem?_set_self hlt] at h
    exact Or.inl ⟨rfl, (Option.some.inj h).symm⟩
  · rw [List.getElem?_set_ne (fun h' => hij h'.symm)] at h
    exact Or.inr ⟨hij, h⟩

/-- A property of every execution survives a step that establishes it for
the one that moved. -/
theorem forall_threads_set {P : ℓ → Prop} (h : ∀ l ∈ ts, P l) (hl' : P l') :
    ∀ l ∈ ts.set i l', P l := by
  intro l hl
  rcases List.mem_or_eq_of_mem_set hl with hmem | rfl
  · exact h l hmem
  · exact hl'

/-- Somebody has a property still, unless the one that moved was the one and has
lost it. -/
theorem exists_threads_set {P : ℓ → Prop} (hl : ts[i]? = some l) (h : ∃ x ∈ ts, P x)
    (hmove : P l → P l') : ∃ x ∈ ts.set i l', P x := by
  obtain ⟨x, hx, hP⟩ := h
  obtain ⟨j, hj⟩ := List.mem_iff_getElem?.mp hx
  by_cases hij : j = i
  · subst hij
    rw [hl] at hj
    cases hj
    exact ⟨l', List.mem_set (List.getElem?_eq_some_iff.mp hl).1 l', hmove hP⟩
  · refine ⟨x, List.mem_iff_getElem?.mpr ⟨j, ?_⟩, hP⟩
    rwa [List.getElem?_set_ne (fun h => hij h.symm)]

/-- A total over the executions changes by what the one that moved
contributes. -/
theorem sum_threads_set (f : ℓ → Int) :
    ∀ {ts : List ℓ} {i : Nat} {l : ℓ} (l' : ℓ), ts[i]? = some l →
      ((ts.set i l').map f).sum = (ts.map f).sum - f l + f l'
  | [], i, l, l', h => by simp at h
  | x :: xs, 0, l, l', h => by
    obtain rfl : x = l := by simpa using h
    simp only [List.set_cons_zero, List.map_cons, List.sum_cons]
    omega
  | x :: xs, i + 1, l, l', h => by
    have ih := sum_threads_set f l' (show xs[i]? = some l by simpa using h)
    simp only [List.set_cons_succ, List.map_cons, List.sum_cons, ih]
    omega

theorem sum_threads_set_lt (f : ℓ → Nat) (hl : ts[i]? = some l) (h : f l' < f l) :
    ((ts.set i l').map f).sum < (ts.map f).sum := by
  have hcast : ∀ ts : List ℓ, (ts.map fun x => (f x : Int)).sum = ((ts.map f).sum : Nat) := by
    intro ts
    simp [Nat.cast_list_sum, Function.comp_def]
  have hsum := sum_threads_set (fun x => (f x : Int)) l' hl
  rw [hcast, hcast] at hsum
  omega

/-! ## Runs -/

/-- **The invariant rule.** What holds at the start and is kept by every
guarded step holds in every configuration a guarded run reaches. -/
theorem Steps.invariant {I : Conf σ ℓ → Prop} (h₀ : I c₀) (hstep : ∀ {c : Conf σ ℓ} {i e l s' l'}, I
      c → ok c i e → c.threads[i]? = some l → M.next e c.store l = some (s', l') → I ⟨s',
      c.threads.set i l'⟩) (h : Steps M ok c₀ c) : I c := by
  induction h with
  | refl => exact h₀
  | tail _ hlast ih =>
    obtain ⟨i, e, hok, hs⟩ := hlast
    obtain ⟨l, s', l', hl, hn, rfl⟩ := stepAt_eq_some hs
    exact hstep ih hok hl hn

/-- **The conservation rule.** Where every step moves of `f` between the store and the
execution that takes it, all of them together hold what they held at the start. -/
theorem Steps.conserved {f : σ → Int} {g : ℓ → Int} {I : Conf σ ℓ → Prop} (h₀ : I c₀)
    (hstep : ∀ {c : Conf σ ℓ} {i e l s' l'}, I c → ok c i e → c.threads[i]? = some l →
      M.next e c.store l = some (s', l') →
      I ⟨s', c.threads.set i l'⟩ ∧ f s' + g l' = f c.store + g l) (h : Steps M ok c₀ c) :
    I c ∧ f c.store + (c.threads.map g).sum = f c₀.store + (c₀.threads.map g).sum := by
  refine Steps.invariant (I := fun c => I c ∧ f c.store + (c.threads.map g).sum
    = f c₀.store + (c₀.threads.map g).sum) ⟨h₀, rfl⟩ ?_ h
  rintro c i e l s' l' ⟨hI, hsum⟩ hok hl hn
  obtain ⟨hI', hmoved⟩ := hstep hI hok hl hn
  have hthreads := sum_threads_set g l' hl
  refine ⟨hI', ?_⟩
  simp only
  omega

instance (c : Conf σ ℓ) (i : Nat) (e : ε) : Decidable (free c i e) :=
  inferInstanceAs (Decidable True)

/-- A schedule, executed as long as its steps meet `ok`: the concrete runs
that examples and counterexamples replay. -/
def run (M : Machine σ ℓ ε) (ok : Guard σ ℓ ε) [∀ c i e, Decidable (ok c i e)] :
    Conf σ ℓ → List (Nat × ε) → Option (Conf σ ℓ)
  | c, [] => some c
  | c, (i, e) :: rest =>
    if ok c i e then
      match c.stepAt M i e with
      | none => none
      | some c' => run M ok c' rest
    else none

theorem steps_of_run {M : Machine σ ℓ ε} {ok : Guard σ ℓ ε} [∀ c i e, Decidable (ok c i e)] :
    ∀ {sched : List (Nat × ε)} {c c' : Conf σ ℓ},
      run M ok c sched = some c' → Steps M ok c c'
  | [], c, c', h => by
    obtain rfl : c = c' := Option.some.inj h
    exact Relation.ReflTransGen.refl
  | (i, e) :: rest, c, c', h => by
    unfold run at h
    split at h
    · rename_i hok
      cases hs : c.stepAt M i e with
      | none => rw [hs] at h; cases h
      | some c₁ =>
        rw [hs] at h
        exact Relation.ReflTransGen.head ⟨i, e, hok, hs⟩ (steps_of_run h)
    · cases h

/-- A replayed schedule that ends where `P` holds. -/
theorem exists_of_run [∀ c i e, Decidable (ok c i e)] {P : Conf σ ℓ → Prop}
    (sched : List (Nat × ε)) (h : ∃ c' ∈ run M ok c sched, P c') : ∃ c', Steps M ok c c' ∧ P c' := by
  obtain ⟨c', hrun, hP⟩ := h
  exact ⟨c', steps_of_run hrun, hP⟩

/-- And what follows there. -/
theorem exists_of_run_and [∀ c i e, Decidable (ok c i e)] {P Q : Conf σ ℓ → Prop}
    (sched : List (Nat × ε)) (h : ∃ c' ∈ run M ok c sched, P c')
    (hQ : ∀ c', Steps M ok c c' → P c' → Q c') : ∃ c', Steps M ok c c' ∧ P c' ∧ Q c' := by
  obtain ⟨c', hrun, hP⟩ := h
  exact ⟨c', steps_of_run hrun, hP, hQ c' (steps_of_run hrun) hP⟩

/-- A step of an execution that has the store to itself. -/
theorem Steps.alone (hn : M.next e s l = some (s', l')) (h : Steps M free ⟨s', [l']⟩ c) :
    Steps M free ⟨s, [l]⟩ c := by
  have hstep : Conf.stepAt M ⟨s, [l]⟩ 0 e = some ⟨s', [l']⟩ := by
    simp [Conf.stepAt, hn]
  exact Relation.ReflTransGen.head ⟨0, e, trivial, hstep⟩ h

/-! ## Whose doing a change is

A meter on every execution: by how much its own steps, and nobody else's,
have changed a quantity of the store. -/

/-- The machine with a meter for `f` on every execution. -/
def metered (M : Machine σ ℓ ε) (f : σ → Int) : Machine σ (ℓ × Int) ε where
  next e s l := (M.next e s l.1).map (fun p => (p.1, p.2, l.2 + (f p.1 - f s)))

/-- The configuration without its meters. -/
def Conf.unmetered (c : Conf σ (ℓ × Int)) : Conf σ ℓ :=
  ⟨c.store, c.threads.map Prod.fst⟩

/-- The configuration with every meter at zero. -/
def Conf.withMeters (c : Conf σ ℓ) : Conf σ (ℓ × Int) :=
  ⟨c.store, c.threads.map (fun l => (l, 0))⟩

@[simp] theorem unmetered_withMeters (c : Conf σ ℓ) : c.withMeters.unmetered = c := by
  cases c
  simp [Conf.withMeters, Conf.unmetered, Function.comp_def]

theorem metered_next {f : σ → Int} {l l' : ℓ × Int} (h : (metered M f).next e s l = some (s', l')) :
    M.next e s l.1 = some (s', l'.1) ∧ l'.2 = l.2 + (f s' - f s) := by
  simp only [metered, Option.map_eq_some_iff, Prod.mk.injEq] at h
  obtain ⟨⟨s₁, l₁⟩, hn, rfl, rfl⟩ := h
  exact ⟨hn, rfl⟩

/-- **The meter rule.** Let `I` be an invariant of the machine, and let every
step from a configuration that meets it change `f` by what it changes `g` of
the execution that moves; then `g` is what the meters show. -/
theorem meters_eq {f : σ → Int} {g : ℓ → Int} {I : Conf σ ℓ → Prop} {c : Conf σ (ℓ × Int)}
    (h₀ : I c₀) (hg₀ : ∀ l ∈ c₀.threads, g l = 0) (hstep : ∀ {c : Conf σ ℓ} {i e l s' l'}, I c → ok
      c i e → c.threads[i]? = some l → M.next e c.store l = some (s', l') → I ⟨s', c.threads.set i
      l'⟩ ∧ f s' - f c.store = g l' - g l)
    (h : Steps (metered M f) (fun c => ok c.unmetered) c₀.withMeters c) :
    I c.unmetered ∧ ∀ l ∈ c.threads, l.2 = g l.1 := by
  refine Steps.invariant
    (I := fun c => I c.unmetered ∧ ∀ l ∈ c.threads, l.2 = g l.1) ?_ ?_ h
  · refine ⟨by simpa using h₀, ?_⟩
    intro l hl
    obtain ⟨l₀, hmem, rfl⟩ := List.mem_map.mp hl
    exact (hg₀ l₀ hmem).symm
  · rintro c i e l s' l' ⟨hI, hmeters⟩ hok hl hn
    obtain ⟨hbase, hmeter⟩ := metered_next hn
    have hl₁ : c.unmetered.threads[i]? = some l.1 := by
      simp [Conf.unmetered, hl]
    obtain ⟨hI', hchange⟩ := hstep hI hok hl₁ hbase
    have hmover : l'.2 = g l'.1 := by
      have hwas := hmeters l (List.mem_of_getElem? hl)
      have hchange : f s' - f c.store = g l'.1 - g l.1 := hchange
      omega
    refine ⟨?_, forall_threads_set hmeters hmover⟩
    simpa [Conf.unmetered, List.map_set] using hI'

/-! ## Sections entered one at a time -/

/-- Execution `i` is in the section `inside`. -/
def Inside (inside : ℓ → Prop) (c : Conf σ ℓ) (i : Nat) : Prop :=
  ∃ l, c.threads[i]? = some l ∧ inside l

/-- At most one execution is in the section. -/
def AtMostOne (inside : ℓ → Prop) (c : Conf σ ℓ) : Prop :=
  ∀ i j, Inside inside c i → Inside inside c j → i = j

/-- The guard a row lock would enforce: an execution about to enter the
section moves only while nobody else is inside. -/
def Exclusive (enters inside : ℓ → Prop) : Guard σ ℓ ε :=
  fun c i _ => ∀ l, c.threads[i]? = some l → enters l →
    ∀ j, Inside inside c j → j = i

theorem exclusive_iff :
    (∀ l ∈ c.threads[i]?, enters l → ∀ j, j < c.threads.length →
        (∃ x ∈ c.threads[j]?, inside x) → j = i)
      ↔ Exclusive enters inside c i e := by
  constructor
  · rintro h l hl hent j ⟨x, hx, hin⟩
    exact h l hl hent j (List.getElem?_eq_some_iff.mp hx).1 ⟨x, hx, hin⟩
  · rintro h l hl hent j - ⟨x, hx, hin⟩
    exact h l hl hent j ⟨x, hx, hin⟩

instance {enters inside : ℓ → Prop} [DecidablePred enters] [DecidablePred inside]
    (c : Conf σ ℓ) (i : Nat) (e : ε) : Decidable (Exclusive enters inside c i e) :=
  decidable_of_iff _ exclusive_iff

/-- Who is inside after a step: the mover, if it is, and whoever was. -/
theorem Inside.of_set {j : Nat} (h : Inside inside ⟨s', c.threads.set i l'⟩ j) :
    (j = i ∧ inside l') ∨ (j ≠ i ∧ Inside inside c j) := by
  obtain ⟨x, hx, hin⟩ := h
  rcases threads_set_cases hx with ⟨rfl, rfl⟩ | ⟨hne, hx'⟩
  · exact Or.inl ⟨rfl, hin⟩
  · exact Or.inr ⟨hne, x, hx', hin⟩

theorem atMostOne_step (hone : AtMostOne inside c) (hok : Exclusive enters inside c i e)
    (hl : c.threads[i]? = some l) (henter : inside l' → inside l ∨ enters l) :
    AtMostOne inside ⟨s', c.threads.set i l'⟩ := by
  -- whoever was inside stays the only candidate unless the mover joins it
  have hmove : ∀ j, inside l' → Inside inside c j → j = i := by
    intro j hin hj
    rcases henter hin with hwas | hent
    · exact hone j i hj ⟨l, hl, hwas⟩
    · exact hok l hl hent j hj
  intro a b ha hb
  rcases ha.of_set with ⟨rfl, ha'⟩ | ⟨-, ha'⟩
  · rcases hb.of_set with ⟨rfl, -⟩ | ⟨-, hb'⟩
    · rfl
    · exact (hmove b ha' hb').symm
  · rcases hb.of_set with ⟨rfl, hb'⟩ | ⟨-, hb'⟩
    · exact hmove a hb' ha'
    · exact hone a b ha' hb'

/-- When the only execution inside leaves, nobody is. -/
theorem AtMostOne.left (hone : AtMostOne inside c) (hl : c.threads[i]? = some l) (hin : inside l)
    (hout : ¬ inside l') (j : Nat) : ¬ Inside inside ⟨s', c.threads.set i l'⟩ j := by
  intro hj
  rcases hj.of_set with ⟨-, hin'⟩ | ⟨hne, hj'⟩
  · exact hout hin'
  · exact hne (hone j i hj' ⟨l, hl, hin⟩)

/-! ## Row locks

A lock that the store records: an execution goes in only while the lock is
free, and the lock is taken as long as somebody is inside. -/

structure LockInv (inside : ℓ → Prop) (lock : σ → Bool) (c : Conf σ ℓ) : Prop where
  alone : AtMostOne inside c
  held : ∀ i, Inside inside c i → lock c.store = true

theorem LockInv.init {lock : σ → Bool} (hout : ∀ l ∈ c.threads, ¬ inside l) :
    LockInv inside lock c := by
  have hnone : ∀ i, ¬ Inside inside c i := by
    rintro i ⟨l, hl, hin⟩
    exact hout l (List.mem_of_getElem? hl) hin
  exact ⟨fun i _ hi => absurd hi (hnone i), fun i hi => absurd hi (hnone i)⟩

theorem LockInv.step {lock : σ → Bool} (h : LockInv inside lock c) (hl : c.threads[i]? = some l)
    (henter : inside l' → ¬ inside l → lock c.store = false) (hheld : inside l' → lock s' = true)
    (hother : ¬ inside l → lock c.store = true → lock s' = true) :
    LockInv inside lock ⟨s', c.threads.set i l'⟩ := by
  have hmover : ∀ j, j ≠ i → Inside inside c j → ¬ inside l := by
    intro j hne hj hin
    exact hne (h.alone j i hj ⟨l, hl, hin⟩)
  -- nobody else is inside when the mover is
  have hmove : ∀ j, j ≠ i → Inside inside c j → ¬ inside l' := by
    intro j hne hj hin
    have hfree := henter hin (hmover j hne hj)
    rw [h.held j hj] at hfree
    cases hfree
  constructor
  · intro a b ha hb
    rcases ha.of_set with ⟨rfl, ha'⟩ | ⟨hane, ha'⟩
    · rcases hb.of_set with ⟨rfl, -⟩ | ⟨hbne, hb'⟩
      · rfl
      · exact absurd ha' (hmove b hbne hb')
    · rcases hb.of_set with ⟨rfl, hb'⟩ | ⟨-, hb'⟩
      · exact absurd hb' (hmove a hane ha')
      · exact h.alone a b ha' hb'
  · intro j hj
    rcases hj.of_set with ⟨-, hin⟩ | ⟨hne, hj'⟩
    · exact hheld hin
    · exact hother (hmover j hne hj') (h.held j hj')

/-! ## Check-then-act, once

The shape of a status check followed by the work it guards: an execution
enters the section by *reading* that something is unused, and leaves it
either without trace or by using that something up. -/

structure OneShot (M : Machine σ ℓ ε) (enters inside : ℓ → Prop)
    (unused : σ → Prop) (uses : σ → Nat) : Prop where
  enter : ∀ {e s l s' l'}, M.next e s l = some (s', l') → inside l' → ¬ inside l →
    enters l ∧ unused s
  quiet : ∀ {e s l s' l'}, M.next e s l = some (s', l') → inside l' ∨ ¬ inside l →
    (unused s' ↔ unused s) ∧ uses s' = uses s
  leave : ∀ {e s l s' l'}, M.next e s l = some (s', l') → inside l → ¬ inside l' →
    ((unused s' ↔ unused s) ∧ uses s' = uses s) ∨ (¬ unused s' ∧ uses s' = uses s + 1)

/-- A one-shot section from the cases of a step: the store is left alone and only an
entry is made, or the thread inside leaves with the one use. -/
theorem OneShot.of_cases {unused : σ → Prop} {uses : σ → Nat}
    (h : ∀ {e s l s' l'}, M.next e s l = some (s', l') →
      (s' = s ∧ (inside l' → inside l ∨ (enters l ∧ unused s))) ∨
        (inside l ∧ ¬ inside l' ∧ ¬ unused s' ∧ uses s' = uses s + 1)) :
    OneShot M enters inside unused uses where
  enter := by
    intro e s l s' l' hn hin hout
    rcases h hn with ⟨-, henter⟩ | ⟨hwas, -⟩
    · exact (henter hin).resolve_left hout
    · exact absurd hwas hout
  quiet := by
    intro e s l s' l' hn hquiet
    rcases h hn with ⟨rfl, -⟩ | ⟨hwas, hleft, -⟩
    · exact ⟨Iff.rfl, rfl⟩
    · exact absurd hquiet (not_or.mpr ⟨hleft, not_not.mpr hwas⟩)
  leave := by
    intro e s l s' l' hn _ _
    rcases h hn with ⟨rfl, -⟩ | ⟨-, -, hused, huses⟩
    · exact Or.inl ⟨Iff.rfl, rfl⟩
    · exact Or.inr ⟨hused, huses⟩

/-- The invariant of a one-shot section: whoever is inside is alone and
right about the store, and the store has been used at most once. -/
structure OneShotInv (inside : ℓ → Prop) (unused : σ → Prop) (uses : σ → Nat)
    (c : Conf σ ℓ) : Prop where
  alone : AtMostOne inside c
  right : ∀ i, Inside inside c i → unused c.store
  once : uses c.store = 0 ∨ (uses c.store = 1 ∧ ¬ unused c.store)

theorem OneShot.step {unused : σ → Prop} {uses : σ → Nat} (h : OneShot M enters inside unused uses)
    (hinv : OneShotInv inside unused uses c) (hok : Exclusive enters inside c i e)
    (hl : c.threads[i]? = some l) (hn : M.next e c.store l = some (s', l')) :
    OneShotInv inside unused uses ⟨s', c.threads.set i l'⟩ := by
  have henter : inside l' → inside l ∨ enters l := by
    intro hin
    by_cases hwas : inside l
    · exact Or.inl hwas
    · exact Or.inr (h.enter hn hin hwas).1
  have halone : AtMostOne inside ⟨s', c.threads.set i l'⟩ :=
    atMostOne_step hinv.alone hok hl henter
  by_cases hquiet : inside l' ∨ ¬ inside l
  · obtain ⟨hunused, huses⟩ := h.quiet hn hquiet
    refine ⟨halone, ?_, ?_⟩
    · intro j hj
      rw [hunused]
      rcases hj.of_set with ⟨rfl, hin⟩ | ⟨-, hj'⟩
      · by_cases hwas : inside l
        · exact hinv.right j ⟨l, hl, hwas⟩
        · exact (h.enter hn hin hwas).2
      · exact hinv.right j hj'
    · rw [hunused, huses]
      exact hinv.once
  · obtain ⟨hout, hin⟩ := not_or.mp hquiet
    have hin : inside l := not_not.mp hin
    have hzero : uses c.store = 0 := by
      rcases hinv.once with h0 | ⟨-, hused⟩
      · exact h0
      · exact absurd (hinv.right i ⟨l, hl, hin⟩) hused
    refine ⟨halone, fun j hj => absurd hj (hinv.alone.left hl hin hout j), ?_⟩
    rcases h.leave hn hin hout with ⟨-, huses⟩ | ⟨hused, huses⟩
    · exact Or.inl (huses.trans hzero)
    · exact Or.inr ⟨by rw [huses, hzero], hused⟩

/-- **Used at most once**, in every run whose entries are exclusive. -/
theorem OneShot.uses_le_one {unused : σ → Prop} {uses : σ → Nat}
    (h : OneShot M enters inside unused uses) (huses : uses c₀.store = 0)
    (hout : ∀ l ∈ c₀.threads, ¬ inside l) (hrun : Steps M (Exclusive enters inside) c₀ c) :
    uses c.store ≤ 1 := by
  have hnone : ∀ i, ¬ Inside inside c₀ i := by
    rintro i ⟨l, hl, hin⟩
    exact hout l (List.mem_of_getElem? hl) hin
  have hinit : OneShotInv inside unused uses c₀ :=
    ⟨fun i _ hi => absurd hi (hnone i), fun i hi => absurd hi (hnone i), Or.inl huses⟩
  have hinv : OneShotInv inside unused uses c :=
    Steps.invariant hinit (fun hI hok hl hn => h.step hI hok hl hn) hrun
  rcases hinv.once with h0 | ⟨h1, -⟩
  · omega
  · omega

/-! ## Spent once

Single-use things, named by keys: a code, a token. Executions spend them by
taking them out of what is available; whatever has been issued never becomes
available again. -/

variable {κ : Type*}

/-- What one step may do to the thing `k`. -/
structure SpendStep (issued avail : κ → σ → Prop) (spent : κ → ℓ → Prop) (k : κ)
    (s : σ) (l : ℓ) (s' : σ) (l' : ℓ) : Prop where
  keep : issued k s → issued k s'
  again : issued k s → avail k s' → avail k s
  spend : spent k l' → spent k l ∨ (issued k s ∧ avail k s ∧ ¬ avail k s')

/-- At most one execution has spent `k`, and then it is gone. -/
structure SpendInv (issued avail : κ → σ → Prop) (spent : κ → ℓ → Prop) (k : κ)
    (c : Conf σ ℓ) : Prop where
  alone : AtMostOne (spent k) c
  gone : ∀ i, Inside (spent k) c i → issued k c.store ∧ ¬ avail k c.store

theorem SpendInv.init (hnone : ∀ l ∈ c.threads, ¬ spent k l) : SpendInv issued avail spent k c := by
  have hout : ∀ i, ¬ Inside (spent k) c i := by
    rintro i ⟨l, hl, hin⟩
    exact hnone l (List.mem_of_getElem? hl) hin
  exact ⟨fun i _ hi => absurd hi (hout i), fun i hi => absurd hi (hout i)⟩

theorem SpendInv.step (h : SpendInv issued avail spent k c) (hl : c.threads[i]? = some l)
    (hs : SpendStep issued avail spent k c.store l s' l') :
    SpendInv issued avail spent k ⟨s', c.threads.set i l'⟩ := by
  -- nobody else has spent what the mover spends
  have hmove : ∀ j, j ≠ i → Inside (spent k) c j → ¬ spent k l' := by
    intro j hne hj hin
    rcases hs.spend hin with hwas | ⟨-, havail, -⟩
    · exact hne (h.alone j i hj ⟨l, hl, hwas⟩)
    · exact (h.gone j hj).2 havail
  constructor
  · intro a b ha hb
    rcases ha.of_set with ⟨rfl, ha'⟩ | ⟨hane, ha'⟩
    · rcases hb.of_set with ⟨rfl, -⟩ | ⟨hbne, hb'⟩
      · rfl
      · exact absurd ha' (hmove b hbne hb')
    · rcases hb.of_set with ⟨rfl, hb'⟩ | ⟨-, hb'⟩
      · exact absurd hb' (hmove a hane ha')
      · exact h.alone a b ha' hb'
  · have hkeep : issued k c.store ∧ ¬ avail k c.store → issued k s' ∧ ¬ avail k s' := by
      rintro ⟨hissued, hgone⟩
      exact ⟨hs.keep hissued, fun havail => hgone (hs.again hissued havail)⟩
    intro j hj
    rcases hj.of_set with ⟨rfl, hin⟩ | ⟨-, hj'⟩
    · rcases hs.spend hin with hwas | ⟨hissued, -, hgone⟩
      · exact hkeep (h.gone j ⟨l, hl, hwas⟩)
      · exact ⟨hs.keep hissued, hgone⟩
    · exact hkeep (h.gone j hj')

/-- Once `k` is gone, nobody spends it who had not spent it in `c₀`. -/
structure Gone (issued avail : κ → σ → Prop) (spent : κ → ℓ → Prop) (k : κ)
    (c₀ c : Conf σ ℓ) : Prop where
  gone : issued k c.store ∧ ¬ avail k c.store
  old : ∀ i, Inside (spent k) c i → Inside (spent k) c₀ i

theorem Gone.step (h : Gone issued avail spent k c₀ c) (hl : c.threads[i]? = some l)
    (hs : SpendStep issued avail spent k c.store l s' l') :
    Gone issued avail spent k c₀ ⟨s', c.threads.set i l'⟩ := by
  obtain ⟨hissued, hgone⟩ := h.gone
  refine ⟨⟨hs.keep hissued, fun havail => hgone (hs.again hissued havail)⟩, ?_⟩
  intro j hj
  rcases hj.of_set with ⟨rfl, hin⟩ | ⟨-, hj'⟩
  · rcases hs.spend hin with hwas | ⟨-, havail, -⟩
    · exact h.old j ⟨l, hl, hwas⟩
    · exact absurd havail hgone
  · exact h.old j hj'

/-! ## One client

A sequential run is a list of operations, executed by folding `step`; its
guard is a condition on the store before each of them. -/

variable {α : Type*}

/-- Every operation of the run meets `ok` on the store it finds. -/
def Meets (step : σ → α → σ) (ok : σ → α → Prop) : σ → List α → Prop
  | _, [] => True
  | s, op :: rest => ok s op ∧ Meets step ok (step s op) rest

instance decidableMeets (step : σ → α → σ) (ok : σ → α → Prop) [∀ s op, Decidable (ok s op)] :
    ∀ (s : σ) (ops : List α), Decidable (Meets step ok s ops)
  | _, [] => inferInstanceAs (Decidable True)
  | s, op :: rest =>
    have := decidableMeets step ok (step s op) rest
    inferInstanceAs (Decidable (ok s op ∧ Meets step ok (step s op) rest))

/-- The invariant rule for sequential runs. -/
theorem Meets.invariant {step : σ → α → σ} {ok : σ → α → Prop} {I : σ → Prop}
    (hstep : ∀ s op, I s → ok s op → I (step s op)) {ops : List α} (h₀ : I s)
    (h : Meets step ok s ops) : I (ops.foldl step s) := by
  induction ops generalizing s with
  | nil => exact h₀
  | cons op rest ih =>
    obtain ⟨hop, hrest⟩ := h
    exact ih (hstep s op h₀ hop) hrest

/-- Where `ok` is exactly what keeps the invariant, the runs that meet it are
those that never leave it. -/
theorem Meets.iff_always {step : σ → α → σ} {ok : σ → α → Prop} {I : σ → Prop}
    (hstep : ∀ s op, I s → (I (step s op) ↔ ok s op)) {ops : List α} (h₀ : I s) :
    Meets step ok s ops ↔ ∀ done, done <+: ops → I (done.foldl step s) := by
  constructor
  · rintro h done ⟨rest, rfl⟩
    induction done generalizing s with
    | nil => exact h₀
    | cons op done ih =>
      obtain ⟨hop, hrest⟩ := h
      exact ih ((hstep s op h₀).mpr hop) hrest
  · intro h
    induction ops generalizing s with
    | nil => trivial
    | cons op rest ih =>
      have hop : I (step s op) := h [op] ⟨rest, rfl⟩
      exact ⟨(hstep s op h₀).mp hop, ih hop fun done hdone =>
        h (op :: done) (List.cons_prefix_cons.mpr ⟨rfl, hdone⟩)⟩

end Sched

end YouBox
