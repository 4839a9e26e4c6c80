import Mathlib

/-!
# A token bucket

A bucket holds tokens up to its capacity and refills at a rate; a request takes
its amount if that much is there. The bucket may be lost, and is then full again
when it is next used. Amounts and times are those of any ordered ring.

What can be taken now (`avail`) is the potential of the argument: a step pays for
what it takes (`step_spec`), time adds the rate at most (`avail_later`), and a loss
gives back what was missing. Summed up over the steps of an interval this bounds
what is taken there (`takenIn_le`).
-/

namespace YouBox.Bucket

variable {R : Type} [CommRing R] [LinearOrder R]

structure Level (R : Type) where
  tokens : R
  time : R

/-- What can be taken at a time; a missing bucket is full. -/
def avail (capacity rate : R) : Option (Level R) → R → R
  | none, _ => capacity
  | some b, now => min capacity (b.tokens + (now - b.time) * rate)

inductive Op (R : Type) where
  | take (amount time : R)
  | lose (time : R)

def Op.time : Op R → R
  | .take _ time => time
  | .lose time => time

/-- What a step took, and what a loss gave back. -/
structure Entry (R : Type) where
  time : R
  taken : R
  gained : R

def step (capacity rate : R) (s : Option (Level R)) : Op R → Entry R × Option (Level R)
  | .take amount now =>
    if amount ≤ avail capacity rate s now then
      (⟨now, amount, 0⟩, some ⟨avail capacity rate s now - amount, now⟩)
    else (⟨now, 0, 0⟩, some ⟨avail capacity rate s now, now⟩)
  | .lose now => (⟨now, 0, capacity - avail capacity rate s now⟩, none)

def run (capacity rate : R) : Option (Level R) → List (Op R) → List (Entry R)
  | _, [] => []
  | s, op :: ops =>
    (step capacity rate s op).1 :: run capacity rate (step capacity rate s op).2 ops

/-- What was taken from a time to another, both included. -/
def takenIn (start stop : R) (entries : List (Entry R)) : R :=
  ((entries.filter fun e => start ≤ e.time ∧ e.time ≤ stop).map Entry.taken).sum

def gainedIn (start stop : R) (entries : List (Entry R)) : R :=
  ((entries.filter fun e => start ≤ e.time ∧ e.time ≤ stop).map Entry.gained).sum

/-- The bucket holds no debt and no more than its capacity. -/
def Sound (capacity now : R) (s : Option (Level R)) : Prop :=
  ∀ b, s = some b → 0 ≤ b.tokens ∧ b.tokens ≤ capacity ∧ b.time ≤ now

/-- No amount is negative. -/
def Op.Natural : Op R → Prop
  | .take amount _ => 0 ≤ amount
  | .lose _ => True

variable {capacity rate now start stop : R} {s : Option (Level R)} {ops : List (Op R)}

theorem avail_none : avail capacity rate none now = capacity := rfl

theorem avail_some (b : Level R) :
    avail capacity rate (some b) now = min capacity (b.tokens + (now - b.time) * rate) := rfl

theorem step_taken {amount : R} (h : amount ≤ avail capacity rate s now) :
    step capacity rate s (.take amount now) =
      (⟨now, amount, 0⟩, some ⟨avail capacity rate s now - amount, now⟩) :=
  if_pos h

theorem step_refused {amount : R} (h : ¬ amount ≤ avail capacity rate s now) :
    step capacity rate s (.take amount now) =
      (⟨now, 0, 0⟩, some ⟨avail capacity rate s now, now⟩) :=
  if_neg h

theorem avail_le : avail capacity rate s now ≤ capacity := by
  cases s with
  | none => exact le_rfl
  | some b => exact min_le_left _ _

theorem Sound.later {later : R} (h : Sound capacity now s) (hle : now ≤ later) :
    Sound capacity later s := by
  intro b hb
  obtain ⟨hnonneg, hcapacity, htime⟩ := h b hb
  exact ⟨hnonneg, hcapacity, htime.trans hle⟩

theorem avail_fresh {tokens : R} (h : tokens ≤ capacity) :
    avail capacity rate (some ⟨tokens, now⟩) now = tokens := by
  rw [avail_some, sub_self, zero_mul, add_zero, min_eq_right h]

theorem step_time (op : Op R) : (step capacity rate s op).1.time = op.time := by
  cases op with
  | take amount now =>
    by_cases h : amount ≤ avail capacity rate s now
    · rw [step_taken h]
      rfl
    · rw [step_refused h]
      rfl
  | lose now => rfl

theorem takenIn_cons (e : Entry R) (entries : List (Entry R)) :
    takenIn start stop (e :: entries) =
      (if start ≤ e.time ∧ e.time ≤ stop then e.taken else 0) + takenIn start stop entries := by
  unfold takenIn
  rw [List.filter_cons]
  by_cases h : start ≤ e.time ∧ e.time ≤ stop <;> simp [h]

theorem gainedIn_cons (e : Entry R) (entries : List (Entry R)) :
    gainedIn start stop (e :: entries) =
      (if start ≤ e.time ∧ e.time ≤ stop then e.gained else 0) + gainedIn start stop entries := by
  unfold gainedIn
  rw [List.filter_cons]
  by_cases h : start ≤ e.time ∧ e.time ≤ stop <;> simp [h]

/-- Nothing of a later run lies within the interval. -/
theorem run_after (hclock : List.IsChain (· ≤ ·) (now :: ops.map Op.time)) (hafter : stop < now) :
    takenIn start stop (run capacity rate s ops) = 0 ∧
      gainedIn start stop (run capacity rate s ops) = 0 := by
  induction ops generalizing s now with
  | nil => exact ⟨rfl, rfl⟩
  | cons op ops ih =>
    rw [List.map_cons, List.isChain_cons_cons] at hclock
    obtain ⟨hle, hclock⟩ := hclock
    have hlate : stop < op.time := hafter.trans_le hle
    have hout : ¬ (start ≤ (step capacity rate s op).1.time ∧
        (step capacity rate s op).1.time ≤ stop) := by
      rw [step_time]
      exact fun hin => absurd hin.2 (not_le.mpr hlate)
    rw [run, takenIn_cons, gainedIn_cons, if_neg hout, if_neg hout, zero_add, zero_add]
    exact ih hclock hlate

variable [IsStrictOrderedRing R]

theorem avail_nonneg (hcapacity : 0 ≤ capacity) (hrate : 0 ≤ rate)
    (h : Sound capacity now s) : 0 ≤ avail capacity rate s now := by
  cases s with
  | none => exact hcapacity
  | some b =>
    obtain ⟨hnonneg, -, htime⟩ := h b rfl
    exact le_min hcapacity (add_nonneg hnonneg (mul_nonneg (sub_nonneg.mpr htime) hrate))

theorem avail_later {later : R} (hrate : 0 ≤ rate) (hle : now ≤ later) :
    avail capacity rate s later ≤ avail capacity rate s now + (later - now) * rate := by
  have hadded : 0 ≤ (later - now) * rate := mul_nonneg (sub_nonneg.mpr hle) hrate
  cases s with
  | none => exact le_add_of_nonneg_right hadded
  | some b =>
    rw [avail_some, avail_some, ← min_add_add_right]
    refine min_le_min (le_add_of_nonneg_right hadded) (le_of_eq ?_)
    ring

/-- A step pays for what it takes. -/
theorem step_spec {op : Op R} (hcapacity : 0 ≤ capacity) (hrate : 0 ≤ rate)
    (h : Sound capacity op.time s) (hop : op.Natural) :
    Sound capacity op.time (step capacity rate s op).2 ∧
      (step capacity rate s op).1.taken + avail capacity rate (step capacity rate s op).2 op.time
        = avail capacity rate s op.time + (step capacity rate s op).1.gained := by
  cases op with
  | lose now =>
    refine ⟨fun b hb => absurd hb.symm (Option.some_ne_none b), ?_⟩
    show 0 + avail capacity rate none now
      = avail capacity rate s now + (capacity - avail capacity rate s now)
    rw [avail_none]
    ring
  | take amount now =>
    have hamount : 0 ≤ amount := hop
    have hnonneg := avail_nonneg hcapacity hrate h
    have hfull : avail capacity rate s now ≤ capacity := avail_le
    by_cases henough : amount ≤ avail capacity rate s now
    · have hleft : avail capacity rate s now - amount ≤ capacity :=
        (sub_le_self _ hamount).trans hfull
      rw [step_taken henough]
      refine ⟨fun b hb => ?_, ?_⟩
      · cases hb
        exact ⟨sub_nonneg.mpr henough, hleft, le_rfl⟩
      · show amount + avail capacity rate _ now = avail capacity rate s now + 0
        rw [avail_fresh hleft]
        ring
    · rw [step_refused henough]
      refine ⟨fun b hb => ?_, ?_⟩
      · cases hb
        exact ⟨hnonneg, hfull, le_rfl⟩
      · show 0 + avail capacity rate _ now = avail capacity rate s now + 0
        rw [avail_fresh hfull]
        ring

/-- From within the interval on, no more than what is there and what comes. -/
theorem run_within (hcapacity : 0 ≤ capacity) (hrate : 0 ≤ rate)
    (h : Sound capacity now s) (hops : ∀ op ∈ ops, op.Natural)
    (hclock : List.IsChain (· ≤ ·) (now :: ops.map Op.time)) (hstart : start ≤ now)
    (hstop : now ≤ stop) :
    takenIn start stop (run capacity rate s ops) ≤
      avail capacity rate s now + (stop - now) * rate
        + gainedIn start stop (run capacity rate s ops) := by
  induction ops generalizing s now with
  | nil =>
    have hnonneg := avail_nonneg hcapacity hrate h
    have hadded : 0 ≤ (stop - now) * rate := mul_nonneg (sub_nonneg.mpr hstop) hrate
    have hempty : takenIn start stop (run capacity rate s []) = 0 := rfl
    have hgained : gainedIn start stop (run capacity rate s []) = 0 := rfl
    linarith
  | cons op ops ih =>
    rw [List.map_cons, List.isChain_cons_cons] at hclock
    obtain ⟨hle, hclock⟩ := hclock
    by_cases hin : op.time ≤ stop
    · have hbegun : start ≤ op.time := hstart.trans hle
      obtain ⟨hsound, hpaid⟩ := step_spec hcapacity hrate (h.later hle)
        (hops op List.mem_cons_self)
      have hrest := ih hsound (fun o ho => hops o (List.mem_cons_of_mem _ ho)) hclock hbegun hin
      have hrefill : avail capacity rate s op.time
          ≤ avail capacity rate s now + (op.time - now) * rate := avail_later hrate hle
      rw [run, takenIn_cons, gainedIn_cons, step_time, if_pos ⟨hbegun, hin⟩,
        if_pos ⟨hbegun, hin⟩]
      have hsplit : (stop - now) * rate = (op.time - now) * rate + (stop - op.time) * rate := by
        ring
      linarith
    · have hnone : takenIn start stop (run capacity rate s (op :: ops)) = 0 ∧
          gainedIn start stop (run capacity rate s (op :: ops)) = 0 := by
        have hlate : List.IsChain (· ≤ ·) (op.time :: (op :: ops).map Op.time) := by
          rw [List.map_cons, List.isChain_cons_cons]
          exact ⟨le_rfl, hclock⟩
        exact run_after hlate (not_le.mp hin)
      have hnonneg := avail_nonneg hcapacity hrate h
      have hadded : 0 ≤ (stop - now) * rate := mul_nonneg (sub_nonneg.mpr hstop) hrate
      rw [hnone.1, hnone.2]
      linarith

/-- **The bound**: in no interval more is taken than the capacity, the refill, and
what losses gave back. -/
theorem takenIn_le (hcapacity : 0 ≤ capacity) (hrate : 0 ≤ rate)
    (h : Sound capacity now s) (hops : ∀ op ∈ ops, op.Natural)
    (hclock : List.IsChain (· ≤ ·) (now :: ops.map Op.time)) (hinterval : start ≤ stop) :
    takenIn start stop (run capacity rate s ops) ≤
      capacity + (stop - start) * rate + gainedIn start stop (run capacity rate s ops) := by
  induction ops generalizing s now with
  | nil =>
    have hadded : 0 ≤ (stop - start) * rate := mul_nonneg (sub_nonneg.mpr hinterval) hrate
    have hempty : takenIn start stop (run capacity rate s []) = 0 := rfl
    have hgained : gainedIn start stop (run capacity rate s []) = 0 := rfl
    linarith
  | cons op ops ih =>
    rw [List.map_cons, List.isChain_cons_cons] at hclock
    obtain ⟨hle, hclock⟩ := hclock
    by_cases hbegun : start ≤ op.time
    · -- the interval begins before this step, and after the one before it
      have hclock' : List.IsChain (· ≤ ·) (max now start :: (op :: ops).map Op.time) := by
        rw [List.map_cons, List.isChain_cons_cons]
        exact ⟨max_le hle hbegun, hclock⟩
      have hadded : 0 ≤ (stop - start) * rate := mul_nonneg (sub_nonneg.mpr hinterval) hrate
      by_cases hstop : max now start ≤ stop
      · have hwithin := run_within hcapacity hrate (h.later (le_max_left now start)) hops hclock'
          (le_max_right now start) hstop
        have hfull : avail capacity rate s (max now start) ≤ capacity := avail_le
        have hrefill : (stop - max now start) * rate ≤ (stop - start) * rate :=
          mul_le_mul_of_nonneg_right (sub_le_sub_left (le_max_right now start) stop) hrate
        linarith
      · have hnone : takenIn start stop (run capacity rate s (op :: ops)) = 0 ∧
            gainedIn start stop (run capacity rate s (op :: ops)) = 0 :=
          run_after hclock' (not_le.mp hstop)
        rw [hnone.1, hnone.2]
        linarith
    · obtain ⟨hsound, -⟩ := step_spec hcapacity hrate (h.later hle) (hops op List.mem_cons_self)
      have hrest := ih hsound (fun o ho => hops o (List.mem_cons_of_mem _ ho)) hclock
      rw [run, takenIn_cons, gainedIn_cons, step_time, if_neg (fun hin => hbegun hin.1),
        if_neg (fun hin => hbegun hin.1), zero_add, zero_add]
      exact hrest

end YouBox.Bucket
