import YouBox.Keyed
import YouBox.Sched

/-!
# The usage of an app

`Record` adds a request to the map `hot` of its process. `flush` takes the whole map and
adds its entries to the table `app_usage` one by one; an entry that the database refuses
goes back into the map, to be tried again with whatever has come in since. `mu` is held
only around the map, so a `Record` may run between any two statements of a flush, and any
number of processes add to the same rows.

Nothing is lost and nothing counted twice (`app_usage_counted`): what a process has taken
out of `hot` it still holds until the table has it, or `hot` has it again. That an entry
without requests is skipped drops no tokens, since there is none: a `Record` counts a
request first.
-/

namespace YouBox.AppUsage

open Keyed

structure AggKey where
  app : String
  model : String
deriving DecidableEq

structure Counters where
  requests : Int
  tokens : Int
deriving DecidableEq

def Counters.plus (a b : Counters) : Counters := ⟨a.requests + b.requests, a.tokens + b.tokens⟩

/-- The map `hot`, and the rows of `app_usage`. -/
abbrev Usage := List (AggKey × Counters)

/-- The arguments of `Record`, with the app that `resolveApp` gives. -/
structure Sample where
  app : String
  modelName : String
  tokens : Int

def Sample.key (x : Sample) : AggKey := ⟨x.app, x.modelName⟩

def Sample.counts (x : Sample) : Counters := ⟨1, if x.tokens < 0 then 0 else x.tokens⟩

/-- `Record`. -/
def record (x : Sample) (hot : Usage) : Usage :=
  if x.app = "" ∨ x.modelName = "" then hot else addTo Counters.plus x.key x.counts hot

/-- `UpsertAppUsage`. -/
def upsertAppUsage (key : AggKey) (usage : Counters) (rows : Usage) : Usage :=
  if usage.requests = 0 then rows else addTo Counters.plus key usage rows

/-! ## Processes -/

/-- Where the flush loop stands: `rest` is what the loop over the snapshot has still to
visit, and `again` comes after an upsert that failed. -/
inductive FlushPc where
  | idle
  | loop (rest : Usage)
  | upsert (entry : AggKey × Counters) (rest : Usage)
  | again (entry : AggKey × Counters) (rest : Usage)

/-- `recorded` are the calls of `Record` so far. -/
structure Node where
  hot : Usage
  pc : FlushPc
  recorded : List Sample

/-- What comes next in a process. The order of the loop over the snapshot is that of a Go
map, so it is not known; an upsert that fails has not changed its row. -/
inductive Event where
  | record (x : Sample)
  | swap
  | visit (pick : Nat)
  | upsert (fails : Bool)
  | putBack
  | finish

def Node.next (event : Event) (rows : Usage) (n : Node) : Option (Usage × Node) :=
  match event, n.pc with
  | .record x, _ =>
    some (rows, { n with hot := AppUsage.record x n.hot, recorded := n.recorded ++ [x] })
  | .swap, .idle =>
    some (rows, if n.hot = [] then n else { n with hot := [], pc := .loop n.hot })
  | .visit pick, .loop rest =>
    rest[pick]?.map fun entry => (rows, { n with
      pc := if entry.2.requests = 0 then .loop (rest.eraseIdx pick)
        else .upsert entry (rest.eraseIdx pick) })
  | .upsert fails, .upsert entry rest =>
    if fails then some (rows, { n with pc := .again entry rest })
    else some (upsertAppUsage entry.1 entry.2 rows, { n with pc := .loop rest })
  | .putBack, .again entry rest =>
    some (rows, { n with hot := addTo Counters.plus entry.1 entry.2 n.hot, pc := .loop rest })
  | .finish, .loop [] => some (rows, { n with pc := .idle })
  | _, _ => none

def usageMachine : Sched.Machine Usage Node Event := ⟨Node.next⟩

/-- Processes that have just started, on a table. -/
def usageStart (rows : Usage) (nodes : Nat) : Sched.Conf Usage Node :=
  ⟨rows, List.replicate nodes ⟨[], .idle, []⟩⟩

/-! ## What is counted -/

/-- What the flush loop has taken out of `hot` and not handed on. -/
def FlushPc.taken : FlushPc → Usage
  | .idle => []
  | .loop rest => rest
  | .upsert entry rest | .again entry rest => entry :: rest

/-- What waits in a process. -/
def Node.waiting (f : Counters → Int) (key : AggKey) (n : Node) : Int :=
  held f key n.hot + held f key n.pc.taken

/-- What one call counts for an app and a model. -/
def Sample.given (f : Counters → Int) (key : AggKey) (x : Sample) : Int :=
  if x.app = "" ∨ x.modelName = "" then 0 else if x.key = key then f x.counts else 0

def Node.given (f : Counters → Int) (key : AggKey) (n : Node) : Int :=
  (n.recorded.map (Sample.given f key)).sum

/-- An entry has requests. -/
def Node.Counted (n : Node) : Prop :=
  (∀ e ∈ n.hot, 0 < e.2.requests) ∧ ∀ e ∈ n.pc.taken, 0 < e.2.requests

variable {f : Counters → Int} {event : Event} {rows rows' : Usage} {n n' : Node}
  {c : Sched.Conf Usage Node}

theorem held_record (hf : ∀ a b, f (a.plus b) = f a + f b) (x : Sample) (key : AggKey)
    (hot : Usage) : held f key (record x hot) = held f key hot + x.given f key := by
  unfold record Sample.given
  split
  · omega
  · exact held_addTo hf ..

theorem counted_addTo {key : AggKey} {value : Counters} {hot : Usage}
    (h : ∀ e ∈ hot, 0 < e.2.requests) (hvalue : 0 < value.requests) :
    ∀ e ∈ addTo Counters.plus key value hot, 0 < e.2.requests :=
  forall_addTo (P := fun c : Counters => 0 < c.requests) h hvalue fun a ha => by
    simp only [Counters.plus]
    omega

theorem Node.Counted.step (h : n.Counted) (hn : n.next event rows = some (rows', n')) :
    n'.Counted ∧ ∀ f : Counters → Int, (∀ a b, f (a.plus b) = f a + f b) → ∀ key,
      held f key rows' + (n'.waiting f key - n'.given f key)
        = held f key rows + (n.waiting f key - n.given f key) := by
  obtain ⟨hot, pc, recorded⟩ := n
  obtain ⟨hhot, htaken⟩ := h
  cases event with
  | record x =>
    cases hn
    refine ⟨⟨?_, htaken⟩, fun f hf key => ?_⟩
    · simp only [AppUsage.record]
      split
      · exact hhot
      · exact counted_addTo hhot Int.one_pos
    · simp only [Node.waiting, Node.given, held_record hf, List.map_append, List.sum_append,
        List.map_cons, List.map_nil, List.sum_cons, List.sum_nil]
      omega
  | swap =>
    cases pc <;> simp only [Node.next, Option.some.injEq, Prod.mk.injEq, reduceCtorEq] at hn
    obtain ⟨rfl, rfl⟩ := hn
    split
    · exact ⟨⟨hhot, htaken⟩, fun _ _ _ => rfl⟩
    · refine ⟨⟨by simp, hhot⟩, fun f _ key => ?_⟩
      simp only [Node.waiting, FlushPc.taken, Node.given, held_nil]
      omega
  | visit pick =>
    cases pc <;> simp only [Node.next, Option.map_eq_some_iff, Prod.mk.injEq, reduceCtorEq] at hn
    rename_i rest
    obtain ⟨entry, hentry, rfl, rfl⟩ := hn
    have hpos := htaken entry (List.mem_of_getElem? hentry)
    have hrest := fun e he => htaken e (List.mem_of_mem_eraseIdx (i := pick) he)
    rw [if_neg (by omega)]
    refine ⟨⟨hhot, List.forall_mem_cons.mpr ⟨hpos, hrest⟩⟩, fun f _ key => ?_⟩
    simp only [Node.waiting, FlushPc.taken, Node.given, held_cons, held_eraseIdx f key hentry]
    omega
  | upsert fails =>
    cases pc <;> simp only [Node.next, reduceCtorEq] at hn
    obtain ⟨hpos, hrest⟩ := List.forall_mem_cons.mp htaken
    split at hn <;> cases hn
    · exact ⟨⟨hhot, htaken⟩, fun _ _ _ => rfl⟩
    · refine ⟨⟨hhot, hrest⟩, fun f hf key => ?_⟩
      rw [upsertAppUsage, if_neg hpos.ne', held_addTo hf]
      simp only [Node.waiting, FlushPc.taken, Node.given, held_cons]
      omega
  | putBack =>
    cases pc <;> simp only [Node.next, Option.some.injEq, Prod.mk.injEq, reduceCtorEq] at hn
    obtain ⟨rfl, rfl⟩ := hn
    obtain ⟨hpos, hrest⟩ := List.forall_mem_cons.mp htaken
    refine ⟨⟨counted_addTo hhot hpos, hrest⟩, fun f hf key => ?_⟩
    simp only [Node.waiting, FlushPc.taken, Node.given, held_cons, held_addTo hf]
    omega
  | finish =>
    cases pc with
    | loop rest =>
      cases rest <;> cases hn
      exact ⟨⟨hhot, htaken⟩, fun _ _ _ => rfl⟩
    | _ => cases hn

/-- What the table shows and what waits in the processes are together what was in the table
and what has been recorded. -/
def CountedOnce (f : Counters → Int) (key : AggKey) (rows : Usage) (c : Sched.Conf Usage Node) :
    Prop :=
  held f key c.store + (c.threads.map (Node.waiting f key)).sum
    = held f key rows + (c.threads.map (Node.given f key)).sum

theorem countedOnce_run (hf : ∀ a b, f (a.plus b) = f a + f b) {nodes : Nat} (key : AggKey)
    (h : Sched.Steps usageMachine Sched.free (usageStart rows nodes) c) :
    CountedOnce f key rows c := by
  obtain ⟨-, hsum⟩ := Sched.Steps.conserved (I := fun c => ∀ n ∈ c.threads, n.Counted)
    (f := held f key) (g := fun n => n.waiting f key - n.given f key)
    (fun n hn => by
      rw [List.eq_of_mem_replicate hn]
      exact ⟨by simp, by simp [FlushPc.taken]⟩)
    (fun hI _ hl hn => by
      obtain ⟨hcounted, hkept⟩ := (hI _ (List.mem_of_getElem? hl)).step hn
      exact ⟨Sched.forall_threads_set hI hcounted, hkept f hf key⟩) h
  have hstart : ((usageStart rows nodes).threads.map
      fun n => n.waiting f key - n.given f key).sum = 0 := by
    simp [usageStart, Node.waiting, Node.given, FlushPc.taken]
  have hsub : ∀ ts : List Node, (ts.map fun n => n.waiting f key - n.given f key).sum
      = (ts.map (Node.waiting f key)).sum - (ts.map (Node.given f key)).sum := by
    intro ts
    induction ts with
    | nil => rfl
    | cons n ts ih =>
      simp only [List.map_cons, List.sum_cons, ih]
      omega
  rw [hsub, hstart] at hsum
  simp only [usageStart] at hsum
  unfold CountedOnce
  omega

/-- **Every request is counted once.** Whatever the processes record, whenever they flush
and whichever upserts fail: the requests and the tokens of every app and model are in the
table or wait in one process. -/
theorem app_usage_counted (nodes : Nat)
    (h : Sched.Steps usageMachine Sched.free (usageStart rows nodes) c) (key : AggKey) :
    CountedOnce Counters.requests key rows c ∧ CountedOnce Counters.tokens key rows c :=
  ⟨countedOnce_run (fun _ _ => rfl) key h, countedOnce_run (fun _ _ => rfl) key h⟩

/-- Two processes record the same app, and the first write of the one fails; it tries again
with what it has recorded in the meantime. -/
def appDemo : List (Nat × Event) :=
  [(0, .record ⟨"app", "m", 5⟩), (1, .record ⟨"app", "m", 7⟩), (0, .swap), (0, .visit 0),
    (0, .upsert true), (0, .record ⟨"app", "m", -1⟩), (1, .swap), (1, .visit 0),
    (1, .upsert false), (0, .putBack), (0, .finish), (0, .swap), (0, .visit 0),
    (0, .upsert false)]

theorem appDemo_counted : ∃ c, Sched.Steps usageMachine Sched.free (usageStart [] 2) c ∧
    c.store = [(AggKey.mk "app" "m", Counters.mk 3 12)] ∧
    CountedOnce Counters.requests ⟨"app", "m"⟩ [] c ∧
    CountedOnce Counters.tokens ⟨"app", "m"⟩ [] c :=
  Sched.exists_of_run_and appDemo (by decide)
    fun _ hrun _ => app_usage_counted 2 hrun ⟨"app", "m"⟩

end YouBox.AppUsage
