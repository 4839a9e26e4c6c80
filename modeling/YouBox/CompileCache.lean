import YouBox.BillingExpr
import YouBox.Sched

/-!
# The cache of compiled expressions

`compileFromCacheByHash` looks its hash up under a read lock, compiles without a lock, and
puts the entry in under the write lock; a map that has 256 entries is thrown away first.
`UsedVars` and `ExprVersion` read the same map, and `InvalidateCache` throws it away. All of
them run side by side here, each section under `cacheMu` being one step.

Whoever reads an entry reads what the compiler gives for its own expression
(`EntriesSound`), as long as calls with one hash are about one expression: SHA-256 tells
expressions apart, and a caller that brings a hash brings that of its expression. `UsedVars`
reads the map once more after it has compiled, and by then it may have been thrown away: only
then it says of an expression that compiles that it has no variables.
-/

namespace YouBox.CompileCache

/-- SHA-256, the expression compiler and the walk over a program for its identifiers. -/
structure Lib (P V : Type) where
  exprHashString : JsString → String
  compile : Nat → JsString → Option P
  extractUsedVars : P → V

structure CachedEntry (P V : Type) where
  prog : P
  usedVars : V
  version : Nat

def maxCacheSize : Nat := 256

/-- The map, and how often it was replaced by an empty one. -/
structure Store (P V : Type) where
  cache : List (String × CachedEntry P V)
  resets : Nat

inductive Call where
  | compileFromCacheByHash (exprStr : JsString) (hash : String)
  | usedVars (exprStr : JsString)
  | exprVersion (exprStr : JsString)
  | invalidateCache

inductive Result (P V : Type) where
  | prog (prog : Option P)
  | vars (vars : Option V)
  | version (version : Nat)
  | cleared

/-- The next section of a call. `again` is the lookup of the `compileFromCacheByHash` that
`UsedVars` calls, and `reread` its last one. -/
inductive Pc (P V : Type) where
  | lookup
  | again
  | compile
  | store (entry : CachedEntry P V)
  | reread
  | returned (result : Result P V)

/-- `since` is what `resets` was when the entry of a `UsedVars` was last seen. -/
structure Exec (P V : Type) where
  call : Call
  pc : Pc P V
  since : Nat

variable {P V : Type}

def Call.exprStr : Call → JsString
  | .compileFromCacheByHash exprStr _ | .usedVars exprStr | .exprVersion exprStr => exprStr
  | .invalidateCache => []

def Call.hash (lib : Lib P V) : Call → String
  | .compileFromCacheByHash _ hash => hash
  | call => lib.exprHashString call.exprStr

/-- What the compiler gives for an expression. -/
def Lib.entry (lib : Lib P V) (exprStr : JsString) : Option (CachedEntry P V) :=
  (lib.compile (parseExprVersion exprStr).1 (parseExprVersion exprStr).2).map fun prog =>
    ⟨prog, lib.extractUsedVars prog, (parseExprVersion exprStr).1⟩

namespace Store

def get (s : Store P V) (hash : String) : Option (CachedEntry P V) :=
  (s.cache.find? fun e => e.1 = hash).map Prod.snd

def reset (s : Store P V) : Store P V := ⟨[], s.resets + 1⟩

/-- The section under the write lock. -/
def put (s : Store P V) (hash : String) (entry : CachedEntry P V) : Store P V :=
  let s := if maxCacheSize ≤ s.cache.length then s.reset else s
  { s with cache := (hash, entry) :: s.cache.filter fun e => decide (e.1 ≠ hash) }

end Store

/-- What a call gives that has met an entry. -/
def Call.hit (entry : CachedEntry P V) : Call → Result P V
  | .compileFromCacheByHash _ _ => .prog (some entry.prog)
  | .usedVars _ => .vars (some entry.usedVars)
  | .exprVersion _ => .version entry.version
  | .invalidateCache => .cleared

/-- What a call gives for no expression, or for one that does not compile. -/
def Call.nothing : Call → Result P V
  | .compileFromCacheByHash _ _ => .prog none
  | .usedVars _ => .vars none
  | .exprVersion _ => .version defaultExprVersion
  | .invalidateCache => .cleared

/-- `exprStr == ""`, where a call asks for it. -/
def Call.blank : Call → Bool
  | .usedVars exprStr | .exprVersion exprStr => exprStr = []
  | _ => false

/-- How a call goes on when its first lookup finds nothing. -/
def Call.miss : Call → Pc P V
  | .compileFromCacheByHash _ _ => .compile
  | .usedVars _ => .again
  | .exprVersion exprStr => .returned (.version (parseExprVersion exprStr).1)
  | .invalidateCache => .returned .cleared

/-- How a call goes on when `compileFromCacheByHash` has a program. -/
def Call.compiled (prog : P) : Call → Pc P V
  | .usedVars _ => .reread
  | _ => .returned (.prog (some prog))

def next (lib : Lib P V) (s : Store P V) (l : Exec P V) : Option (Store P V × Exec P V) :=
  match l.pc with
  | .lookup =>
    match l.call with
    | .invalidateCache => some (s.reset, { l with pc := .returned .cleared })
    | call =>
      if call.blank then some (s, { l with pc := .returned call.nothing })
      else match s.get (call.hash lib) with
        | some entry => some (s, { l with pc := .returned (call.hit entry) })
        | none => some (s, { l with pc := call.miss })
  | .again =>
    match s.get (l.call.hash lib) with
    | some entry => some (s, { l with pc := l.call.compiled entry.prog, since := s.resets })
    | none => some (s, { l with pc := .compile })
  | .compile =>
    match lib.entry l.call.exprStr with
    | some entry => some (s, { l with pc := .store entry })
    | none => some (s, { l with pc := .returned l.call.nothing })
  | .store entry =>
    some (s.put (l.call.hash lib) entry, { l with
      pc := l.call.compiled entry.prog
      since := (s.put (l.call.hash lib) entry).resets })
  | .reread =>
    match s.get (l.call.hash lib) with
    | some entry => some (s, { l with pc := .returned (l.call.hit entry) })
    | none => some (s, { l with pc := .returned l.call.nothing })
  | .returned _ => none

def cacheMachine (lib : Lib P V) : Sched.Machine (Store P V) (Exec P V) Unit where
  next _ s l := next lib s l

def cacheStart (calls : List Call) : Sched.Conf (Store P V) (Exec P V) :=
  ⟨⟨[], 0⟩, calls.map fun call => ⟨call, .lookup, 0⟩⟩

/-! ## What the map holds -/

/-- Calls with one hash are about one expression. -/
def Hashed (lib : Lib P V) (calls : List Call) : Prop :=
  ∀ a ∈ calls, ∀ b ∈ calls, a.hash lib = b.hash lib → a.exprStr = b.exprStr

/-- Every entry is what the compiler gives for an expression with its hash. -/
def EntriesSound (lib : Lib P V) (calls : List Call) (s : Store P V) : Prop :=
  ∀ hash entry, s.get hash = some entry →
    ∃ a ∈ calls, a.hash lib = hash ∧ lib.entry a.exprStr = some entry

/-- Entries stay as long as the map does. -/
structure Later (s s' : Store P V) : Prop where
  resets : s.resets ≤ s'.resets
  kept : s'.resets = s.resets → ∀ hash, (s.get hash).isSome = true → (s'.get hash).isSome = true

/-- What the cache must not change. -/
def Call.answer (lib : Lib P V) : Call → Result P V
  | .compileFromCacheByHash exprStr _ => .prog ((lib.entry exprStr).map (·.prog))
  | .usedVars exprStr =>
    .vars (if exprStr = [] then none else (lib.entry exprStr).map (·.usedVars))
  | .exprVersion exprStr => .version (parseExprVersion exprStr).1
  | .invalidateCache => .cleared

def Call.isUsedVars : Call → Bool
  | .usedVars exprStr => exprStr ≠ []
  | _ => false

/-- The calls that come to `expr.Compile`. -/
def Call.compiles : Call → Bool
  | .compileFromCacheByHash _ _ => true
  | call => call.isUsedVars

/-- A call returns its answer, unless it is a `UsedVars` behind whose back the map went. -/
def Answers (lib : Lib P V) (s : Store P V) (l : Exec P V) (result : Result P V) : Prop :=
  result = l.call.answer lib ∨
    (l.call.isUsedVars = true ∧ result = .vars none ∧ l.since < s.resets)

def Exec.Right (lib : Lib P V) (s : Store P V) (l : Exec P V) : Prop :=
  match l.pc with
  | .lookup => True
  | .again => l.call.isUsedVars = true
  | .compile => l.call.compiles = true
  | .store entry => l.call.compiles = true ∧ lib.entry l.call.exprStr = some entry
  | .reread => l.call.isUsedVars = true ∧ l.since ≤ s.resets ∧
      (l.since = s.resets → (s.get (l.call.hash lib)).isSome = true)
  | .returned result => Answers lib s l result

structure CacheInv (lib : Lib P V) (calls : List Call) (c : Sched.Conf (Store P V) (Exec P V)) :
    Prop where
  asked : ∀ l ∈ c.threads, l.call ∈ calls
  sound : EntriesSound lib calls c.store
  small : c.store.cache.length ≤ maxCacheSize
  right : ∀ l ∈ c.threads, l.Right lib c.store

variable {lib : Lib P V} {calls : List Call} {s s' : Store P V} {l l' : Exec P V} {hash h : String}
  {entry : CachedEntry P V} {pc : Pc P V} {c : Sched.Conf (Store P V) (Exec P V)}

theorem get_put (s : Store P V) (hash : String) (entry : CachedEntry P V) (h : String) :
    (s.put hash entry).get h = if h = hash then some entry else
      (if maxCacheSize ≤ s.cache.length then s.reset else s).get h := by
  unfold Store.put Store.get
  by_cases hh : h = hash
  · simp [hh]
  · have hne : ¬ hash = h := fun heq => hh heq.symm
    simp only [List.find?_cons, hne, decide_false, if_neg hh, List.find?_filter]
    congr 2
    funext x
    by_cases hx : x.1 = h <;> simp [hx, hh]

theorem put_later (s : Store P V) (hash : String) (entry : CachedEntry P V) :
    Later s (s.put hash entry) := by
  constructor
  · unfold Store.put
    split <;> simp [Store.reset]
  · intro hresets h hsome
    rw [get_put]
    split
    · rfl
    · unfold Store.put at hresets
      split at hresets
      · simp [Store.reset] at hresets
      · rwa [if_neg ‹_›]

theorem length_put (s : Store P V) (hash : String) (entry : CachedEntry P V) :
    (s.put hash entry).cache.length ≤ maxCacheSize := by
  unfold Store.put
  split
  · simp [Store.reset, maxCacheSize]
  · have hle := List.length_filter_le (fun e => decide (e.1 ≠ hash)) s.cache
    simp only [List.length_cons]
    omega

theorem EntriesSound.hit (h : EntriesSound lib calls s) (hh : Hashed lib calls) {a : Call}
    (ha : a ∈ calls) (hget : s.get (a.hash lib) = some entry) :
    lib.entry a.exprStr = some entry := by
  obtain ⟨b, hb, hhash, hentry⟩ := h _ _ hget
  rwa [hh b hb a ha hhash] at hentry

theorem EntriesSound.put (h : EntriesSound lib calls s) {a : Call} (ha : a ∈ calls)
    (hentry : lib.entry a.exprStr = some entry) :
    EntriesSound lib calls (s.put (a.hash lib) entry) := by
  intro hash e hget
  rw [get_put] at hget
  split at hget
  · cases hget
    exact ⟨a, ha, by simp [*], hentry⟩
  · split at hget
    · cases hget
    · exact h hash e hget

theorem Exec.Right.later (h : l.Right lib s) (hlater : Later s s') : l.Right lib s' := by
  have hresets := hlater.resets
  unfold Exec.Right at h ⊢
  cases hpc : l.pc <;> simp only [hpc] at h ⊢ <;> try exact h
  case reread =>
    obtain ⟨hvars, hle, hsome⟩ := h
    exact ⟨hvars, by omega, fun heq => hlater.kept (by omega) _ (hsome (by omega))⟩
  case returned result =>
    refine h.imp_right ?_
    rintro ⟨hvars, hnone, hlt⟩
    exact ⟨hvars, hnone, by omega⟩

theorem entry_version {exprStr : JsString} (h : lib.entry exprStr = some entry) :
    entry.version = (parseExprVersion exprStr).1 := by
  obtain ⟨prog, -, rfl⟩ := Option.map_eq_some_iff.mp h
  rfl

theorem hit_eq {call : Call} (h : lib.entry call.exprStr = some entry)
    (hblank : call.blank = false) : call.hit entry = call.answer lib := by
  cases call with
  | compileFromCacheByHash exprStr hash =>
    exact congrArg Result.prog (congrArg (Option.map CachedEntry.prog) h).symm
  | usedVars exprStr =>
    rw [Call.answer, if_neg (by simpa [Call.blank] using hblank)]
    exact congrArg Result.vars (congrArg (Option.map CachedEntry.usedVars) h).symm
  | exprVersion exprStr => exact congrArg Result.version (entry_version h)
  | invalidateCache => rfl

theorem nothing_eq {call : Call} (h : call.blank = true ∨
    call.compiles = true ∧ lib.entry call.exprStr = none) : call.nothing = call.answer lib := by
  cases call with
  | compileFromCacheByHash exprStr hash =>
    obtain h | ⟨-, h⟩ := h
    · cases h
    · exact congrArg Result.prog (congrArg (Option.map CachedEntry.prog) h).symm
  | usedVars exprStr =>
    obtain h | ⟨hne, h⟩ := h
    · rw [Call.answer, if_pos (by simpa [Call.blank] using h)]
      rfl
    · rw [Call.answer, if_neg (by simpa [Call.compiles, Call.isUsedVars] using hne)]
      exact congrArg Result.vars (congrArg (Option.map CachedEntry.usedVars) h).symm
  | exprVersion exprStr =>
    obtain h | ⟨h, -⟩ := h
    · rw [show exprStr = [] by simpa [Call.blank] using h]
      rfl
    · cases h
  | invalidateCache => rfl

theorem right_miss {call : Call} {since : Nat} (hblank : call.blank = false) :
    Exec.Right lib s ⟨call, call.miss, since⟩ := by
  cases call with
  | compileFromCacheByHash => rfl
  | usedVars exprStr => simpa [Exec.Right, Call.miss, Call.isUsedVars, Call.blank] using hblank
  | exprVersion | invalidateCache => exact .inl rfl

theorem right_compiled {call : Call} (hcompiles : call.compiles = true)
    (hentry : lib.entry call.exprStr = some entry)
    (hget : (s.get (call.hash lib)).isSome = true) :
    Exec.Right lib s ⟨call, call.compiled entry.prog, s.resets⟩ := by
  cases call with
  | compileFromCacheByHash exprStr hash => exact .inl (hit_eq hentry rfl)
  | usedVars exprStr => exact ⟨hcompiles, le_rfl, fun _ => hget⟩
  | exprVersion | invalidateCache => cases hcompiles

theorem compiles_of_isUsedVars {call : Call} (h : call.isUsedVars = true) :
    call.compiles = true ∧ call.blank = false ∧ call.nothing = (.vars none : Result P V) := by
  cases call with
  | usedVars exprStr => exact ⟨h, by simpa [Call.blank, Call.isUsedVars] using h, rfl⟩
  | compileFromCacheByHash | exprVersion | invalidateCache => cases h

theorem Exec.Right.step (hh : Hashed lib calls) (hsound : EntriesSound lib calls s)
    (hsmall : s.cache.length ≤ maxCacheSize) (hcall : l.call ∈ calls) (h : l.Right lib s)
    (hn : next lib s l = some (s', l')) :
    (EntriesSound lib calls s' ∧ s'.cache.length ≤ maxCacheSize ∧ Later s s') ∧
      l'.call = l.call ∧ l'.Right lib s' := by
  have hsame : EntriesSound lib calls s ∧ s.cache.length ≤ maxCacheSize ∧ Later s s :=
    ⟨hsound, hsmall, le_rfl, fun _ _ h => h⟩
  have hhit : ∀ {entry}, s.get (l.call.hash lib) = some entry →
      lib.entry l.call.exprStr = some entry := fun hget => hsound.hit hh hcall hget
  obtain ⟨call, pc, since⟩ := l
  cases pc with
  | lookup =>
    simp only [next] at hn
    split at hn
    · cases hn
      refine ⟨⟨?_, Nat.zero_le _, Nat.le_succ _, fun heq => ?_⟩, rfl, .inl rfl⟩
      · intro _ _ hget
        cases hget
      · exact absurd heq (Nat.succ_ne_self _)
    · split at hn
      · rename_i hblank
        cases hn
        exact ⟨hsame, rfl, .inl (nothing_eq (.inl hblank))⟩
      · rename_i hblank
        rw [Bool.not_eq_true] at hblank
        split at hn <;> cases hn
        · exact ⟨hsame, rfl, .inl (hit_eq (hhit ‹_›) hblank)⟩
        · exact ⟨hsame, rfl, right_miss hblank⟩
  | again =>
    obtain ⟨hcompiles, -, -⟩ := compiles_of_isUsedVars (P := P) (V := V) h
    simp only [next] at hn
    split at hn <;> cases hn
    · rename_i hget
      exact ⟨hsame, rfl, right_compiled hcompiles (hhit hget) (by simp only [hget, Option.isSome])⟩
    · exact ⟨hsame, rfl, hcompiles⟩
  | compile =>
    simp only [next] at hn
    split at hn <;> cases hn
    · exact ⟨hsame, rfl, h, ‹_›⟩
    · exact ⟨hsame, rfl, .inl (nothing_eq (.inr ⟨h, ‹_›⟩))⟩
  | store entry =>
    cases hn
    exact ⟨⟨hsound.put hcall h.2, length_put s _ _, put_later s _ _⟩, rfl,
      right_compiled h.1 h.2 (by rw [get_put, if_pos rfl]; rfl)⟩
  | reread =>
    obtain ⟨hvars, hle, hsome⟩ := h
    obtain ⟨-, hblank, hnothing⟩ := compiles_of_isUsedVars (P := P) (V := V) hvars
    simp only [next] at hn
    split at hn <;> cases hn
    · exact ⟨hsame, rfl, .inl (hit_eq (hhit ‹_›) hblank)⟩
    · rename_i hnone
      refine ⟨hsame, rfl, .inr ⟨hvars, hnothing, lt_of_le_of_ne hle fun heq => ?_⟩⟩
      have hget := hsome heq
      rw [show s.get (call.hash lib) = none from hnone] at hget
      cases hget
  | returned result => cases hn

/-- **The cache changes no answer.** Whatever calls run side by side: every call returns what
it would return without a cache, except that a `UsedVars` says nothing if the map was replaced
after it had seen its entry there; and the map never has more than 256 entries. -/
theorem cache_transparent (hh : Hashed lib calls)
    (hrun : Sched.Steps (cacheMachine lib) Sched.free (cacheStart calls) c) :
    c.store.cache.length ≤ maxCacheSize ∧
      ∀ l ∈ c.threads, ∀ result, l.pc = .returned result → Answers lib c.store l result := by
  have hinv : CacheInv lib calls c := by
    refine Sched.Steps.invariant (I := CacheInv lib calls) ⟨?_, ?_, Nat.zero_le _, ?_⟩ ?_ hrun
    · intro l hl
      obtain ⟨call, hcall, rfl⟩ := List.mem_map.mp hl
      exact hcall
    · intro _ _ hget
      cases hget
    · intro l hl
      obtain ⟨call, -, rfl⟩ := List.mem_map.mp hl
      trivial
    · intro c i e l s' l' hI _ hl hn
      have hmem := List.mem_of_getElem? hl
      obtain ⟨⟨hsound, hsmall, hlater⟩, hcall, hright⟩ :=
        (hI.right l hmem).step hh hI.sound hI.small (hI.asked l hmem) hn
      exact ⟨Sched.forall_threads_set hI.asked (hcall ▸ hI.asked l hmem), hsound, hsmall,
        Sched.forall_threads_set (fun x hx => (hI.right x hx).later hlater) hright⟩
  refine ⟨hinv.small, fun l hl result hpc => ?_⟩
  have hright := hinv.right l hl
  rwa [Exec.Right, hpc] at hright

/-- A compiler for which a program is its text, and a hash that tells two texts apart. -/
def echoLib : Lib JsString JsString :=
  ⟨fun x => if x = [] then "e3b0" else "148d", fun _ body => some body, id⟩

/-- `UsedVars("p")` compiles, and while it does the rules are changed. -/
def racingCalls : List Call := [.usedVars (js "p"), .invalidateCache]

theorem used_vars_lost : ∃ c,
    Sched.Steps (cacheMachine echoLib) Sched.free (cacheStart racingCalls) c ∧
      (∃ l ∈ c.threads, l.pc = .returned (.vars none) ∧ l.since = 0) ∧
      c.store.cache.length ≤ maxCacheSize ∧
        ∀ l ∈ c.threads, ∀ result, l.pc = .returned result → Answers echoLib c.store l result := by
  have hh : Hashed echoLib racingCalls := by
    simp [Hashed, racingCalls, Call.hash, Call.exprStr, echoLib, js]
  exact Sched.exists_of_run_and ([0, 0, 0, 0, 1, 0].map (·, ())) ⟨_, rfl, _, .head _, rfl, rfl⟩
    fun _ hrun _ => cache_transparent hh hrun

end YouBox.CompileCache
