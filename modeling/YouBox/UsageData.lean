import YouBox.Sched

/-!
# The usage shown on the dashboard

`LogQuotaData` adds one call to an in-memory map, and `SaveQuotaDataCache`
writes the entries of that map into `quota_data`: for each entry it looks the
row up by all columns that identify it, and then either increments, again by
those columns, or inserts. Both hold the lock of their node, so a node does one
thing at a time and is one execution here; the table is shared by any number of
nodes, whose names need not differ.

No column of the table is unique. Two nodes that look the same key up before
either has inserted it both insert, which still adds up; but from then on every
increment of that key reaches both rows. What is needed is that an increment
finds one row, and, since the map is addressed by the columns joined into one
text, that the entry it finds under a call's text is one of the call's own
columns (`countsOnce`).

Then the table and what waits in the nodes together always show what has been
logged, for every set of keys (`UsageInv`).
-/

namespace YouBox

/-- The columns that identify a row of `quota_data`. -/
structure UsageKey where
  userID : Int
  username : String
  modelName : String
  createdAt : Int
  useGroup : String
  tokenID : Int
  channelID : Int
  nodeName : String
deriving DecidableEq

/-- A row, or an entry of the map. The id of a row is left out. -/
structure QuotaData where
  key : UsageKey
  count : Int
  quota : Int
  tokenUsed : Int
deriving DecidableEq

structure QuotaDataLogParams where
  userID : Int
  username : String
  modelName : String
  quota : Int
  createdAt : Int
  tokenUsed : Int
  useGroup : String
  tokenID : Int
  channelID : Int
  nodeName : String

/-! ## The map of a node -/

/-- The columns in the order and with the separator of `logQuotaDataCache`. -/
def UsageKey.joined (k : UsageKey) : String :=
  toString k.userID ++ "\x00" ++ k.username ++ "\x00" ++ k.modelName ++ "\x00"
    ++ toString k.createdAt ++ "\x00" ++ k.useGroup ++ "\x00" ++ toString k.tokenID ++ "\x00"
    ++ toString k.channelID ++ "\x00" ++ k.nodeName

def QuotaData.plus (d e : QuotaData) : QuotaData :=
  { d with
    count := d.count + e.count
    quota := d.quota + e.quota
    tokenUsed := d.tokenUsed + e.tokenUsed }

/-- `CacheQuotaData`, entries under their texts. -/
abbrev UsageCache := List (String × QuotaData)

/-- `logQuotaDataCache`: an entry that is there keeps its columns. -/
def logQuotaDataCache (d : QuotaData) : UsageCache → UsageCache
  | [] => [(d.key.joined, d)]
  | (text, e) :: rest =>
    if text = d.key.joined then (text, e.plus d) :: rest
    else (text, e) :: logQuotaDataCache d rest

/-- The entry one call makes: a count of one, the time cut to the hour. -/
def QuotaDataLogParams.entry (p : QuotaDataLogParams) : QuotaData where
  key :=
    { userID := p.userID
      username := p.username
      modelName := p.modelName
      createdAt := p.createdAt - p.createdAt.tmod 3600
      useGroup := p.useGroup
      tokenID := p.tokenID
      channelID := p.channelID
      nodeName := p.nodeName }
  count := 1
  quota := p.quota
  tokenUsed := p.tokenUsed

/-! ## The table -/

abbrev UsageTable := List QuotaData

/-- `increaseQuotaData`: every row with these columns. -/
def increaseQuotaData (d : QuotaData) (rows : UsageTable) : UsageTable :=
  rows.map fun row => if row.key = d.key then row.plus d else row

/-! ## Nodes -/

/-- Where `SaveQuotaDataCache` stands: `rest` are the entries its loop has still
to visit. -/
inductive SavePc where
  | idle
  | loop (rest : List QuotaData)
  | write (d : QuotaData) (found : Bool) (rest : List QuotaData)
deriving DecidableEq

/-- A node; `logged` is what the callers of `LogQuotaData` have handed in. -/
structure UsageNode where
  cache : UsageCache
  pc : SavePc
  logged : List QuotaDataLogParams

/-- What a node does next: a call of `LogQuotaData`, the start of a
`SaveQuotaDataCache`, or a statement of the one under way. The iteration order
of the map is not specified, so the loop takes any entry that is left. A lookup
that fails reads as one that finds nothing. -/
inductive UsageEvent where
  | log (params : QuotaDataLogParams)
  | save
  | lookup (pick : Nat) (fails : Bool)
  | write
  | finish

/-- One step of a node. While a `SaveQuotaDataCache` is under way the node's
lock is taken. -/
def UsageNode.next (event : UsageEvent) (rows : UsageTable) (n : UsageNode) :
    Option (UsageTable × UsageNode) :=
  match event, n.pc with
  | .log p, .idle =>
    some (rows, { n with cache := logQuotaDataCache p.entry n.cache, logged := n.logged ++ [p] })
  | .save, .idle => some (rows, { n with pc := .loop (n.cache.map Prod.snd) })
  | .lookup pick fails, .loop rest =>
    rest[pick]?.map fun d =>
      (rows, { n with
        pc := .write d (!fails && rows.any fun row => decide (row.key = d.key))
          (rest.eraseIdx pick) })
  | .write, .write d found rest =>
    some (if found then increaseQuotaData d rows else rows ++ [d], { n with pc := .loop rest })
  | .finish, .loop [] => some (rows, { n with cache := [], pc := .idle })
  | _, _ => none

def usageMachine : Sched.Machine UsageTable UsageNode UsageEvent where
  next := UsageNode.next

/-- Nodes that have logged nothing yet, on a table. -/
def usageStart (rows : UsageTable) (nodes : Nat) : Sched.Conf UsageTable UsageNode :=
  ⟨rows, List.replicate nodes ⟨[], .idle, []⟩⟩

/-- Nothing waits in the node any more. -/
def UsageNode.Flushed (n : UsageNode) : Prop := n.cache = [] ∧ n.pc = .idle

instance (n : UsageNode) : Decidable n.Flushed :=
  inferInstanceAs (Decidable (n.cache = [] ∧ n.pc = .idle))

/-- The call of `LogQuotaData` that is made, if any. -/
def UsageEvent.logs : UsageEvent → Option QuotaDataLogParams
  | .log p => some p
  | _ => none

/-- The entry a node is about to increment the rows of. -/
def SavePc.incrementing : SavePc → Option QuotaData
  | .write d true _ => some d
  | _ => none

/-- A call finds under its text an entry of its own columns, if any, and an
increment finds one row. -/
def countsOnce : Sched.Guard UsageTable UsageNode UsageEvent := fun c i event =>
  ∀ n ∈ c.threads[i]?,
    (∀ p ∈ event.logs, ∀ e ∈ n.cache, e.1 = p.entry.key.joined → e.2.key = p.entry.key) ∧
    (∀ d ∈ n.pc.incrementing, c.store.countP (fun row => row.key = d.key) = 1)

instance (c : Sched.Conf UsageTable UsageNode) (i : Nat) (event : UsageEvent) :
    Decidable (countsOnce c i event) :=
  inferInstanceAs (Decidable (∀ n ∈ c.threads[i]?,
    (∀ p ∈ event.logs, ∀ e ∈ n.cache, e.1 = p.entry.key.joined → e.2.key = p.entry.key) ∧
    (∀ d ∈ n.pc.incrementing, c.store.countP (fun row => row.key = d.key) = 1)))

/-! ## Sums over keys -/

inductive UsageColumn where
  | count
  | quota
  | tokenUsed

def QuotaData.get (d : QuotaData) : UsageColumn → Int
  | .count => d.count
  | .quota => d.quota
  | .tokenUsed => d.tokenUsed

/-- What `d` contributes to a column of the keys in `P`. -/
def QuotaData.within (P : UsageKey → Bool) (col : UsageColumn) (d : QuotaData) : Int :=
  if P d.key then d.get col else 0

def usageSum (P : UsageKey → Bool) (col : UsageColumn) (l : List QuotaData) : Int :=
  (l.map (QuotaData.within P col)).sum

section

variable {P : UsageKey → Bool} {col : UsageColumn}

@[simp] theorem usageSum_nil : usageSum P col [] = 0 := rfl

@[simp] theorem usageSum_cons (d : QuotaData) (l : List QuotaData) :
    usageSum P col (d :: l) = d.within P col + usageSum P col l := by
  simp [usageSum]

@[simp] theorem usageSum_append (l l' : List QuotaData) :
    usageSum P col (l ++ l') = usageSum P col l + usageSum P col l' := by
  simp [usageSum]

theorem usageSum_perm {l l' : List QuotaData} (h : l.Perm l') :
    usageSum P col l = usageSum P col l' :=
  (h.map _).sum_eq

theorem usageSum_eraseIdx {l : List QuotaData} {i : Nat} {d : QuotaData} (h : l[i]? = some d) :
    d.within P col + usageSum P col (l.eraseIdx i) = usageSum P col l := by
  obtain ⟨hlt, rfl⟩ := List.getElem?_eq_some_iff.mp h
  rw [← usageSum_cons]
  exact usageSum_perm (List.getElem_cons_eraseIdx_perm hlt)

theorem within_plus {d e : QuotaData} (h : d.key = e.key) :
    (d.plus e).within P col = d.within P col + e.within P col := by
  unfold QuotaData.within
  rw [show (d.plus e).key = d.key from rfl, ← h]
  split
  · cases col <;> rfl
  · rfl

theorem usageSum_log {d : QuotaData} {cache : UsageCache}
    (h : ∀ e ∈ cache, e.1 = d.key.joined → e.2.key = d.key) :
    usageSum P col ((logQuotaDataCache d cache).map Prod.snd)
      = usageSum P col (cache.map Prod.snd) + d.within P col := by
  induction cache with
  | nil => simp [logQuotaDataCache]
  | cons entry rest ih =>
    obtain ⟨text, e⟩ := entry
    unfold logQuotaDataCache
    split
    · rename_i htext
      have hkey : e.key = d.key := h (text, e) List.mem_cons_self htext
      simp only [List.map_cons, usageSum_cons, within_plus hkey]
      omega
    · have ih := ih (fun e he => h e (List.mem_cons_of_mem _ he))
      simp only [List.map_cons, usageSum_cons, ih]
      omega

theorem usageSum_increase (d : QuotaData) (rows : UsageTable) :
    usageSum P col (increaseQuotaData d rows)
      = usageSum P col rows + rows.countP (fun row => row.key = d.key) * d.within P col := by
  induction rows with
  | nil => simp [increaseQuotaData]
  | cons row rest ih =>
    simp only [increaseQuotaData, List.map_cons, usageSum_cons, List.countP_cons] at ih ⊢
    rw [ih]
    by_cases hkey : row.key = d.key
    · simp only [hkey, if_true, within_plus hkey, decide_true]
      push_cast
      ring
    · simp [hkey]
      ring

end

/-! ## What a step keeps -/

/-- What a node has still to write. -/
def UsageNode.owed (P : UsageKey → Bool) (col : UsageColumn) (n : UsageNode) : Int :=
  match n.pc with
  | .idle => usageSum P col (n.cache.map Prod.snd)
  | .loop rest => usageSum P col rest
  | .write d _ rest => d.within P col + usageSum P col rest

/-- What has been logged on a node. -/
def UsageNode.called (P : UsageKey → Bool) (col : UsageColumn) (n : UsageNode) : Int :=
  usageSum P col (n.logged.map QuotaDataLogParams.entry)

theorem UsageNode.next_keeps {P : UsageKey → Bool} {col : UsageColumn} {event : UsageEvent}
    {rows rows' : UsageTable} {n n' : UsageNode} (h : n.next event rows = some (rows', n'))
    (hlog : ∀ p ∈ event.logs, ∀ e ∈ n.cache, e.1 = p.entry.key.joined → e.2.key = p.entry.key)
    (hone : ∀ d ∈ n.pc.incrementing, rows.countP (fun row => row.key = d.key) = 1) :
    usageSum P col rows' + (n'.owed P col - n'.called P col)
      = usageSum P col rows + (n.owed P col - n.called P col) := by
  obtain ⟨cache, pc, logged⟩ := n
  cases event with
  | log p =>
    cases pc with
    | idle =>
      cases h
      have hsum := @usageSum_log P col _ _ (hlog p rfl)
      simp only [UsageNode.owed, UsageNode.called, List.map_append, usageSum_append,
        List.map_cons, List.map_nil, usageSum_cons, usageSum_nil, hsum]
      omega
    | loop | write => cases h
  | save =>
    cases pc with
    | idle => cases h; rfl
    | loop | write => cases h
  | lookup pick fails =>
    cases pc with
    | idle | write => cases h
    | loop rest =>
      simp only [UsageNode.next, Option.map_eq_some_iff, Prod.mk.injEq] at h
      obtain ⟨d, hd, rfl, rfl⟩ := h
      have hsum := @usageSum_eraseIdx P col _ _ _ hd
      simp only [UsageNode.owed, UsageNode.called]
      omega
  | write =>
    cases pc with
    | idle | loop => cases h
    | write d found rest =>
      cases found with
      | true =>
        cases h
        have hsum := @usageSum_increase P col d rows
        rw [hone d rfl] at hsum
        simp only [UsageNode.owed, UsageNode.called, if_true, hsum]
        push_cast
        omega
      | false =>
        cases h
        simp only [UsageNode.owed, UsageNode.called, usageSum_append, usageSum_cons,
          usageSum_nil, Bool.false_eq_true, if_false]
        omega
  | finish =>
    cases pc with
    | idle | write => cases h
    | loop rest =>
      cases rest with
      | nil => cases h; rfl
      | cons d rest => cases h

/-- The table and the nodes together show the initial table and all calls. -/
def UsageInv (P : UsageKey → Bool) (col : UsageColumn) (rows : UsageTable)
    (c : Sched.Conf UsageTable UsageNode) : Prop :=
  usageSum P col c.store + (c.threads.map (UsageNode.owed P col)).sum
    = usageSum P col rows + (c.threads.map (UsageNode.called P col)).sum

theorem usageInv_start (P : UsageKey → Bool) (col : UsageColumn) (rows : UsageTable)
    (nodes : Nat) : UsageInv P col rows (usageStart rows nodes) := by
  simp [UsageInv, usageStart, UsageNode.owed, UsageNode.called]

theorem UsageInv.step {P : UsageKey → Bool} {col : UsageColumn} {rows rows' : UsageTable}
    {c : Sched.Conf UsageTable UsageNode} {i : Nat} {event : UsageEvent} {n n' : UsageNode}
    (hI : UsageInv P col rows c) (hok : countsOnce c i event) (hn : c.threads[i]? = some n)
    (h : usageMachine.next event c.store n = some (rows', n')) :
    UsageInv P col rows ⟨rows', c.threads.set i n'⟩ := by
  obtain ⟨hlog, hone⟩ := hok n hn
  have hkeeps := @UsageNode.next_keeps P col _ _ _ _ _ h hlog hone
  have howed := Sched.sum_threads_set (UsageNode.owed P col) n' hn
  have hcalled := Sched.sum_threads_set (UsageNode.called P col) n' hn
  unfold UsageInv at hI ⊢
  simp only [howed, hcalled]
  omega

/-- **Usage is counted exactly once.** In every run in which a call finds its own
entry and an increment one row, once every node is flushed the table has grown by
what has been logged, in every column and for every set of keys. -/
theorem usage_counted_once {rows : UsageTable} {nodes : Nat}
    {c : Sched.Conf UsageTable UsageNode}
    (hrun : Sched.Steps usageMachine countsOnce (usageStart rows nodes) c)
    (hflushed : ∀ n ∈ c.threads, n.Flushed) (P : UsageKey → Bool) (col : UsageColumn) :
    usageSum P col c.store
      = usageSum P col rows + (c.threads.map (UsageNode.called P col)).sum := by
  have hinv : UsageInv P col rows c :=
    Sched.Steps.invariant (usageInv_start P col rows nodes)
      (fun hI hok hn h => hI.step hok hn h) hrun
  have howed : (c.threads.map (UsageNode.owed P col)).sum = 0 := by
    refine List.sum_eq_zero ?_
    intro x hx
    obtain ⟨n, hn, rfl⟩ := List.mem_map.mp hx
    obtain ⟨hcache, hpc⟩ := hflushed n hn
    simp [UsageNode.owed, hcache, hpc]
  unfold UsageInv at hinv
  omega

/-- A call of user 7 with a model, at 01:23:20. -/
def usageDemo (modelName : String) : QuotaDataLogParams :=
  ⟨7, "ann", modelName, 40, 5000, 12, "default", 1, 2, "node"⟩

/-- The keys of one user and model. -/
def usageDemoKeys (modelName : String) (k : UsageKey) : Bool :=
  k.userID == 7 && k.modelName == modelName

/-- Two nodes of one name: the second flushes a key that the first has inserted,
and one of its own. -/
theorem usageDemo_counted :
    ∃ c, Sched.Steps usageMachine countsOnce (usageStart [] 2) c ∧
      (∀ n ∈ c.threads, n.Flushed) ∧
      usageSum (usageDemoKeys "m") .count c.store
        = usageSum (usageDemoKeys "m") .count []
          + (c.threads.map (UsageNode.called (usageDemoKeys "m") .count)).sum ∧
      usageSum (usageDemoKeys "m") .count c.store = 3 := by
  have hrun : ∃ c, Sched.Steps usageMachine countsOnce (usageStart [] 2) c ∧
      (∀ n ∈ c.threads, n.Flushed) ∧ usageSum (usageDemoKeys "m") .count c.store = 3 :=
    Sched.exists_of_run
      [(0, .log (usageDemo "m")), (1, .log (usageDemo "m")), (1, .log (usageDemo "w")),
        (0, .save), (0, .lookup 0 false), (0, .write), (0, .finish), (1, .log (usageDemo "m")),
        (1, .save), (1, .lookup 1 false), (1, .write), (1, .lookup 0 false), (1, .write),
        (1, .finish)] (by decide)
  obtain ⟨c, hrun, hflushed, hsum⟩ := hrun
  exact ⟨c, hrun, hflushed, usage_counted_once hrun hflushed _ _, hsum⟩

/-- Two nodes of one name that look a new key up before either has inserted it:
both insert, and the next increment reaches both rows; three calls, a count of
four. And, on one node, a separator in a name that makes one entry of the calls
for two models. -/
theorem usage_miscounted :
    (∃ c, Sched.Steps usageMachine Sched.free (usageStart [] 2) c ∧
      (∀ n ∈ c.threads, n.Flushed) ∧
      usageSum (usageDemoKeys "m") .count c.store = 4 ∧
      (c.threads.map (UsageNode.called (usageDemoKeys "m") .count)).sum = 3) ∧
    ∃ c, Sched.Steps usageMachine Sched.free (usageStart [] 1) c ∧
      (∀ n ∈ c.threads, n.Flushed) ∧
      usageSum (usageDemoKeys "m") .count c.store = 2 ∧
      (c.threads.map (UsageNode.called (usageDemoKeys "m") .count)).sum = 1 := by
  constructor
  · exact Sched.exists_of_run
      [(0, .log (usageDemo "m")), (1, .log (usageDemo "m")),
        (0, .save), (0, .lookup 0 false), (1, .save), (1, .lookup 0 false),
        (0, .write), (0, .finish), (1, .write), (1, .finish),
        (0, .log (usageDemo "m")), (0, .save), (0, .lookup 0 false), (0, .write),
        (0, .finish)] (by decide)
  · exact Sched.exists_of_run
      [(0, .log { usageDemo "m" with username := "ann\x00x" }),
        (0, .log (usageDemo "x\x00m")), (0, .save), (0, .lookup 0 false), (0, .write),
        (0, .finish)] (by decide)

end YouBox
