import YouBox.Sched
import YouBox.Store

/-!
# Batched quota updates

With `BatchUpdateEnabled` a quota operation does not write its row. It adds to
an in-memory map, one map for each kind of delta and each behind its own lock,
and `batchUpdate` later empties the maps, one after another, and writes what it
took. The operations, and any number of flushes, run side by side here; one
`addNewRecord`, one swap of a map and one row write are each a step.

Nothing is lost because for every column of every row one sum never changes:
what the row holds, what waits in the map of that column, what each flush has
taken and not written, and what each operation has still to hand in
(`accounted`). When all executions have ended and one more flush has run, only
the row is left.
-/

namespace YouBox

/-- The `BatchUpdateType` constants. -/
inductive BatchType where
  | userQuota
  | tokenQuota
  | usedQuota
  | channelUsedQuota
  | requestCount
deriving DecidableEq

/-- The order in which the loops of `batchUpdate` visit the maps. -/
def BatchType.next : BatchType → Option BatchType
  | .userQuota => some .tokenQuota
  | .tokenQuota => some .usedQuota
  | .usedQuota => some .channelUsedQuota
  | .channelUsedQuota => some .requestCount
  | .requestCount => none

/-! ## The maps -/

/-- `map[int]int`: entries with distinct keys. -/
structure BatchMap where
  entries : List (Nat × Int)
  nodup : (entries.map Prod.fst).Nodup

def addEntry (id : Nat) (value : Int) : List (Nat × Int) → List (Nat × Int)
  | [] => [(id, value)]
  | (k, v) :: rest => if k = id then (k, v + value) :: rest else (k, v) :: addEntry id value rest

theorem mem_keys_addEntry {id k : Nat} {value : Int} :
    ∀ {es : List (Nat × Int)}, k ∈ (addEntry id value es).map Prod.fst ↔
      k = id ∨ k ∈ es.map Prod.fst
  | [] => by simp [addEntry]
  | (k', v) :: rest => by
    unfold addEntry
    split
    · rename_i heq
      subst heq
      simp
    · simp only [List.map_cons, List.mem_cons, mem_keys_addEntry]
      tauto

theorem nodup_addEntry (id : Nat) (value : Int) :
    ∀ {es : List (Nat × Int)}, (es.map Prod.fst).Nodup →
      ((addEntry id value es).map Prod.fst).Nodup
  | [], _ => by simp [addEntry]
  | (k, v) :: rest, h => by
    rw [List.map_cons, List.nodup_cons] at h
    unfold addEntry
    split
    · simpa using h
    · rename_i hne
      rw [List.map_cons, List.nodup_cons, mem_keys_addEntry]
      refine ⟨?_, nodup_addEntry id value h.2⟩
      rintro (heq | hmem)
      · exact hne heq
      · exact h.1 hmem

namespace BatchMap

def empty : BatchMap := ⟨[], List.nodup_nil⟩

def add (m : BatchMap) (id : Nat) (value : Int) : BatchMap :=
  ⟨addEntry id value m.entries, nodup_addEntry id value m.nodup⟩

/-- `m[id]`, 0 without an entry. -/
def get (m : BatchMap) (id : Nat) : Int := (m.entries.lookup id).getD 0

def keys (m : BatchMap) : List Nat := m.entries.map Prod.fst

end BatchMap

/-! ## The rows -/

structure UserRow where
  quota : Int
  usedQuota : Int
  requestCount : Int

structure QuotaRows where
  users : Nat → UserRow
  tokens : Nat → Token
  channels : Nat → Int

namespace QuotaRows

def addUserQuota (r : QuotaRows) (id : Nat) (quota : Int) : QuotaRows :=
  { r with
    users := Function.update r.users id
      { r.users id with quota := (r.users id).quota + quota } }

/-- `increaseTokenQuota`, and `decreaseTokenQuota` with the opposite sign. -/
def addTokenQuota (r : QuotaRows) (id : Nat) (quota : Int) : QuotaRows :=
  { r with
    tokens := Function.update r.tokens id
      ⟨(r.tokens id).remainQuota + quota, (r.tokens id).usedQuota - quota⟩ }

def updateUserUsedQuotaAndRequestCount (r : QuotaRows) (id : Nat) (quota count : Int) :
    QuotaRows :=
  { r with
    users := Function.update r.users id { r.users id with
      usedQuota := (r.users id).usedQuota + quota
      requestCount := (r.users id).requestCount + count } }

def updateChannelUsedQuota (r : QuotaRows) (id : Nat) (quota : Int) : QuotaRows :=
  { r with channels := Function.update r.channels id (r.channels id + quota) }

def updateUserQuotaUsedQuotaAndRequestCount (r : QuotaRows) (id : Nat)
    (quota usedQuota requestCount : Int) : QuotaRows :=
  if quota = 0 ∧ usedQuota = 0 ∧ requestCount = 0 then r
  else { r with
    users := Function.update r.users id
      ⟨(r.users id).quota + quota, (r.users id).usedQuota + usedQuota,
        (r.users id).requestCount + requestCount⟩ }

end QuotaRows

/-! ## The operations -/

inductive QuotaOp where
  | increaseUserQuota (id : Nat) (quota : Int) (db : Bool)
  | decreaseUserQuota (id : Nat) (quota : Int) (db : Bool)
  | increaseTokenQuota (id : Nat) (quota : Int)
  | decreaseTokenQuota (id : Nat) (quota : Int)
  | updateUserUsedQuotaAndRequestCount (id : Nat) (quota : Int)
  | updateChannelUsedQuota (id : Nat) (quota : Int)

namespace QuotaOp

/-- `quota 不能为负数！` -/
def refused : QuotaOp → Bool
  | .increaseUserQuota _ quota _ | .decreaseUserQuota _ quota _
  | .increaseTokenQuota _ quota | .decreaseTokenQuota _ quota => decide (quota < 0)
  | .updateUserUsedQuotaAndRequestCount _ _ | .updateChannelUsedQuota _ _ => false

/-- The caller asked for the row to be written at once. -/
def direct : QuotaOp → Bool
  | .increaseUserQuota _ _ db | .decreaseUserQuota _ _ db => db
  | _ => false

/-- The calls of `addNewRecord`, in order. -/
def records : QuotaOp → List (BatchType × Nat × Int)
  | .increaseUserQuota id quota _ => [(.userQuota, id, quota)]
  | .decreaseUserQuota id quota _ => [(.userQuota, id, -quota)]
  | .increaseTokenQuota id quota => [(.tokenQuota, id, quota)]
  | .decreaseTokenQuota id quota => [(.tokenQuota, id, -quota)]
  | .updateUserUsedQuotaAndRequestCount id quota =>
    [(.usedQuota, id, quota), (.requestCount, id, 1)]
  | .updateChannelUsedQuota id quota => [(.channelUsedQuota, id, quota)]

/-- The row write without batching. -/
def write (r : QuotaRows) : QuotaOp → QuotaRows
  | .increaseUserQuota id quota _ => r.addUserQuota id quota
  | .decreaseUserQuota id quota _ => r.addUserQuota id (-quota)
  | .increaseTokenQuota id quota => r.addTokenQuota id quota
  | .decreaseTokenQuota id quota => r.addTokenQuota id (-quota)
  | .updateUserUsedQuotaAndRequestCount id quota => r.updateUserUsedQuotaAndRequestCount id quota 1
  | .updateChannelUsedQuota id quota => r.updateChannelUsedQuota id quota

end QuotaOp

/-- A sequence of operations with batching disabled. -/
def runDirect (r : QuotaRows) (ops : List QuotaOp) : QuotaRows :=
  ops.foldl (fun r op => if op.refused then r else op.write r) r

/-! ## Operations and flushes side by side -/

structure BatchDB where
  rows : QuotaRows
  stores : BatchType → BatchMap

def BatchDB.addNewRecord (s : BatchDB) (k : BatchType) (id : Nat) (value : Int) : BatchDB :=
  { s with stores := Function.update s.stores k ((s.stores k).add id value) }

inductive OpPc where
  | start
  | adding (todo : List (BatchType × Nat × Int))
  | ended
deriving DecidableEq

/-- Where a flush stands: looking for data, swapping the maps, writing the
tokens, the channels and the users it took. -/
inductive FlushPc where
  | check (k : BatchType)
  | swap (k : BatchType) (taken : BatchType → BatchMap)
  | tokens (todo : List (Nat × Int)) (taken : BatchType → BatchMap)
  | channels (todo : List (Nat × Int)) (taken : BatchType → BatchMap)
  | users (todo : List Nat) (taken : BatchType → BatchMap)
  | ended

inductive BatchExec where
  | op (op : QuotaOp) (pc : OpPc)
  | flush (pc : FlushPc)

/-- An operation with batching enabled. -/
def opNext (s : BatchDB) (op : QuotaOp) : OpPc → Option (BatchDB × OpPc)
  | .start =>
    if op.refused then some (s, .ended)
    else if op.direct then some ({ s with rows := op.write s.rows }, .ended)
    else some (s, .adding op.records)
  | .adding [] => some (s, .ended)
  | .adding ((k, id, value) :: todo) => some (s.addNewRecord k id value, .adding todo)
  | .ended => none

def userIDs (taken : BatchType → BatchMap) : List Nat :=
  ((taken .userQuota).keys ++ (taken .usedQuota).keys ++ (taken .requestCount).keys).dedup

/-- `batchUpdate`. The order in which Go visits a map is not specified: the
environment picks the next entry. -/
def batchUpdate (pick : Nat) (s : BatchDB) : FlushPc → Option (BatchDB × FlushPc)
  | .check k =>
    if (s.stores k).entries ≠ [] then some (s, .swap .userQuota fun _ => .empty)
    else match k.next with
      | some k' => some (s, .check k')
      | none => some (s, .ended)
  | .swap k taken =>
    let taken := Function.update taken k (s.stores k)
    let s := { s with stores := Function.update s.stores k .empty }
    match k.next with
    | some k' => some (s, .swap k' taken)
    | none => some (s, .tokens (taken .tokenQuota).entries taken)
  | .tokens [] taken => some (s, .channels (taken .channelUsedQuota).entries taken)
  | .tokens todo taken =>
    match todo[pick]? with
    | none => none
    | some (id, value) =>
      some ({ s with rows := s.rows.addTokenQuota id value }, .tokens (todo.eraseIdx pick) taken)
  | .channels [] taken => some (s, .users (userIDs taken) taken)
  | .channels todo taken =>
    match todo[pick]? with
    | none => none
    | some (id, value) =>
      some ({ s with rows := s.rows.updateChannelUsedQuota id value },
        .channels (todo.eraseIdx pick) taken)
  | .users [] _ => some (s, .ended)
  | .users todo taken =>
    match todo[pick]? with
    | none => none
    | some id =>
      some ({ s with
        rows := s.rows.updateUserQuotaUsedQuotaAndRequestCount id
          ((taken .userQuota).get id) ((taken .usedQuota).get id)
          ((taken .requestCount).get id) }, .users (todo.eraseIdx pick) taken)
  | .ended => none

def batchMachine : Sched.Machine BatchDB BatchExec Nat where
  next pick s l :=
    match l with
    | .op op pc => (opNext s op pc).map fun r => (r.1, .op op r.2)
    | .flush pc => (batchUpdate pick s pc).map fun r => (r.1, .flush r.2)

/-! ## One number for each column -/

variable {l : BatchExec} {j : Nat} {c₀ : Sched.Conf BatchDB BatchExec}

theorem lookup_cons_of_ne {k : Nat} (h : j ≠ k) (v : Int) (es : List (Nat × Int)) :
    ((k, v) :: es).lookup j = es.lookup j := by
  have hb : (j == k) = false := beq_false_of_ne h
  rw [List.lookup_cons, hb]

theorem lookup_addEntry (id : Nat) (value : Int) (j : Nat) :
    ∀ es : List (Nat × Int), ((addEntry id value es).lookup j).getD 0
      = (es.lookup j).getD 0 + if j = id then value else 0
  | [] => by
    by_cases hj : j = id
    · simp [addEntry, hj]
    · simp [addEntry, hj, lookup_cons_of_ne hj]
  | (k, v) :: rest => by
    unfold addEntry
    split
    · rename_i heq
      subst heq
      by_cases hj : j = k
      · simp [hj]
      · simp [hj, lookup_cons_of_ne hj]
    · rename_i hne
      by_cases hj : j = k
      · simp [hj, hne]
      · rw [lookup_cons_of_ne hj, lookup_cons_of_ne hj]
        exact lookup_addEntry id value j rest

@[simp] theorem BatchMap.get_add (m : BatchMap) (id : Nat) (value : Int) (j : Nat) :
    (m.add id value).get j = m.get j + if j = id then value else 0 :=
  lookup_addEntry id value j m.entries

@[simp] theorem BatchMap.get_empty (j : Nat) : BatchMap.empty.get j = 0 := rfl

/-- What the entries hold for a key, together. -/
def entrySum (j : Nat) (es : List (Nat × Int)) : Int :=
  (es.map fun e => if e.1 = j then e.2 else 0).sum

@[simp] theorem entrySum_nil (j : Nat) : entrySum j [] = 0 := rfl

theorem entrySum_of_not_mem :
    ∀ {es : List (Nat × Int)}, j ∉ es.map Prod.fst → entrySum j es = 0
  | [], _ => rfl
  | (k, v) :: rest, h => by
    rw [List.map_cons, List.mem_cons, not_or] at h
    have ih := entrySum_of_not_mem h.2
    unfold entrySum at ih ⊢
    simp [Ne.symm h.1, ih]

theorem entrySum_eq_lookup (j : Nat) :
    ∀ {es : List (Nat × Int)}, (es.map Prod.fst).Nodup → entrySum j es = (es.lookup j).getD 0
  | [], _ => rfl
  | (k, v) :: rest, h => by
    rw [List.map_cons, List.nodup_cons] at h
    have ih := entrySum_eq_lookup j h.2
    by_cases hj : k = j
    · subst hj
      have hnone := entrySum_of_not_mem h.1
      unfold entrySum at hnone ⊢
      simp [hnone]
    · unfold entrySum at ih ⊢
      simp [lookup_cons_of_ne (Ne.symm hj), hj, ih]

theorem BatchMap.entrySum_entries (m : BatchMap) (j : Nat) : entrySum j m.entries = m.get j :=
  entrySum_eq_lookup j m.nodup

theorem BatchMap.get_of_not_mem {m : BatchMap} (h : j ∉ m.keys) : m.get j = 0 := by
  rw [← m.entrySum_entries]
  exact entrySum_of_not_mem h

theorem sum_map_eraseIdx {α : Type*} (f : α → Int) :
    ∀ {xs : List α} {n : Nat} {x : α}, xs[n]? = some x →
      (xs.map f).sum = f x + ((xs.eraseIdx n).map f).sum
  | [], n, x, h => by simp at h
  | y :: ys, 0, x, h => by
    obtain rfl : y = x := by simpa using h
    simp
  | y :: ys, n + 1, x, h => by
    have ih := sum_map_eraseIdx f (show ys[n]? = some x by simpa using h)
    simp only [List.eraseIdx_cons_succ, List.map_cons, List.sum_cons, ih]
    omega

/-- The column that a map's deltas go to. -/
def QuotaRows.column (r : QuotaRows) (k : BatchType) (j : Nat) : Int :=
  match k with
  | .userQuota => (r.users j).quota
  | .tokenQuota => (r.tokens j).remainQuota
  | .usedQuota => (r.users j).usedQuota
  | .channelUsedQuota => r.channels j
  | .requestCount => (r.users j).requestCount

section

variable (r : QuotaRows) (id : Nat) (k : BatchType) (j : Nat)

theorem column_addUserQuota (quota : Int) : (r.addUserQuota id quota).column k j
    = r.column k j + if k = .userQuota ∧ id = j then quota else 0 := by
  by_cases hj : id = j
  · subst hj
    cases k <;> simp [QuotaRows.column, QuotaRows.addUserQuota]
  · cases k <;> simp [QuotaRows.column, QuotaRows.addUserQuota, hj, Function.update_of_ne, Ne.symm hj]

theorem column_addTokenQuota (quota : Int) : (r.addTokenQuota id quota).column k j
    = r.column k j + if k = .tokenQuota ∧ id = j then quota else 0 := by
  by_cases hj : id = j
  · subst hj
    cases k <;> simp [QuotaRows.column, QuotaRows.addTokenQuota]
  · cases k <;> simp [QuotaRows.column, QuotaRows.addTokenQuota, hj, Function.update_of_ne, Ne.symm hj]

theorem column_updateChannelUsedQuota (quota : Int) :
    (r.updateChannelUsedQuota id quota).column k j
      = r.column k j + if k = .channelUsedQuota ∧ id = j then quota else 0 := by
  by_cases hj : id = j
  · subst hj
    cases k <;> simp [QuotaRows.column, QuotaRows.updateChannelUsedQuota]
  · cases k <;> simp [QuotaRows.column, QuotaRows.updateChannelUsedQuota, hj, Function.update_of_ne,
      Ne.symm hj]

theorem column_updateUserUsedQuotaAndRequestCount (quota count : Int) :
    (r.updateUserUsedQuotaAndRequestCount id quota count).column k j
      = r.column k j + (if k = .usedQuota ∧ id = j then quota else 0)
        + if k = .requestCount ∧ id = j then count else 0 := by
  by_cases hj : id = j
  · subst hj
    cases k <;> simp [QuotaRows.column, QuotaRows.updateUserUsedQuotaAndRequestCount]
  · cases k <;> simp [QuotaRows.column, QuotaRows.updateUserUsedQuotaAndRequestCount, hj,
      Function.update_of_ne, Ne.symm hj]

theorem column_updateUserQuotaUsedQuotaAndRequestCount (quota usedQuota requestCount : Int) :
    (r.updateUserQuotaUsedQuotaAndRequestCount id quota usedQuota requestCount).column k j
      = r.column k j + if id = j then (match k with
          | .userQuota => quota
          | .usedQuota => usedQuota
          | .requestCount => requestCount
          | .tokenQuota => 0
          | .channelUsedQuota => 0) else 0 := by
  unfold QuotaRows.updateUserQuotaUsedQuotaAndRequestCount
  split
  · rename_i hzero
    obtain ⟨rfl, rfl, rfl⟩ := hzero
    cases k <;> simp
  · by_cases hj : id = j
    · subst hj
      cases k <;> simp [QuotaRows.column]
    · cases k <;> simp [QuotaRows.column, hj, Function.update_of_ne, Ne.symm hj]

end

/-- What one record adds to a column. -/
def recordDelta (k : BatchType) (j : Nat) (rec : BatchType × Nat × Int) : Int :=
  if k = rec.1 ∧ rec.2.1 = j then rec.2.2 else 0

def recordSum (k : BatchType) (j : Nat) (recs : List (BatchType × Nat × Int)) : Int :=
  (recs.map (recordDelta k j)).sum

theorem column_write (op : QuotaOp) (r : QuotaRows) (k : BatchType) (j : Nat) :
    (op.write r).column k j = r.column k j + recordSum k j op.records := by
  cases op with
  | increaseUserQuota id quota db =>
    simp [QuotaOp.write, QuotaOp.records, recordSum, recordDelta, column_addUserQuota]
  | decreaseUserQuota id quota db =>
    simp [QuotaOp.write, QuotaOp.records, recordSum, recordDelta, column_addUserQuota]
  | increaseTokenQuota id quota =>
    simp [QuotaOp.write, QuotaOp.records, recordSum, recordDelta, column_addTokenQuota]
  | decreaseTokenQuota id quota =>
    simp [QuotaOp.write, QuotaOp.records, recordSum, recordDelta, column_addTokenQuota]
  | updateUserUsedQuotaAndRequestCount id quota =>
    simp [QuotaOp.write, QuotaOp.records, recordSum, recordDelta,
      column_updateUserUsedQuotaAndRequestCount, Int.add_assoc]
  | updateChannelUsedQuota id quota =>
    simp [QuotaOp.write, QuotaOp.records, recordSum, recordDelta, column_updateChannelUsedQuota]

/-- What an operation does to a column in the end. -/
def QuotaOp.effect (op : QuotaOp) (k : BatchType) (j : Nat) : Int :=
  if op.refused then 0 else recordSum k j op.records

theorem column_runDirect (k : BatchType) (j : Nat) :
    ∀ (ops : List QuotaOp) (r : QuotaRows),
      (runDirect r ops).column k j = r.column k j + (ops.map fun op => op.effect k j).sum
  | [], r => by simp [runDirect]
  | op :: ops, r => by
    have ih := column_runDirect k j ops (if op.refused then r else op.write r)
    simp only [runDirect, List.foldl_cons, List.map_cons, List.sum_cons] at ih ⊢
    rw [ih, QuotaOp.effect]
    split
    · omega
    · rw [column_write]
      omega

/-! ## The sum that every step keeps -/

def BatchType.index : BatchType → Nat
  | .userQuota => 0
  | .tokenQuota => 1
  | .usedQuota => 2
  | .channelUsedQuota => 3
  | .requestCount => 4

/-- What a flush has taken out of the map of `k` for row `j` and not written
yet. -/
def FlushPc.owed (k : BatchType) (j : Nat) : FlushPc → Int
  | .check _ => 0
  | .swap k' taken => if k.index < k'.index then (taken k).get j else 0
  | .tokens todo taken =>
    match k with
    | .tokenQuota => entrySum j todo
    | _ => (taken k).get j
  | .channels todo taken =>
    match k with
    | .tokenQuota => 0
    | .channelUsedQuota => entrySum j todo
    | _ => (taken k).get j
  | .users todo taken =>
    match k with
    | .tokenQuota => 0
    | .channelUsedQuota => 0
    | _ => (todo.map fun id => if id = j then (taken k).get id else 0).sum
  | .ended => 0

/-- What an execution has still to hand in. -/
def BatchExec.owed (k : BatchType) (j : Nat) : BatchExec → Int
  | .op o .start => o.effect k j
  | .op _ (.adding todo) => recordSum k j todo
  | .op _ .ended => 0
  | .flush pc => pc.owed k j

/-- The row, the map and the executions together. -/
def accounted (c : Sched.Conf BatchDB BatchExec) (k : BatchType) (j : Nat) : Int :=
  c.store.rows.column k j + (c.store.stores k).get j + (c.threads.map (BatchExec.owed k j)).sum

variable {s s' : BatchDB} {k' : BatchType} {pick : Nat} {pc pc' : FlushPc}
  {c : Sched.Conf BatchDB BatchExec}

theorem opNext_keeps {op : QuotaOp} {pc pc' : OpPc} (h : opNext s op pc = some (s', pc'))
    (k : BatchType) (j : Nat) :
    s'.rows.column k j + (s'.stores k).get j + (BatchExec.op op pc').owed k j
      = s.rows.column k j + (s.stores k).get j + (BatchExec.op op pc).owed k j := by
  cases pc with
  | start =>
    simp only [opNext] at h
    split at h
    · rename_i href
      cases h
      simp [BatchExec.owed, QuotaOp.effect, href]
    · rename_i href
      split at h
      · cases h
        simp only [BatchExec.owed, QuotaOp.effect, href, column_write]
        simp only [Bool.false_eq_true, if_false]
        omega
      · cases h
        simp [BatchExec.owed, QuotaOp.effect, href]
  | adding todo =>
    cases todo with
    | nil =>
      cases h
      rfl
    | cons rec todo =>
      obtain ⟨k', id, value⟩ := rec
      cases h
      simp only [BatchExec.owed, recordSum, List.map_cons, List.sum_cons, recordDelta,
        BatchDB.addNewRecord]
      by_cases hk : k = k'
      · subst hk
        by_cases hj : j = id
        · subst hj
          simp
          omega
        · simp [hj, Ne.symm hj]
      · simp [hk, Function.update_of_ne]
  | ended => cases h

variable {k : BatchType}

theorem index_next (h : k.next = some k') : k'.index = k.index + 1 := by
  cases k <;> cases h <;> rfl

theorem index_last (h : k.next = none) (k' : BatchType) : k'.index < k.index ∨ k' = k := by
  cases k <;> cases h
  cases k' <;> simp [BatchType.index]

theorem index_injective (h : k.index = k'.index) : k = k' := by
  cases k <;> cases k' <;> first | rfl | cases h

theorem index_lt_next {k₁ : BatchType} (h : k.next = some k₁) (hk' : k'.index < k₁.index) :
    k'.index < k.index ∨ k' = k := by
  rw [index_next h] at hk'
  rcases Nat.lt_succ_iff_lt_or_eq.mp hk' with hlt | heq
  · exact Or.inl hlt
  · exact Or.inr (index_injective heq)

theorem sum_userIDs (taken : BatchType → BatchMap)
    (hk : k = .userQuota ∨ k = .usedQuota ∨ k = .requestCount) (j : Nat) :
    ((userIDs taken).map fun id => if id = j then (taken k).get id else 0).sum
      = (taken k).get j := by
  have hnodup : (userIDs taken).Nodup := List.nodup_dedup _
  by_cases hj : j ∈ userIDs taken
  · rw [List.sum_map_ite_eq, List.count_eq_one_of_mem hnodup hj]
    simp
  · have hno : j ∉ (taken k).keys := by
      intro hmem
      apply hj
      rw [userIDs, List.mem_dedup, List.mem_append, List.mem_append]
      rcases hk with rfl | rfl | rfl
      · exact Or.inl (Or.inl hmem)
      · exact Or.inl (Or.inr hmem)
      · exact Or.inr hmem
    rw [BatchMap.get_of_not_mem hno, List.sum_map_ite_eq, List.count_eq_zero_of_not_mem hj]
    simp

theorem swap_keeps (s : BatchDB) (k₀ : BatchType) (taken : BatchType → BatchMap) (k : BatchType)
    (j : Nat) :
    (Function.update s.stores k₀ .empty k).get j
        + (if k.index < k₀.index + 1 then (Function.update taken k₀ (s.stores k₀) k).get j else 0)
      = (s.stores k).get j + if k.index < k₀.index then (taken k).get j else 0 := by
  by_cases hk : k = k₀
  · subst hk
    simp
  · have hne : k.index ≠ k₀.index := fun h => hk (index_injective h)
    have hiff : k.index < k₀.index + 1 ↔ k.index < k₀.index := by omega
    simp [hk, hiff, Function.update_of_ne]

theorem owed_tokens_entries (taken : BatchType → BatchMap) (k : BatchType) (j : Nat) :
    (FlushPc.tokens (taken .tokenQuota).entries taken).owed k j = (taken k).get j := by
  cases k <;> simp [FlushPc.owed, BatchMap.entrySum_entries]

theorem batchUpdate_keeps (h : batchUpdate pick s pc = some (s', pc')) (k : BatchType) (j : Nat) :
    s'.rows.column k j + (s'.stores k).get j + pc'.owed k j
      = s.rows.column k j + (s.stores k).get j + pc.owed k j := by
  cases pc with
  | check k₀ =>
    simp only [batchUpdate] at h
    split at h
    · cases h
      simp [FlushPc.owed, BatchType.index]
    · split at h
      · cases h
        rfl
      · cases h
        rfl
  | swap k₀ taken =>
    have hswap := swap_keeps s k₀ taken k j
    simp only [batchUpdate] at h
    split at h
    · rename_i k' hnext
      cases h
      simp only [FlushPc.owed, index_next hnext]
      omega
    · rename_i hlast
      cases h
      have hall : k.index < k₀.index + 1 := by
        rcases index_last hlast k with hlt | heq
        · omega
        · rw [heq]
          omega
      rw [if_pos hall] at hswap
      rw [owed_tokens_entries]
      simp only [FlushPc.owed]
      omega
  | tokens todo taken =>
    cases todo with
    | nil =>
      cases h
      cases k <;> simp [FlushPc.owed, BatchMap.entrySum_entries]
    | cons x xs =>
      simp only [batchUpdate] at h
      split at h
      · cases h
      · rename_i id value hpick
        cases h
        have hsum := sum_map_eraseIdx (fun e : Nat × Int => if e.1 = j then e.2 else 0) hpick
        cases k <;> simp only [FlushPc.owed, entrySum, column_addTokenQuota, hsum] <;> simp
        omega
  | channels todo taken =>
    cases todo with
    | nil =>
      cases h
      cases k <;> simp [FlushPc.owed, sum_userIDs]
    | cons x xs =>
      simp only [batchUpdate] at h
      split at h
      · cases h
      · rename_i id value hpick
        cases h
        have hsum := sum_map_eraseIdx (fun e : Nat × Int => if e.1 = j then e.2 else 0) hpick
        cases k <;> simp only [FlushPc.owed, entrySum, column_updateChannelUsedQuota, hsum] <;>
          simp
        omega
  | users todo taken =>
    cases todo with
    | nil =>
      cases h
      cases k <;> simp [FlushPc.owed]
    | cons x xs =>
      simp only [batchUpdate] at h
      split at h
      · cases h
      · rename_i id hpick
        cases h
        have hsum := sum_map_eraseIdx
          (fun id => if id = j then (taken k).get id else 0) hpick
        rw [column_updateUserQuotaUsedQuotaAndRequestCount]
        cases k with
        | tokenQuota | channelUsedQuota => simp [FlushPc.owed]
        | userQuota | usedQuota | requestCount =>
          simp only [FlushPc.owed, hsum]
          by_cases hj : id = j
          · subst hj
            simp only [if_true]
            omega
          · simp only [hj, if_false]
            omega
  | ended => cases h

theorem batchMachine_keeps {l' : BatchExec} (h : batchMachine.next pick s l = some (s', l'))
    (k : BatchType) (j : Nat) :
    s'.rows.column k j + (s'.stores k).get j + l'.owed k j
      = s.rows.column k j + (s.stores k).get j + l.owed k j := by
  cases l with
  | op o pc =>
    obtain ⟨⟨s₁, pc₁⟩, hnext, heq⟩ := Option.map_eq_some_iff.mp h
    cases heq
    exact opNext_keeps hnext k j
  | flush pc =>
    obtain ⟨⟨s₁, pc₁⟩, hnext, heq⟩ := Option.map_eq_some_iff.mp h
    cases heq
    exact batchUpdate_keeps hnext k j

theorem accounted_run (hrun : Sched.Steps batchMachine Sched.free c₀ c) (k : BatchType) (j : Nat) :
    accounted c k j = accounted c₀ k j := by
  refine Sched.Steps.invariant (I := fun c => accounted c k j = accounted c₀ k j) rfl ?_ hrun
  intro c i e l s' l' hI _ hl hn
  have hsum := Sched.sum_threads_set (BatchExec.owed k j) l' hl
  have hstep := batchMachine_keeps hn k j
  simp only [accounted] at hI ⊢
  rw [hsum]
  omega

/-! ## The used quota of a token -/

/-- What a token has left and has used, together: no write changes it. -/
def QuotaRows.tokenTotal (r : QuotaRows) (j : Nat) : Int :=
  (r.tokens j).remainQuota + (r.tokens j).usedQuota

theorem tokenTotal_addTokenQuota (r : QuotaRows) (id : Nat) (quota : Int) (j : Nat) :
    (r.addTokenQuota id quota).tokenTotal j = r.tokenTotal j := by
  by_cases hj : j = id
  · subst hj
    simp only [QuotaRows.tokenTotal, QuotaRows.addTokenQuota, Function.update_self]
    omega
  · simp [QuotaRows.tokenTotal, QuotaRows.addTokenQuota, hj, Function.update_of_ne]

theorem tokenTotal_write (op : QuotaOp) (r : QuotaRows) (j : Nat) :
    (op.write r).tokenTotal j = r.tokenTotal j := by
  cases op with
  | increaseTokenQuota id quota => exact tokenTotal_addTokenQuota r id quota j
  | decreaseTokenQuota id quota => exact tokenTotal_addTokenQuota r id (-quota) j
  | increaseUserQuota | decreaseUserQuota | updateUserUsedQuotaAndRequestCount
  | updateChannelUsedQuota => rfl

theorem tokenTotal_runDirect (j : Nat) :
    ∀ (ops : List QuotaOp) (r : QuotaRows), (runDirect r ops).tokenTotal j = r.tokenTotal j
  | [], r => rfl
  | op :: ops, r => by
    have ih := tokenTotal_runDirect j ops (if op.refused then r else op.write r)
    simp only [runDirect, List.foldl_cons] at ih ⊢
    rw [ih]
    split
    · rfl
    · exact tokenTotal_write op r j

theorem tokenTotal_opNext {op : QuotaOp} {pc pc' : OpPc} (h : opNext s op pc = some (s', pc'))
    (j : Nat) :
    s'.rows.tokenTotal j = s.rows.tokenTotal j := by
  cases pc with
  | start =>
    simp only [opNext] at h
    split at h
    · cases h
      rfl
    · split at h
      · cases h
        exact tokenTotal_write op s.rows j
      · cases h
        rfl
  | adding todo =>
    cases todo with
    | nil =>
      cases h
      rfl
    | cons rec todo =>
      cases h
      rfl
  | ended => cases h

theorem tokenTotal_batchUpdate (h : batchUpdate pick s pc = some (s', pc')) (j : Nat) :
    s'.rows.tokenTotal j = s.rows.tokenTotal j := by
  unfold batchUpdate at h
  split at h
  · split at h
    · cases h
      rfl
    · split at h <;> cases h <;> rfl
  · dsimp only at h
    split at h <;> cases h <;> rfl
  · cases h
    rfl
  · split at h
    · cases h
    · cases h
      exact tokenTotal_addTokenQuota s.rows _ _ j
  · cases h
    rfl
  · split at h
    · cases h
    · cases h
      rfl
  · cases h
    rfl
  · split at h
    · cases h
    · cases h
      simp only [QuotaRows.updateUserQuotaUsedQuotaAndRequestCount]
      split
      · rfl
      · rfl
  · cases h

theorem tokenTotal_run (hrun : Sched.Steps batchMachine Sched.free c₀ c) (j : Nat) :
    c.store.rows.tokenTotal j = c₀.store.rows.tokenTotal j := by
  refine Sched.Steps.invariant
    (I := fun c => c.store.rows.tokenTotal j = c₀.store.rows.tokenTotal j) rfl ?_ hrun
  intro c i e l s' l' hI _ _ hn
  rw [← hI]
  cases l with
  | op o pc =>
    obtain ⟨⟨s₁, pc₁⟩, hnext, heq⟩ := Option.map_eq_some_iff.mp hn
    cases heq
    exact tokenTotal_opNext hnext j
  | flush pc =>
    obtain ⟨⟨s₁, pc₁⟩, hnext, heq⟩ := Option.map_eq_some_iff.mp hn
    cases heq
    exact tokenTotal_batchUpdate hnext j

/-! ## The last flush -/

/-- A flush of its own. -/
def flushAlone (s : BatchDB) (pc : FlushPc) : Sched.Conf BatchDB BatchExec := ⟨s, [.flush pc]⟩

/-- The maps a flush that nobody disturbs has left empty. -/
def Drained (s : BatchDB) : FlushPc → Prop
  | .check k => ∀ k' : BatchType, k'.index < k.index → (s.stores k').entries = []
  | .swap k _ => ∀ k' : BatchType, k'.index < k.index → (s.stores k').entries = []
  | _ => ∀ k', (s.stores k').entries = []

theorem drained_step (h : batchUpdate pick s pc = some (s', pc')) (hd : Drained s pc) :
    Drained s' pc' := by
  cases pc with
  | check k =>
    simp only [batchUpdate] at h
    split at h
    · cases h
      intro k' hk'
      simp [BatchType.index] at hk'
    · rename_i hempty
      have hle : ∀ k' : BatchType, k'.index < k.index ∨ k' = k → (s.stores k').entries = [] := by
        rintro k' (hlt | rfl)
        · exact hd k' hlt
        · simpa using hempty
      split at h
      · rename_i k₁ hnext
        cases h
        exact fun k' hk' => hle k' (index_lt_next hnext hk')
      · rename_i hlast
        cases h
        intro k'
        exact hle k' (index_last hlast k')
  | swap k taken =>
    have hle : ∀ k' : BatchType, k'.index < k.index ∨ k' = k →
        (Function.update s.stores k .empty k').entries = [] := by
      intro k' hk'
      by_cases heq : k' = k
      · subst heq
        simp [BatchMap.empty]
      · rw [Function.update_of_ne heq]
        exact hd k' (hk'.resolve_right heq)
    simp only [batchUpdate] at h
    split at h
    · rename_i k₁ hnext
      cases h
      exact fun k' hk' => hle k' (index_lt_next hnext hk')
    · rename_i hlast
      cases h
      intro k'
      exact hle k' (index_last hlast k')
  | tokens todo taken =>
    cases todo with
    | nil =>
      cases h
      exact hd
    | cons x xs =>
      simp only [batchUpdate] at h
      split at h <;> cases h
      exact hd
  | channels todo taken =>
    cases todo with
    | nil =>
      cases h
      exact hd
    | cons x xs =>
      simp only [batchUpdate] at h
      split at h <;> cases h
      exact hd
  | users todo taken =>
    cases todo with
    | nil =>
      cases h
      exact hd
    | cons x xs =>
      simp only [batchUpdate] at h
      split at h <;> cases h
      exact hd
  | ended => cases h

theorem drained_run
    (hrun : Sched.Steps batchMachine Sched.free (flushAlone s (.check .userQuota)) c) :
    ∃ pc, c.threads = [.flush pc] ∧ Drained c.store pc := by
  refine Sched.Steps.invariant
    (I := fun c => ∃ pc, c.threads = [.flush pc] ∧ Drained c.store pc) ?_ ?_ hrun
  · refine ⟨.check .userQuota, rfl, ?_⟩
    intro k' hk'
    simp [BatchType.index] at hk'
  · rintro c i e l s' l' ⟨pc, hpc, hd⟩ - hl hn
    rw [hpc] at hl ⊢
    obtain rfl : i = 0 := by
      have := (List.getElem?_eq_some_iff.mp hl).1
      simpa using this
    obtain rfl : BatchExec.flush pc = l := by simpa using hl
    obtain ⟨⟨s₁, pc₁⟩, hnext, heq⟩ := Option.map_eq_some_iff.mp hn
    cases heq
    exact ⟨pc₁, rfl, drained_step hnext hd⟩

/-- The flush ends when nobody else moves. -/
def FlushEnds (s : BatchDB) (pc : FlushPc) : Prop :=
  ∃ s', Sched.Steps batchMachine Sched.free (flushAlone s pc) (flushAlone s' .ended)

theorem FlushEnds.of_step (pick : Nat) (hn : batchUpdate pick s pc = some (s', pc'))
    (h : FlushEnds s' pc') : FlushEnds s pc := by
  obtain ⟨s'', hrun⟩ := h
  refine ⟨s'', Sched.Steps.alone (e := pick) ?_ hrun⟩
  simp [batchMachine, hn]

theorem flushEnds_users (taken : BatchType → BatchMap) :
    ∀ (todo : List Nat) (s : BatchDB), FlushEnds s (.users todo taken)
  | [], s => .of_step 0 rfl ⟨s, Relation.ReflTransGen.refl⟩
  | _ :: todo, _ => .of_step 0 rfl (flushEnds_users taken todo _)

theorem flushEnds_channels (taken : BatchType → BatchMap) :
    ∀ (todo : List (Nat × Int)) (s : BatchDB), FlushEnds s (.channels todo taken)
  | [], s => .of_step 0 rfl (flushEnds_users taken _ s)
  | (_, _) :: todo, _ => .of_step 0 rfl (flushEnds_channels taken todo _)

theorem flushEnds_tokens (taken : BatchType → BatchMap) :
    ∀ (todo : List (Nat × Int)) (s : BatchDB), FlushEnds s (.tokens todo taken)
  | [], s => .of_step 0 rfl (flushEnds_channels taken _ s)
  | (_, _) :: todo, _ => .of_step 0 rfl (flushEnds_tokens taken todo _)

theorem exists_next (h : k.index < 4) : ∃ k', k.next = some k' ∧ k'.index = k.index + 1 := by
  cases k with
  | userQuota | tokenQuota | usedQuota | channelUsedQuota => exact ⟨_, rfl, rfl⟩
  | requestCount => simp [BatchType.index] at h

theorem flushEnds_swap (n : Nat) : ∀ (k : BatchType), k.index + n = 4 →
    ∀ (taken : BatchType → BatchMap) (s : BatchDB), FlushEnds s (.swap k taken) := by
  induction n with
  | zero =>
    intro k hk taken s
    obtain rfl : k = .requestCount := index_injective hk
    exact .of_step 0 rfl (flushEnds_tokens _ _ _)
  | succ n ih =>
    intro k hk taken s
    obtain ⟨k', hnext, hk'⟩ := exists_next (k := k) (by omega)
    have hstep : batchUpdate 0 s (.swap k taken)
        = some ({ s with stores := Function.update s.stores k .empty },
          .swap k' (Function.update taken k (s.stores k))) := by
      simp only [batchUpdate, hnext]
    exact .of_step 0 hstep (ih k' (by omega) _ _)

theorem flushEnds_check (n : Nat) : ∀ (k : BatchType), k.index + n = 4 →
    ∀ s : BatchDB, FlushEnds s (.check k) := by
  have hdata : ∀ (k : BatchType) (s : BatchDB), (s.stores k).entries ≠ [] →
      FlushEnds s (.check k) := by
    intro k s hne
    have hstep : batchUpdate 0 s (.check k) = some (s, .swap .userQuota fun _ => .empty) := by
      simp only [batchUpdate, if_pos hne]
    exact .of_step 0 hstep (flushEnds_swap 4 .userQuota rfl _ s)
  induction n with
  | zero =>
    intro k hk s
    obtain rfl : k = .requestCount := index_injective hk
    by_cases hne : (s.stores .requestCount).entries ≠ []
    · exact hdata _ s hne
    · refine .of_step 0 ?_ ⟨s, Relation.ReflTransGen.refl⟩
      simp only [batchUpdate, if_neg hne, BatchType.next]
  | succ n ih =>
    intro k hk s
    by_cases hne : (s.stores k).entries ≠ []
    · exact hdata k s hne
    · obtain ⟨k', hnext, hk'⟩ := exists_next (k := k) (by omega)
      refine .of_step 0 ?_ (ih k' (by omega) s)
      simp only [batchUpdate, if_neg hne, hnext]

/-! ## Batched and direct -/

def BatchExec.Ended : BatchExec → Prop
  | .op _ pc => pc = .ended
  | .flush .ended => True
  | .flush _ => False

instance : DecidablePred BatchExec.Ended
  | .op _ _ => inferInstanceAs (Decidable (_ = _))
  | .flush .ended => .isTrue trivial
  | .flush (.check _) => .isFalse id
  | .flush (.swap _ _) => .isFalse id
  | .flush (.tokens _ _) => .isFalse id
  | .flush (.channels _ _) => .isFalse id
  | .flush (.users _ _) => .isFalse id

theorem owed_of_ended (h : l.Ended) (k : BatchType) (j : Nat) : l.owed k j = 0 := by
  cases l with
  | op o pc =>
    obtain rfl : pc = .ended := h
    rfl
  | flush pc =>
    cases pc with
    | ended => rfl
    | check | swap | tokens | channels | users => exact h.elim

theorem sum_owed_of_ended {ts : List BatchExec} (h : ∀ l ∈ ts, l.Ended) (k : BatchType) (j : Nat) :
    (ts.map (BatchExec.owed k j)).sum = 0 := by
  apply List.sum_eq_zero
  intro x hx
  obtain ⟨l, hl, rfl⟩ := List.mem_map.mp hx
  exact owed_of_ended (h l hl) k j

/-- The operations, not started yet, and some flushes, on empty maps. -/
def batchStart (rows : QuotaRows) (ops : List QuotaOp) (flushes : Nat) :
    Sched.Conf BatchDB BatchExec :=
  ⟨⟨rows, fun _ => .empty⟩, ops.map (fun op => .op op .start)
    ++ List.replicate flushes (.flush (.check .userQuota))⟩

theorem accounted_start (rows : QuotaRows) (ops : List QuotaOp) (flushes : Nat) (k : BatchType)
    (j : Nat) : accounted (batchStart rows ops flushes) k j = (runDirect rows ops).column k j := by
  have hflushes : ((List.replicate flushes (BatchExec.flush (.check .userQuota))).map
      (BatchExec.owed k j)).sum = 0 := by
    rw [List.map_replicate, List.sum_replicate]
    simp [BatchExec.owed, FlushPc.owed]
  have hops : ((ops.map fun op => BatchExec.op op .start).map (BatchExec.owed k j)).sum
      = (ops.map fun op => op.effect k j).sum := by
    rw [List.map_map]
    rfl
  rw [column_runDirect]
  simp only [accounted, batchStart, List.map_append, List.sum_append, hflushes, hops,
    BatchMap.get_empty]
  omega

theorem QuotaRows.ext_columns {r r' : QuotaRows} (hcol : ∀ k j, r.column k j = r'.column k j)
    (htok : ∀ j, r.tokenTotal j = r'.tokenTotal j) : r = r' := by
  have husers : r.users = r'.users := by
    funext j
    have h₁ := hcol .userQuota j
    have h₂ := hcol .usedQuota j
    have h₃ := hcol .requestCount j
    simp only [QuotaRows.column] at h₁ h₂ h₃
    exact (UserRow.mk.injEq ..).mpr ⟨h₁, h₂, h₃⟩
  have htokens : r.tokens = r'.tokens := by
    funext j
    have h₁ := hcol .tokenQuota j
    have h₂ := htok j
    simp only [QuotaRows.column, QuotaRows.tokenTotal] at h₁ h₂
    rw [h₁] at h₂
    exact (Token.mk.injEq ..).mpr ⟨h₁, Int.add_left_cancel h₂⟩
  have hchannels : r.channels = r'.channels := funext fun j => hcol .channelUsedQuota j
  exact (QuotaRows.mk.injEq ..).mpr ⟨husers, htokens, hchannels⟩

/-- Whatever the interleaving of the operations with any number of flushes:
once all of them have ended, one more flush comes to its end, and every row is
then what the same operations, in any order, give with batching disabled. -/
theorem batched_eq_direct {rows : QuotaRows} {ops ops' : List QuotaOp} {flushes : Nat}
    {c : Sched.Conf BatchDB BatchExec} (horder : ops'.Perm ops)
    (hrun : Sched.Steps batchMachine Sched.free (batchStart rows ops flushes) c)
    (hended : ∀ l ∈ c.threads, l.Ended) :
    (∃ s', Sched.Steps batchMachine Sched.free (flushAlone c.store (.check .userQuota))
        (flushAlone s' .ended))
      ∧ ∀ s', Sched.Steps batchMachine Sched.free (flushAlone c.store (.check .userQuota))
          (flushAlone s' .ended) → s'.rows = runDirect rows ops' := by
  refine ⟨flushEnds_check 4 .userQuota rfl c.store, ?_⟩
  intro s' hflush
  apply QuotaRows.ext_columns
  · intro k j
    obtain ⟨pc, hpc, hdrained⟩ := drained_run hflush
    obtain rfl : FlushPc.ended = pc := by simpa [flushAlone] using hpc
    have hempty : (s'.stores k).get j = 0 := by
      simp [BatchMap.get, show (s'.stores k).entries = [] from hdrained k]
    have hfirst := accounted_run hrun k j
    rw [accounted_start] at hfirst
    have hlast := accounted_run hflush k j
    simp only [accounted, sum_owed_of_ended hended] at hfirst
    simp only [accounted, flushAlone, hempty, List.map_cons, List.map_nil, List.sum_cons,
      List.sum_nil, BatchExec.owed, FlushPc.owed] at hlast
    rw [column_runDirect, (horder.map _).sum_eq, ← column_runDirect]
    omega
  · intro j
    rw [tokenTotal_runDirect]
    exact (tokenTotal_run hflush j).trans (tokenTotal_run hrun j)

/-- A charge and its usage record, with a flush that takes the maps between
the two records of the second. -/
def chargeOps : List QuotaOp :=
  [.decreaseUserQuota 1 30 false, .updateUserUsedQuotaAndRequestCount 1 30]

def someRows : QuotaRows := ⟨fun _ => ⟨100, 0, 0⟩, fun _ => ⟨100, 0⟩, fun _ => 0⟩

/-- The witness of `batched_eq_direct`. -/
theorem batched_eq_direct_charge :
    ∃ s', s'.rows = runDirect someRows chargeOps
      ∧ ∃ c, Sched.Steps batchMachine Sched.free (batchStart someRows chargeOps 1) c
        ∧ Sched.Steps batchMachine Sched.free (flushAlone c.store (.check .userQuota))
            (flushAlone s' .ended) := by
  have hrun : ∃ c, Sched.Steps batchMachine Sched.free (batchStart someRows chargeOps 1) c
      ∧ ∀ l ∈ c.threads, l.Ended := Sched.exists_of_run
    (List.replicate 3 (0, 0) ++ List.replicate 2 (1, 0) ++ List.replicate 6 (2, 0)
      ++ List.replicate 2 (1, 0) ++ List.replicate 4 (2, 0)) (by decide)
  obtain ⟨c, hrun, hended⟩ := hrun
  obtain ⟨⟨s', hflush⟩, hrows⟩ := batched_eq_direct (List.Perm.refl chargeOps) hrun hended
  exact ⟨s', hrows s' hflush, c, hrun, hflush⟩

end YouBox
