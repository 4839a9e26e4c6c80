import YouBox.SubRows

/-!
# The quota store

The tables a billing session touches and the writers the model package
offers on them. `users` holds the `quota` column by user id, `tokens` the
two quota columns by token id; with `BatchUpdateEnabled` a writer does not
touch the row but adds to the pending delta of its id (`addNewRecord`), so
both are carried.

`DB.books` is the abstract view on which everything above is stated: what
a user or a token really has left, row plus pending delta, and the
subscription tables. Each writer has one spec lemma, `*_books`, that says
what it does to the books; no later proof unfolds a writer.
-/

namespace YouBox

structure Token where
  remainQuota : Int
  usedQuota : Int

structure DB where
  users : Nat → Int
  tokens : Nat → Token
  subs : List UserSubscription
  records : List SubscriptionPreConsumeRecord
  /-- `batchUpdateStores[BatchUpdateTypeUserQuota]`. -/
  batchUsers : Nat → Int
  /-- `batchUpdateStores[BatchUpdateTypeTokenQuota]`. -/
  batchTokens : Nat → Int

/-- What is fixed while the modelled functions run: settings, the plans,
the calendar, and the two clocks the code reads (the database's and the
process's). -/
structure Env where
  batchUpdateEnabled : Bool
  /-- `common.GetTrustQuota()`. -/
  trustQuota : Int
  cal : Calendar
  plans : Nat → Option SubscriptionPlan
  dbNow : Int
  now : Int

inductive QuotaErr where
  /-- `quota 不能为负数！` -/
  | negative
  /-- `token quota is not enough, token remain quota: .., need quota: ..` -/
  | tokenNotEnough (remain need : Int)
  /-- An error of the database driver. -/
  | db

/-! ## The books -/

/-- What is left to a user and to a token, and the subscription tables. -/
structure Books where
  wallet : Nat → Int
  token : Nat → Int
  subs : List UserSubscription
  records : List SubscriptionPreConsumeRecord

def DB.books (db : DB) : Books where
  wallet u := db.users u + db.batchUsers u
  token t := (db.tokens t).remainQuota + db.batchTokens t
  subs := db.subs
  records := db.records

namespace Books

def addWallet (b : Books) (u : Nat) (d : Int) : Books :=
  { b with wallet := Function.update b.wallet u (b.wallet u + d) }

def addToken (b : Books) (t : Nat) (d : Int) : Books :=
  { b with token := Function.update b.token t (b.token t + d) }

@[simp] theorem addWallet_wallet (b : Books) (u : Nat) (d : Int) :
    (b.addWallet u d).wallet u = b.wallet u + d := by
  simp [addWallet]

@[simp] theorem addWallet_token (b : Books) (u : Nat) (d : Int) :
    (b.addWallet u d).token = b.token := rfl

@[simp] theorem addWallet_subs (b : Books) (u : Nat) (d : Int) :
    (b.addWallet u d).subs = b.subs := rfl

@[simp] theorem addWallet_records (b : Books) (u : Nat) (d : Int) :
    (b.addWallet u d).records = b.records := rfl

@[simp] theorem addToken_token (b : Books) (t : Nat) (d : Int) :
    (b.addToken t d).token t = b.token t + d := by
  simp [addToken]

@[simp] theorem addToken_wallet (b : Books) (t : Nat) (d : Int) :
    (b.addToken t d).wallet = b.wallet := rfl

@[simp] theorem addToken_subs (b : Books) (t : Nat) (d : Int) :
    (b.addToken t d).subs = b.subs := rfl

@[simp] theorem addToken_records (b : Books) (t : Nat) (d : Int) :
    (b.addToken t d).records = b.records := rfl

@[simp] theorem addWallet_zero (b : Books) (u : Nat) : b.addWallet u 0 = b := by
  unfold addWallet
  rw [Int.add_zero, Function.update_eq_self]

@[simp] theorem addToken_zero (b : Books) (t : Nat) : b.addToken t 0 = b := by
  unfold addToken
  rw [Int.add_zero, Function.update_eq_self]

end Books

@[simp] theorem books_subs (db : DB) : db.books.subs = db.subs := rfl

@[simp] theorem books_records (db : DB) : db.books.records = db.records := rfl

/-! ## Quota writers -/

/-- The body `IncreaseUserQuota` and `DecreaseUserQuota` share: refuse a
negative amount, then queue `delta` or add it to the row. `direct` is the
source's `db` argument. -/
def writeUserQuota (env : Env) (fails : Bool) (id : Nat) (quota delta : Int)
    (direct : Bool) (db : DB) : Except QuotaErr DB :=
  if quota < 0 then .error .negative
  else if !direct && env.batchUpdateEnabled then
    .ok { db with
      batchUsers := Function.update db.batchUsers id (db.batchUsers id + delta) }
  else if fails then .error .db
  else .ok { db with users := Function.update db.users id (db.users id + delta) }

def increaseUserQuota (env : Env) (fails : Bool) (id : Nat) (quota : Int)
    (direct : Bool) (db : DB) : Except QuotaErr DB :=
  writeUserQuota env fails id quota quota direct db

def decreaseUserQuota (env : Env) (fails : Bool) (id : Nat) (quota : Int)
    (direct : Bool) (db : DB) : Except QuotaErr DB :=
  writeUserQuota env fails id quota (-quota) direct db

/-- The body `IncreaseTokenQuota` and `DecreaseTokenQuota` share; the row
write moves `delta` between `remain_quota` and `used_quota`. -/
def writeTokenQuota (env : Env) (fails : Bool) (id : Nat) (quota delta : Int)
    (db : DB) : Except QuotaErr DB :=
  if quota < 0 then .error .negative
  else if env.batchUpdateEnabled then
    .ok { db with
      batchTokens := Function.update db.batchTokens id (db.batchTokens id + delta) }
  else if fails then .error .db
  else
    let row := db.tokens id
    .ok { db with
      tokens := Function.update db.tokens id
        ⟨row.remainQuota + delta, row.usedQuota - delta⟩ }

def increaseTokenQuota (env : Env) (fails : Bool) (id : Nat) (quota : Int)
    (db : DB) : Except QuotaErr DB :=
  writeTokenQuota env fails id quota quota db

def decreaseTokenQuota (env : Env) (fails : Bool) (id : Nat) (quota : Int)
    (db : DB) : Except QuotaErr DB :=
  writeTokenQuota env fails id quota (-quota) db

/-- `GetUserQuota(id, false)`: the Redis value when there is one (`hit`),
else the row. -/
def getUserQuota (fails : Bool) (hit : Option Int) (id : Nat) (db : DB) :
    Except QuotaErr Int :=
  match hit with
  | some quota => .ok quota
  | none => if fails then .error .db else .ok (db.users id)

/-- `GetTokenByKey(key, false)`, as far as its `RemainQuota`. -/
def getTokenRemain (fails : Bool) (hit : Option Int) (id : Nat) (db : DB) :
    Except QuotaErr Int :=
  match hit with
  | some remain => .ok remain
  | none => if fails then .error .db else .ok (db.tokens id).remainQuota

/-! ## What the writers do to the books -/

variable {db : DB} {env : Env} {delta quota : Int} {id : Nat}

variable {direct fails : Bool} {db' : DB}

theorem writeUserQuota_books (h : writeUserQuota env fails id quota delta direct db = .ok db') :
    0 ≤ quota ∧ db'.books = db.books.addWallet id delta := by
  unfold writeUserQuota at h
  split at h
  · cases h
  · rename_i hneg
    refine ⟨by omega, ?_⟩
    split at h
    · cases h
      simp only [DB.books, Books.addWallet, Books.mk.injEq, and_self, and_true]
      funext u
      by_cases hu : u = id <;> simp [Function.update, hu]
      omega
    · split at h
      · cases h
      · cases h
        simp only [DB.books, Books.addWallet, Books.mk.injEq, and_self, and_true]
        funext u
        by_cases hu : u = id <;> simp [Function.update, hu]
        omega

theorem writeTokenQuota_books (h : writeTokenQuota env fails id quota delta db = .ok db') :
    0 ≤ quota ∧ db'.books = db.books.addToken id delta := by
  unfold writeTokenQuota at h
  split at h
  · cases h
  · rename_i hneg
    refine ⟨by omega, ?_⟩
    split at h
    · cases h
      simp only [DB.books, Books.addToken, Books.mk.injEq, and_self, and_true, true_and]
      funext t
      by_cases ht : t = id <;> simp [Function.update, ht]
      omega
    · split at h
      · cases h
      · cases h
        simp only [DB.books, Books.addToken, Books.mk.injEq, and_self, and_true, true_and]
        funext t
        by_cases ht : t = id
        · subst ht; simp; omega
        · simp [Function.update, ht]

/-- A writer that is asked for a non-negative amount and whose statement
does not fail succeeds. -/
theorem writeTokenQuota_succeeds (hq : 0 ≤ quota) :
    ∃ db', writeTokenQuota env false id quota delta db = .ok db' := by
  unfold writeTokenQuota
  rw [if_neg (by omega)]
  split
  · exact ⟨_, rfl⟩
  · exact ⟨_, rfl⟩

theorem writeUserQuota_succeeds (hq : 0 ≤ quota) :
    ∃ db', writeUserQuota env false id quota delta direct db = .ok db' := by
  unfold writeUserQuota
  rw [if_neg (by omega)]
  split
  · exact ⟨_, rfl⟩
  · exact ⟨_, rfl⟩

/-! ## Without batching

With `BatchUpdateEnabled` off a writer changes the row of its id and nothing
else. -/

section Rows

variable {env : Env} {fails direct : Bool} {id : Nat} {quota delta : Int} {db db' : DB}

theorem writeUserQuota_row (hbatch : env.batchUpdateEnabled = false)
    (h : writeUserQuota env fails id quota delta direct db = .ok db') :
    db' = { db with users := Function.update db.users id (db.users id + delta) } := by
  unfold writeUserQuota at h
  rw [hbatch] at h
  split at h
  · cases h
  split at h
  · rename_i hc
    simp at hc
  split at h
  · cases h
  · exact (Except.ok.inj h).symm

theorem writeTokenQuota_row (hbatch : env.batchUpdateEnabled = false)
    (h : writeTokenQuota env fails id quota delta db = .ok db') :
    db' = { db with
      tokens := Function.update db.tokens id
        ⟨(db.tokens id).remainQuota + delta, (db.tokens id).usedQuota - delta⟩ } := by
  unfold writeTokenQuota at h
  rw [hbatch] at h
  split at h
  · cases h
  split at h
  · rename_i hc
    simp at hc
  split at h
  · cases h
  · exact (Except.ok.inj h).symm

end Rows

end YouBox
