import YouBox.BillingRun

/-!
# Reserves and the balance

Opening a session on the wallet checks the balance; `Reserve` later takes what
its target lacks without looking at it. What one `Reserve` on a wallet can do is
said once (`reserve_cases`), with what makes it refuse in terms of the state
before it: the statement on the wallet (`writeRefused`), or the step on the token
(`tokenRefused`) with a rollback that works.

So the wallet stays clear of a debt exactly along those runs in which every
extra amount is either there or refused by something else
(`reserves_never_overdraw_iff`).
-/

namespace YouBox

/-- A statement on a wallet fails; with batched updates there is none. -/
def writeRefused (env : Env) (fails : Bool) : Bool := !env.batchUpdateEnabled && fails

/-- `PreConsumeTokenQuota` gives an error: the token cannot be read, has too little
left, or cannot be written. A playground has no token. -/
def tokenRefused (env : Env) (a : Answers) (info : RelayInfo) (delta : Int) (db : DB) : Bool :=
  !info.isPlayground &&
    match getTokenRemain a.readToken a.tokenRemainHit info.tokenId db with
    | .error _ => true
    | .ok remain => (!info.tokenUnlimited && decide (remain < delta))
        || writeRefused env a.tokenWrite

/-- A session under way, funded by the wallet of a user. -/
structure OnWallet (u : Nat) (s : BillingSession) : Prop where
  funding : ∃ consumed, s.funding = .wallet u consumed
  unsettled : s.settled = false
  unrefunded : s.refunded = false

/-- The call fails, and neither the books nor the session know of it. -/
def RefusedCleanly (env : Env) (a : Answers) (target : Int) (s : BillingSession) (db : DB) : Prop :=
  ∃ e db', s.reserve env a target db = (some e, s, db') ∧ db'.books = db.books

/-- In every state of the run the wallet has no debt, and a `Reserve` whose extra
amount exceeds what is left is refused. -/
def NeverOverdrawn (env : Env) (u : Nat) : List (Int × Answers) → BillingSession → DB → Prop
  | [], _, db => 0 ≤ db.books.wallet u
  | (target, a) :: calls, s, db =>
    0 ≤ db.books.wallet u ∧
      (db.books.wallet u < target - s.preConsumedQuota → RefusedCleanly env a target s db) ∧
      NeverOverdrawn env u calls (s.reserve env a target db).2.1 (s.reserve env a target db).2.2

/-- The extra amount is there, or something else refuses it and nothing stays behind. -/
def ReserveCovered (env : Env) (u : Nat) (a : Answers) (target : Int) (s : BillingSession)
    (db : DB) : Prop :=
  target - s.preConsumedQuota ≤ db.books.wallet u ∨
    writeRefused env a.walletWrite = true ∨
    (tokenRefused env a s.relayInfo (target - s.preConsumedQuota) db = true ∧
      writeRefused env a.rollback = false)

/-- Every call of the run, in the state before it. -/
def EveryCovered (env : Env) (u : Nat) : List (Int × Answers) → BillingSession → DB → Prop
  | [], _, _ => True
  | (target, a) :: calls, s, db =>
    ReserveCovered env u a target s db ∧
      EveryCovered env u calls (s.reserve env a target db).2.1 (s.reserve env a target db).2.2

variable {env : Env} {a : Answers} {u : Nat} {s : BillingSession} {db db' : DB}

/-! ## The writers and what refuses them -/

variable {delta quota : Int} {calls : List (Int × Answers)} {info : RelayInfo}

theorem writeUserQuota_tokens {fails direct : Bool}
    (h : writeUserQuota env fails u quota delta direct db = .ok db') : db'.tokens = db.tokens := by
  unfold writeUserQuota at h
  split at h
  · cases h
  split at h
  · cases h
    rfl
  split at h
  · cases h
  · cases h
    rfl

theorem writeUserQuota_cases (fails : Bool) {quota : Int} (delta : Int) (hquota : 0 ≤ quota) :
    (writeRefused env fails = true ∧
        writeUserQuota env fails u quota delta false db = .error .db) ∨
      (writeRefused env fails = false ∧
        ∃ db', writeUserQuota env fails u quota delta false db = .ok db') := by
  unfold writeUserQuota writeRefused
  rw [if_neg (by omega)]
  cases env.batchUpdateEnabled with
  | true => exact Or.inr ⟨rfl, _, rfl⟩
  | false =>
    cases fails with
    | true => exact Or.inl ⟨rfl, rfl⟩
    | false => exact Or.inr ⟨rfl, _, rfl⟩

theorem writeTokenQuota_cases (fails : Bool) {t : Nat} {quota : Int} (delta : Int)
    (hquota : 0 ≤ quota) :
    (writeRefused env fails = true ∧ writeTokenQuota env fails t quota delta db = .error .db) ∨
      (writeRefused env fails = false ∧
        ∃ db', writeTokenQuota env fails t quota delta db = .ok db') := by
  unfold writeTokenQuota writeRefused
  rw [if_neg (by omega)]
  cases env.batchUpdateEnabled with
  | true => exact Or.inr ⟨rfl, _, rfl⟩
  | false =>
    cases fails with
    | true => exact Or.inl ⟨rfl, rfl⟩
    | false => exact Or.inr ⟨rfl, _, rfl⟩

theorem reserveToken_cases {delta : Int} (hdelta : 0 < delta) :
    (tokenRefused env a s.relayInfo delta db = true ∧
        ∃ e, s.reserveToken env a delta db = .error e) ∨
      (tokenRefused env a s.relayInfo delta db = false ∧
        ∃ db', s.reserveToken env a delta db = .ok db') := by
  unfold BillingSession.reserveToken tokenRefused
  cases hplay : s.relayInfo.isPlayground with
  | true =>
    rw [if_pos (Or.inr rfl)]
    exact Or.inr ⟨rfl, _, rfl⟩
  | false =>
    rw [if_neg (by rintro (hle | hno); omega; exact Bool.noConfusion hno)]
    unfold preConsumeTokenQuota
    rw [if_neg (by omega), hplay]
    simp only [Bool.false_eq_true, if_false, Bool.not_false, Bool.true_and]
    cases getTokenRemain a.readToken a.tokenRemainHit s.relayInfo.tokenId db with
    | error e => exact Or.inl ⟨rfl, _, rfl⟩
    | ok remain =>
      simp only
      by_cases hshort : (!s.relayInfo.tokenUnlimited && decide (remain < delta)) = true
      · rw [if_pos hshort, hshort]
        exact Or.inl ⟨rfl, _, rfl⟩
      · rw [if_neg hshort, Bool.eq_false_iff.mpr hshort, Bool.false_or]
        unfold decreaseTokenQuota
        rcases @writeTokenQuota_cases env db a.tokenWrite s.relayInfo.tokenId delta (-delta)
          hdelta.le with ⟨hrefused, hwrite⟩ | ⟨haccepted, db', hwrite⟩
        · rw [hwrite]
          exact Or.inl ⟨hrefused, _, rfl⟩
        · rw [hwrite]
          exact Or.inr ⟨haccepted, _, rfl⟩

theorem tokenRefused_congr (h : db'.tokens = db.tokens) :
    tokenRefused env a info delta db' = tokenRefused env a info delta db := by
  unfold tokenRefused getTokenRemain
  rw [h]

theorem addWallet_back (b : Books) (u : Nat) (d : Int) :
    (b.addWallet u (-d)).addWallet u d = b := by
  unfold Books.addWallet
  simp only [Function.update_self, Function.update_idem, Int.neg_add_cancel_right,
    Function.update_eq_self]

/-! ## One `Reserve` -/

theorem OnWallet.reserved (h : OnWallet u s) {consumed pre tok extra : Int} :
    OnWallet u (BillingSession.syncRelayInfo { s with
      funding := .wallet u consumed, preConsumedQuota := pre, tokenConsumed := tok,
      extraReserved := extra, trusted := false }) :=
  ⟨⟨consumed, rfl⟩, h.unsettled, h.unrefunded⟩

theorem reserve_cases (target : Int) (h : OnWallet u s) :
    (target ≤ s.preConsumedQuota ∧ s.reserve env a target db = (none, s, db)) ∨
    (s.preConsumedQuota < target ∧ writeRefused env a.walletWrite = true ∧
      ∃ e, s.reserve env a target db = (some e, s, db)) ∨
    (s.preConsumedQuota < target ∧ writeRefused env a.walletWrite = false ∧
      tokenRefused env a s.relayInfo (target - s.preConsumedQuota) db = true ∧
      writeRefused env a.rollback = false ∧
      ∃ e db', s.reserve env a target db = (some e, s, db') ∧ db'.books = db.books) ∨
    (s.preConsumedQuota < target ∧ writeRefused env a.walletWrite = false ∧
      (tokenRefused env a s.relayInfo (target - s.preConsumedQuota) db = false ∨
        writeRefused env a.rollback = true) ∧
      ∃ r s' db', s.reserve env a target db = (r, s', db') ∧ OnWallet u s' ∧
        db'.books.wallet u = db.books.wallet u - (target - s.preConsumedQuota)) := by
  by_cases hle : target ≤ s.preConsumedQuota
  · exact Or.inl ⟨hle, if_pos (Or.inr (Or.inr hle))⟩
  have hgo : ¬ (s.settled = true ∨ s.refunded = true ∨ target ≤ s.preConsumedQuota) := by
    rw [h.unsettled, h.unrefunded]
    simpa using hle
  have hdelta : 0 < target - s.preConsumedQuota := by omega
  obtain ⟨consumed, hfunding⟩ := h.funding
  unfold BillingSession.reserve
  simp only [if_neg hgo, hfunding, Funding.reserve, decreaseUserQuota]
  generalize target - s.preConsumedQuota = delta at hdelta
  rcases @writeUserQuota_cases env u db a.walletWrite delta (-delta) hdelta.le with
    ⟨hrefused, hwrite⟩ | ⟨haccepted, db₁, hwrite⟩
  · simp only [hwrite]
    exact Or.inr (Or.inl ⟨by omega, hrefused, _, rfl⟩)
  have hbooks := (writeUserQuota_books hwrite).2
  have htokens := writeUserQuota_tokens hwrite
  simp only [hwrite]
  rcases @reserveToken_cases env a s db₁ delta hdelta with ⟨htoken, e, hstep⟩ | ⟨htoken, db₂, hstep⟩
  · rw [tokenRefused_congr htokens] at htoken
    simp only [hstep, Funding.rollback, increaseUserQuota]
    rcases @writeUserQuota_cases env u db₁ a.rollback delta delta hdelta.le with
      ⟨hroll, hback⟩ | ⟨hroll, db₂, hback⟩
    · -- the wallet keeps what the token refused
      simp only [hback]
      refine Or.inr (Or.inr (Or.inr ⟨by omega, haccepted, Or.inr hroll, _, _, _, rfl,
        ⟨⟨_, rfl⟩, h.unsettled, h.unrefunded⟩, ?_⟩))
      rw [hbooks, Books.addWallet_wallet]
      omega
    · simp only [hback]
      refine Or.inr (Or.inr (Or.inl ⟨by omega, haccepted, htoken, hroll, e, db₂, ?_, ?_⟩))
      · have hsame : consumed + delta - delta = consumed := by omega
        rw [hsame, ← hfunding]
      · rw [(writeUserQuota_books hback).2, hbooks, addWallet_back]
  · rw [tokenRefused_congr htokens] at htoken
    simp only [hstep]
    refine Or.inr (Or.inr (Or.inr ⟨by omega, haccepted, Or.inl htoken, _, _, _, rfl,
      h.reserved, ?_⟩))
    rw [reserveToken_ok hdelta hstep, Books.addToken_wallet, hbooks, Books.addWallet_wallet]
    omega

/-- One call keeps the wallet clear, and refuses what is not there, exactly if the
extra amount is covered. -/
theorem reserve_covered_iff (target : Int) (h : OnWallet u s) (hclear : 0 ≤ db.books.wallet u) :
    OnWallet u (s.reserve env a target db).2.1 ∧
      ((db.books.wallet u < target - s.preConsumedQuota → RefusedCleanly env a target s db) ∧
          0 ≤ (s.reserve env a target db).2.2.books.wallet u ↔
        ReserveCovered env u a target s db) := by
  unfold RefusedCleanly ReserveCovered
  rcases @reserve_cases env a u s db target h with
    ⟨hle, hcall⟩ | ⟨-, hrefused, e, hcall⟩ | ⟨-, -, htoken, hroll, e, db₁, hcall, hbooks⟩
      | ⟨hlt, haccepted, hkept, r, s₁, db₁, hcall, hon, hwallet⟩
  · rw [hcall]
    exact ⟨h, iff_of_true ⟨fun hover => by omega, hclear⟩ (Or.inl (by omega))⟩
  · rw [hcall]
    exact ⟨h, iff_of_true ⟨fun _ => ⟨e, db, rfl, rfl⟩, hclear⟩ (Or.inr (Or.inl hrefused))⟩
  · rw [hcall]
    refine ⟨h, iff_of_true ⟨fun _ => ⟨e, db₁, rfl, hbooks⟩, ?_⟩ (Or.inr (Or.inr ⟨htoken, hroll⟩))⟩
    rw [hbooks]
    exact hclear
  · rw [hcall]
    refine ⟨hon, ?_, ?_⟩
    · -- what the wallet kept was there
      rintro ⟨-, hnonneg⟩
      rw [hwallet] at hnonneg
      exact Or.inl (by omega)
    · rintro (hthere | hrefused | ⟨htoken, hroll⟩)
      · exact ⟨fun hover => by omega, by rw [hwallet]; omega⟩
      · rw [haccepted] at hrefused
        cases hrefused
      · rcases hkept with hpassed | hfailed
        · rw [hpassed] at htoken
          cases htoken
        · rw [hfailed] at hroll
          cases hroll

/-! ## Runs -/

theorem NeverOverdrawn.clear (h : NeverOverdrawn env u calls s db) : 0 ≤ db.books.wallet u := by
  cases calls with
  | nil => exact h
  | cons call calls => exact h.1

theorem neverOverdrawn_iff (h : OnWallet u s) (hclear : 0 ≤ db.books.wallet u) :
    NeverOverdrawn env u calls s db ↔ EveryCovered env u calls s db := by
  induction calls generalizing s db with
  | nil => exact iff_of_true hclear trivial
  | cons call calls ih =>
    obtain ⟨target, a⟩ := call
    obtain ⟨hon, hcovered⟩ := @reserve_covered_iff env a u s db target h hclear
    simp only [NeverOverdrawn, EveryCovered]
    constructor
    · rintro ⟨-, hrefuses, hrest⟩
      have hnext := hrest.clear
      exact ⟨hcovered.mp ⟨hrefuses, hnext⟩, (ih hon hnext).mp hrest⟩
    · rintro ⟨hfirst, hrest⟩
      obtain ⟨hrefuses, hnext⟩ := hcovered.mpr hfirst
      exact ⟨hclear, hrefuses, (ih hon hnext).mpr hrest⟩

theorem preConsumeBoth_wallet {s₀ : BillingSession} (hfunding : s₀.funding = .wallet u 0)
    (h : s₀.preConsumeBoth env a quota db = (.ok s, db')) :
    (∃ consumed, s.funding = .wallet u consumed) ∧ s.settled = s₀.settled ∧
      s.refunded = s₀.refunded ∧ s.trusted = s₀.trusted ∧
      db'.books.wallet u = db.books.wallet u - max quota 0 := by
  unfold BillingSession.preConsumeBoth at h
  cases htoken : (if 0 < quota then preConsumeTokenQuota env a s₀.relayInfo quota db
      else .ok db) with
  | error e =>
    rw [htoken] at h
    cases (Prod.mk.inj h).1
  | ok db₁ =>
    have hkept : db₁.books.wallet = db.books.wallet := by
      split at htoken
      · rw [preConsumeTokenQuota_books htoken, Books.addToken_wallet]
      · rw [Except.ok.inj htoken]
    simp only [htoken, hfunding, Funding.preConsume] at h
    by_cases hnone : quota ≤ 0
    · rw [if_pos hnone] at h
      obtain ⟨hs, rfl⟩ := Prod.mk.inj h
      cases hs
      exact ⟨⟨0, rfl⟩, rfl, rfl, rfl, by rw [hkept]; omega⟩
    · rw [if_neg hnone] at h
      cases hwrite : decreaseUserQuota env a.walletWrite u quota false db₁ with
      | error e =>
        rw [hwrite] at h
        cases (Prod.mk.inj h).1
      | ok db₂ =>
        rw [hwrite] at h
        obtain ⟨hs, rfl⟩ := Prod.mk.inj h
        cases hs
        refine ⟨⟨quota, rfl⟩, rfl, rfl, rfl, ?_⟩
        rw [(writeUserQuota_books hwrite).2, Books.addWallet_wallet, hkept]
        omega

/-- A session that was not trusted opens with its quota taken from the wallet, within
what was read. -/
theorem tryWallet_untrusted {balance : Int} (hopen : tryWallet env a info quota db = (.ok s, db'))
    (huntrusted : s.trusted = false)
    (hread : getUserQuota a.readUser a.userQuotaHit info.userId db = .ok balance) :
    OnWallet info.userId s ∧
      db'.books.wallet info.userId = db.books.wallet info.userId - max quota 0 ∧
      max quota 0 ≤ balance := by
  unfold tryWallet at hopen
  rw [hread] at hopen
  simp only at hopen
  by_cases hempty : balance ≤ 0
  · rw [if_pos hempty] at hopen
    cases (Prod.mk.inj hopen).1
  rw [if_neg hempty] at hopen
  by_cases hshort : balance - quota < 0
  · rw [if_pos hshort] at hopen
    cases (Prod.mk.inj hopen).1
  rw [if_neg hshort] at hopen
  unfold BillingSession.preConsume at hopen
  split at hopen
  · obtain ⟨-, -, -, htrusted, -⟩ := preConsumeBoth_wallet rfl hopen
    rw [huntrusted] at htrusted
    cases htrusted
  · obtain ⟨hfunding, hsettled, hrefunded, -, hwallet⟩ := preConsumeBoth_wallet rfl hopen
    exact ⟨⟨hfunding, hsettled, hrefunded⟩, hwallet, by omega⟩

/-- **A run of reserves keeps the wallet clear** if and only if each of them is
covered. The client is alone: the balance that the opening reads is the wallet's. -/
theorem reserves_never_overdraw_iff {info : RelayInfo} {quota : Int}
    (hopen : tryWallet env a info quota db = (.ok s, db')) (huntrusted : s.trusted = false)
    (halone : getUserQuota a.readUser a.userQuotaHit info.userId db
      = .ok (db.books.wallet info.userId)) (calls : List (Int × Answers)) :
    NeverOverdrawn env info.userId calls s db' ↔ EveryCovered env info.userId calls s db' := by
  obtain ⟨hon, hwallet, hquota⟩ := tryWallet_untrusted hopen huntrusted halone
  exact neverOverdrawn_iff hon (by rw [hwallet]; omega)

/-! A hundred in the wallet, of which the opening takes ten. -/

def openedAt (quota : Int) (db : DB) : DB := (tryWallet openEnv {} walletInfo quota db).2

theorem opened_walletSession :
    tryWallet openEnv {} walletInfo 10 (fundedDB 100)
      = (.ok walletSession, openedAt 10 (fundedDB 100)) := rfl

/-- The second reserve is refused by its token, which cannot be written. -/
theorem covered_reserves :
    NeverOverdrawn openEnv 7 [(30, {}), (200, { tokenWrite := true })] walletSession
      (openedAt 10 (fundedDB 100)) :=
  (reserves_never_overdraw_iff opened_walletSession rfl rfl _).mpr
    ⟨Or.inl (by decide), Or.inr (Or.inr ⟨by decide, by decide⟩), trivial⟩

/-- A reserve of two hundred leaves a debt of a hundred. -/
theorem reserve_overdraws :
    tryWallet openEnv {} walletInfo 10 (fundedDB 100)
        = (.ok walletSession, openedAt 10 (fundedDB 100)) ∧
      walletSession.trusted = false ∧
      (walletSession.reserve openEnv {} 200 (openedAt 10 (fundedDB 100))).1 = none ∧
      (walletSession.reserve openEnv {} 200 (openedAt 10 (fundedDB 100))).2.2.books.wallet 7
        = -100 ∧
      ¬ NeverOverdrawn openEnv 7 [(200, {})] walletSession (openedAt 10 (fundedDB 100)) := by
  refine ⟨opened_walletSession, rfl, by decide, by decide, fun h => ?_⟩
  exact absurd h.2.2.clear (by decide)

end YouBox
