import YouBox.BillingOpen

/-!
# The life of a session

A session keeps three counters of its own (`preConsumedQuota`,
`tokenConsumed`, `extraReserved`) and its source keeps one more
(`WalletFunding.consumed` or `SubscriptionFunding.preConsumed`). `Balanced`
says how they relate to the books of the database: the source holds
`preConsumedQuota` of the user's money, the token misses the same amount, and
every counter a later refund will read is in step. `Reserve` keeps it whatever
fails (`reserve_balanced`), and a terminal call leaves from it
(`settle_balanced`, `refund_balanced`).

For a subscription, what the session has taken is counted from the usage after
the reset that was due at the opening: that reset is not the session's doing.

`billing_conservation` is the result: any reserves, then at most one terminal
call.
-/

namespace YouBox

/-! ## What a source holds -/

/-- The usage of subscription `id` once the reset due now has run. -/
def openingUsed (env : Env) (subs : List UserSubscription) (id : Nat) : Int :=
  ((findSub subs id).map fun s => (dueRow env s).amountUsed).getD 0

/-- What the source has been charged between the books `b₀` and `b`. -/
def taken (env : Env) (b₀ b : Books) : Funding → Int
  | .wallet u _ => b₀.wallet u - b.wallet u
  | .subscription f =>
    usedIn b.subs f.subscriptionId - openingUsed env b₀.subs f.subscriptionId

/-- The source has been charged `n`, and can give it back. -/
def Holds (env : Env) (b₀ : Books) (f : Funding) (db : DB) (n : Int) : Prop :=
  match f with
  | .wallet u _ => db.books.wallet u = b₀.wallet u - n
  | .subscription f => f.subscriptionId ≠ 0
      ∧ 0 ≤ openingUsed env b₀.subs f.subscriptionId
      ∧ ∃ row, findSub db.subs f.subscriptionId = some row ∧ withinTotal row
        ∧ row.amountUsed = openingUsed env b₀.subs f.subscriptionId + n

attribute [local irreducible] trimSpace

theorem Holds.taken_eq {env : Env} {b₀ : Books} {f : Funding} {db : DB} {n : Int}
    (h : Holds env b₀ f db n) : taken env b₀ db.books f = n := by
  cases f with
  | wallet u consumed =>
    have hw : db.books.wallet u = b₀.wallet u - n := h
    show b₀.wallet u - db.books.wallet u = n
    omega
  | subscription f =>
    obtain ⟨-, -, row, hrow, -, hused⟩ := h
    simp only [taken, usedIn, books_subs, hrow, Option.map_some, Option.getD_some]
    omega

/-- Only the source moved: the tokens and the pre-consume records are as they
were. -/
def SourceOnly (db db' : DB) : Prop :=
  db'.books.token = db.books.token ∧ db'.records = db.records

/-- The source with `d` more on its own count; a subscription keeps none. -/
def Funding.addConsumed (f : Funding) (d : Int) : Funding :=
  match f with
  | .wallet u consumed => .wallet u (consumed + d)
  | .subscription g => .subscription g

theorem addConsumed_cancel (f : Funding) (d : Int) :
    (f.addConsumed d).addConsumed (-d) = f := by
  cases f with
  | wallet u consumed =>
    simp only [Funding.addConsumed]
    rw [show consumed + d + -d = consumed by omega]
  | subscription g => rfl

section Sources

variable {env : Env} {a : Answers} {b₀ : Books} {db db' : DB} {n delta : Int}

variable {fails : Bool}

theorem writeUserQuota_holds {direct : Bool} {u : Nat} {c c' quota : Int}
    (hold : Holds env b₀ (.wallet u c) db n)
    (h : writeUserQuota env fails u quota (-delta) direct db = .ok db') :
    Holds env b₀ (.wallet u c') db' (n + delta) ∧ SourceOnly db db' := by
  obtain ⟨-, hb⟩ := writeUserQuota_books h
  have hw : db.books.wallet u = b₀.wallet u - n := hold
  have hw' : db'.books.wallet u = db.books.wallet u + -delta := by
    rw [hb, Books.addWallet_wallet]
  refine ⟨?_, by rw [hb, Books.addWallet_token], congrArg Books.records hb⟩
  show db'.books.wallet u = b₀.wallet u - (n + delta)
  omega

theorem postConsume_holds_of_used {f : SubscriptionFunding}
    (hn : 0 ≤ openingUsed env b₀.subs f.subscriptionId + n + delta)
    (hold : Holds env b₀ (.subscription f) db n)
    (h : postConsumeUserSubscriptionDelta fails f.subscriptionId delta db = .ok db') :
    Holds env b₀ (.subscription f) db' (n + delta) ∧ SourceOnly db db' := by
  obtain ⟨hid, hopen, row, hrow, hin, hused⟩ := hold
  by_cases hd : delta = 0
  · subst hd
    have hdb : db' = db := by
      unfold postConsumeUserSubscriptionDelta at h
      rw [if_neg hid, if_pos rfl] at h
      exact (Except.ok.inj h).symm
    subst hdb
    exact ⟨⟨hid, hopen, row, hrow, hin, by omega⟩, rfl, rfl⟩
  · obtain ⟨sub, hsub, hover, rfl⟩ := postConsume_ok hd h
    obtain rfl : row = sub := Option.some.inj (hrow.symm.trans hsub)
    have hnew : newUsed row.amountUsed delta = row.amountUsed + delta := by
      rw [newUsed_eq]
      omega
    have hrowid : row.id = f.subscriptionId := findSub_id hrow
    have hself : findSub (saveSub db.subs (row.withUsed (newUsed row.amountUsed delta)))
        f.subscriptionId = some (row.withUsed (newUsed row.amountUsed delta)) := by
      rw [← hrowid] at hrow ⊢
      exact findSub_saveSub_self hrow
    refine ⟨⟨hid, hopen, _, hself, ?_, ?_⟩, rfl, rfl⟩
    · intro htotal
      have : ¬ (0 < row.amountTotal ∧ newUsed row.amountUsed delta > row.amountTotal) := hover
      simp only [withUsed_amountUsed, withUsed_amountTotal] at htotal ⊢
      omega
    · rw [withUsed_amountUsed, hnew]
      omega

theorem postConsume_holds {f : SubscriptionFunding} (hn : 0 ≤ n + delta)
    (hold : Holds env b₀ (.subscription f) db n)
    (h : postConsumeUserSubscriptionDelta fails f.subscriptionId delta db = .ok db') :
    Holds env b₀ (.subscription f) db' (n + delta) ∧ SourceOnly db db' := by
  have hopen := hold.2.1
  exact postConsume_holds_of_used (by omega) hold h

theorem postConsume_gives_back {f : SubscriptionFunding} (hd : delta ≤ 0)
    (hn : 0 ≤ n + delta) (hold : Holds env b₀ (.subscription f) db n) :
    ∃ db', postConsumeUserSubscriptionDelta false f.subscriptionId delta db = .ok db' := by
  obtain ⟨hid, hopen, row, hrow, hin, hused⟩ := hold
  by_cases hz : delta = 0
  · exact ⟨db, by unfold postConsumeUserSubscriptionDelta; rw [if_neg hid, if_pos hz]⟩
  · refine ⟨_, postConsume_succeeds hid hz hrow ?_⟩
    rintro ⟨htotal, hover⟩
    have := hin htotal
    rw [newUsed_eq] at hover
    omega

theorem reserve_holds {f f' : Funding} (hn : 0 ≤ n) (hd : 0 < delta)
    (hold : Holds env b₀ f db n) (h : f.reserve env a delta db = .ok (f', db')) :
    Holds env b₀ f' db' (n + delta) ∧ SourceOnly db db' ∧ f' = f.addConsumed delta := by
  cases f with
  | wallet u consumed =>
    simp only [Funding.reserve] at h
    cases hdec : decreaseUserQuota env a.walletWrite u delta false db with
    | error e => rw [hdec] at h; cases h
    | ok db₁ =>
      rw [hdec] at h
      cases h
      obtain ⟨h1, h2⟩ := writeUserQuota_holds hold hdec
      exact ⟨h1, h2, rfl⟩
  | subscription g =>
    simp only [Funding.reserve] at h
    cases hpost : postConsumeUserSubscriptionDelta a.subWrite g.subscriptionId delta db with
    | error e => rw [hpost] at h; cases h
    | ok db₁ =>
      rw [hpost] at h
      cases h
      obtain ⟨h1, h2⟩ := postConsume_holds (by omega) hold hpost
      exact ⟨h1, h2, rfl⟩

theorem rollback_holds {f : Funding} (hn : 0 ≤ n) (hd : 0 < delta) (hroll : a.rollback = false)
    (hold : Holds env b₀ f db (n + delta)) :
    Holds env b₀ (f.rollback env a delta db).1 (f.rollback env a delta db).2 n
      ∧ SourceOnly db (f.rollback env a delta db).2
      ∧ (f.rollback env a delta db).1 = f.addConsumed (-delta) := by
  cases f with
  | wallet u consumed =>
    obtain ⟨db₁, hinc⟩ : ∃ db₁, increaseUserQuota env false u delta false db = .ok db₁ :=
      writeUserQuota_succeeds hd.le
    have hwrite : writeUserQuota env false u delta (- -delta) false db = .ok db₁ := by
      rw [Int.neg_neg]; exact hinc
    have hmove : Holds env b₀ (.wallet u (consumed - delta)) db₁ (n + delta + -delta)
        ∧ SourceOnly db db₁ := writeUserQuota_holds hold hwrite
    simp only [Funding.rollback, hroll, hinc]
    rw [show n + delta + -delta = n by omega] at hmove
    exact ⟨hmove.1, hmove.2, by rw [Funding.addConsumed, Int.sub_eq_add_neg]⟩
  | subscription g =>
    have hback : 0 ≤ n + delta + -delta := by omega
    obtain ⟨db₁, hpost⟩ := postConsume_gives_back (by omega) hback hold
    have hmove := postConsume_holds hback hold hpost
    simp only [Funding.rollback, hroll, hpost, orKeep]
    rw [show n + delta + -delta = n by omega] at hmove
    exact ⟨hmove.1, hmove.2, rfl⟩

theorem ok_of_mapError {α ε ε' : Type} {r : Except ε α} {f : ε → ε'} {x : α}
    (h : r.mapError f = .ok x) : r = .ok x := by
  cases r with
  | error e => cases h
  | ok y => exact congrArg Except.ok (Except.ok.inj h)

theorem settle_holds {f : Funding} (hn : 0 ≤ n + delta) (hold : Holds env b₀ f db n)
    (h : f.settle env a delta db = .ok db') :
    Holds env b₀ f db' (n + delta) ∧ SourceOnly db db' := by
  unfold Funding.settle at h
  split at h
  · rename_i hz
    cases h
    subst hz
    rw [Int.add_zero]
    exact ⟨hold, rfl, rfl⟩
  · cases f with
    | wallet u consumed =>
      simp only at h
      split at h
      · exact writeUserQuota_holds hold (ok_of_mapError h)
      · exact writeUserQuota_holds hold (ok_of_mapError h)
    | subscription g => exact postConsume_holds hn hold (ok_of_mapError h)

end Sources

/-! ## The invariant of an open session -/

/-- Rows as the schema and the writers keep them. -/
structure DB.WF (db : DB) : Prop where
  ids : (db.subs.map (·.id)).Nodup
  positive : ∀ s ∈ db.subs, s.id ≠ 0
  nonneg : ∀ s ∈ db.subs, 0 ≤ s.amountUsed

/-- What a later refund will read. -/
def Refundable (s : BillingSession) (db : DB) : Prop :=
  match s.funding with
  | .wallet _ consumed => consumed = s.preConsumedQuota
  | .subscription f => f.preConsumed + s.extraReserved = s.preConsumedQuota
      ∧ 0 < f.preConsumed ∧ s.relayInfo.subscriptionId = f.subscriptionId
      ∧ blank f.requestId = false
      ∧ findRecord db.records f.requestId
        = some ⟨f.requestId, f.userId, f.subscriptionId, f.preConsumed, .consumed⟩

structure Balanced (env : Env) (info : RelayInfo) (b₀ : Books) (s : BillingSession)
    (db : DB) : Prop where
  tokenId : s.relayInfo.tokenId = info.tokenId
  playground : s.relayInfo.isPlayground = info.isPlayground
  active : s.fundingSettled = false ∧ s.settled = false ∧ s.refunded = false
  nonneg : 0 ≤ s.preConsumedQuota
  extra : 0 ≤ s.extraReserved
  counted : s.tokenConsumed = s.preConsumedQuota
  source : Holds env b₀ s.funding db s.preConsumedQuota
  token : db.books.token info.tokenId
    = b₀.token info.tokenId - tokenShare info s.preConsumedQuota
  refundable : Refundable s db

/-- `syncRelayInfo` touches the relay info only, and there neither the token
nor the playground flag. -/
theorem syncRelayInfo_eq (s : BillingSession) :
    ∃ info, s.syncRelayInfo = { s with relayInfo := info }
      ∧ info.tokenId = s.relayInfo.tokenId
      ∧ info.isPlayground = s.relayInfo.isPlayground
      ∧ ∀ f, s.funding = .subscription f → info.subscriptionId = f.subscriptionId := by
  unfold BillingSession.syncRelayInfo
  cases hf : s.funding with
  | wallet u consumed =>
    refine ⟨_, rfl, rfl, rfl, ?_⟩
    intro f h
    cases h
  | subscription g =>
    refine ⟨_, rfl, rfl, rfl, ?_⟩
    intro f h
    cases h
    rfl

theorem Holds.of_same {env : Env} {b₀ : Books} {f : Funding} {db db' : DB} {n : Int}
    (h : Holds env b₀ f db n) (hwallet : db'.books.wallet = db.books.wallet)
    (hsubs : db'.subs = db.subs) : Holds env b₀ f db' n := by
  cases f with
  | wallet u consumed =>
    show db'.books.wallet u = b₀.wallet u - n
    rw [hwallet]
    exact h
  | subscription g =>
    obtain ⟨hid, hopen, row, hrow, hrest⟩ := h
    exact ⟨hid, hopen, row, by rw [hsubs]; exact hrow, hrest⟩

variable {db' : DB}

theorem Refundable.of_records {s : BillingSession} {db : DB} (h : Refundable s db)
    (hrecs : db'.records = db.records) : Refundable s db' := by
  unfold Refundable at h ⊢
  rw [hrecs]
  exact h

theorem Refundable.reserved {s : BillingSession} {db : DB} {delta : Int} {info : RelayInfo}
    {t : Bool} (h : Refundable s db) (hrecs : db'.records = db.records)
    (hsid : ∀ f, s.funding.addConsumed delta = .subscription f →
      info.subscriptionId = f.subscriptionId) :
    Refundable { s with
      relayInfo := info
      funding := s.funding.addConsumed delta
      preConsumedQuota := s.preConsumedQuota + delta
      tokenConsumed := s.tokenConsumed + delta
      extraReserved := s.extraReserved + delta
      trusted := t } db' := by
  unfold Refundable at h ⊢
  cases hf : s.funding with
  | wallet u consumed =>
    rw [hf] at h
    simp only [Funding.addConsumed] at h ⊢
    omega
  | subscription g =>
    rw [hf] at h hsid
    simp only [Funding.addConsumed] at h ⊢
    obtain ⟨hsum, hpos, -, hblank, hrec⟩ := h
    refine ⟨by omega, hpos, hsid g rfl, hblank, ?_⟩
    rw [hrecs]
    exact hrec

theorem opened_balanced {env : Env} {info : RelayInfo} {db : DB} {s : BillingSession} (hwf : db.WF)
    (h : Opened env info db.books db'.books s) : Balanced env info db.books s db' := by
  obtain ⟨hch, hcnt⟩ := h
  have htoken : db'.books.token info.tokenId
      = db.books.token info.tokenId - tokenShare info s.preConsumedQuota := by
    have := (Opened.chargedOnce ⟨hch, hcnt⟩).token info.tokenId
    rwa [if_pos rfl] at this
  have hheld := hcnt.held
  have hsource : Holds env db.books s.funding db' s.preConsumedQuota ∧ Refundable s db' := by
    unfold Charged at hch
    unfold Refundable
    cases hf : s.funding with
    | wallet u consumed =>
      rw [hf] at hch hheld
      simp only at hch hheld
      refine ⟨?_, hheld.2⟩
      show db'.books.wallet u = db.books.wallet u - s.preConsumedQuota
      rw [hch, Books.addWallet_wallet]
      rfl
    | subscription f =>
      rw [hf] at hch hheld
      simp only at hch hheld
      obtain ⟨⟨⟨sub, hsub, -, -, hrow, hin⟩, -⟩, hb'⟩ := hch
      obtain ⟨-, -, hpre, hpos, hid, hblank⟩ := hheld
      have hmem : sub ∈ db.subs := findSub_mem hsub
      have hopening : openingUsed env db.books.subs f.subscriptionId
          = (dueRow env sub).amountUsed := by
        simp only [openingUsed, hsub, Option.map_some, Option.getD_some]
      have hnz : f.subscriptionId ≠ 0 := by
        rw [← findSub_id hsub]
        exact hwf.positive sub hmem
      have hrec : db'.records = ⟨f.requestId, f.userId, f.subscriptionId,
          s.preConsumedQuota, .consumed⟩ :: db.records := congrArg Books.records hb'
      refine ⟨⟨hnz, ?_, _, hrow, hin, ?_⟩, ?_, hpos, hid, hblank, ?_⟩
      · rw [hopening]
        exact dueRow_nonneg (hwf.nonneg sub hmem)
      · rw [withUsed_amountUsed, hopening]
      · have := hcnt.extraReserved
        omega
      · rw [hrec, hpre]
        simp [findRecord]
  exact ⟨hcnt.tokenId, hcnt.playground, hcnt.flags, hcnt.nonneg,
    by rw [hcnt.extraReserved], hcnt.tokenConsumed, hsource.1, htoken, hsource.2⟩

section Calls

variable {env : Env} {a : Answers} {info : RelayInfo} {b₀ : Books} {s : BillingSession} {db : DB}

theorem reserveToken_ok {delta : Int} (hd : 0 < delta)
    (h : s.reserveToken env a delta db = .ok db') :
    db'.books
      = db.books.addToken s.relayInfo.tokenId (-tokenShare s.relayInfo delta) := by
  unfold BillingSession.reserveToken at h
  split at h
  · rename_i hskip
    cases h
    have hplay : s.relayInfo.isPlayground = true := by
      rcases hskip with h' | h'
      · omega
      · exact h'
    simp [tokenShare, hplay]
  · cases hpre : preConsumeTokenQuota env a s.relayInfo delta db with
    | error e => rw [hpre] at h; cases h
    | ok db₁ =>
      rw [hpre] at h
      cases h
      exact preConsumeTokenQuota_books hpre

theorem tokenShare_add (i : RelayInfo) (p q : Int) :
    tokenShare i (p + q) = tokenShare i p + tokenShare i q := by
  unfold tokenShare
  split <;> omega

theorem reserve_balanced (target : Int) (hroll : a.rollback = false)
    (h : Balanced env info b₀ s db) :
    Balanced env info b₀ (s.reserve env a target db).2.1 (s.reserve env a target db).2.2 := by
  unfold BillingSession.reserve
  split
  · exact h
  rename_i hgo
  have hd : 0 < target - s.preConsumedQuota := by
    have := not_or.mp (not_or.mp hgo).2
    omega
  simp only
  generalize target - s.preConsumedQuota = delta at hd
  cases hres : s.funding.reserve env a delta db with
  | error e => exact h
  | ok r =>
    obtain ⟨f, db₁⟩ := r
    obtain ⟨hheld, honly, rfl⟩ := reserve_holds h.nonneg hd h.source hres
    simp only
    cases htok : s.reserveToken env a delta db₁ with
    | error e =>
      -- the token refused: the source gives the reserve back and the session is as before
      obtain ⟨hheld', honly', hkind⟩ := rollback_holds h.nonneg hd hroll hheld
      rw [addConsumed_cancel] at hkind
      have hrecs := honly'.2.trans honly.2
      simp only [hkind] at hheld' ⊢
      refine ⟨h.tokenId, h.playground, h.active, h.nonneg, h.extra, h.counted, hheld', ?_,
        h.refundable.of_records hrecs⟩
      rw [honly'.1, honly.1]
      exact h.token
    | ok db₂ =>
      have htoken := reserveToken_ok hd htok
      obtain ⟨info', hsync, htid, hplay, hsid⟩ := syncRelayInfo_eq
        { s with
          funding := s.funding.addConsumed delta
          preConsumedQuota := s.preConsumedQuota + delta
          tokenConsumed := s.tokenConsumed + delta
          extraReserved := s.extraReserved + delta
          trusted := false }
      simp only at htid hplay hsid ⊢
      rw [hsync]
      have hsubs : db₂.subs = db₁.subs := congrArg Books.subs htoken
      have hwallet : db₂.books.wallet = db₁.books.wallet := by
        rw [htoken, Books.addToken_wallet]
      have hrecs : db₂.records = db.records :=
        (congrArg Books.records htoken).trans honly.2
      refine ⟨htid.trans h.tokenId, hplay.trans h.playground, h.active, ?_, ?_, ?_,
        hheld.of_same hwallet hsubs, ?_, h.refundable.reserved hrecs hsid⟩
      · have := h.nonneg
        show 0 ≤ s.preConsumedQuota + delta
        omega
      · have := h.extra
        show 0 ≤ s.extraReserved + delta
        omega
      · show s.tokenConsumed + delta = s.preConsumedQuota + delta
        rw [h.counted]
      · show db₂.books.token info.tokenId
          = b₀.token info.tokenId - tokenShare info (s.preConsumedQuota + delta)
        have hshare : tokenShare s.relayInfo delta = tokenShare info delta := by
          unfold tokenShare
          rw [h.playground]
        rw [htoken, h.tokenId, Books.addToken_token, honly.1, h.token, hshare,
          tokenShare_add]
        omega

theorem settleToken_ok {delta : Int} (h : s.settleToken env a delta db = .ok db') :
    db'.books
      = db.books.addToken s.relayInfo.tokenId (-tokenShare s.relayInfo delta) := by
  unfold BillingSession.settleToken at h
  split at h
  · rename_i hplay
    cases h
    simp [tokenShare, hplay]
  · rename_i hplay
    have hshare : tokenShare s.relayInfo delta = delta := by simp [tokenShare, hplay]
    rw [hshare]
    split at h
    · exact (writeTokenQuota_books h).2
    · exact (writeTokenQuota_books h).2

/-- The books after a terminal call that took `n` in all: source and token
agree. -/
structure ClosedAt (env : Env) (info : RelayInfo) (b₀ : Books) (s : BillingSession) (db : DB)
    (n : Int) : Prop where
  source : taken env b₀ db.books s.funding = n
  token : b₀.token info.tokenId - db.books.token info.tokenId = tokenShare info n

theorem Balanced.closedAt (h : Balanced env info b₀ s db) :
    ClosedAt env info b₀ s db s.preConsumedQuota := by
  refine ⟨h.source.taken_eq, ?_⟩
  have := h.token
  omega

theorem notePostDelta_funding (delta : Int) (s : BillingSession) :
    (s.notePostDelta delta).funding = s.funding := by
  unfold BillingSession.notePostDelta
  split <;> rfl

theorem settle_ok {actual : Int} {s' : BillingSession} (hset : s.settled = false)
    (hfs : s.fundingSettled = false) (hrun : s.settle env a actual db = (none, s', db')) :
    s'.settled = true ∧ s'.funding = s.funding
      ∧ ((actual = s.preConsumedQuota ∧ db' = db)
        ∨ ∃ db₁, s.funding.settle env a (actual - s.preConsumedQuota) db = .ok db₁
          ∧ s.settleToken env a (actual - s.preConsumedQuota) db₁ = .ok db') := by
  unfold BillingSession.settle at hrun
  rw [if_neg (by simp [hset])] at hrun
  simp only at hrun
  split at hrun
  · rename_i hz
    obtain ⟨rfl, rfl⟩ := Prod.mk.inj (Prod.mk.inj hrun).2
    exact ⟨rfl, rfl, Or.inl ⟨by omega, rfl⟩⟩
  · rw [if_neg (by simp [hfs])] at hrun
    cases hfund : s.funding.settle env a (actual - s.preConsumedQuota) db with
    | error e => rw [hfund] at hrun; cases (Prod.mk.inj hrun).1
    | ok db₁ =>
      rw [hfund] at hrun
      simp only at hrun
      have htoken : BillingSession.settleToken env a (actual - s.preConsumedQuota)
          { s with fundingSettled := true } db₁
          = s.settleToken env a (actual - s.preConsumedQuota) db₁ := rfl
      rw [htoken] at hrun
      cases htok : s.settleToken env a (actual - s.preConsumedQuota) db₁ with
      | error e => rw [htok] at hrun; cases (Prod.mk.inj hrun).1
      | ok db₂ =>
        rw [htok] at hrun
        obtain ⟨rfl, rfl⟩ := Prod.mk.inj (Prod.mk.inj hrun).2
        exact ⟨rfl, notePostDelta_funding _ _, Or.inr ⟨db₁, rfl, htok⟩⟩

theorem settle_balanced {actual : Int} {s' : BillingSession} {db' : DB} (hactual : 0 ≤ actual)
    (h : Balanced env info b₀ s db) (hrun : s.settle env a actual db = (none, s', db')) :
    s'.settled = true ∧ ClosedAt env info b₀ s' db' actual := by
  obtain ⟨hset, hfund, hmove⟩ := settle_ok h.active.2.1 h.active.1 hrun
  refine ⟨hset, ?_⟩
  rcases hmove with ⟨rfl, rfl⟩ | ⟨db₁, hsource, htok⟩
  · exact ⟨by rw [hfund]; exact h.closedAt.source, h.closedAt.token⟩
  · have hsum : s.preConsumedQuota + (actual - s.preConsumedQuota) = actual := by omega
    obtain ⟨hheld, honly⟩ := settle_holds (by omega) h.source hsource
    rw [hsum] at hheld
    have hbooks := settleToken_ok htok
    have hheld' : Holds env b₀ s.funding db' actual :=
      hheld.of_same (by rw [hbooks, Books.addToken_wallet]) (congrArg Books.subs hbooks)
    have hshare : tokenShare s.relayInfo (actual - s.preConsumedQuota)
        = tokenShare info (actual - s.preConsumedQuota) := by
      unfold tokenShare
      rw [h.playground]
    have hadd := tokenShare_add info s.preConsumedQuota (actual - s.preConsumedQuota)
    rw [hsum] at hadd
    have htoken : db'.books.token info.tokenId = db.books.token info.tokenId
        + -tokenShare info (actual - s.preConsumedQuota) := by
      rw [hbooks, h.tokenId, hshare, Books.addToken_token, honly.1]
    have hbefore := h.token
    exact ⟨by rw [hfund]; exact hheld'.taken_eq, by omega⟩

/-- The writes of a refund succeed. -/
structure Answers.RefundsClean (a : Answers) : Prop where
  refund : ∀ i, a.refund i = none
  walletWrite : a.walletWrite = false
  subWrite : a.subWrite = false
  tokenWrite : a.tokenWrite = false

theorem subscriptionRefund_holds {f : SubscriptionFunding}
    {record : SubscriptionPreConsumeRecord} {n : Int} {faults : Nat → Option RefundStmt}
    (hrec : findRecord db.records record.requestId = some record)
    (hclean : ∀ i, faults i = none) (hst : record.status = .consumed)
    (hblank : blank record.requestId = false) (hpos : 0 < record.preConsumed)
    (hn : record.preConsumed ≤ n) (hsid : record.userSubscriptionId = f.subscriptionId)
    (hold : Holds env b₀ (.subscription f) db n) :
    ∃ db', subscriptionFundingRefund faults record.requestId record.preConsumed db = (none, db')
      ∧ Holds env b₀ (.subscription f) db' (n - record.preConsumed)
      ∧ db'.books.token = db.books.token := by
  obtain ⟨hid, hopen, row, hrow, hin, hused⟩ := hold
  rw [← hsid] at hid hrow
  have hwait : AwaitsRefund db record row row.amountUsed := ⟨hrec, hrow⟩
  have hover : ¬ overTotal (row.withUsed row.amountUsed) (-record.preConsumed) := by
    rintro ⟨htotal, hgt⟩
    have := hin htotal
    simp only [withUsed_amountUsed, withUsed_amountTotal, newUsed_eq] at hgt
    omega
  obtain ⟨err, db', hrun, herr, hsub, -, hframe⟩ :=
    refund_attempt hblank hst hpos hid hwait hover (faults 0)
  obtain rfl : err = none := herr.mpr (hclean 0)
  rw [hclean 0] at hsub
  simp only [lowers, if_true, newUsed_eq] at hsub
  have htoken : db'.books.token = db.books.token := by
    rw [hframe]
    rfl
  refine ⟨db', ?_, ⟨hsid ▸ hid, hopen, _, hsid ▸ hsub, ?_, ?_⟩, htoken⟩
  · rw [subscriptionFundingRefund, if_neg (by omega), refundWithRetry, maxAttempts, retryFrom,
      hrun]
  · intro htotal
    have := hin htotal
    simp only [withUsed_amountUsed, withUsed_amountTotal]
    omega
  · simp only [withUsed_amountUsed]
    omega

/-- Step 1 of a refund: the source has given back all but the extra reserve a
subscription keeps apart. -/
theorem fundingRefund_holds (hclean : a.RefundsClean) (h : Balanced env info b₀ s db) :
    Holds env b₀ s.funding (s.funding.refund env a db).2
        (if s.funding.source = .subscription then s.extraReserved else 0)
      ∧ (s.funding.refund env a db).2.books.token = db.books.token := by
  have hsource := h.source
  have hrefund := h.refundable
  unfold Refundable at hrefund
  cases hf : s.funding with
  | wallet u consumed =>
    rw [hf] at hsource hrefund
    simp only at hrefund
    simp only [Funding.refund, Funding.source, reduceCtorEq, if_false]
    split
    · have hnn := h.nonneg
      rw [show s.preConsumedQuota = 0 by omega] at hsource
      exact ⟨hsource, rfl⟩
    · rename_i hpos
      obtain ⟨db₁, hinc⟩ : ∃ db₁, increaseUserQuota env false u consumed false db = .ok db₁ :=
        writeUserQuota_succeeds (by omega)
      have hwrite : writeUserQuota env false u consumed (- -consumed) false db = .ok db₁ := by
        rw [Int.neg_neg]; exact hinc
      have hmove : Holds env b₀ (.wallet u consumed) db₁ (s.preConsumedQuota + -consumed)
          ∧ SourceOnly db db₁ := writeUserQuota_holds hsource hwrite
      rw [hrefund, show s.preConsumedQuota + -s.preConsumedQuota = 0 by omega] at hmove
      rw [hclean.walletWrite, hinc]
      rw [hrefund]
      exact ⟨hmove.1, hmove.2.1⟩
  | subscription f =>
    rw [hf] at hsource hrefund
    simp only at hrefund
    obtain ⟨hsum, hpos, -, hblank, hrec⟩ := hrefund
    have hextra := h.extra
    obtain ⟨record, hrecord⟩ : ∃ r : SubscriptionPreConsumeRecord,
        r = ⟨f.requestId, f.userId, f.subscriptionId, f.preConsumed, .consumed⟩ := ⟨_, rfl⟩
    have hreq : record.requestId = f.requestId := by rw [hrecord]
    have hpre : record.preConsumed = f.preConsumed := by rw [hrecord]
    have hst : record.status = .consumed := by rw [hrecord]
    have hsid : record.userSubscriptionId = f.subscriptionId := by rw [hrecord]
    rw [← hrecord, ← hreq] at hrec
    rw [← hpre] at hpos hsum
    rw [← hreq] at hblank
    obtain ⟨db', hrun, hheld, htoken⟩ :=
      subscriptionRefund_holds hrec hclean.refund hst hblank hpos (by omega) hsid hsource
    rw [hreq, hpre] at hrun
    rw [hpre] at hheld hsum
    simp only [Funding.refund, Funding.source, if_true, hrun]
    rw [show s.extraReserved = s.preConsumedQuota - f.preConsumed by omega]
    exact ⟨hheld, htoken⟩

theorem refundSource_holds (hclean : a.RefundsClean) (h : Balanced env info b₀ s db) :
    ∃ db', db' = (let db₁ := (s.funding.refund env a db).2
        if 0 < s.extraReserved ∧ s.funding.source = .subscription
            ∧ s.relayInfo.subscriptionId ≠ 0
        then orKeep (postConsumeUserSubscriptionDelta a.subWrite s.relayInfo.subscriptionId
          (-s.extraReserved) db₁) db₁
        else db₁)
      ∧ Holds env b₀ s.funding db' 0 ∧ db'.books.token = db.books.token := by
  obtain ⟨hheld, htoken⟩ := fundingRefund_holds hclean h
  have hrefund := h.refundable
  have hextra := h.extra
  refine ⟨_, rfl, ?_⟩
  generalize (s.funding.refund env a db).2 = db₁ at hheld htoken
  unfold Refundable at hrefund
  cases hf : s.funding with
  | wallet u consumed =>
    rw [hf] at hheld
    simp only [Funding.source, reduceCtorEq, false_and, and_false, if_false] at hheld ⊢
    exact ⟨hheld, htoken⟩
  | subscription f =>
    rw [hf] at hheld hrefund
    simp only [Funding.source, if_true] at hheld hrefund ⊢
    obtain ⟨-, -, hsid, -, -⟩ := hrefund
    have hnz : f.subscriptionId ≠ 0 := hheld.1
    by_cases hpos : 0 < s.extraReserved
    · have hback : 0 ≤ s.extraReserved + -s.extraReserved := by omega
      obtain ⟨db₂, hpost⟩ := postConsume_gives_back (by omega) hback hheld
      obtain ⟨hheld₂, honly⟩ := postConsume_holds hback hheld hpost
      rw [show s.extraReserved + -s.extraReserved = 0 by omega] at hheld₂
      rw [if_pos ⟨hpos, trivial, by rw [hsid]; exact hnz⟩, hclean.subWrite, hsid, hpost]
      exact ⟨hheld₂, honly.1.trans htoken⟩
    · rw [if_neg (fun hc => hpos hc.1)]
      rw [show s.extraReserved = 0 by omega] at hheld
      exact ⟨hheld, htoken⟩

theorem refund_balanced (hclean : a.RefundsClean) (h : Balanced env info b₀ s db) :
    ClosedAt env info b₀ (s.refund env a db).1 (s.refund env a db).2 0 := by
  unfold BillingSession.refund
  split
  · -- nothing to give back: the session had taken nothing
    rename_i hskip
    have hneeds : s.needsRefund = false := by
      rcases hskip with h' | h' | h'
      · rw [h.active.2.1] at h'; cases h'
      · rw [h.active.2.2] at h'; cases h'
      · exact h'
    have hzero : s.preConsumedQuota = 0 := by
      have hnn := h.nonneg
      unfold BillingSession.needsRefund at hneeds
      rw [if_neg (by simp [h.active.1, h.active.2.1, h.active.2.2])] at hneeds
      split at hneeds
      · cases hneeds
      · rename_i htok
        have := h.counted
        omega
    have hclosed := h.closedAt
    rwa [hzero] at hclosed
  · obtain ⟨db₂, hdb₂, hheld, htoken⟩ := refundSource_holds hclean h
    simp only at hdb₂
    have hbefore := h.token
    unfold BillingSession.refundWrites
    simp only
    rw [← hdb₂]
    split
    · rename_i hpos
      obtain ⟨db₃, hinc⟩ : ∃ db₃, increaseTokenQuota env false s.relayInfo.tokenId
          s.tokenConsumed db₂ = .ok db₃ := writeTokenQuota_succeeds hpos.1.le
      rw [hclean.tokenWrite, hinc]
      have hbooks := (writeTokenQuota_books hinc).2
      have hheld₃ : Holds env b₀ s.funding db₃ 0 :=
        hheld.of_same (by rw [hbooks, Books.addToken_wallet]) (congrArg Books.subs hbooks)
      refine ⟨hheld₃.taken_eq, ?_⟩
      show b₀.token info.tokenId - db₃.books.token info.tokenId = tokenShare info 0
      rw [hbooks, h.tokenId, Books.addToken_token, htoken, h.counted]
      have hplay : info.isPlayground = false := h.playground ▸ hpos.2
      simp only [tokenShare, hplay, Bool.false_eq_true, if_false] at hbefore ⊢
      omega
    · rename_i hnone
      refine ⟨hheld.taken_eq, ?_⟩
      show b₀.token info.tokenId - db₂.books.token info.tokenId = tokenShare info 0
      rw [htoken, hbefore]
      cases hplay : info.isPlayground with
      | true => simp [tokenShare, hplay]
      | false =>
        have hcount := h.counted
        have hnn := h.nonneg
        have : ¬ 0 < s.tokenConsumed := fun hc => hnone ⟨hc, by rw [h.playground, hplay]⟩
        simp only [tokenShare, hplay, Bool.false_eq_true, if_false]
        omega

end Calls

/-! ## Reserves, then one terminal call -/

def reserveAll (env : Env) : List (Int × Answers) → BillingSession → DB → BillingSession × DB
  | [], s, db => (s, db)
  | (target, a) :: rest, s, db =>
    let r := s.reserve env a target db
    reserveAll env rest r.2.1 r.2.2

theorem reserveAll_balanced {env : Env} {info : RelayInfo} {b₀ : Books} :
    ∀ {calls : List (Int × Answers)} {s : BillingSession} {db : DB},
      (∀ c ∈ calls, c.2.rollback = false) → Balanced env info b₀ s db →
      Balanced env info b₀ (reserveAll env calls s db).1 (reserveAll env calls s db).2
  | [], _, _, _, h => h
  | (target, a) :: rest, s, db, hroll, h => by
    have hrest : ∀ c ∈ rest, c.2.rollback = false := fun c hc =>
      hroll c (List.mem_cons_of_mem _ hc)
    have hfirst := reserve_balanced target (hroll (target, a) List.mem_cons_self) h
    unfold reserveAll
    exact reserveAll_balanced hrest hfirst

theorem settle_of_settled {env : Env} {a : Answers} {actual : Int} {s : BillingSession}
    {db : DB} (h : s.settled = true) : s.settle env a actual db = (none, s, db) := by
  unfold BillingSession.settle
  rw [if_pos h]

theorem refund_of_done {env : Env} {a : Answers} {s : BillingSession} {db : DB}
    (h : s.settled = true ∨ s.refunded = true) : s.refund env a db = (s, db) := by
  unfold BillingSession.refund
  rw [if_pos]
  rcases h with h | h
  · exact Or.inl h
  · exact Or.inr (Or.inl h)

theorem refund_idem (env : Env) (a a' : Answers) (s : BillingSession) (db : DB) :
    (s.refund env a db).1.refund env a' (s.refund env a db).2 = s.refund env a db := by
  by_cases hskip : s.settled ∨ s.refunded ∨ s.needsRefund = false
  · have hfirst : s.refund env a db = (s, db) := by
      unfold BillingSession.refund
      rw [if_pos hskip]
    rw [hfirst]
    unfold BillingSession.refund
    rw [if_pos hskip]
  · refine refund_of_done (Or.inr ?_)
    unfold BillingSession.refund
    rw [if_neg hskip]

/-- What the session has taken, from the source and from the token. -/
def TookExactly (env : Env) (info : RelayInfo) (before after : DB) (s : BillingSession)
    (n : Int) : Prop :=
  taken env before.books after.books s.funding = n
    ∧ before.books.token info.tokenId - after.books.token info.tokenId
      = if info.isPlayground then 0 else n

theorem ClosedAt.took {env : Env} {info : RelayInfo} {db : DB} {s : BillingSession} {n : Int}
    (h : ClosedAt env info db.books s db' n) : TookExactly env info db db' s n :=
  ⟨h.source, h.token⟩

theorem billing_conservation (env : Env) (a : OpenAnswers) (info : RelayInfo) (quota : Int)
    (db db₀ : DB) (s : BillingSession) (hwf : db.WF) (hq : 0 ≤ quota)
    (hnew : findRecord db.records info.requestId = none)
    (hw : a.wallet.rollback = false) (hs : a.subscription.rollback = false)
    (hopen : newBillingSession env a info quota db = (.ok s, db₀))
    (calls : List (Int × Answers)) (hroll : ∀ c ∈ calls, c.2.rollback = false) :
    let s₁ := (reserveAll env calls s db₀).1
    let db₁ := (reserveAll env calls s db₀).2
    TookExactly env info db db₁ s₁ s₁.preConsumedQuota
      ∧ (∀ b actual s₂ db₂, 0 ≤ actual → s₁.settle env b actual db₁ = (none, s₂, db₂) →
          TookExactly env info db db₂ s₂ actual
            ∧ ∀ b' actual', s₂.settle env b' actual' db₂ = (none, s₂, db₂))
      ∧ (∀ b, b.RefundsClean →
          TookExactly env info db (s₁.refund env b db₁).2 (s₁.refund env b db₁).1 0
            ∧ ∀ b', (s₁.refund env b db₁).1.refund env b' (s₁.refund env b db₁).2
              = s₁.refund env b db₁) := by
  have hopened : Opened env info db.books db₀.books s := by
    have h : OpenedOrUntouched env info db (newBillingSession env a info quota db) :=
      newBillingSession_opened hq hwf.ids hnew hw hs
    rw [hopen] at h
    exact h
  have hbal : Balanced env info db.books (reserveAll env calls s db₀).1
      (reserveAll env calls s db₀).2 :=
    reserveAll_balanced hroll (opened_balanced hwf hopened)
  refine ⟨hbal.closedAt.took, ?_, ?_⟩
  · intro b actual s₂ db₂ hactual hrun
    obtain ⟨hset, hclosed⟩ := settle_balanced hactual hbal hrun
    exact ⟨hclosed.took, fun b' actual' => settle_of_settled hset⟩
  · intro b hclean
    exact ⟨(refund_balanced hclean hbal).took, fun b' => refund_idem env b b' _ _⟩

/-- A user with 100 in the wallet opens a session for 10 on it. -/
def walletInfo : RelayInfo := { openInfo with billingPreference := "wallet_only" }

def walletSession : BillingSession where
  relayInfo := { walletInfo with
    userQuota := 100, finalPreConsumedQuota := 10, billingSource := some .wallet }
  funding := .wallet 7 10
  preConsumedQuota := 10
  tokenConsumed := 10
  extraReserved := 0
  trusted := false
  fundingSettled := false
  settled := false
  refunded := false

theorem fundedDB_wf (w : Int) : (fundedDB w).WF where
  ids := by show ([openSub].map (·.id)).Nodup; decide
  positive := by show ∀ s ∈ [openSub], s.id ≠ 0; decide
  nonneg := by show ∀ s ∈ [openSub], 0 ≤ s.amountUsed; decide

attribute [local semireducible] trimSpace

theorem billing_conservation_wallet_run :
    let db₀ := (newBillingSession openEnv {} walletInfo 10 (fundedDB 100)).2
    let r := reserveAll openEnv [(30, {}), (50, { tokenWrite := true })] walletSession db₀
    r.1.preConsumedQuota = 30
      ∧ TookExactly openEnv walletInfo (fundedDB 100) r.2 r.1 r.1.preConsumedQuota :=
  ⟨by decide, (billing_conservation openEnv {} walletInfo 10 (fundedDB 100) _ walletSession
    (fundedDB_wf 100) (by decide) (by decide) rfl rfl rfl
    [(30, {}), (50, { tokenWrite := true })] (by simp)).1⟩

end YouBox
