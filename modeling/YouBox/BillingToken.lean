import YouBox.BillingRun

/-!
# A session and its token

What the calls of a session do to the token alone, whatever happens on the
funding side. Every call makes at most one write on it, and `TokenMove` says
everything about that write: by how much the token's books move, and which of
the row and the pending delta is left as it was.

Opening a session is the exception. It takes from the token first and from
the source second, and gives the token its part back when the source refuses:
two writes with the source's statements between them. `preConsumeToken` and
`preConsumeFunding` are the two halves, so that something else can come in between.
-/

namespace YouBox

/-! ## The two halves of an opening -/

namespace BillingSession

/-- Step 1 of `preConsume`. -/
def preConsumeToken (env : Env) (a : Answers) (quota : Int) (s : BillingSession) (db : DB) :
    Except NewAPIError DB :=
  match (if 0 < quota then preConsumeTokenQuota env a s.relayInfo quota db else .ok db) with
  | .error e => .error ⟨.preConsumeTokenQuotaFailed, .quota e⟩
  | .ok db' => .ok db'

/-- Step 2 of `preConsume`, with the rollback of step 1. -/
def preConsumeFunding (env : Env) (a : Answers) (quota : Int) (s : BillingSession) (db : DB) :
    Except NewAPIError BillingSession × DB :=
  let tokenConsumed := if 0 < quota then quota else s.tokenConsumed
  match s.funding.preConsume env a quota db with
  | .error e =>
    (.error (fundingError e),
      if 0 < tokenConsumed ∧ s.relayInfo.isPlayground = false then
        orKeep (increaseTokenQuota env a.rollback s.relayInfo.tokenId tokenConsumed db) db
      else db)
  | .ok (f, db') =>
    (.ok (syncRelayInfo { s with
      funding := f
      preConsumedQuota := quota
      tokenConsumed := tokenConsumed }), db')

end BillingSession

/-! ## Writes that leave the tokens alone -/

def TokensKept (db db' : DB) : Prop :=
  db'.tokens = db.tokens ∧ db'.batchTokens = db.batchTokens

theorem TokensKept.refl (db : DB) : TokensKept db db := ⟨rfl, rfl⟩

variable {db db₁ : DB} {id : Nat}

theorem TokensKept.trans {db₂ : DB} (h : TokensKept db db₁) (h' : TokensKept db₁ db₂) :
    TokensKept db db₂ :=
  ⟨h'.1.trans h.1, h'.2.trans h.2⟩

theorem TokensKept.orKeep {ε : Type} {r : Except ε DB}
    (h : ∀ db', r = .ok db' → TokensKept db db') : TokensKept db (orKeep r db) := by
  cases r with
  | error e => exact TokensKept.refl db
  | ok db' => exact h db' rfl

variable {fails : Bool} {delta quota : Int}

section Kept

variable {env : Env} {a : Answers} {db db' : DB}

theorem writeUserQuota_kept {direct : Bool} {u : Nat}
    (h : writeUserQuota env fails u quota delta direct db = .ok db') : TokensKept db db' := by
  unfold writeUserQuota at h
  split at h
  · cases h
  split at h
  · cases h
    exact ⟨rfl, rfl⟩
  split at h
  · cases h
  · cases h
    exact ⟨rfl, rfl⟩

theorem postConsume_kept (h : postConsumeUserSubscriptionDelta fails id delta db = .ok db') :
    TokensKept db db' := by
  by_cases hd : delta = 0
  · unfold postConsumeUserSubscriptionDelta at h
    rw [if_pos hd] at h
    split at h
    · cases h
    · cases h
      exact TokensKept.refl db
  · obtain ⟨sub, -, -, rfl⟩ := postConsume_ok hd h
    exact ⟨rfl, rfl⟩

variable {f' : Funding} {amount : Int}

theorem preConsumeUserSubscription_kept {fault : Option PreStmt} {requestId : String} {userId : Nat}
    {res : SubscriptionPreConsumeResult}
    (h : preConsumeUserSubscription env fault requestId userId amount db = .ok (res, db')) :
    TokensKept db db' := by
  obtain ⟨-, -, ⟨-, rfl⟩ | ⟨p, -, -, rfl⟩⟩ := preConsume_cases h
  · exact TokensKept.refl _
  · exact ⟨rfl, rfl⟩

theorem refundSubscriptionPreConsume_kept (fault : Option RefundStmt) (requestId : String)
    (db : DB) : TokensKept db (refundSubscriptionPreConsume fault requestId db).2 := by
  unfold refundSubscriptionPreConsume
  split
  · exact TokensKept.refl db
  split
  · exact TokensKept.refl db
  split
  · exact TokensKept.refl db
  split
  · exact TokensKept.refl db
  split
  · split
    · exact TokensKept.refl db
    · exact ⟨rfl, rfl⟩
  · split
    · exact TokensKept.refl db
    · rename_i db₁ hpost
      have hkept := postConsume_kept hpost
      split
      · exact hkept
      · exact hkept

theorem retryFrom_kept {fn : Nat → DB → Option SubErr × DB}
    (hfn : ∀ i db, TokensKept db (fn i db).2) (n i : Nat) (lastErr : Option SubErr) (db : DB) :
    TokensKept db (retryFrom fn n i lastErr db).2 := by
  induction n generalizing i lastErr db with
  | zero => exact TokensKept.refl db
  | succ n ih =>
    have hone := hfn i db
    unfold retryFrom
    split
    · rename_i db' heq
      rw [heq] at hone
      exact hone
    · rename_i e db' heq
      rw [heq] at hone
      exact hone.trans (ih (i + 1) (some e) db')

theorem subscriptionFundingRefund_kept (faults : Nat → Option RefundStmt) (requestId : String)
    (pre : Int) (db : DB) :
    TokensKept db (subscriptionFundingRefund faults requestId pre db).2 := by
  unfold subscriptionFundingRefund
  split
  · exact TokensKept.refl db
  · exact retryFrom_kept (fun i db => refundSubscriptionPreConsume_kept (faults i) requestId db)
      maxAttempts 0 none db

variable {f : Funding}

theorem fundingPreConsume_kept (h : f.preConsume env a amount db = .ok (f', db')) :
    TokensKept db db' := by
  cases f with
  | wallet u consumed =>
    simp only [Funding.preConsume] at h
    split at h
    · cases h
      exact TokensKept.refl db
    split at h
    · cases h
    · rename_i hdec
      cases h
      exact writeUserQuota_kept hdec
  | subscription g =>
    simp only [Funding.preConsume] at h
    split at h
    · cases h
    · rename_i hpre
      cases h
      exact preConsumeUserSubscription_kept hpre

theorem fundingReserve_kept (h : f.reserve env a delta db = .ok (f', db')) : TokensKept db db' := by
  cases f with
  | wallet u consumed =>
    simp only [Funding.reserve] at h
    split at h
    · cases h
    · rename_i hdec
      cases h
      exact writeUserQuota_kept hdec
  | subscription g =>
    simp only [Funding.reserve] at h
    split at h
    · cases h
    · rename_i hpost
      cases h
      exact postConsume_kept hpost

theorem fundingRollback_kept (delta : Int) (f : Funding) :
    TokensKept db (f.rollback env a delta db).2 := by
  cases f with
  | wallet u consumed =>
    simp only [Funding.rollback]
    split
    · exact TokensKept.refl db
    · rename_i hinc
      exact writeUserQuota_kept hinc
  | subscription g =>
    exact TokensKept.orKeep fun db' h => postConsume_kept h

theorem fundingSettle_kept (h : f.settle env a delta db = .ok db') : TokensKept db db' := by
  unfold Funding.settle at h
  split at h
  · cases h
    exact TokensKept.refl db
  cases f with
  | wallet u consumed =>
    simp only at h
    split at h
    · exact writeUserQuota_kept (ok_of_mapError h)
    · exact writeUserQuota_kept (ok_of_mapError h)
  | subscription g =>
    exact postConsume_kept (ok_of_mapError h)

theorem fundingRefund_kept (f : Funding) : TokensKept db (f.refund env a db).2 := by
  cases f with
  | wallet u consumed =>
    simp only [Funding.refund]
    split
    · exact TokensKept.refl db
    split
    · exact TokensKept.refl db
    · rename_i hinc
      exact writeUserQuota_kept hinc
  | subscription g =>
    exact subscriptionFundingRefund_kept a.refund g.requestId g.preConsumed db

end Kept

/-! ## The write on the token -/

/-- The token `t` has `d` more and no other token moved; with batching the rows
are as they were, without it the pending deltas are. -/
structure TokenMove (env : Env) (t : Nat) (d : Int) (db db' : DB) : Prop where
  books : ∀ u, db'.books.token u = db.books.token u + if u = t then d else 0
  rows : env.batchUpdateEnabled = true → db'.tokens = db.tokens
  queue : env.batchUpdateEnabled = false → db'.batchTokens = db.batchTokens

namespace TokenMove

variable {env : Env} {t : Nat} {d : Int} {db db₁ db₂ : DB}

theorem of_kept (h : TokensKept db db₁) : TokenMove env t 0 db db₁ where
  books u := by
    simp only [DB.books, h.1, h.2, ite_self]
    omega
  rows _ := h.1
  queue _ := h.2

theorem before (h : TokensKept db db₁) (h' : TokenMove env t d db₁ db₂) :
    TokenMove env t d db db₂ where
  books u := by
    have hu := h'.books u
    simp only [DB.books, h.1, h.2] at hu ⊢
    exact hu
  rows hb := (h'.rows hb).trans h.1
  queue hb := (h'.queue hb).trans h.2

end TokenMove

theorem writeTokenQuota_move {env : Env} {db' : DB}
    (h : writeTokenQuota env fails id quota delta db = .ok db') :
    TokenMove env id delta db db' := by
  refine ⟨?_, ?_, ?_⟩
  · intro u
    rw [(writeTokenQuota_books h).2]
    by_cases hu : u = id
    · subst hu
      simp
    · simp [Books.addToken, hu]
  · intro hb
    unfold writeTokenQuota at h
    rw [hb] at h
    split at h
    · cases h
    · cases h
      rfl
  · intro hb
    rw [writeTokenQuota_row hb h]

section Calls

variable {env : Env} {a : Answers} {s : BillingSession} {db db' : DB}

/-- A request's token has been charged `d`, if the call got that far. -/
def TokenCharged (env : Env) (info : RelayInfo) (d : Int) (db db' : DB) : Prop :=
  ∃ paid, (paid = 0 ∨ paid = tokenShare info d) ∧ TokenMove env info.tokenId (-paid) db db'

variable {d : Int} {info : RelayInfo}

theorem TokenCharged.of_kept (h : TokensKept db db') : TokenCharged env info d db db' :=
  ⟨0, Or.inl rfl, TokenMove.of_kept h⟩

theorem TokenCharged.before (h : TokensKept db db₁) (h' : TokenCharged env info d db₁ db') :
    TokenCharged env info d db db' := by
  obtain ⟨paid, hpaid, hmove⟩ := h'
  exact ⟨paid, hpaid, hmove.before h⟩

theorem TokenCharged.of_write (hplay : info.isPlayground = false)
    (h : writeTokenQuota env fails info.tokenId quota (-d) db = .ok db') :
    TokenCharged env info d db db' :=
  ⟨d, Or.inr (by simp [tokenShare, hplay]), writeTokenQuota_move h⟩

theorem preConsumeTokenQuota_charged (h : preConsumeTokenQuota env a info quota db = .ok db') :
    TokenCharged env info quota db db' := by
  unfold preConsumeTokenQuota at h
  split at h
  · cases h
  split at h
  · cases h
    exact TokenCharged.of_kept (TokensKept.refl db)
  rename_i hplay
  split at h
  · cases h
  split at h
  · cases h
  · exact TokenCharged.of_write (by simpa using hplay) h

theorem giveBack_charged (hplay : info.isPlayground = false) :
    TokenCharged env info (-d) db
      (orKeep (increaseTokenQuota env fails info.tokenId d db) db) := by
  cases hinc : increaseTokenQuota env fails info.tokenId d db with
  | error e => exact TokenCharged.of_kept (TokensKept.refl db)
  | ok db' =>
    have hwrite : writeTokenQuota env fails info.tokenId d (- -d) db = .ok db' := by
      rw [Int.neg_neg]
      exact hinc
    exact TokenCharged.of_write hplay hwrite

theorem preConsumeToken_charged (h : s.preConsumeToken env a quota db = .ok db') :
    TokenCharged env s.relayInfo (max 0 quota) db db' := by
  unfold BillingSession.preConsumeToken at h
  by_cases hq : 0 < quota
  · rw [if_pos hq] at h
    rw [max_eq_right hq.le]
    split at h
    · cases h
    · rename_i hpre
      cases h
      exact preConsumeTokenQuota_charged hpre
  · rw [if_neg hq] at h
    cases h
    exact TokenCharged.of_kept (TokensKept.refl db)

/-- What a failed opening gives back to the token. -/
def BillingSession.rollbackAmount (s : BillingSession) (quota : Int) : Int :=
  max 0 (if 0 < quota then quota else s.tokenConsumed)

theorem preConsumeFunding_charged :
    TokenCharged env s.relayInfo (-s.rollbackAmount quota) db
      (s.preConsumeFunding env a quota db).2 := by
  unfold BillingSession.preConsumeFunding BillingSession.rollbackAmount
  simp only
  generalize (if 0 < quota then quota else s.tokenConsumed) = back
  cases hpre : s.funding.preConsume env a quota db with
  | error e =>
    by_cases hback : 0 < back ∧ s.relayInfo.isPlayground = false
    · simp only [if_pos hback]
      rw [max_eq_right hback.1.le]
      exact giveBack_charged hback.2
    · simp only [if_neg hback]
      exact TokenCharged.of_kept (TokensKept.refl db)
  | ok r => exact TokenCharged.of_kept (fundingPreConsume_kept hpre)

theorem reserveToken_charged (h : s.reserveToken env a delta db = .ok db') :
    TokenCharged env s.relayInfo delta db db' := by
  unfold BillingSession.reserveToken at h
  split at h
  · cases h
    exact TokenCharged.of_kept (TokensKept.refl db)
  split at h
  · cases h
  · rename_i hpre
    cases h
    exact preConsumeTokenQuota_charged hpre

theorem settleToken_charged (h : s.settleToken env a delta db = .ok db') :
    TokenCharged env s.relayInfo delta db db' := by
  unfold BillingSession.settleToken at h
  split at h
  · cases h
    exact TokenCharged.of_kept (TokensKept.refl db)
  rename_i hplay
  have hplay : s.relayInfo.isPlayground = false := by simpa using hplay
  split at h
  · exact TokenCharged.of_write hplay h
  · exact TokenCharged.of_write hplay h

/-- What `Reserve` asks of the token. -/
def BillingSession.reserveDelta (s : BillingSession) (target : Int) : Int :=
  if s.settled ∨ s.refunded ∨ target ≤ s.preConsumedQuota then 0
  else target - s.preConsumedQuota

/-- What `Settle` asks of the token; negative when it gives back. -/
def BillingSession.settleDelta (s : BillingSession) (actual : Int) : Int :=
  if s.settled then 0 else actual - s.preConsumedQuota

theorem reserve_charged (target : Int) :
    TokenCharged env s.relayInfo (s.reserveDelta target) db (s.reserve env a target db).2.2 := by
  unfold BillingSession.reserve BillingSession.reserveDelta
  split
  · exact TokenCharged.of_kept (TokensKept.refl db)
  simp only
  generalize target - s.preConsumedQuota = delta
  split
  · exact TokenCharged.of_kept (TokensKept.refl db)
  · rename_i hres
    have hkept := fundingReserve_kept hres
    split
    · exact TokenCharged.of_kept (hkept.trans (fundingRollback_kept delta _))
    · rename_i htok
      exact (reserveToken_charged htok).before hkept

theorem settle_charged (actual : Int) :
    TokenCharged env s.relayInfo (s.settleDelta actual) db (s.settle env a actual db).2.2 := by
  unfold BillingSession.settle BillingSession.settleDelta
  split
  · exact TokenCharged.of_kept (TokensKept.refl db)
  simp only
  split
  · exact TokenCharged.of_kept (TokensKept.refl db)
  split
  · exact TokenCharged.of_kept (TokensKept.refl db)
  · rename_i db₁ hfund
    have hkept : TokensKept db db₁ := by
      split at hfund
      · cases hfund
        exact TokensKept.refl db
      · exact fundingSettle_kept hfund
    split
    · exact TokenCharged.of_kept hkept
    · rename_i htok
      have hcharged := settleToken_charged htok
      exact hcharged.before hkept

theorem refundWrites_charged :
    TokenCharged env s.relayInfo (-max 0 s.tokenConsumed) db (s.refundWrites env a db) := by
  have hsource : TokensKept db (s.funding.refund env a db).2 := fundingRefund_kept s.funding
  unfold BillingSession.refundWrites
  simp only
  generalize (s.funding.refund env a db).2 = db₁ at hsource
  have hextra : TokensKept db
      (if 0 < s.extraReserved ∧ s.funding.source = .subscription ∧ s.relayInfo.subscriptionId ≠ 0
        then orKeep (postConsumeUserSubscriptionDelta a.subWrite s.relayInfo.subscriptionId
          (-s.extraReserved) db₁) db₁
        else db₁) := by
    split
    · exact hsource.trans (TokensKept.orKeep fun db' h => postConsume_kept h)
    · exact hsource
  generalize (if 0 < s.extraReserved ∧ s.funding.source = .subscription
    ∧ s.relayInfo.subscriptionId ≠ 0 then _ else db₁) = db₂ at hextra
  split
  · rename_i hback
    obtain ⟨hpos, hplay⟩ := hback
    rw [max_eq_right hpos.le]
    exact (giveBack_charged hplay).before hextra
  · exact TokenCharged.of_kept hextra

/-! ## The calls stay on their token -/

/-- Same token, same share of the charges. -/
def SameToken (info info' : RelayInfo) : Prop :=
  info'.tokenId = info.tokenId ∧ info'.isPlayground = info.isPlayground

theorem syncRelayInfo_sameToken (s : BillingSession) :
    SameToken s.relayInfo s.syncRelayInfo.relayInfo := by
  obtain ⟨info, hsync, htok, hplay, -⟩ := syncRelayInfo_eq s
  rw [hsync]
  exact ⟨htok, hplay⟩

theorem preConsumeFunding_sameToken {s' : BillingSession}
    (h : s.preConsumeFunding env a quota db = (.ok s', db')) :
    SameToken s.relayInfo s'.relayInfo := by
  unfold BillingSession.preConsumeFunding at h
  simp only at h
  split at h
  · cases h
  · rename_i f _ _
    obtain ⟨hs, -⟩ := Prod.mk.inj h
    rw [← Except.ok.inj hs]
    have hsync := syncRelayInfo_sameToken { s with
      funding := f
      preConsumedQuota := quota
      tokenConsumed := if 0 < quota then quota else s.tokenConsumed }
    exact hsync

theorem reserve_sameToken (target : Int) :
    SameToken s.relayInfo (s.reserve env a target db).2.1.relayInfo := by
  unfold BillingSession.reserve
  split
  · exact ⟨rfl, rfl⟩
  simp only
  split
  · exact ⟨rfl, rfl⟩
  split
  · exact ⟨rfl, rfl⟩
  · rename_i f _ _ _ _ _
    have hsync := syncRelayInfo_sameToken { s with
      funding := f
      preConsumedQuota := s.preConsumedQuota + (target - s.preConsumedQuota)
      tokenConsumed := s.tokenConsumed + (target - s.preConsumedQuota)
      extraReserved := s.extraReserved + (target - s.preConsumedQuota)
      trusted := false }
    exact hsync

theorem settle_sameToken (actual : Int) :
    SameToken s.relayInfo (s.settle env a actual db).2.1.relayInfo := by
  have hnote : ∀ (d : Int) (x : BillingSession),
      SameToken x.relayInfo (x.notePostDelta d).relayInfo := by
    intro d x
    unfold BillingSession.notePostDelta
    split
    · exact ⟨rfl, rfl⟩
    · exact ⟨rfl, rfl⟩
  unfold BillingSession.settle
  split
  · exact ⟨rfl, rfl⟩
  simp only
  split
  · exact ⟨rfl, rfl⟩
  split
  · exact ⟨rfl, rfl⟩
  split
  · exact hnote _ _
  · exact hnote _ _

end Calls

end YouBox
