import YouBox.BillingRun

/-!
# Calls in any order

`Reserve`, `Settle` and `Refund` on one session, any number of them in any
order. Once `settled` is set nothing moves any more, and once `refunded` is
set nothing moves either, except in `Settle`, which asks for `settled` only:
`SettlesRefunded` names that call, `done_run` shows that every other one
leaves the books of a finished session alone, and
`settle_after_refund_charges` replays the one that does not.

The net charge of a session is read off the first terminal call that takes
effect (`outcome`), and `open_run` proves it for every run.
-/

namespace YouBox

inductive Call where
  | reserve (target : Int)
  | settle (actual : Int)
  | refund

def Call.step (env : Env) (a : Answers) (c : Call) (st : BillingSession × DB) :
    BillingSession × DB :=
  match c with
  | .reserve target => (st.1.reserve env a target st.2).2
  | .settle actual => (st.1.settle env a actual st.2).2
  | .refund => st.1.refund env a st.2

def runCalls (env : Env) : List (Call × Answers) → BillingSession × DB → BillingSession × DB
  | [], st => st
  | (c, a) :: rest, st => runCalls env rest (c.step env a st)

attribute [local irreducible] trimSpace

theorem runCalls_append (env : Env) : ∀ (before after : List (Call × Answers))
    (st : BillingSession × DB),
    runCalls env (before ++ after) st = runCalls env after (runCalls env before st)
  | [], _, _ => rfl
  | (c, a) :: rest, after, st => runCalls_append env rest after (c.step env a st)

/-- A terminal call has taken effect. -/
def BillingSession.done (s : BillingSession) : Prop := s.settled = true ∨ s.refunded = true

/-- The one call a finished session still obeys: a refunded session settles for
anything but what it held. -/
def SettlesRefunded (c : Call) (s : BillingSession) : Prop :=
  match c with
  | .settle actual => s.refunded = true ∧ s.settled = false ∧ actual ≠ s.preConsumedQuota
  | _ => False

/-- No call of the run is `SettlesRefunded`. -/
def NoSettleAfterRefund (env : Env) :
    List (Call × Answers) → BillingSession × DB → Prop
  | [], _ => True
  | (c, a) :: rest, st =>
    ¬ SettlesRefunded c st.1 ∧ NoSettleAfterRefund env rest (c.step env a st)

variable {a : Answers} {env : Env}

theorem noSettleAfterRefund_append (before after : List (Call × Answers)) :
    ∀ {st : BillingSession × DB}, NoSettleAfterRefund env (before ++ after) st →
      NoSettleAfterRefund env after (runCalls env before st) := by
  induction before with
  | nil => exact fun h => h
  | cons call rest ih => exact fun h => ih h.2

variable {st : BillingSession × DB} {info : RelayInfo}

theorem done_step {c : Call} (hdone : st.1.done) (hok : ¬ SettlesRefunded c st.1) :
    (c.step env a st).2 = st.2 ∧ (c.step env a st).1.funding = st.1.funding
      ∧ (c.step env a st).1.done := by
  cases c with
  | reserve target =>
    have hstep : st.1.reserve env a target st.2 = (none, st.1, st.2) := by
      unfold BillingSession.reserve
      rw [if_pos]
      rcases hdone with h | h
      · exact Or.inl h
      · exact Or.inr (Or.inl h)
    simp only [Call.step, hstep]
    exact ⟨trivial, trivial, hdone⟩
  | refund =>
    simp only [Call.step, refund_of_done hdone]
    exact ⟨trivial, trivial, hdone⟩
  | settle actual =>
    cases hset : st.1.settled with
    | true =>
      simp only [Call.step, settle_of_settled hset]
      exact ⟨trivial, trivial, hdone⟩
    | false =>
      -- refunded but not settled: the guard leaves only the amount already held
      have href : st.1.refunded = true := by
        rcases hdone with h | h
        · rw [hset] at h; cases h
        · exact h
      have hsame : actual = st.1.preConsumedQuota := by
        by_contra hne
        exact hok ⟨href, hset, hne⟩
      have hstep : st.1.settle env a actual st.2
          = (none, { st.1 with settled := true }, st.2) := by
        unfold BillingSession.settle
        rw [if_neg (by simp [hset])]
        simp only [hsame, Int.sub_self, if_true]
      simp only [Call.step, hstep]
      exact ⟨trivial, trivial, Or.inl rfl⟩

theorem done_run (calls : List (Call × Answers)) :
    ∀ {st : BillingSession × DB}, st.1.done → NoSettleAfterRefund env calls st →
      (runCalls env calls st).2 = st.2 ∧ (runCalls env calls st).1.funding = st.1.funding := by
  induction calls with
  | nil => exact fun _ _ => ⟨rfl, rfl⟩
  | cons call rest ih =>
    obtain ⟨c, a⟩ := call
    rintro st hdone ⟨hok, hrest⟩
    obtain ⟨hdb, hfund, hdone'⟩ := done_step hdone hok
    obtain ⟨hdb', hfund'⟩ := ih hdone' hrest
    exact ⟨hdb'.trans hdb, hfund'.trans hfund⟩

/-- The amount at which a call has closed an open session, if it has; `s` is
the session after it. -/
def Call.closes (c : Call) (s : BillingSession) : Option Int :=
  match c with
  | .reserve _ => none
  | .settle actual => if s.settled then some actual else none
  | .refund => if s.refunded then some 0 else none

/-- The amount of the first terminal call that takes effect, if one does. -/
def outcome (env : Env) : List (Call × Answers) → BillingSession × DB → Option Int
  | [], _ => none
  | (c, a) :: rest, st =>
    (c.closes (c.step env a st).1).orElse fun _ => outcome env rest (c.step env a st)

/-- The writes of a terminal call and of a rollback succeed. A settlement may
still be refused by its source, and a reserve at any step. -/
def Call.Clean (c : Call) (a : Answers) : Prop :=
  match c with
  | .reserve _ => a.rollback = false
  | .settle actual => 0 ≤ actual ∧ a.tokenWrite = false
  | .refund => a.RefundsClean

theorem settle_refused_or_done {actual : Int} {s : BillingSession} {db : DB}
    (hset : s.settled = false) (hfs : s.fundingSettled = false) (htok : a.tokenWrite = false) :
    (s.settle env a actual db).2 = (s, db)
      ∨ ∃ s' db', s.settle env a actual db = (none, s', db') := by
  unfold BillingSession.settle
  rw [if_neg (by simp [hset])]
  simp only
  split
  · exact Or.inr ⟨_, _, rfl⟩
  · rename_i hne
    rw [if_neg (by simp [hfs])]
    cases s.funding.settle env a (actual - s.preConsumedQuota) db with
    | error e => exact Or.inl rfl
    | ok db₁ =>
      obtain ⟨db₂, hdb₂⟩ : ∃ db₂, BillingSession.settleToken env a
          (actual - s.preConsumedQuota) { s with fundingSettled := true } db₁ = .ok db₂ := by
        unfold BillingSession.settleToken
        rw [htok]
        split
        · exact ⟨_, rfl⟩
        · split
          · rename_i hpos
            exact writeTokenQuota_succeeds hpos.le
          · exact writeTokenQuota_succeeds (by omega)
      simp only [hdb₂]
      exact Or.inr ⟨_, _, rfl⟩

/-- One call on an open session keeps it open, or closes it at the amount the
call stands for. -/
theorem open_step {b₀ : Books} {c : Call} (hbal : Balanced env info b₀ st.1 st.2)
    (hclean : c.Clean a) :
    (c.closes (c.step env a st).1 = none
        ∧ Balanced env info b₀ (c.step env a st).1 (c.step env a st).2)
      ∨ ∃ n, c.closes (c.step env a st).1 = some n ∧ (c.step env a st).1.done
        ∧ ClosedAt env info b₀ (c.step env a st).1 (c.step env a st).2 n := by
  obtain ⟨s, d⟩ := st
  have hopen : s.fundingSettled = false ∧ s.settled = false ∧ s.refunded = false := hbal.active
  cases c with
  | reserve target => exact Or.inl ⟨rfl, reserve_balanced target hclean hbal⟩
  | settle actual =>
    rcases settle_refused_or_done hopen.2.1 hopen.1 hclean.2 with hsame | ⟨s', d', hrun⟩
    · have hstep : Call.step env a (.settle actual) (s, d) = (s, d) := hsame
      rw [hstep]
      exact Or.inl ⟨by simp [Call.closes, hopen.2.1], hbal⟩
    · obtain ⟨hset, hat⟩ := settle_balanced hclean.1 hbal hrun
      have hstep : Call.step env a (.settle actual) (s, d) = (s', d') :=
        congrArg Prod.snd hrun
      rw [hstep]
      exact Or.inr ⟨actual, by simp [Call.closes, hset], Or.inl hset, hat⟩
  | refund =>
    have hat := refund_balanced hclean hbal
    have hstep : Call.step env a .refund (s, d) = s.refund env a d := rfl
    rw [hstep]
    by_cases hgo : s.settled ∨ s.refunded ∨ s.needsRefund = false
    · -- nothing is due back
      have hsame : s.refund env a d = (s, d) := by
        unfold BillingSession.refund
        rw [if_pos hgo]
      rw [hsame]
      exact Or.inl ⟨by simp [Call.closes, hopen.2.2], hbal⟩
    · have href : (s.refund env a d).1.refunded = true := by
        unfold BillingSession.refund
        rw [if_neg hgo]
      exact Or.inr ⟨0, by simp [Call.closes, href], Or.inr href, hat⟩

theorem open_run {db : DB} (calls : List (Call × Answers)) :
    ∀ {st : BillingSession × DB}, Balanced env info db.books st.1 st.2 →
      (∀ c ∈ calls, c.1.Clean c.2) → NoSettleAfterRefund env calls st →
      TookExactly env info db (runCalls env calls st).2 (runCalls env calls st).1
        ((outcome env calls st).getD (runCalls env calls st).1.preConsumedQuota) := by
  induction calls with
  | nil => exact fun hbal _ _ => hbal.closedAt.took
  | cons call rest ih =>
    obtain ⟨c, a⟩ := call
    rintro st hbal hclean ⟨hok, hrest⟩
    have hfirst : c.Clean a := hclean (c, a) List.mem_cons_self
    have hclean' : ∀ c ∈ rest, c.1.Clean c.2 := fun c hc =>
      hclean c (List.mem_cons_of_mem _ hc)
    rcases open_step hbal hfirst with ⟨hnone, hbal'⟩ | ⟨n, hsome, hdone, hat⟩
    · simp only [runCalls, outcome, hnone, Option.orElse_none]
      exact ih hbal' hclean' hrest
    · -- the charge is fixed for the rest of the run
      obtain ⟨hdb, hfund⟩ := done_run rest hdone hrest
      simp only [runCalls, outcome, hsome, Option.orElse_some, Option.getD_some, TookExactly,
        hdb, hfund]
      exact hat.took

theorem terminal_calls_exclude (env : Env) :
    (∀ (s : BillingSession) (db : DB) (before after : List (Call × Answers)),
      NoSettleAfterRefund env (before ++ after) (s, db) →
      (runCalls env before (s, db)).1.done →
      (runCalls env (before ++ after) (s, db)).2 = (runCalls env before (s, db)).2)
    ∧ ∀ (a : OpenAnswers) (info : RelayInfo) (quota : Int) (db db₀ : DB)
        (s : BillingSession) (calls : List (Call × Answers)), db.WF → 0 ≤ quota →
      findRecord db.records info.requestId = none →
      a.wallet.rollback = false → a.subscription.rollback = false →
      newBillingSession env a info quota db = (.ok s, db₀) →
      (∀ c ∈ calls, c.1.Clean c.2) → NoSettleAfterRefund env calls (s, db₀) →
      TookExactly env info db (runCalls env calls (s, db₀)).2 (runCalls env calls (s, db₀)).1
        ((outcome env calls (s, db₀)).getD
          (runCalls env calls (s, db₀)).1.preConsumedQuota) := by
  constructor
  · intro s db before after hno hdone
    rw [runCalls_append]
    exact (done_run after hdone (noSettleAfterRefund_append before after hno)).1
  · intro a info quota db db₀ s calls hwf hq hnew hw hs hopen hclean hno
    have h : OpenedOrUntouched env info db (newBillingSession env a info quota db) :=
      newBillingSession_opened hq hwf.ids hnew hw hs
    rw [hopen] at h
    have hbal : Balanced env info db.books s db₀ := opened_balanced hwf h
    exact open_run calls hbal hclean hno

def allFine : Answers := {}

attribute [local semireducible] trimSpace

theorem terminal_calls_exclude_settle_then_refund :
    (runCalls openEnv ([(.settle 25, allFine)] ++ [(.refund, allFine), (.reserve 90, allFine)])
        (walletSession, fundedDB 90)).2
      = (runCalls openEnv [(.settle 25, allFine)] (walletSession, fundedDB 90)).2
    ∧ (let db₀ := (newBillingSession openEnv {} walletInfo 10 (fundedDB 100)).2
      let last := runCalls openEnv [(.settle 25, allFine)] (walletSession, db₀)
      TookExactly openEnv walletInfo (fundedDB 100) last.2 last.1 25) :=
  ⟨(terminal_calls_exclude openEnv).1 walletSession (fundedDB 90) [(.settle 25, allFine)]
    [(.refund, allFine), (.reserve 90, allFine)]
    ⟨fun h => absurd h.1 (by decide), id, id, trivial⟩ (Or.inl (by decide)),
  (terminal_calls_exclude openEnv).2 {} walletInfo 10 (fundedDB 100) _ walletSession
    [(.settle 25, allFine)] (fundedDB_wf 100) (by decide) (by decide) rfl rfl rfl
    (by simp [Call.Clean, allFine]) ⟨fun h => absurd h.1 (by decide), trivial⟩⟩

/-- 10 of 100 are held, the refund gives them back, and a settlement at 30 then
takes 20 more: the session ends up charged 20, which is neither 0 nor 30. -/
theorem settle_after_refund_charges :
    let db₀ := (newBillingSession openEnv {} walletInfo 10 (fundedDB 100)).2
    let refunded := runCalls openEnv [(.refund, allFine)] (walletSession, db₀)
    let last := runCalls openEnv [(.refund, allFine), (.settle 30, allFine)] (walletSession, db₀)
    refunded.1.refunded = true ∧ refunded.2.books.wallet 7 = 100
      ∧ last.2.books.wallet 7 = 80 ∧ last.2.books.token 3 = 480
      ∧ last.2.books.wallet 7 ≠ refunded.2.books.wallet 7
      ∧ taken openEnv (fundedDB 100).books last.2.books last.1.funding = 20 := by
  decide

end YouBox
