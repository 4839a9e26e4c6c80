import YouBox.MachineInt
import YouBox.Sched

/-!
# Top-up orders

The five functions that fulfil a top-up order (`Recharge`, `RechargeCreem`,
`RechargeWaffo`, `RechargeWaffoPancake`, `ManualCompleteTopUp`), as
transactions that run interleaved on one order. All five have the same
skeleton, `Fulfil`: SELECT the order, check it, save it as successful, credit
the user, commit. They differ in the provider they accept, in what they do
with an order that is already successful, and in how they compute the quota.

A transaction's writes become visible when it commits. Its SELECT carries
`Set("gorm:query_option", "FOR UPDATE")`, which the installed gorm ignores: it
locks nothing, so any number of transactions may be between their SELECT and
their commit at the same time. `Sched.Exclusive` is the guard the lock would
have enforced.
-/

namespace YouBox

/-! ## Rows -/

inductive TopUpStatus where
  | pending
  | success
  | failed
  | expired
deriving DecidableEq

inductive PaymentProvider where
  | epay
  | stripe
  | creem
  | waffo
  | waffoPancake
  | balance
  /-- The column's default, `''`. -/
  | unset
deriving DecidableEq

/-- A row of `top_ups`. A float64 stands here as its shortest decimal, the one
`decimal.NewFromFloat` takes; its own value is `float64` of that. -/
structure TopUp where
  userId : Nat
  amount : Int
  money : ℚ
  paymentMethod : String
  paymentProvider : PaymentProvider
  createTime : Int
  completeTime : Int
  status : TopUpStatus
deriving DecidableEq

/-- `topUp.CompleteTime = now; topUp.Status = "success"`. -/
def TopUp.complete (t : TopUp) (now : Int) : TopUp :=
  { t with completeTime := now, status := .success }

@[simp] theorem TopUp.complete_status (t : TopUp) (now : Int) :
    (t.complete now).status = .success := rfl

/-- `decimal.IntPart`: truncation toward zero. -/
def intPart (q : ℚ) : Int := if 0 ≤ q then ⌊q⌋ else ⌈q⌉

/-- `int(d.IntPart())`, the low 64 bits of the truncation. -/
def toQuota (q : ℚ) : Int := wrap64 (intPart q)

/-- The float64 nearest to a number, ties to even; none is too large here. -/
def float64 (q : ℚ) : ℚ :=
  let unit : ℚ := 2 ^ max (Int.log 2 |q| - 52) (-1074)
  let n := ⌊q / unit⌋
  if q / unit - n < 1 / 2 ∨ (q / unit - n = 1 / 2 ∧ n % 2 = 0) then n * unit
  else (n + 1) * unit

/-- The product of two float64. -/
def floatMul (x y : ℚ) : ℚ := float64 (float64 x * float64 y)

inductive FulfilErr where
  /-- `充值订单不存在` -/
  | orderMissing
  /-- `ErrPaymentMethodMismatch` -/
  | providerMismatch
  /-- `充值订单状态错误` -/
  | statusInvalid
  /-- `无效的充值额度` -/
  | invalidQuota
  | db
deriving DecidableEq

/-! ## The five functions -/

/-- What one of the functions does with the order it has read; `quotaPerUnit`
is `common.QuotaPerUnit`. -/
structure Fulfil where
  expectedProvider : Option PaymentProvider
  skipSuccess : Bool
  quota : ℚ → TopUp → ℚ
  requirePositive : Bool
  readsUser : Bool

def recharge : Fulfil where
  expectedProvider := some .stripe
  skipSuccess := false
  quota quotaPerUnit t := floatMul t.money quotaPerUnit
  requirePositive := false
  readsUser := false

def rechargeCreem (customerEmail : String) : Fulfil where
  expectedProvider := some .creem
  skipSuccess := false
  quota _ t := t.amount
  requirePositive := false
  readsUser := customerEmail != ""

def rechargeWaffo : Fulfil where
  expectedProvider := some .waffo
  skipSuccess := true
  quota quotaPerUnit t := toQuota (t.amount * quotaPerUnit)
  requirePositive := true
  readsUser := false

def rechargeWaffoPancake : Fulfil where
  expectedProvider := some .waffoPancake
  skipSuccess := true
  quota quotaPerUnit t := toQuota (t.amount * quotaPerUnit)
  requirePositive := true
  readsUser := false

def manualCompleteTopUp : Fulfil where
  expectedProvider := none
  skipSuccess := true
  quota quotaPerUnit t :=
    if t.paymentProvider = .stripe then toQuota (t.money * quotaPerUnit)
    else toQuota (t.amount * quotaPerUnit)
  requirePositive := true
  readsUser := false

/-- A call of one of the functions, with the arguments that matter. -/
inductive TopUpCall where
  | recharge
  | rechargeCreem (customerEmail : String)
  | rechargeWaffo
  | rechargeWaffoPancake
  | manualCompleteTopUp

def TopUpCall.fulfil : TopUpCall → Fulfil
  | .recharge => YouBox.recharge
  | .rechargeCreem customerEmail => YouBox.rechargeCreem customerEmail
  | .rechargeWaffo => YouBox.rechargeWaffo
  | .rechargeWaffoPancake => YouBox.rechargeWaffoPancake
  | .manualCompleteTopUp => YouBox.manualCompleteTopUp

/-- The checks between the SELECT and the first write: the quota to add, or
`none` when the order is already successful and that is fine. -/
def Fulfil.check (f : Fulfil) (quotaPerUnit : ℚ) (t : TopUp) :
    Except FulfilErr (Option ℚ) :=
  if f.expectedProvider.any (· ≠ t.paymentProvider) then .error .providerMismatch
  else if f.skipSuccess ∧ t.status = .success then .ok none
  else if t.status ≠ .pending then .error .statusInvalid
  else if f.requirePositive ∧ f.quota quotaPerUnit t ≤ 0 then .error .invalidQuota
  else .ok (some (f.quota quotaPerUnit t))

theorem Fulfil.check_pending {f : Fulfil} {quotaPerUnit q : ℚ} {t : TopUp}
    (h : f.check quotaPerUnit t = .ok (some q)) : t.status = .pending := by
  unfold Fulfil.check at h
  split at h
  · cases h
  split at h
  · cases h
  split at h
  · cases h
  · rename_i hst
    exact not_not.mp hst

/-! ## The transactions, interleaved -/

/-- The order and what has been credited for it, latest first. -/
structure TopUpDB where
  topUp : TopUp
  credits : List ℚ

/-- Where a transaction stands; `t` is the order as its SELECT read it. -/
inductive FulfilPc where
  | select
  | save (t : TopUp) (now : Int) (quota : ℚ)
  | readUser (t : TopUp) (now : Int) (quota : ℚ)
  | credit (t : TopUp) (now : Int) (quota : ℚ)
  | commit (t : TopUp) (now : Int) (quota : ℚ)
  | ended (err : Option FulfilErr)
deriving DecidableEq

/-- Whether the statement fails, and the clock. -/
structure Tick where
  fails : Bool
  now : Int

def Fulfil.next (f : Fulfil) (quotaPerUnit : ℚ) (tick : Tick) (s : TopUpDB) :
    FulfilPc → Option (TopUpDB × FulfilPc)
  | .select =>
    if tick.fails then some (s, .ended (some .orderMissing))
    else
      match f.check quotaPerUnit s.topUp with
      | .error e => some (s, .ended (some e))
      | .ok none => some (s, .ended none)
      | .ok (some q) => some (s, .save s.topUp tick.now q)
  | .save t now q =>
    if tick.fails then some (s, .ended (some .db))
    else if f.readsUser then some (s, .readUser t now q)
    else some (s, .credit t now q)
  | .readUser t now q =>
    if tick.fails then some (s, .ended (some .db)) else some (s, .credit t now q)
  | .credit t now q =>
    if tick.fails then some (s, .ended (some .db)) else some (s, .commit t now q)
  | .commit t now q =>
    if tick.fails then some (s, .ended (some .db))
    else some (⟨t.complete now, q :: s.credits⟩, .ended none)
  | .ended _ => none

def topUpMachine (quotaPerUnit : ℚ) :
    Sched.Machine TopUpDB (TopUpCall × FulfilPc) Tick where
  next tick s l :=
    (l.1.fulfil.next quotaPerUnit tick s l.2).map fun r => (r.1, l.1, r.2)

/-- The transaction has read the order as pending and has not ended. -/
def FulfilPc.open : FulfilPc → Prop
  | .select => False
  | .ended _ => False
  | _ => True

instance : DecidablePred FulfilPc.open
  | .select => .isFalse id
  | .ended _ => .isFalse id
  | .save _ _ _ => .isTrue trivial
  | .readUser _ _ _ => .isTrue trivial
  | .credit _ _ _ => .isTrue trivial
  | .commit _ _ _ => .isTrue trivial

def TopUpCall.Selects (l : TopUpCall × FulfilPc) : Prop := l.2 = .select

def TopUpCall.Open (l : TopUpCall × FulfilPc) : Prop := l.2.open

instance : DecidablePred TopUpCall.Selects := fun l => inferInstanceAs (Decidable (l.2 = _))

instance : DecidablePred TopUpCall.Open := fun l => inferInstanceAs (Decidable l.2.open)

/-- Everything one statement can do to the order: nothing, or the commit of an
open transaction. -/
theorem Fulfil.next_cases {f : Fulfil} {quotaPerUnit : ℚ} {tick : Tick} {s s' : TopUpDB}
    {pc pc' : FulfilPc} (h : f.next quotaPerUnit tick s pc = some (s', pc')) :
    (s' = s ∧ (pc'.open → pc.open ∨ (pc = .select ∧ s.topUp.status = .pending)))
      ∨ ∃ t now q, pc = .commit t now q ∧ pc' = .ended none
        ∧ s' = ⟨t.complete now, q :: s.credits⟩ := by
  have stay : ∀ {q : FulfilPc}, some (s, q) = some (s', pc') → pc.open →
      s' = s ∧ (pc'.open → pc.open ∨ (pc = .select ∧ s.topUp.status = .pending)) := by
    intro q hq hopen
    cases hq
    exact ⟨rfl, fun _ => Or.inl hopen⟩
  have stop : ∀ {err : Option FulfilErr}, some (s, FulfilPc.ended err) = some (s', pc') →
      s' = s ∧ (pc'.open → pc.open ∨ (pc = .select ∧ s.topUp.status = .pending)) := by
    intro err hq
    cases hq
    exact ⟨rfl, fun ho => ho.elim⟩
  cases pc with
  | select =>
    simp only [Fulfil.next] at h
    split at h
    · exact Or.inl (stop h)
    · cases hc : f.check quotaPerUnit s.topUp with
      | error e => rw [hc] at h; exact Or.inl (stop h)
      | ok r =>
        rw [hc] at h
        cases r with
        | none => exact Or.inl (stop h)
        | some q =>
          cases h
          exact Or.inl ⟨rfl, fun _ => Or.inr ⟨rfl, Fulfil.check_pending hc⟩⟩
  | save t now q =>
    simp only [Fulfil.next] at h
    split at h
    · exact Or.inl (stop h)
    split at h
    · exact Or.inl (stay h trivial)
    · exact Or.inl (stay h trivial)
  | readUser t now q =>
    simp only [Fulfil.next] at h
    split at h
    · exact Or.inl (stop h)
    · exact Or.inl (stay h trivial)
  | credit t now q =>
    simp only [Fulfil.next] at h
    split at h
    · exact Or.inl (stop h)
    · exact Or.inl (stay h trivial)
  | commit t now q =>
    simp only [Fulfil.next] at h
    split at h
    · exact Or.inl (stop h)
    · cases h
      exact Or.inr ⟨t, now, q, rfl, rfl, rfl⟩
  | ended err => cases h

theorem topUpMachine_next {quotaPerUnit : ℚ} {tick : Tick} {s s' : TopUpDB}
    {l l' : TopUpCall × FulfilPc}
    (h : (topUpMachine quotaPerUnit).next tick s l = some (s', l')) :
    l'.1 = l.1 ∧ l.1.fulfil.next quotaPerUnit tick s l.2 = some (s', l'.2) := by
  simp only [topUpMachine, Option.map_eq_some_iff] at h
  obtain ⟨r, hr, heq⟩ := h
  obtain ⟨rfl, rfl⟩ := Prod.mk.inj heq
  exact ⟨rfl, hr⟩

theorem topUp_oneShot (quotaPerUnit : ℚ) :
    Sched.OneShot (topUpMachine quotaPerUnit) TopUpCall.Selects TopUpCall.Open
      (fun s => s.topUp.status = .pending) (fun s => s.credits.length) :=
  .of_cases fun h => by
    rcases Fulfil.next_cases (topUpMachine_next h).2 with hquiet | ⟨t, now, q, hpc, hpc', rfl⟩
    · exact Or.inl hquiet
    · unfold TopUpCall.Open
      rw [hpc, hpc']
      exact Or.inr ⟨trivial, id, by simp, rfl⟩

/-- Any transactions on an order nobody has been credited for yet. -/
def topUpStart (t : TopUp) (calls : List TopUpCall) :
    Sched.Conf TopUpDB (TopUpCall × FulfilPc) :=
  ⟨⟨t, []⟩, calls.map fun c => (c, .select)⟩

theorem topUp_credited_once {quotaPerUnit : ℚ} {t : TopUp} {calls : List TopUpCall}
    {c : Sched.Conf TopUpDB (TopUpCall × FulfilPc)}
    (h : Sched.Steps (topUpMachine quotaPerUnit)
      (Sched.Exclusive TopUpCall.Selects TopUpCall.Open) (topUpStart t calls) c) :
    c.store.credits.length ≤ 1 := by
  refine (topUp_oneShot quotaPerUnit).uses_le_one rfl ?_ h
  intro l hl
  obtain ⟨call, -, rfl⟩ := List.mem_map.mp hl
  exact id

end YouBox
