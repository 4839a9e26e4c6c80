import YouBox.Epay
import YouBox.TopUpAmounts

/-!
# What an Epay order credits

An amount goes through three functions. `getPayMoney` prices what was asked for,
`RequestEpay` stores it, and `EpayNotify` multiplies what was stored by `QuotaPerUnit`.
Where quota is displayed in tokens the amount is a number of tokens: the first divides
it by `QuotaPerUnit` and keeps the fraction, the second keeps the whole units only. So
the customer pays for all the tokens and is credited for the whole units among them;
`accepted_credits_iff` says for which amounts the two are the same.
-/

namespace YouBox

/-! ## Pricing and storing -/

structure EpaySettings where
  quotaDisplayType : String
  quotaPerUnit : ℚ
  price : ℚ
  minTopUp : Int
  topupGroupRatio : String → Option ℚ
  amountDiscount : Int → Option ℚ
  /-- The `type` of each of `PayMethods`. -/
  payMethods : List String

structure EpayRequest where
  amount : Int
  paymentMethod : String
  int64 : -(2 ^ 63) ≤ amount ∧ amount < 2 ^ 63

/-- What the calls of `RequestEpay` to other packages return. -/
structure EpayCalls where
  /-- `GetUserGroup`; `none` is its error. -/
  group : Option String
  /-- `GetEpayClient() != nil`. -/
  client : Bool
  purchased : Bool
  inserted : Bool
  now : Int

inductive EpayRefusal where
  /-- The answer's `data`. -/
  | data (text : String)
  /-- `decimal.Div` by zero. -/
  | panicked

namespace EpaySettings

variable (s : EpaySettings)

def inTokens : Bool := s.quotaDisplayType == "TOKENS"

def getTopupGroupRatio (group : String) : ℚ := (s.topupGroupRatio group).getD 1

/-- The whole discount, of which only a positive one counts. -/
def discount (amount : Int) : ℚ :=
  match s.amountDiscount amount with
  | some ds => if 0 < ds then ds else 1
  | none => 1

/-- The amount in units: `dAmount` after the display type is taken into account. -/
def units (amount : Int) : ℚ := if s.inTokens then amount / s.quotaPerUnit else amount

/-- The ratio the price is multiplied by; one that is configured as zero counts as one. -/
def groupFactor (group : String) : ℚ :=
  if s.getTopupGroupRatio group = 0 then 1 else s.getTopupGroupRatio group

def getPayMoney (amount : Int) (group : String) : Option ℚ :=
  if s.inTokens ∧ s.quotaPerUnit = 0 then none
  else some (s.units amount * s.price * s.groupFactor group * s.discount amount)

def getMinTopup : Int :=
  if s.inTokens then toQuota (s.minTopUp * s.quotaPerUnit) else s.minTopUp

/-- The amount `RequestEpay` stores. -/
def storedAmount (amount : Int) : Int :=
  if s.inTokens then toQuota (amount / s.quotaPerUnit) else amount

def requestEpay (calls : EpayCalls) (id : Nat) (req : EpayRequest) : Except EpayRefusal TopUp :=
  if req.amount < s.getMinTopup then
    .error (.data ("充值数量不能小于 " ++ toString s.getMinTopup))
  else match calls.group with
    | none => .error (.data "获取用户分组失败")
    | some group =>
      match s.getPayMoney req.amount group with
      | none => .error .panicked
      | some payMoney =>
        if payMoney < 0.01 then .error (.data "充值金额过低")
        else if req.paymentMethod ∉ s.payMethods then .error (.data "支付方式不存在")
        else if !calls.client then .error (.data "当前管理员未配置支付信息")
        else if !calls.purchased then .error (.data "拉起支付失败")
        else if !calls.inserted then .error (.data "创建订单失败")
        else .ok
          { userId := id, amount := s.storedAmount req.amount, money := payMoney
            paymentMethod := req.paymentMethod, paymentProvider := .epay
            createTime := calls.now, completeTime := 0, status := .pending }

/-- What `EpayNotify` credits for an order that is paid, none of its statements failing:
`IncreaseUserQuota` refuses a negative quota. -/
def epayCredit (t : TopUp) : Option Int :=
  let quotaToAdd := epayQuota s.quotaPerUnit t
  if t.paymentProvider ≠ .epay ∨ t.status ≠ .pending ∨ quotaToAdd < 0 then none
  else some quotaToAdd

/-! ## What was asked for -/

/-- The quota the customer asks for. -/
def asked (amount : Int) : ℚ :=
  if s.inTokens then amount else amount * s.quotaPerUnit

def CreditsAsked (t : TopUp) (amount : Int) : Prop :=
  ∃ quota : Int, s.epayCredit t = some quota ∧ (quota : ℚ) = s.asked amount

/-- The amount is a whole number of units that come to a whole quota, and an `int64`
holds both. -/
def WholeUnits (amount : Int) : Prop :=
  ∃ units quota : Int, Natural64 units ∧ Natural64 quota ∧
    units * s.quotaPerUnit = quota ∧ amount = if s.inTokens then quota else units

/-! ## An accepted request -/

/-- What the checks leave: the order, the customer's group, and a price that is not zero. -/
theorem requestEpay_ok {s : EpaySettings} {calls : EpayCalls} {id : Nat} {req : EpayRequest}
    {t : TopUp} (h : s.requestEpay calls id req = .ok t) :
    t.amount = s.storedAmount req.amount ∧ t.paymentProvider = .epay ∧ t.status = .pending ∧
      ∃ group, s.getPayMoney req.amount group = some t.money ∧ 0.01 ≤ t.money := by
  have hmin : ¬ req.amount < s.getMinTopup := by
    intro hlow
    simp [requestEpay, hlow] at h
  rw [requestEpay, if_neg hmin] at h
  cases hgroup : calls.group with
  | none => simp [hgroup] at h
  | some group =>
    cases hmoney : s.getPayMoney req.amount group with
    | none => simp [hgroup, hmoney] at h
    | some payMoney =>
      simp only [hgroup, hmoney] at h
      split_ifs at h with hlow
      injection h with horder
      subst horder
      exact ⟨rfl, rfl, rfl, group, hmoney, not_lt.mp hlow⟩

variable {s}

theorem discount_pos (amount : Int) : 0 < s.discount amount := by
  unfold discount
  cases s.amountDiscount amount with
  | none => exact one_pos
  | some ds =>
    by_cases hds : 0 < ds
    · simp [hds]
    · simp [hds]

theorem units_pos (hprice : 0 < s.price)
    (hratio : ∀ group ratio, s.topupGroupRatio group = some ratio → 0 ≤ ratio)
    {amount : Int} {group : String} {money : ℚ} (h : s.getPayMoney amount group = some money)
    (hmoney : 0.01 ≤ money) : 0 < s.units amount := by
  unfold getPayMoney at h
  split_ifs at h
  injection h with h
  have hgroup : 0 ≤ s.getTopupGroupRatio group := by
    unfold getTopupGroupRatio
    cases hr : s.topupGroupRatio group with
    | none => norm_num
    | some ratio => exact hratio group ratio hr
  have hfactor : 0 < s.groupFactor group := by
    unfold groupFactor
    split_ifs with hr
    · exact one_pos
    · exact lt_of_le_of_ne hgroup (Ne.symm hr)
  have hpaid : 0 < s.units amount * s.price * s.groupFactor group * s.discount amount :=
    h ▸ lt_of_lt_of_le (by norm_num) hmoney
  rw [mul_pos_iff_of_pos_right (discount_pos amount), mul_pos_iff_of_pos_right hfactor,
    mul_pos_iff_of_pos_right hprice] at hpaid
  exact hpaid

theorem toQuota_natural {x : Int} (h : Natural64 x) : toQuota x = x := by
  obtain ⟨n, rfl⟩ := Int.eq_ofNat_of_zero_le h.1
  exact_mod_cast toQuota_natCast (by exact_mod_cast h.2)

theorem toQuota_floor {q : ℚ} (h : 0 ≤ q) (hfits : ⌊q⌋ < 2 ^ 63) : toQuota q = ⌊q⌋ := by
  unfold toQuota
  rw [show intPart q = ⌊q⌋ from if_pos h]
  exact Natural64.wrap64 ⟨Int.floor_nonneg.mpr h, hfits⟩

theorem toQuota_le {q : ℚ} (h : 0 ≤ q) : (toQuota q : ℚ) ≤ q := by
  have hle : toQuota q ≤ ⌊q⌋ := by
    unfold toQuota
    rw [show intPart q = ⌊q⌋ from if_pos h]
    exact wrap64_le (Int.floor_nonneg.mpr h)
  exact le_trans (by exact_mod_cast hle) (Int.floor_le q)

theorem toQuota_nonpos {q : ℚ} (h : q < 0) (hfits : -(2 ^ 63) ≤ q) : toQuota q ≤ 0 := by
  have hup : ⌈q⌉ ≤ 0 := Int.ceil_le.mpr (by exact_mod_cast h.le)
  have hlow : ((-(2 ^ 63) : Int) : ℚ) ≤ ⌈q⌉ := by
    push_cast
    exact le_trans hfits (Int.le_ceil q)
  unfold toQuota
  rw [show intPart q = ⌈q⌉ from if_neg (not_le.mpr h)]
  rw [wrap64_of_fits (by exact_mod_cast hlow) (by omega)]
  exact hup

theorem tokens_come_back {perUnit : ℚ} {tokens : Int} (htokens : Natural64 tokens)
    (hunits : 0 < tokens / perUnit) :
    toQuota ((toQuota (tokens / perUnit) : ℚ) * perUnit) = tokens ↔
      ∃ units : Int, Natural64 units ∧ units * perUnit = tokens := by
  have hpos : (0 : ℚ) < tokens := by
    refine lt_of_le_of_ne (by exact_mod_cast htokens.1) fun hzero => ?_
    simp [← hzero] at hunits
  have hper : 0 < perUnit := (div_pos_iff_of_pos_left hpos).mp hunits
  constructor
  · intro hback
    have hrange := wrap64_range (intPart (tokens / perUnit))
    change -(2 ^ 63) ≤ toQuota (tokens / perUnit) ∧ toQuota (tokens / perUnit) < 2 ^ 63 at hrange
    have hle : (toQuota (tokens / perUnit) : ℚ) * perUnit ≤ tokens :=
      (le_div_iff₀ hper).mp (toQuota_le hunits.le)
    have hlarge : ¬ 0 ≤ toQuota (tokens / perUnit) → (2 : ℚ) ^ 63 ≤ tokens / perUnit := by
      intro hneg
      by_contra hsmall
      refine hneg ?_
      rw [toQuota_floor hunits.le (Int.floor_lt.mpr (by exact_mod_cast not_le.mp hsmall))]
      exact Int.floor_nonneg.mpr hunits.le
    generalize toQuota (tokens / perUnit) = stored at hback hrange hle hlarge
    by_cases h0 : 0 ≤ stored
    · -- nothing may be cut off, since the stored units are not more than the tokens
      have hprod : 0 ≤ (stored : ℚ) * perUnit := mul_nonneg (by exact_mod_cast h0) hper.le
      have hfloor : ⌊(stored : ℚ) * perUnit⌋ ≤ tokens := by exact_mod_cast Int.floor_le_floor hle
      rw [toQuota_floor hprod (lt_of_le_of_lt hfloor htokens.2)] at hback
      exact ⟨stored, ⟨h0, hrange.2⟩, le_antisymm hle (hback ▸ Int.floor_le _)⟩
    · -- the units did not fit, so that one of them is less than one token
      have hone : perUnit < 1 := by
        have hfew : (tokens : ℚ) < 2 ^ 63 := by exact_mod_cast htokens.2
        have hmany := (le_div_iff₀ hper).mp (hlarge h0)
        linarith
      have hlow : (-(2 ^ 63) : ℚ) ≤ stored := by exact_mod_cast hrange.1
      have hneg : (stored : ℚ) < 0 := by exact_mod_cast not_le.mp h0
      have hnone := toQuota_nonpos (mul_neg_of_neg_of_pos hneg hper) (by nlinarith)
      have hsome : 0 < tokens := by exact_mod_cast hpos
      omega
  · rintro ⟨units, hfits, heq⟩
    have hdiv : (tokens : ℚ) / perUnit = units := by rw [← heq, mul_div_cancel_right₀ _ hper.ne']
    rw [hdiv, toQuota_natural hfits, heq, toQuota_natural htokens]

/-- What an order credits is what was asked for, for exactly the amounts that come to whole
units of a whole quota. -/
theorem accepted_credits_iff (s : EpaySettings) (calls : EpayCalls) (id : Nat)
    (req : EpayRequest) (t : TopUp) (hprice : 0 < s.price)
    (hratio : ∀ group ratio, s.topupGroupRatio group = some ratio → 0 ≤ ratio)
    (haccepted : s.requestEpay calls id req = .ok t) :
    s.CreditsAsked t req.amount ↔ s.WholeUnits req.amount := by
  obtain ⟨hamount, hprovider, hstatus, group, hmoney, hpaid⟩ := requestEpay_ok haccepted
  have hunits := units_pos hprice hratio hmoney hpaid
  have hcredit : ∀ quota : Int, s.epayCredit t = some quota ↔
      toQuota (s.storedAmount req.amount * s.quotaPerUnit) = quota ∧ 0 ≤ quota := by
    intro quota
    simp only [epayCredit, epayQuota, hamount, hprovider, hstatus, ne_eq, not_true_eq_false,
      false_or]
    split_ifs with hneg
    · exact iff_of_false (by simp) fun ⟨heq, h0⟩ => absurd (heq ▸ hneg) (not_lt.mpr h0)
    · rw [Option.some.injEq]
      exact ⟨fun heq => ⟨heq, heq ▸ not_lt.mp hneg⟩, And.left⟩
  cases htokens : s.inTokens with
  | true =>
    simp only [CreditsAsked, WholeUnits, hcredit, asked, storedAmount, units, htokens, if_true]
      at hunits ⊢
    constructor
    · rintro ⟨quota, ⟨hquota, h0⟩, heq⟩
      obtain rfl : quota = req.amount := by exact_mod_cast heq
      have hnat : Natural64 req.amount := ⟨h0, req.int64.2⟩
      obtain ⟨units, hfits, hmul⟩ := (tokens_come_back hnat hunits).mp hquota
      exact ⟨units, req.amount, hfits, hnat, hmul, rfl⟩
    · rintro ⟨units, quota, hfits, hnat, hmul, rfl⟩
      exact ⟨_, ⟨(tokens_come_back hnat hunits).mpr ⟨units, hfits, hmul⟩, hnat.1⟩, rfl⟩
  | false =>
    simp only [CreditsAsked, WholeUnits, hcredit, asked, storedAmount, units, htokens,
      Bool.false_eq_true, if_false] at hunits ⊢
    constructor
    · rintro ⟨quota, ⟨hquota, h0⟩, heq⟩
      have hrange := wrap64_range (intPart (req.amount * s.quotaPerUnit))
      have hpos : 0 < req.amount := by exact_mod_cast hunits
      exact ⟨req.amount, quota, ⟨hpos.le, req.int64.2⟩, ⟨h0, hquota ▸ hrange.2⟩, heq.symm, rfl⟩
    · rintro ⟨units, quota, -, hnat, hmul, rfl⟩
      exact ⟨quota, ⟨by rw [hmul, toQuota_natural hnat], hnat.1⟩, hmul.symm⟩

/-! A dollar for half a million of quota. -/

def shop : EpaySettings :=
  ⟨"TOKENS", 500000, 1, 1, fun _ => none, fun _ => none, ["alipay"]⟩

def answers : EpayCalls := ⟨some "default", true, true, true, 100⟩

def tokensOrder (units : Int) (money : ℚ) : TopUp :=
  ⟨7, units, money, "alipay", .epay, 100, 0, .pending⟩

theorem shop_accepts {tokens : Int} (hint : -(2 ^ 63) ≤ tokens ∧ tokens < 2 ^ 63)
    (hmin : 500000 ≤ tokens) : shop.requestEpay answers 7 ⟨tokens, "alipay", hint⟩
      = .ok (tokensOrder (toQuota (tokens / 500000)) (tokens / 500000)) := by
  have hone : toQuota 500000 = 500000 := by
    exact_mod_cast toQuota_natCast (n := 500000) (by norm_num)
  have hpaid : ¬ (tokens : ℚ) / 500000 < 0.01 := by
    have hq : (500000 : ℚ) ≤ tokens := by exact_mod_cast hmin
    rw [not_lt, le_div_iff₀ (by norm_num)]
    linarith
  simp [requestEpay, getMinTopup, getPayMoney, units, groupFactor, getTopupGroupRatio, discount,
    storedAmount, inTokens, shop, answers, tokensOrder, hone, hpaid, hmin]

/-- A million tokens for two dollars. -/
theorem million_tokens : shop.CreditsAsked (tokensOrder (toQuota ((1000000 : Int) / 500000))
      ((1000000 : Int) / 500000)) 1000000 ↔ shop.WholeUnits 1000000 :=
  accepted_credits_iff shop answers 7 ⟨1000000, "alipay", by norm_num⟩ _ (by norm_num [shop])
    (fun _ _ h => by cases h) (shop_accepts _ (by norm_num))

/-- Of three quarters of a million tokens, a dollar and a half is paid for and half a
million credited. -/
theorem half_dollar_lost : ¬ ∀ (s : EpaySettings) (calls : EpayCalls) (id : Nat)
    (req : EpayRequest) (t : TopUp), 0 < s.price →
      (∀ group ratio, s.topupGroupRatio group = some ratio → 0 ≤ ratio) →
      s.requestEpay calls id req = .ok t → s.CreditsAsked t req.amount := by
  intro hall
  obtain ⟨quota, hcredit, hasked⟩ := hall shop answers 7 ⟨750000, "alipay", by norm_num⟩ _
    (by norm_num [shop]) (fun _ _ h => by cases h) (shop_accepts _ (by norm_num))
  have hstored : toQuota ((750000 : Int) / 500000) = 1 := by
    have hfloor : ⌊((750000 : Int) : ℚ) / 500000⌋ = 1 := Int.floor_eq_iff.mpr (by norm_num)
    rw [toQuota_floor (by norm_num) (by rw [hfloor]; norm_num), hfloor]
  have hback : toQuota (((1 : Int) : ℚ) * 500000) = 500000 := by
    rw [Int.cast_one, one_mul]
    exact_mod_cast toQuota_natCast (n := 500000) (by norm_num)
  simp only [hstored] at hcredit
  simp only [epayCredit, epayQuota, tokensOrder, shop, hback] at hcredit
  obtain rfl : 500000 = quota := by simpa using hcredit
  norm_num [asked, inTokens, shop] at hasked

end EpaySettings

end YouBox
