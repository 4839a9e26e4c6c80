import YouBox.SubConsume
import YouBox.TopUp

/-!
# Agent authorization codes

`CreateAgentAuthCode` and `ConsumeAgentAuthCode`, any number of calls
interleaved, in both storage modes. With Redis a step is a command: SET, GET,
DEL, each able to fail. In memory a step is a section under the mutex, which
looks a code up, removes it and judges the request in one go.

With Redis a call that has read a code goes on to DEL it, whatever the answer,
so two calls may both have read it. Where DEL still finds the code
(`delFinds`; nothing to ask in memory), removing it is what a call has to do
first before it can succeed or fail on what it read, and the rule for things
spent once applies.
-/

namespace YouBox

/-! ## PKCE -/

/-- `sha256` with the base64 encoding of `pkceS256`. -/
structure AgentLib where
  pkceS256 : String → String

def isPKCEString (value : String) : Bool :=
  value.toList.all (fun r => (decide ('a' ≤ r) && decide (r ≤ 'z')) ||
    (decide ('A' ≤ r) && decide (r ≤ 'Z')) || (decide ('0' ≤ r) && decide (r ≤ '9')) ||
    r == '-' || r == '.' || r == '_' || r == '~') && value != ""

def pkceShape (value : String) : Bool :=
  decide (43 ≤ value.utf8ByteSize) && decide (value.utf8ByteSize ≤ 128) && isPKCEString value

def validatePKCEChallenge (challenge method : String) : Except String Unit :=
  if method ≠ "S256" then .error "unsupported code_challenge_method"
  else if !pkceShape challenge then .error "invalid code_challenge"
  else .ok ()

def validatePKCEVerifier (verifier : String) : Except String Unit :=
  if !pkceShape verifier then .error "invalid code_verifier" else .ok ()

def AgentLib.verifyPKCE (lib : AgentLib) (challenge method verifier : String) :
    Except String Unit := do
  validatePKCEVerifier verifier
  validatePKCEChallenge challenge method
  if lib.pkceS256 verifier ≠ challenge then .error "code_verifier mismatch" else .ok ()

theorem pkceS256_of_verifyPKCE {lib : AgentLib} {challenge method verifier : String}
    (h : lib.verifyPKCE challenge method verifier = .ok ()) :
    lib.pkceS256 verifier = challenge := by
  unfold AgentLib.verifyPKCE at h
  cases hv : validatePKCEVerifier verifier with
  | error e => rw [hv] at h; cases h
  | ok u =>
    rw [hv] at h
    cases hc : validatePKCEChallenge challenge method with
    | error e => rw [hc] at h; cases h
    | ok u =>
      rw [hc] at h
      by_contra hne
      simp [bind, Except.bind, hne] at h

/-! ## Payloads -/

def agentClientID : String := "youbox-agent"

/-- `AgentAuthCodeTTL`, in nanoseconds. -/
def agentAuthCodeTTL : Int := 300 * 10 ^ 9

structure AgentAuthCodePayload where
  userId : Int
  clientId : String
  deviceId : String
  deviceLabel : String
  state : String
  codeChallenge : String
  codeChallengeMethod : String
deriving DecidableEq

structure AgentAuthCodeEntry where
  payload : AgentAuthCodePayload
  expiresAt : Int
deriving DecidableEq

def AgentAuthCodePayload.trim (p : AgentAuthCodePayload) : AgentAuthCodePayload :=
  ⟨p.userId, trimSpace p.clientId, trimSpace p.deviceId, trimSpace p.deviceLabel,
    trimSpace p.state, trimSpace p.codeChallenge, trimSpace p.codeChallengeMethod⟩

/-- The checks of `CreateAgentAuthCode` on the trimmed payload. -/
def AgentAuthCodePayload.validate (p : AgentAuthCodePayload) : Except String Unit :=
  if p.userId ≤ 0 ∨ p.clientId = "" ∨ p.deviceId = "" ∨ p.deviceLabel = "" ∨ p.state = "" then
    .error "invalid auth code payload"
  else if p.clientId ≠ agentClientID then .error "unsupported client_id"
  else validatePKCEChallenge p.codeChallenge p.codeChallengeMethod

structure ConsumeArgs where
  code : String
  clientId : String
  state : String
  deviceId : String
  codeVerifier : String
deriving DecidableEq

def ConsumeArgs.trim (a : ConsumeArgs) : ConsumeArgs :=
  ⟨trimSpace a.code, trimSpace a.clientId, trimSpace a.state, trimSpace a.deviceId,
    trimSpace a.codeVerifier⟩

/-- What `ConsumeAgentAuthCode` asks of a payload it has found, its arguments
trimmed. -/
def AgentLib.judge (lib : AgentLib) (a : ConsumeArgs) (p : AgentAuthCodePayload) :
    Except String Unit :=
  if p.clientId ≠ a.clientId ∨ p.state ≠ a.state ∨ p.deviceId ≠ a.deviceId then
    .error "auth code mismatch"
  else lib.verifyPKCE p.codeChallenge p.codeChallengeMethod a.codeVerifier

theorem judge_ok {lib : AgentLib} {a : ConsumeArgs} {p : AgentAuthCodePayload}
    (h : lib.judge a p = .ok ()) :
    p.clientId = a.clientId ∧ p.state = a.state ∧ p.deviceId = a.deviceId ∧
      lib.pkceS256 a.codeVerifier = p.codeChallenge := by
  unfold AgentLib.judge at h
  split at h
  · cases h
  · rename_i hsame
    simp only [not_or, not_not] at hsame
    exact ⟨hsame.1, hsame.2.1, hsame.2.2, pkceS256_of_verifyPKCE h⟩

/-! ## Codes -/

/-- The codes stored, and the history of all that have been. -/
structure AgentCodes where
  items : String → Option AgentAuthCodeEntry
  made : List (String × AgentAuthCodeEntry)

namespace AgentCodes

def put (s : AgentCodes) (code : String) (e : AgentAuthCodeEntry) : AgentCodes :=
  ⟨Function.update s.items code (some e), s.made ++ [(code, e)]⟩

def delete (s : AgentCodes) (code : String) : AgentCodes :=
  { s with items := Function.update s.items code none }

/-- `purgeExpiredLocked` -/
def purgeExpired (s : AgentCodes) (now : Int) : AgentCodes :=
  { s with items := fun code => (s.items code).filter (fun e => !decide (e.expiresAt < now)) }

end AgentCodes

inductive AgentCodeCall where
  | createAgentAuthCode (payload : AgentAuthCodePayload)
  | consumeAgentAuthCode (args : ConsumeArgs)
deriving DecidableEq

inductive AgentCodeErr where
  | text (msg : String)
  /-- the error of `GenerateRandomCharsKey` -/
  | rand
  /-- the error of the SET -/
  | redis
deriving DecidableEq

/-- Where a call stands; `at_` is when it has found its code. -/
inductive AgentCodePc where
  | start
  | put (code : String) (e : AgentAuthCodeEntry)
  | created (code : String)
  | lookup
  | del (e : AgentAuthCodeEntry) (at_ : Int)
  | check (e : AgentAuthCodeEntry) (at_ : Int)
  | consumed (payload : AgentAuthCodePayload) (at_ : Int)
  /-- failed on a code it has found -/
  | rejected (err : AgentCodeErr)
  /-- failed without one -/
  | refused (err : AgentCodeErr)
deriving DecidableEq

structure AgentCodeThread where
  call : AgentCodeCall
  pc : AgentCodePc
deriving DecidableEq

/-- What a step finds outside of the store: whether its command fails, the time,
and the random key. -/
structure AgentCodeTick extends Tick where
  key : Option String

section

variable (lib : AgentLib) (redis : Bool)

def createCodeStep (payload : AgentAuthCodePayload) (tick : AgentCodeTick) (s : AgentCodes) :
    AgentCodePc → Option (AgentCodes × AgentCodePc)
  | .start =>
    match payload.trim.validate with
    | .error err => some (s, .refused (.text err))
    | .ok _ =>
      match tick.key with
      | none => some (s, .refused .rand)
      | some code => some (s, .put code ⟨payload.trim, tick.now + agentAuthCodeTTL⟩)
  | .put code e =>
    -- a random key of 48 characters is not drawn twice
    if code ∈ s.made.map Prod.fst then none
    else if redis then
      if tick.fails then some (s, .refused .redis)
      else some (s.put code ⟨e.payload, tick.now + agentAuthCodeTTL⟩, .created code)
    else some ((s.purgeExpired tick.now).put code e, .created code)
  | _ => none

/-- What a call that has removed its code returns. -/
def AgentLib.outcome (a : ConsumeArgs) (e : AgentAuthCodeEntry) (at_ : Int) : AgentCodePc :=
  match lib.judge a e.payload with
  | .error err => .rejected (.text err)
  | .ok _ => .consumed e.payload at_

/-- One step of `ConsumeAgentAuthCode`, its arguments trimmed. -/
def consumeCodeStep (a : ConsumeArgs) (tick : AgentCodeTick) (s : AgentCodes) :
    AgentCodePc → Option (AgentCodes × AgentCodePc)
  | .start => some (s, if a.code = "" then .refused (.text "empty auth code") else .lookup)
  | .lookup =>
    match s.items a.code with
    | none => some (s, .refused (.text "invalid or expired auth code"))
    | some e =>
      if redis then
        if tick.fails ∨ e.expiresAt ≤ tick.now then
          some (s, .refused (.text "invalid or expired auth code"))
        else some (s, .del e tick.now)
      else if e.expiresAt < tick.now then
        some (s.delete a.code, .refused (.text "invalid or expired auth code"))
      else some (s.delete a.code, lib.outcome a e tick.now)
  | .del e at_ => some (if tick.fails then s else s.delete a.code, .check e at_)
  | .check e at_ => some (s, lib.outcome a e at_)
  | _ => none

def AgentCodeCall.next (tick : AgentCodeTick) (s : AgentCodes) (pc : AgentCodePc) :
    AgentCodeCall → Option (AgentCodes × AgentCodePc)
  | .createAgentAuthCode payload => createCodeStep redis payload tick s pc
  | .consumeAgentAuthCode args => consumeCodeStep lib redis args.trim tick s pc

def agentCodeMachine : Sched.Machine AgentCodes AgentCodeThread AgentCodeTick where
  next tick s t := (t.call.next lib redis tick s t.pc).map (fun p => (p.1, { t with pc := p.2 }))

end

/-- Any number of calls about to start; no code has been made. -/
def agentCodeStart (calls : List AgentCodeCall) : Sched.Conf AgentCodes AgentCodeThread :=
  ⟨⟨fun _ => none, []⟩, calls.map (fun call => ⟨call, .start⟩)⟩

/-! ## What is spent -/

/-- The call has removed the code it asks for: it has succeeded or failed with
it, or is about to. -/
def AgentCodeThread.removed (code : String) (t : AgentCodeThread) : Prop :=
  match t.call, t.pc with
  | .consumeAgentAuthCode a, .check _ _ => trimSpace a.code = code
  | .consumeAgentAuthCode a, .consumed _ _ => trimSpace a.code = code
  | .consumeAgentAuthCode a, .rejected _ => trimSpace a.code = code
  | _, _ => False

/-- The call has returned the payload of the code. -/
def AgentCodeThread.redeems (code : String) (t : AgentCodeThread) : Prop :=
  match t.call, t.pc with
  | .consumeAgentAuthCode a, .consumed _ _ => trimSpace a.code = code
  | _, _ => False

/-- The call has found the code and failed. -/
def AgentCodeThread.spoils (code : String) (t : AgentCodeThread) : Prop :=
  match t.call, t.pc with
  | .consumeAgentAuthCode a, .rejected _ => trimSpace a.code = code
  | _, _ => False

/-- The code a call is about to DEL. -/
def AgentCodeThread.deleting (t : AgentCodeThread) : Option String :=
  match t.call, t.pc with
  | .consumeAgentAuthCode a, .del _ _ => some (trimSpace a.code)
  | _, _ => none

/-- With Redis, a DEL goes through and finds the code it removes. -/
def delFinds (redis : Bool) : Sched.Guard AgentCodes AgentCodeThread AgentCodeTick :=
  fun c i tick => redis = true → ∀ t ∈ c.threads[i]?, ∀ code ∈ t.deleting,
    (c.store.items code).isSome = true ∧ tick.fails = false

instance (redis : Bool) (c : Sched.Conf AgentCodes AgentCodeThread) (i : Nat)
    (tick : AgentCodeTick) : Decidable (delFinds redis c i tick) :=
  inferInstanceAs (Decidable (redis = true → ∀ t ∈ c.threads[i]?, ∀ code ∈ t.deleting,
    (c.store.items code).isSome = true ∧ tick.fails = false))

/-! ## What one step does -/

/-- Everything a step of a call can be; `del` is the DEL of a call with Redis. -/
inductive AgentCodeStep (lib : AgentLib) (redis fails : Bool) (s : AgentCodes) :
    AgentCodeCall → AgentCodePc → AgentCodes → AgentCodePc → Prop
  | idle {call pc pc' s'} : (∀ k, s'.items k = s.items k ∨ s'.items k = none) →
      s'.made = s.made →
      (pc' = .lookup ∨ (∃ err, pc' = .refused err) ∨ ∃ code e, pc' = .put code e) →
      AgentCodeStep lib redis fails s call pc s' pc'
  | put {payload code e e' items} : code ∉ s.made.map Prod.fst →
      (∀ k, items k = s.items k ∨ items k = none) →
      AgentCodeStep lib redis fails s (.createAgentAuthCode payload) (.put code e)
        (AgentCodes.put ⟨items, s.made⟩ code e') (.created code)
  | find {args e now} : redis = true → s.items (trimSpace args.code) = some e → now < e.expiresAt →
      AgentCodeStep lib redis fails s (.consumeAgentAuthCode args) .lookup s (.del e now)
  | take {args e now} : s.items (trimSpace args.code) = some e → now ≤ e.expiresAt →
      AgentCodeStep lib redis fails s (.consumeAgentAuthCode args) .lookup
        (s.delete (trimSpace args.code)) (lib.outcome args.trim e now)
  | del {args e at_} :
      AgentCodeStep lib redis fails s (.consumeAgentAuthCode args) (.del e at_)
        (if fails then s else s.delete (trimSpace args.code)) (.check e at_)
  | check {args e at_} :
      AgentCodeStep lib redis fails s (.consumeAgentAuthCode args) (.check e at_) s
        (lib.outcome args.trim e at_)

variable {tick : AgentCodeTick} {s s' : AgentCodes} {redis : Bool} {args : ConsumeArgs}

theorem codeStep_of_create {lib : AgentLib} {payload : AgentAuthCodePayload} {pc pc' : AgentCodePc}
    (h : createCodeStep redis payload tick s pc = some (s', pc')) :
    AgentCodeStep lib redis tick.fails s (.createAgentAuthCode payload) pc s' pc' := by
  cases pc with
  | start =>
    simp only [createCodeStep] at h
    split at h
    · cases h
      exact .idle (fun _ => Or.inl rfl) rfl (Or.inr (Or.inl ⟨_, rfl⟩))
    · split at h
      · cases h
        exact .idle (fun _ => Or.inl rfl) rfl (Or.inr (Or.inl ⟨_, rfl⟩))
      · cases h
        exact .idle (fun _ => Or.inl rfl) rfl (Or.inr (Or.inr ⟨_, _, rfl⟩))
  | put code e =>
    simp only [createCodeStep] at h
    split at h
    · cases h
    · rename_i hfresh
      split at h
      · split at h
        · cases h
          exact .idle (fun _ => Or.inl rfl) rfl (Or.inr (Or.inl ⟨_, rfl⟩))
        · cases h
          exact .put hfresh (fun _ => Or.inl rfl)
      · cases h
        refine .put hfresh (fun k => ?_)
        cases hk : s.items k with
        | none => exact Or.inl (by simp)
        | some e₀ =>
          by_cases hexp : e₀.expiresAt < tick.now
          · exact Or.inr (by simp [hexp])
          · exact Or.inl (by simp [hexp])
  | created | lookup | del | check | consumed | rejected | refused => cases h

theorem delete_items (s : AgentCodes) (code k : String) :
    (s.delete code).items k = s.items k ∨ (s.delete code).items k = none := by
  by_cases hk : k = code
  · exact Or.inr (by simp [AgentCodes.delete, hk])
  · exact Or.inl (by simp [AgentCodes.delete, hk])

theorem delete_made (s : AgentCodes) (code : String) : (s.delete code).made = s.made := rfl

theorem codeStep_of_consume {lib : AgentLib} {pc pc' : AgentCodePc}
    (h : consumeCodeStep lib redis args.trim tick s pc = some (s', pc')) :
    AgentCodeStep lib redis tick.fails s (.consumeAgentAuthCode args) pc s' pc' := by
  cases pc with
  | start =>
    simp only [consumeCodeStep] at h
    cases h
    split
    · exact .idle (fun _ => Or.inl rfl) rfl (Or.inr (Or.inl ⟨_, rfl⟩))
    · exact .idle (fun _ => Or.inl rfl) rfl (Or.inl rfl)
  | lookup =>
    simp only [consumeCodeStep] at h
    split at h
    · cases h
      exact .idle (fun _ => Or.inl rfl) rfl (Or.inr (Or.inl ⟨_, rfl⟩))
    · rename_i e he
      split at h
      · rename_i hredis
        split at h
        · cases h
          exact .idle (fun _ => Or.inl rfl) rfl (Or.inr (Or.inl ⟨_, rfl⟩))
        · rename_i hlive
          cases h
          exact .find hredis he (by omega)
      · split at h
        · obtain ⟨rfl, rfl⟩ := Prod.mk.inj (Option.some.inj h)
          exact .idle (delete_items s _) (delete_made s _) (Or.inr (Or.inl ⟨_, rfl⟩))
        · rename_i hlive
          obtain ⟨rfl, rfl⟩ := Prod.mk.inj (Option.some.inj h)
          exact .take he (by omega)
  | del e at_ =>
    simp only [consumeCodeStep] at h
    cases h
    exact .del
  | check e at_ =>
    simp only [consumeCodeStep] at h
    cases h
    exact .check
  | put | created | consumed | rejected | refused => cases h

theorem agentCodeMachine_next {lib : AgentLib} {t t' : AgentCodeThread}
    (h : (agentCodeMachine lib redis).next tick s t = some (s', t')) :
    t'.call = t.call ∧ AgentCodeStep lib redis tick.fails s t.call t.pc s' t'.pc := by
  simp only [agentCodeMachine, Option.map_eq_some_iff, Prod.mk.injEq] at h
  obtain ⟨⟨s₁, pc'⟩, hn, rfl, rfl⟩ := h
  refine ⟨rfl, ?_⟩
  cases hcall : t.call with
  | createAgentAuthCode payload =>
    rw [hcall] at hn
    exact codeStep_of_create hn
  | consumeAgentAuthCode args =>
    rw [hcall] at hn
    exact codeStep_of_consume hn

/-! ## The invariant -/

/-- `p` is what was stored with the code of `a`, found at `at_` before it
expired. -/
def FoundFor (s : AgentCodes) (a : ConsumeArgs) (e : AgentAuthCodeEntry) (at_ : Int) : Prop :=
  (trimSpace a.code, e) ∈ s.made ∧ at_ ≤ e.expiresAt

/-- What a successful call has been asked: the client, state and device stored
with the code, and a verifier whose hash is the stored challenge. -/
def Entitled (lib : AgentLib) (a : ConsumeArgs) (p : AgentAuthCodePayload) : Prop :=
  p.clientId = trimSpace a.clientId ∧ p.state = trimSpace a.state ∧
    p.deviceId = trimSpace a.deviceId ∧ lib.pkceS256 (trimSpace a.codeVerifier) = p.codeChallenge

def AgentCodeOk (lib : AgentLib) (redis : Bool) (s : AgentCodes) (t : AgentCodeThread) : Prop :=
  match t.call, t.pc with
  | .consumeAgentAuthCode a, .del e at_ => redis = true ∧ FoundFor s a e at_
  | .consumeAgentAuthCode a, .check e at_ => FoundFor s a e at_
  | .consumeAgentAuthCode a, .consumed p at_ =>
    ∃ e, FoundFor s a e at_ ∧ p = e.payload ∧ Entitled lib a p
  | _, _ => True

structure AgentCodeInv (lib : AgentLib) (redis : Bool)
    (c : Sched.Conf AgentCodes AgentCodeThread) : Prop where
  items : ∀ k e, c.store.items k = some e → (k, e) ∈ c.store.made
  calls : ∀ t ∈ c.threads, AgentCodeOk lib redis c.store t

section

variable {lib : AgentLib} {redis fails : Bool} {s s' : AgentCodes} {call : AgentCodeCall}
  {pc pc' : AgentCodePc}

theorem AgentCodeStep.made (h : AgentCodeStep lib redis fails s call pc s' pc') :
    s.made ⊆ s'.made := by
  cases h with
  | idle hitems hmade hpc => exact hmade ▸ List.Subset.refl _
  | put hfresh hitems => exact List.subset_append_left _ _
  | find hredis he hlive => exact List.Subset.refl _
  | take he hlive =>
    rw [delete_made]
    exact List.Subset.refl _
  | del =>
    split
    · exact List.Subset.refl _
    · rw [delete_made]
      exact List.Subset.refl _
  | check => exact List.Subset.refl _

theorem AgentCodeStep.items (h : AgentCodeStep lib redis fails s call pc s' pc')
    (hitems : ∀ k e, s.items k = some e → (k, e) ∈ s.made) :
    ∀ k e, s'.items k = some e → (k, e) ∈ s'.made := by
  have hless : ∀ {items : String → Option AgentAuthCodeEntry},
      (∀ k, items k = s.items k ∨ items k = none) → ∀ k e, items k = some e → (k, e) ∈ s.made := by
    intro items hle k e hk
    rcases hle k with heq | hnone
    · exact hitems k e (heq ▸ hk)
    · rw [hnone] at hk
      cases hk
  cases h with
  | idle hle hmade hpc =>
    rw [hmade]
    exact hless hle
  | @put payload code e₀ e' items hfresh hle =>
    intro k e hk
    by_cases hcode : k = code
    · subst hcode
      obtain rfl : e' = e := by simpa [AgentCodes.put] using hk
      simp [AgentCodes.put]
    · have hk : items k = some e := by simpa [AgentCodes.put, hcode] using hk
      exact List.mem_append_left _ (hless hle k e hk)
  | find hredis he hlive => exact hitems
  | take he hlive =>
    simp only [delete_made]
    exact hless (delete_items s _)
  | del =>
    split
    · exact hitems
    · simp only [delete_made]
      exact hless (delete_items s _)
  | check => exact hitems

variable {e : AgentAuthCodeEntry} {at_ : Int} {k : String}

theorem FoundFor.mono {a : ConsumeArgs} (h : FoundFor s a e at_) (hmade : s.made ⊆ s'.made) :
    FoundFor s' a e at_ :=
  ⟨hmade h.1, h.2⟩

theorem AgentCodeOk.mono {t : AgentCodeThread} (h : AgentCodeOk lib redis s t)
    (hmade : s.made ⊆ s'.made) : AgentCodeOk lib redis s' t := by
  obtain ⟨call, pc⟩ := t
  cases call with
  | createAgentAuthCode payload => trivial
  | consumeAgentAuthCode args =>
    cases pc with
    | del e at_ => exact ⟨h.1, h.2.mono hmade⟩
    | check e at_ => exact FoundFor.mono h hmade
    | consumed p at_ =>
      obtain ⟨e, hfound, hrest⟩ := h
      exact ⟨e, hfound.mono hmade, hrest⟩
    | _ => trivial

attribute [local irreducible] AgentLib.outcome

theorem agentCodeOk_outcome (h : FoundFor s args e at_) :
    AgentCodeOk lib redis s ⟨.consumeAgentAuthCode args, lib.outcome args.trim e at_⟩ := by
  unfold AgentLib.outcome
  cases hj : lib.judge args.trim e.payload with
  | error err => trivial
  | ok u =>
    have hentitled : Entitled lib args e.payload := @judge_ok lib args.trim e.payload hj
    exact ⟨e, h, rfl, hentitled⟩

theorem AgentCodeStep.mover (h : AgentCodeStep lib redis fails s call pc s' pc')
    (hok : AgentCodeOk lib redis s ⟨call, pc⟩)
    (hitems : ∀ k e, s.items k = some e → (k, e) ∈ s.made) :
    AgentCodeOk lib redis s' ⟨call, pc'⟩ := by
  cases h with
  | idle hle hmade hpc =>
    rcases hpc with rfl | ⟨err, rfl⟩ | ⟨code, e, rfl⟩ <;> cases call <;> trivial
  | put hfresh hle => trivial
  | find hredis he hlive => exact ⟨hredis, hitems _ _ he, Int.le_of_lt hlive⟩
  | take he hlive =>
    have hfound : FoundFor s _ _ _ := ⟨hitems _ _ he, hlive⟩
    exact (agentCodeOk_outcome hfound).mono (by rw [delete_made]; exact List.Subset.refl _)
  | del =>
    split
    · exact hok.2
    · exact FoundFor.mono hok.2 (by rw [delete_made]; exact List.Subset.refl _)
  | check => exact agentCodeOk_outcome hok

theorem removed_outcome :
    AgentCodeThread.removed k ⟨.consumeAgentAuthCode args, lib.outcome args.trim e at_⟩ ↔
      trimSpace args.code = k := by
  unfold AgentLib.outcome
  cases lib.judge args.trim e.payload <;> exact Iff.rfl

/-- The code has been made. -/
def AgentCodes.issued (k : String) (s : AgentCodes) : Prop := k ∈ s.made.map Prod.fst

/-- The code has not been removed. -/
def AgentCodes.stored (k : String) (s : AgentCodes) : Prop := (s.items k).isSome = true

theorem issued_of_stored (hitems : ∀ k e, s.items k = some e → (k, e) ∈ s.made) (h : s.stored k) :
    s.issued k := by
  obtain ⟨e, he⟩ := Option.isSome_iff_exists.mp h
  exact List.mem_map_of_mem (hitems k e he)

theorem stored_of_le {items : String → Option AgentAuthCodeEntry}
    (hle : items k = s.items k ∨ items k = none) (h : (items k).isSome = true) : s.stored k := by
  rcases hle with heq | hnone
  · unfold AgentCodes.stored
    rwa [← heq]
  · rw [hnone] at h
    cases h

theorem not_stored_delete (s : AgentCodes) (k : String) : ¬ (s.delete k).stored k := by
  simp [AgentCodes.stored, AgentCodes.delete]

theorem AgentCodeStep.again (h : AgentCodeStep lib redis fails s call pc s' pc')
    (hissued : s.issued k) (hstored : s'.stored k) : s.stored k := by
  cases h with
  | idle hle hmade hpc => exact stored_of_le (hle k) hstored
  | @put payload code e e' items hfresh hle =>
    have hne : k ≠ code := fun heq => hfresh (heq ▸ hissued)
    refine stored_of_le (hle k) ?_
    simpa [AgentCodes.stored, AgentCodes.put, hne] using hstored
  | take he hlive => exact stored_of_le (delete_items s _ k) hstored
  | del =>
    cases fails with
    | true => exact hstored
    | false => exact stored_of_le (delete_items s _ k) hstored
  | _ => exact hstored

theorem AgentCodeStep.spendStep (h : AgentCodeStep lib redis fails s call pc s' pc')
    (hok : AgentCodeOk lib redis s ⟨call, pc⟩)
    (hitems : ∀ k e, s.items k = some e → (k, e) ∈ s.made)
    (hdel : redis = true → ∀ code ∈ AgentCodeThread.deleting ⟨call, pc⟩,
      s.stored code ∧ fails = false) (k : String) :
    Sched.SpendStep AgentCodes.issued AgentCodes.stored AgentCodeThread.removed k
      s ⟨call, pc⟩ s' ⟨call, pc'⟩ := by
  refine ⟨fun hissued => List.map_subset _ h.made hissued, fun hissued => h.again hissued, ?_⟩
  intro hremoved
  cases h with
  | idle hle hmade hpc =>
    rcases hpc with rfl | ⟨err, rfl⟩ | ⟨code, e, rfl⟩ <;> cases call <;> cases hremoved
  | put hfresh hle => cases hremoved
  | find hredis he hlive => cases hremoved
  | take he hlive =>
    obtain rfl := removed_outcome.mp hremoved
    have hstored : s.stored _ := Option.isSome_iff_exists.mpr ⟨_, he⟩
    exact Or.inr ⟨issued_of_stored hitems hstored, hstored, not_stored_delete _ _⟩
  | @del args e at_ =>
    obtain rfl : trimSpace args.code = k := hremoved
    obtain ⟨hstored, rfl⟩ := hdel hok.1 _ rfl
    exact Or.inr ⟨issued_of_stored hitems hstored, hstored, not_stored_delete _ _⟩
  | check => exact Or.inl (removed_outcome.mp hremoved)

end

theorem AgentCodeInv.start (lib : AgentLib) (redis : Bool) (calls : List AgentCodeCall) :
    AgentCodeInv lib redis (agentCodeStart calls) := by
  refine ⟨nofun, ?_⟩
  intro t ht
  obtain ⟨call, -, rfl⟩ := List.mem_map.mp ht
  cases call <;> trivial

theorem AgentCodeInv.step {lib : AgentLib} {c : Sched.Conf AgentCodes AgentCodeThread} {i : Nat}
    {t t' : AgentCodeThread} (h : AgentCodeInv lib redis c) (hi : c.threads[i]? = some t)
    (hn : (agentCodeMachine lib redis).next tick c.store t = some (s', t')) :
    AgentCodeInv lib redis ⟨s', c.threads.set i t'⟩ := by
  obtain ⟨hcall, hs⟩ := agentCodeMachine_next hn
  obtain ⟨call, pc⟩ := t
  obtain ⟨call', pc'⟩ := t'
  obtain rfl : call' = call := hcall
  have hok := h.calls _ (List.mem_of_getElem? hi)
  refine ⟨hs.items h.items, Sched.forall_threads_set (fun x hx => ?_) (hs.mover hok h.items)⟩
  exact (h.calls x hx).mono hs.made

/-- **An authorization code is redeemed at most once**, before it expires and by
whoever it was made for, and not at all if an attempt that found it failed. In
memory that holds in every run; with Redis, in every run in which each DEL
finds the code it removes. -/
theorem consumeAgentAuthCode_at_most_once (lib : AgentLib) (redis : Bool)
    (calls : List AgentCodeCall) {c : Sched.Conf AgentCodes AgentCodeThread}
    (hrun : Sched.Steps (agentCodeMachine lib redis) (delFinds redis) (agentCodeStart calls) c)
    (code : String) :
    Sched.AtMostOne (AgentCodeThread.redeems code) c ∧
    (∀ t ∈ c.threads, ∀ a p at_, t = ⟨.consumeAgentAuthCode a, .consumed p at_⟩ →
      ∃ e, (trimSpace a.code, e) ∈ c.store.made ∧ p = e.payload ∧ at_ ≤ e.expiresAt ∧
        p.clientId = trimSpace a.clientId ∧ p.state = trimSpace a.state ∧
        p.deviceId = trimSpace a.deviceId ∧
        lib.pkceS256 (trimSpace a.codeVerifier) = p.codeChallenge) ∧
    (∀ i, Sched.Inside (AgentCodeThread.spoils code) c i →
      ∀ j, ¬ Sched.Inside (AgentCodeThread.redeems code) c j) := by
  obtain ⟨hinv, honce⟩ : AgentCodeInv lib redis c ∧ Sched.SpendInv AgentCodes.issued
      AgentCodes.stored AgentCodeThread.removed code c := by
    refine Sched.Steps.invariant (I := fun c => AgentCodeInv lib redis c ∧
      Sched.SpendInv AgentCodes.issued AgentCodes.stored AgentCodeThread.removed code c)
      ⟨.start lib redis calls, .init ?_⟩ ?_ hrun
    · intro t ht
      obtain ⟨call, -, rfl⟩ := List.mem_map.mp ht
      cases call <;> exact not_false
    · rintro c i tick t s' t' ⟨hI, hspend⟩ hguard hi hn
      refine ⟨hI.step hi hn, hspend.step hi ?_⟩
      obtain ⟨hcall, hs⟩ := agentCodeMachine_next hn
      obtain ⟨call, pc⟩ := t
      obtain ⟨call', pc'⟩ := t'
      obtain rfl : call' = call := hcall
      exact hs.spendStep (hI.calls _ (List.mem_of_getElem? hi)) hI.items
        (fun hredis => hguard hredis _ hi) code
  have hremoved : ∀ {t : AgentCodeThread}, t.redeems code ∨ t.spoils code → t.removed code := by
    rintro ⟨call, pc⟩ h
    cases call <;> cases pc <;> rcases h with h | h <;> first | exact h | cases h
  refine ⟨?_, ?_, ?_⟩
  · rintro i j ⟨t, ht, hred⟩ ⟨x, hx, hredx⟩
    exact honce.alone i j ⟨t, ht, hremoved (Or.inl hred)⟩ ⟨x, hx, hremoved (Or.inl hredx)⟩
  · rintro t ht a p at_ rfl
    obtain ⟨e, hfound, rfl, hclient, hstate, hdevice, hpkce⟩ := hinv.calls _ ht
    exact ⟨e, hfound.1, rfl, hfound.2, hclient, hstate, hdevice, hpkce⟩
  · rintro i ⟨t, ht, hspoil⟩ j ⟨x, hx, hred⟩
    obtain rfl := honce.alone i j ⟨t, ht, hremoved (Or.inr hspoil)⟩ ⟨x, hx, hremoved (Or.inl hred)⟩
    obtain rfl : t = x := Option.some.inj (ht.symm.trans hx)
    obtain ⟨call, pc⟩ := t
    cases call <;> cases pc <;> first | exact hspoil | exact hred

/-- The S256 hash of one verifier. -/
def demoAgentLib : AgentLib :=
  ⟨fun verifier =>
    if verifier = "dBjftJeZ4CVP-mB92K27uhbUJU1p1r_wW1gFWFOEjXk" then
      "E9Melhoa2OwvFrEMTJguCHaoeK1t8URWbuGJSstw-cM"
    else ""⟩

def demoCreate : AgentCodeCall :=
  .createAgentAuthCode ⟨7, "youbox-agent", "dev", "laptop", "st",
    "E9Melhoa2OwvFrEMTJguCHaoeK1t8URWbuGJSstw-cM", "S256"⟩

def demoConsume : AgentCodeCall :=
  .consumeAgentAuthCode ⟨" k ", "youbox-agent", "st", "dev",
    "dBjftJeZ4CVP-mB92K27uhbUJU1p1r_wW1gFWFOEjXk"⟩

def demoCodeTick : AgentCodeTick := ⟨⟨false, 0⟩, some "k"⟩

/-- With Redis, one call after the other: the second does not find the code. -/
theorem second_consume_refused :
    ∃ c, Sched.Steps (agentCodeMachine demoAgentLib true) (delFinds true)
        (agentCodeStart [demoCreate, demoConsume, demoConsume]) c ∧
      (c.threads.map AgentCodeThread.pc)[2]? =
        some (.refused (.text "invalid or expired auth code")) ∧
      (∃ j, Sched.Inside (AgentCodeThread.redeems "k") c j) ∧
      Sched.AtMostOne (AgentCodeThread.redeems "k") c := by
  have hrun : ∃ c, Sched.Steps (agentCodeMachine demoAgentLib true) (delFinds true)
        (agentCodeStart [demoCreate, demoConsume, demoConsume]) c ∧
      (c.threads.map AgentCodeThread.pc)[2]? =
        some (.refused (.text "invalid or expired auth code")) ∧
      c.threads[1]? = some ⟨demoConsume, .consumed ⟨7, "youbox-agent", "dev", "laptop",
        "st", "E9Melhoa2OwvFrEMTJguCHaoeK1t8URWbuGJSstw-cM", "S256"⟩ 0⟩ :=
    Sched.exists_of_run ([0, 0, 1, 1, 1, 1, 2, 2].map (·, demoCodeTick)) (by decide +kernel)
  obtain ⟨c, hrun, hsecond, hfirst⟩ := hrun
  refine ⟨c, hrun, hsecond, ⟨1, _, hfirst, ?_⟩,
    (consumeAgentAuthCode_at_most_once demoAgentLib true _ hrun "k").1⟩
  show trimSpace " k " = "k"
  decide

/-- With Redis, two calls that both GET the code before either DELs it: both
return the payload. -/
theorem code_redeemed_twice :
    ∃ c, Sched.Steps (agentCodeMachine demoAgentLib true) Sched.free
        (agentCodeStart [demoCreate, demoConsume, demoConsume]) c ∧
      ¬ Sched.AtMostOne (AgentCodeThread.redeems "k") c := by
  let won : AgentCodeThread := ⟨demoConsume, .consumed ⟨7, "youbox-agent", "dev", "laptop", "st",
    "E9Melhoa2OwvFrEMTJguCHaoeK1t8URWbuGJSstw-cM", "S256"⟩ 0⟩
  have hrun : ∃ c, Sched.Steps (agentCodeMachine demoAgentLib true) Sched.free
        (agentCodeStart [demoCreate, demoConsume, demoConsume]) c ∧
      c.threads[1]? = some won ∧ c.threads[2]? = some won :=
    Sched.exists_of_run ([0, 0, 1, 2, 1, 2, 1, 2, 1, 2].map (·, demoCodeTick)) (by decide +kernel)
  obtain ⟨c, hrun, hfirst, hsecond⟩ := hrun
  have hwon : won.redeems "k" := by
    show trimSpace " k " = "k"
    decide
  refine ⟨c, hrun, fun hone => ?_⟩
  have h12 := hone 1 2 ⟨won, hfirst, hwon⟩ ⟨won, hsecond, hwon⟩
  cases h12

end YouBox
