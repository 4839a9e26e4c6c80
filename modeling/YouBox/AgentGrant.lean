import YouBox.SubConsume
import YouBox.TokenValidate
import YouBox.TopUp

/-!
# Agent grants

The authorization of one device: `IssueAgentTokens`, `RefreshAgentTokens` and
`RevokeUserAgentGrant` (also as `LogoutAgentDevice`, and from inside a refresh
that finds its token expired), one statement a step, any number of calls
interleaved on the grant.

Every one of them reads the row of the grant, changes it in memory and writes it
back whole, and all but the revoke look up, write or create the gateway token of
the grant in a step of its own before they write the grant.
-/

namespace YouBox

/-! ## Rows -/

/-- The row of `user_agent_grants` of the device. -/
structure UserAgentGrant where
  id : Nat
  refreshTokenHash : String
  refreshExpiresAt : Int
  gatewayTokenId : Nat
  lastUsedAt : Int
  revokedAt : Int
deriving DecidableEq

def UserAgentGrant.isRevoked (g : UserAgentGrant) : Bool := decide (0 < g.revokedAt)

def UserAgentGrant.isRefreshExpired (g : UserAgentGrant) (now : Int) : Bool :=
  decide (0 < g.refreshExpiresAt) && decide (g.refreshExpiresAt < now)

/-- A row of `tokens` created for the grant. -/
structure GatewayToken where
  id : Nat
  status : TokenStatus
  expiredTime : Int
  name : String
deriving DecidableEq

/-- The grant, the tokens created for it, newest first, and the history of the
refresh tokens whose hash has been written to the grant. -/
structure GrantDB where
  grant : Option UserAgentGrant
  tokens : List GatewayToken
  nextTokenId : Nat
  written : List String

namespace GrantDB

/-- gorm's `Save` of the grant. -/
def saveGrant (s : GrantDB) (g : UserAgentGrant) : GrantDB := { s with grant := some g }

/-- `Token.Update`: the columns it selects, by the primary key. -/
def updateToken (s : GrantDB) (x : GatewayToken) : GrantDB :=
  { s with tokens := s.tokens.map (fun t => if t.id = x.id then x else t) }

def insertToken (s : GrantDB) (x : GatewayToken) : GrantDB :=
  { s with tokens := x :: s.tokens, nextTokenId := s.nextTokenId + 1 }

/-- A refresh token whose hash the grant has from now on. -/
def note (s : GrantDB) (token : String) : GrantDB := { s with written := token :: s.written }

end GrantDB

/-- The password hash. -/
structure GrantLib where
  password2Hash : Nat → String → Option String
  validatePasswordAndHash : String → String → Bool

/-- `AgentRefreshTokenTTL`, in seconds. -/
def agentRefreshTokenTTL : Int := 60 * 60 * 24 * 30

/-! ## Calls -/

inductive GrantCall where
  | issueAgentTokens
  | refreshAgentTokens (refreshToken : String)
  | revokeUserAgentGrant
  | logoutAgentDevice
deriving DecidableEq

/-- The tokens a call is about to hand out: the grant as it has read it, the new
refresh token with its hash, and when that expires. -/
structure Mint where
  grant : UserAgentGrant
  token : String
  hash : String
  expiresAt : Int
deriving DecidableEq

inductive GrantPc where
  | start
  /-- `UpsertUserAgentGrant`: about to read, insert or save -/
  | upsert (token hash : String) (expiresAt : Int)
  | insert (token hash : String) (expiresAt : Int)
  | save (g : UserAgentGrant) (token hash : String) (expiresAt : Int)
  | reread (token hash : String) (expiresAt : Int)
  /-- `findGrantByRefreshToken`: about to read, then to judge what was read -/
  | find
  | judge (g : UserAgentGrant)
  | user (g : UserAgentGrant)
  /-- `ensureAgentGatewayToken`: about to read the token, then to write it -/
  | ensure (m : Mint)
  | gateway (m : Mint) (existing : Option GatewayToken)
  /-- about to write the grant -/
  | write (m : Mint) (gatewayTokenId : Nat)
  | sign
  /-- `RevokeUserAgentGrantByDevice`: about to look for the grant -/
  | device
  /-- `RevokeUserAgentGrant`: about to read, then to save -/
  | revoke
  | revokeSave (g : UserAgentGrant) (now : Int)
  /-- `DisableTokenById`: about to read, then to update -/
  | disable (tokenId : Nat)
  | disableUpdate (x : GatewayToken)
  /-- returned an error -/
  | failed
  /-- returned new tokens -/
  | granted
  /-- returned nil -/
  | revoked
deriving DecidableEq

structure GrantThread where
  call : GrantCall
  pc : GrantPc
deriving DecidableEq

/-- What a step finds outside of these rows: whether its statement fails, the
time, whether the user is enabled, a random refresh token and the salt of its
hash, and whether keys can be generated and signed with. -/
structure GrantTick extends Tick where
  userEnabled : Bool
  token : Option String
  salt : Nat
  keys : Bool

section

variable (lib : GrantLib) (name : String)

/-- A random refresh token with its hash. -/
def GrantLib.draw (tick : GrantTick) : Option (String × String) :=
  tick.token.bind (fun token => (lib.password2Hash tick.salt token).map (fun hash => (token, hash)))

/-- How a revoke ends: a refresh that has found its token expired returns an
error whatever became of it. -/
def GrantCall.afterRevoke : GrantCall → GrantPc
  | .refreshAgentTokens _ => .failed
  | _ => .revoked

/-- The row the last write of a call saves. -/
def GrantCall.minted (call : GrantCall) (m : Mint) (gatewayTokenId : Nat) (now : Int) :
    UserAgentGrant :=
  match call with
  | .refreshAgentTokens _ =>
    { m.grant with
      refreshTokenHash := m.hash
      refreshExpiresAt := m.expiresAt
      gatewayTokenId := gatewayTokenId
      lastUsedAt := now }
  | _ => { m.grant with gatewayTokenId := gatewayTokenId }

/-- A refresh writes the hash of its new token; an issue has written it before. -/
def GrantCall.rotates : GrantCall → Bool
  | .refreshAgentTokens _ => true
  | _ => false

/-- The write of the grant at the end of a call that hands out tokens. -/
def GrantCall.finish (call : GrantCall) (tick : GrantTick) (s : GrantDB) (m : Mint) (k : Nat) :
    Option (GrantDB × GrantPc) :=
  if call.rotates then
    -- a random token is not drawn twice
    if m.token ∈ s.written then none
    else if tick.fails then some (s, .failed)
    else some ((s.saveGrant (call.minted m k tick.now)).note m.token, .sign)
  else if m.grant.gatewayTokenId = k then some (s, .sign)
  else if tick.fails then some (s, .failed)
  else some (s.saveGrant (call.minted m k tick.now), .sign)

def GrantCall.next (call : GrantCall) (tick : GrantTick) (s : GrantDB) :
    GrantPc → Option (GrantDB × GrantPc)
  | .start =>
    match call with
    | .issueAgentTokens =>
      if tick.fails || !tick.userEnabled then some (s, .failed)
      else
        match lib.draw tick with
        | none => some (s, .failed)
        | some (token, hash) =>
          some (s, .upsert token hash (tick.now + agentRefreshTokenTTL))
    | .refreshAgentTokens refreshToken =>
      some (s, if trimSpace refreshToken = "" then .failed else .find)
    | .revokeUserAgentGrant => some (s, .revoke)
    | .logoutAgentDevice => some (s, .device)
  | .upsert token hash expiresAt =>
    if tick.fails then some (s, .failed)
    else
      match s.grant with
      | none => some (s, .insert token hash expiresAt)
      | some g => some (s, .save g token hash expiresAt)
  | .insert token hash expiresAt =>
    -- the unique index on user, client and device
    if token ∈ s.written then none
    else if tick.fails || s.grant.isSome then some (s, .failed)
    else some ((s.saveGrant ⟨1, hash, expiresAt, 0, tick.now, 0⟩).note token,
      .reread token hash expiresAt)
  | .save g token hash expiresAt =>
    if token ∈ s.written then none
    else if tick.fails then some (s, .failed)
    else
      some ((s.saveGrant { g with
          refreshTokenHash := hash
          refreshExpiresAt := expiresAt
          revokedAt := 0
          lastUsedAt := tick.now }).note token,
        .reread token hash expiresAt)
  | .reread token hash expiresAt =>
    if tick.fails then some (s, .failed)
    else
      match s.grant with
      | none => some (s, .failed)
      | some g => some (s, .ensure ⟨g, token, hash, expiresAt⟩)
  | .find =>
    if tick.fails then some (s, .failed)
    else
      match s.grant with
      | none => some (s, .failed)
      | some g => some (s, .judge g)
  | .judge g =>
    if g.isRevoked then some (s, .failed)
    else if g.isRefreshExpired tick.now then some (s, .revoke)
    else
      match call with
      | .refreshAgentTokens refreshToken =>
        some (s, if lib.validatePasswordAndHash (trimSpace refreshToken) g.refreshTokenHash
          then .user g else .failed)
      | _ => none
  | .user g =>
    if tick.fails || !tick.userEnabled then some (s, .failed)
    else
      match lib.draw tick with
      | none => some (s, .failed)
      | some (token, hash) =>
        some (s, .ensure ⟨g, token, hash, tick.now + agentRefreshTokenTTL⟩)
  -- an error of the lookup counts as no token
  | .ensure m => some (s, .gateway m (if tick.fails then none else s.tokens.head?))
  | .gateway m existing =>
    match existing.filter (fun x => x.status = .enabled) with
    | some x =>
      if x.expiredTime = m.expiresAt ∧ x.name = name then some (s, .write m x.id)
      else if tick.fails then some (s, .failed)
      else some (s.updateToken { x with expiredTime := m.expiresAt, name := name },
        .write m x.id)
    | none =>
      if !tick.keys || tick.fails then some (s, .failed)
      else some (s.insertToken ⟨s.nextTokenId, .enabled, m.expiresAt, name⟩,
        .write m s.nextTokenId)
  | .write m k => call.finish tick s m k
  | .sign => some (s, if tick.keys then .granted else .failed)
  | .device =>
    if tick.fails then some (s, .failed)
    else some (s, if s.grant.isSome then .revoke else .revoked)
  | .revoke =>
    if tick.fails then some (s, .failed)
    else
      match s.grant with
      | none => some (s, .failed)
      | some g =>
        some (s, if g.isRevoked then call.afterRevoke else .revokeSave g tick.now)
  | .revokeSave g now =>
    if tick.fails then some (s, .failed)
    else some (s.saveGrant { g with revokedAt := now },
      if 0 < g.gatewayTokenId then .disable g.gatewayTokenId else call.afterRevoke)
  | .disable k =>
    if tick.fails then some (s, .failed)
    else
      match s.tokens.find? (fun x => x.id = k) with
      | none => some (s, call.afterRevoke)
      | some x => some (s, .disableUpdate { x with status := .disabled })
  | .disableUpdate x =>
    if tick.fails then some (s, .failed) else some (s.updateToken x, call.afterRevoke)
  | .failed | .granted | .revoked => none

/-- Unix time is positive. -/
def grantMachine : Sched.Machine GrantDB GrantThread GrantTick where
  next tick s t :=
    if tick.now ≤ 0 then none
    else (t.call.next lib name tick s t.pc).map (fun p => (p.1, { t with pc := p.2 }))

end

def GrantDB.start (db : GrantDB) (calls : List GrantCall) : Sched.Conf GrantDB GrantThread :=
  ⟨db, calls.map (fun call => ⟨call, .start⟩)⟩

/-! ## What one step does -/

/-- The call has returned. -/
def GrantPc.over : GrantPc → Bool
  | .failed | .granted | .revoked => true
  | _ => false

theorem next_of_over (lib : GrantLib) (name : String) (call : GrantCall) (tick : GrantTick)
    (s : GrantDB) {pc : GrantPc} (h : pc.over = true) : call.next lib name tick s pc = none := by
  cases pc with
  | failed | granted | revoked => simp only [GrantCall.next]
  | _ => cases h

/-- The call has made one of its writes and still has another to make. -/
def GrantPc.halfway : GrantPc → Bool
  | .write _ _ | .disable _ | .disableUpdate _ => true
  | _ => false

inductive GrantStep (lib : GrantLib) (name : String) (tick : GrantTick) (s : GrantDB) :
    GrantCall → GrantPc → GrantDB → GrantPc → Prop
  | fail {call pc} : pc.over = false → (pc.halfway = true → tick.fails = true) →
      GrantStep lib name tick s call pc s .failed
  | issue {token hash expiresAt} : lib.password2Hash tick.salt token = some hash →
      GrantStep lib name tick s .issueAgentTokens .start s (.upsert token hash expiresAt)
  | refresh {refreshToken} :
      GrantStep lib name tick s (.refreshAgentTokens refreshToken) .start s .find
  | revokeStart : GrantStep lib name tick s .revokeUserAgentGrant .start s .revoke
  | logout : GrantStep lib name tick s .logoutAgentDevice .start s .device
  | upsertNone {call token hash expiresAt} : s.grant = none →
      GrantStep lib name tick s call (.upsert token hash expiresAt) s (.insert token hash expiresAt)
  | upsertSome {call token hash expiresAt g} : s.grant = some g →
      GrantStep lib name tick s call (.upsert token hash expiresAt) s (.save g token hash expiresAt)
  | insert {call token hash expiresAt} : token ∉ s.written → s.grant = none →
      GrantStep lib name tick s call (.insert token hash expiresAt)
        ((s.saveGrant ⟨1, hash, expiresAt, 0, tick.now, 0⟩).note token)
        (.reread token hash expiresAt)
  | save {call token hash expiresAt g} : token ∉ s.written →
      GrantStep lib name tick s call (.save g token hash expiresAt)
        ((s.saveGrant { g with
            refreshTokenHash := hash
            refreshExpiresAt := expiresAt
            revokedAt := 0
            lastUsedAt := tick.now }).note token)
        (.reread token hash expiresAt)
  | reread {call token hash expiresAt g} : s.grant = some g →
      GrantStep lib name tick s call (.reread token hash expiresAt) s
        (.ensure ⟨g, token, hash, expiresAt⟩)
  | find {call g} : s.grant = some g → GrantStep lib name tick s call .find s (.judge g)
  | expired {call g} : g.isRevoked = false → GrantStep lib name tick s call (.judge g) s .revoke
  | accept {refreshToken} {g : UserAgentGrant} : g.isRevoked = false →
      lib.validatePasswordAndHash (trimSpace refreshToken) g.refreshTokenHash = true →
      GrantStep lib name tick s (.refreshAgentTokens refreshToken) (.judge g) s (.user g)
  | user {call g token hash expiresAt} : lib.password2Hash tick.salt token = some hash →
      GrantStep lib name tick s call (.user g) s (.ensure ⟨g, token, hash, expiresAt⟩)
  | ensure {call m existing} : (tick.fails = false → existing = s.tokens.head?) →
      GrantStep lib name tick s call (.ensure m) s (.gateway m existing)
  | keep {call m x} : x.status = .enabled →
      GrantStep lib name tick s call (.gateway m (some x)) s (.write m x.id)
  | renew {call m x} : x.status = .enabled →
      GrantStep lib name tick s call (.gateway m (some x))
        (s.updateToken { x with expiredTime := m.expiresAt, name := name }) (.write m x.id)
  | mint {call m existing} : (∀ x ∈ existing, x.status ≠ .enabled) →
      GrantStep lib name tick s call (.gateway m existing)
        (s.insertToken ⟨s.nextTokenId, .enabled, m.expiresAt, name⟩) (.write m s.nextTokenId)
  | rotate {refreshToken m k} : m.token ∉ s.written →
      GrantStep lib name tick s (.refreshAgentTokens refreshToken) (.write m k)
        ((s.saveGrant { m.grant with
            refreshTokenHash := m.hash
            refreshExpiresAt := m.expiresAt
            gatewayTokenId := k
            lastUsedAt := tick.now }).note m.token) .sign
  | same {call m k} : call.rotates = false → m.grant.gatewayTokenId = k →
      GrantStep lib name tick s call (.write m k) s .sign
  | point {call m k} : call.rotates = false →
      GrantStep lib name tick s call (.write m k) (s.saveGrant { m.grant with gatewayTokenId := k })
        .sign
  | sign {call} : GrantStep lib name tick s call .sign s .granted
  | device {call} : GrantStep lib name tick s call .device s .revoke
  | deviceNone {call} : s.grant = none → GrantStep lib name tick s call .device s .revoked
  | already {call g} : s.grant = some g → g.isRevoked = true →
      GrantStep lib name tick s call .revoke s call.afterRevoke
  | revoke {call g} : s.grant = some g → g.isRevoked = false →
      GrantStep lib name tick s call .revoke s (.revokeSave g tick.now)
  | revokeSave {call now} {g : UserAgentGrant} : 0 < g.gatewayTokenId →
      GrantStep lib name tick s call (.revokeSave g now) (s.saveGrant { g with revokedAt := now })
        (.disable g.gatewayTokenId)
  | revokeLast {call now} {g : UserAgentGrant} : g.gatewayTokenId = 0 →
      GrantStep lib name tick s call (.revokeSave g now) (s.saveGrant { g with revokedAt := now })
        call.afterRevoke
  | disableNone {call k} : s.tokens.find? (fun x => x.id = k) = none →
      GrantStep lib name tick s call (.disable k) s call.afterRevoke
  | disable {call k x} : s.tokens.find? (fun x => x.id = k) = some x →
      GrantStep lib name tick s call (.disable k) s (.disableUpdate { x with status := .disabled })
  | disableUpdate {call x} :
      GrantStep lib name tick s call (.disableUpdate x) (s.updateToken x) call.afterRevoke

variable {lib : GrantLib} {tick : GrantTick}

theorem draw_eq {token hash : String} (h : lib.draw tick = some (token, hash)) :
    lib.password2Hash tick.salt token = some hash := by
  simp only [GrantLib.draw, Option.bind_eq_some_iff, Option.map_eq_some_iff, Prod.mk.injEq] at h
  obtain ⟨token', -, hash', hh, rfl, rfl⟩ := h
  exact hh

section

variable {lib : GrantLib} {name : String} {tick : GrantTick} {s s' : GrantDB} {call : GrantCall}
  {pc' : GrantPc}

theorem grantStep_of_start (h : call.next lib name tick s .start = some (s', pc')) :
    GrantStep lib name tick s call .start s' pc' := by
  cases call with
  | issueAgentTokens =>
    simp only [GrantCall.next] at h
    split at h
    · cases h; exact .fail rfl nofun
    · split at h
      · cases h; exact .fail rfl nofun
      · rename_i hdraw
        cases h
        exact .issue (draw_eq hdraw)
  | refreshAgentTokens refreshToken =>
    simp only [GrantCall.next] at h
    cases h
    split
    · exact .fail rfl nofun
    · exact .refresh
  | revokeUserAgentGrant => cases h; exact .revokeStart
  | logoutAgentDevice => cases h; exact .logout

variable {g : UserAgentGrant}

theorem grantStep_of_judge (h : call.next lib name tick s (.judge g) = some (s', pc')) :
    GrantStep lib name tick s call (.judge g) s' pc' := by
  simp only [GrantCall.next] at h
  split at h
  · cases h; exact .fail rfl nofun
  · rename_i hrevoked
    split at h
    · cases h; exact .expired (by simpa using hrevoked)
    · split at h
      · cases h
        split
        · rename_i hvalid
          exact .accept (by simpa using hrevoked) hvalid
        · exact .fail rfl nofun
      · cases h

theorem grantStep_of_gateway {m : Mint} {existing : Option GatewayToken}
    (h : call.next lib name tick s (.gateway m existing) = some (s', pc')) :
    GrantStep lib name tick s call (.gateway m existing) s' pc' := by
  simp only [GrantCall.next] at h
  split at h
  · rename_i x hx
    obtain ⟨rfl, henabled⟩ : existing = some x ∧ x.status = .enabled := by
      simpa [Option.filter_eq_some_iff] using hx
    split at h
    · cases h; exact .keep henabled
    · split at h
      · cases h; exact .fail rfl nofun
      · cases h; exact .renew henabled
  · rename_i hnone
    split at h
    · cases h; exact .fail rfl nofun
    · cases h
      refine .mint ?_
      rintro x rfl henabled
      simp [henabled] at hnone

theorem grantStep_of_write {m : Mint} {k : Nat}
    (h : call.next lib name tick s (.write m k) = some (s', pc')) :
    GrantStep lib name tick s call (.write m k) s' pc' := by
  simp only [GrantCall.next, GrantCall.finish] at h
  cases hrot : call.rotates with
  | true =>
    simp only [hrot, if_true] at h
    split at h
    · cases h
    · rename_i hfresh
      split at h
      · rename_i hf
        cases h; exact .fail rfl (fun _ => hf)
      · cases h
        cases call with
        | refreshAgentTokens refreshToken => exact .rotate hfresh
        | _ => cases hrot
  | false =>
    simp only [hrot, Bool.false_eq_true, if_false] at h
    split at h
    · rename_i hk
      cases h; exact .same hrot hk
    · split at h
      · rename_i hf
        cases h; exact .fail rfl (fun _ => hf)
      · cases h
        cases call with
        | refreshAgentTokens refreshToken => cases hrot
        | _ => exact .point hrot

theorem grantStep_of_revokeSave {now : Int}
    (h : call.next lib name tick s (.revokeSave g now) = some (s', pc')) :
    GrantStep lib name tick s call (.revokeSave g now) s' pc' := by
  simp only [GrantCall.next] at h
  split at h
  · cases h; exact .fail rfl nofun
  · cases h
    split
    · rename_i hpos
      exact .revokeSave hpos
    · rename_i hzero
      exact .revokeLast (by omega)

theorem grantStep_of_next {pc : GrantPc} (h : call.next lib name tick s pc = some (s', pc')) :
    GrantStep lib name tick s call pc s' pc' := by
  cases pc with
  | start => exact grantStep_of_start h
  | upsert token hash expiresAt =>
    simp only [GrantCall.next] at h
    split at h
    · cases h; exact .fail rfl nofun
    · split at h
      · rename_i hg
        cases h; exact .upsertNone hg
      · rename_i g hg
        cases h; exact .upsertSome hg
  | insert token hash expiresAt =>
    simp only [GrantCall.next] at h
    split at h
    · cases h
    · rename_i hfresh
      split at h
      · cases h; exact .fail rfl nofun
      · rename_i hfree
        cases h
        refine .insert hfresh ?_
        cases hg : s.grant with
        | none => rfl
        | some g => simp [hg] at hfree
  | save g token hash expiresAt =>
    simp only [GrantCall.next] at h
    split at h
    · cases h
    · rename_i hfresh
      split at h
      · cases h; exact .fail rfl nofun
      · cases h; exact .save hfresh
  | reread token hash expiresAt =>
    simp only [GrantCall.next] at h
    split at h
    · cases h; exact .fail rfl nofun
    · split at h
      · cases h; exact .fail rfl nofun
      · rename_i g hg
        cases h; exact .reread hg
  | find =>
    simp only [GrantCall.next] at h
    split at h
    · cases h; exact .fail rfl nofun
    · split at h
      · cases h; exact .fail rfl nofun
      · rename_i g hg
        cases h; exact .find hg
  | judge g => exact grantStep_of_judge h
  | user g =>
    simp only [GrantCall.next] at h
    split at h
    · cases h; exact .fail rfl nofun
    · split at h
      · cases h; exact .fail rfl nofun
      · rename_i hdraw
        cases h; exact .user (draw_eq hdraw)
  | ensure m =>
    simp only [GrantCall.next] at h
    cases h
    exact .ensure (fun hf => by simp [hf])
  | gateway m existing => exact grantStep_of_gateway h
  | write m k => exact grantStep_of_write h
  | sign =>
    simp only [GrantCall.next] at h
    cases h
    split
    · exact .sign
    · exact .fail rfl nofun
  | device =>
    simp only [GrantCall.next] at h
    split at h
    · cases h; exact .fail rfl nofun
    · cases h
      cases hg : s.grant with
      | none => exact .deviceNone hg
      | some g => exact .device
  | revoke =>
    simp only [GrantCall.next] at h
    split at h
    · cases h; exact .fail rfl nofun
    · split at h
      · cases h; exact .fail rfl nofun
      · rename_i g hg
        cases h
        split
        · rename_i hrevoked
          exact .already hg hrevoked
        · rename_i hrevoked
          exact .revoke hg (by simpa using hrevoked)
  | revokeSave g now => exact grantStep_of_revokeSave h
  | disable k =>
    simp only [GrantCall.next] at h
    split at h
    · rename_i hf
      cases h; exact .fail rfl (fun _ => hf)
    · split at h
      · rename_i hx
        cases h; exact .disableNone hx
      · rename_i x hx
        cases h; exact .disable hx
  | disableUpdate x =>
    simp only [GrantCall.next] at h
    split at h
    · rename_i hf
      cases h; exact .fail rfl (fun _ => hf)
    · cases h; exact .disableUpdate
  | failed | granted | revoked => rw [next_of_over lib name call tick s rfl] at h; cases h

end

theorem grantMachine_next {name : String} {s s' : GrantDB} {t t' : GrantThread}
    (h : (grantMachine lib name).next tick s t = some (s', t')) :
    t'.call = t.call ∧ 0 < tick.now ∧ GrantStep lib name tick s t.call t.pc s' t'.pc := by
  simp only [grantMachine] at h
  split at h
  · cases h
  · rename_i hnow
    simp only [Option.map_eq_some_iff, Prod.mk.injEq] at h
    obtain ⟨⟨s₁, pc'⟩, hn, rfl, rfl⟩ := h
    exact ⟨rfl, by omega, grantStep_of_next hn⟩

end YouBox
