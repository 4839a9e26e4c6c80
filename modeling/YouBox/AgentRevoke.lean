import YouBox.AgentRefresh

/-!
# Revoking an agent grant

What a revoke leaves behind depends on who else is at work on the grant: a
refresh that has read the grant earlier writes it back without the revocation, a
gateway token created in the meantime is not the one the revoke disables, and a
second revoke returns as soon as it reads the revocation, before the first has
disabled anything.

Where the calls on the grant do not overlap and their statements go through
(`oneAtATime`), the grant is consistent between calls: only the newest gateway
token can be enabled, the grant names it, and a revoked grant has none. So a
revoke ends with the grant settled, and it stays so in every continuation in which
no `IssueAgentTokens` begins, whatever else is going on.
-/

namespace YouBox

/-! ## Consistent grants -/

def GrantDB.gatewayId (s : GrantDB) : Nat :=
  match s.grant with
  | none => 0
  | some g => g.gatewayTokenId

def GrantDB.revoked (s : GrantDB) : Prop :=
  ∀ g, s.grant = some g → g.isRevoked = true

def GrantDB.allDisabled (s : GrantDB) : Prop :=
  ∀ x ∈ s.tokens, x.status ≠ .enabled

/-- Only the newest token can be enabled, and then it is `k`. -/
structure GrantDB.Owned (k : Nat) (s : GrantDB) : Prop where
  ids : (s.tokens.map GatewayToken.id).Nodup
  fresh : ∀ x ∈ s.tokens, 0 < x.id ∧ x.id < s.nextTokenId
  next : 0 < s.nextTokenId
  older : ∀ x ∈ s.tokens.tail, x.status ≠ .enabled
  newest : ∀ x, s.tokens.head? = some x → x.status = .enabled → x.id = k

structure GrantDB.Consistent (s : GrantDB) : Prop where
  owned : s.Owned s.gatewayId
  revoked : s.revoked → s.allDisabled

/-- The grant is revoked, if there is one, and nothing is enabled for it. -/
structure GrantDB.Settled (s : GrantDB) : Prop where
  revoked : s.revoked
  disabled : s.allDisabled

variable {call : GrantCall} {s s' : GrantDB} {lib : GrantLib} {pc pc' : GrantPc} {tick : GrantTick}
  {name : String}

theorem GrantDB.Owned.status {k : Nat} (h : s.Owned k) {x : GatewayToken} (hx : x ∈ s.tokens)
    (henabled : x.status = .enabled) : s.tokens.head? = some x ∧ x.id = k := by
  cases htokens : s.tokens with
  | nil => rw [htokens] at hx; cases hx
  | cons y ys =>
    rw [htokens] at hx
    rcases List.mem_cons.mp hx with rfl | hx
    · exact ⟨rfl, h.newest x (by rw [htokens]; rfl) henabled⟩
    · exact absurd henabled (h.older x (by rw [htokens]; exact hx))

theorem GrantDB.Owned.allDisabled {k : Nat} (h : s.Owned k) (hk : ∀ x ∈ s.tokens, x.id ≠ k) :
    s.allDisabled :=
  fun x hx henabled => hk x hx (h.status hx henabled).2

theorem GrantDB.Owned.allDisabled_zero (h : s.Owned 0) : s.allDisabled :=
  h.allDisabled (fun x hx => Nat.pos_iff_ne_zero.mp (h.fresh x hx).1)

theorem GrantDB.Owned.saveGrant {k : Nat} (h : s.Owned k) (g : UserAgentGrant) :
    (s.saveGrant g).Owned k :=
  ⟨h.ids, h.fresh, h.next, h.older, h.newest⟩

theorem GrantDB.Owned.note {k : Nat} (h : s.Owned k) (token : String) : (s.note token).Owned k :=
  ⟨h.ids, h.fresh, h.next, h.older, h.newest⟩

theorem updateToken_ids (s : GrantDB) (x : GatewayToken) :
    (s.updateToken x).tokens.map GatewayToken.id = s.tokens.map GatewayToken.id := by
  simp only [GrantDB.updateToken, List.map_map]
  refine List.map_congr_left ?_
  intro y _
  simp only [Function.comp_apply]
  split
  · rename_i hid
    exact hid.symm
  · rfl

theorem GrantDB.Owned.updateToken {k : Nat} (h : s.Owned k) {x : GatewayToken}
    (hx : x.status = .enabled → x.id = k ∧ ∀ y, s.tokens.head? = some y → y.id = x.id) :
    (s.updateToken x).Owned k := by
  have hhead : ∀ y ys, s.tokens = y :: ys → x.id ∉ ys.map GatewayToken.id ∨ x.status ≠ .enabled := by
    intro y ys htokens
    by_cases henabled : x.status = .enabled
    · refine Or.inl ?_
      have hy := (hx henabled).2 y (by rw [htokens]; rfl)
      have hids := h.ids
      rw [htokens, List.map_cons, List.nodup_cons] at hids
      rw [← hy]
      exact hids.1
    · exact Or.inr henabled
  refine ⟨by rw [updateToken_ids]; exact h.ids, ?_, h.next, ?_, ?_⟩
  · intro y hy
    obtain ⟨z, hz, rfl⟩ := List.mem_map.mp hy
    have hfresh := h.fresh z hz
    split
    · rename_i hid
      exact hid ▸ hfresh
    · exact hfresh
  · cases htokens : s.tokens with
    | nil => simp [GrantDB.updateToken, htokens]
    | cons y ys =>
      intro w hw
      simp only [GrantDB.updateToken, htokens, List.map_cons, List.tail_cons] at hw
      obtain ⟨z, hz, rfl⟩ := List.mem_map.mp hw
      split
      · rename_i hid
        rcases hhead y ys htokens with hout | hdisabled
        · exact absurd (hid ▸ List.mem_map_of_mem hz) hout
        · exact hdisabled
      · exact h.older z (by rw [htokens]; exact hz)
  · intro w hw henabled
    cases htokens : s.tokens with
    | nil => simp [GrantDB.updateToken, htokens] at hw
    | cons y ys =>
      simp only [GrantDB.updateToken, htokens, List.map_cons, List.head?_cons,
        Option.some.injEq] at hw
      subst hw
      split at henabled
      · rename_i hid
        rw [if_pos hid]
        exact (hx henabled).1
      · rename_i hid
        rw [if_neg hid]
        exact h.newest y (by rw [htokens]; rfl) henabled

theorem GrantDB.Owned.insertToken {k : Nat} (h : s.Owned k) (hnone : s.allDisabled)
    (expiresAt : Int) (name : String) :
    (s.insertToken ⟨s.nextTokenId, .enabled, expiresAt, name⟩).Owned s.nextTokenId := by
  refine ⟨?_, ?_, Nat.succ_pos _, hnone, ?_⟩
  · simp only [GrantDB.insertToken, List.map_cons, List.nodup_cons]
    refine ⟨?_, h.ids⟩
    intro hmem
    obtain ⟨x, hx, hid⟩ := List.mem_map.mp hmem
    have := (h.fresh x hx).2
    omega
  · intro x hx
    rcases List.mem_cons.mp hx with rfl | hx
    · exact ⟨h.next, Nat.lt_succ_self _⟩
    · exact ⟨(h.fresh x hx).1, Nat.lt_succ_of_lt (h.fresh x hx).2⟩
  · rintro x ⟨⟩ -
    rfl

/-! ## One call at a time -/

/-- What a call that has the grant to itself knows at each point; outside of the
call, that the grant is consistent. -/
def GrantDB.Fact (s : GrantDB) : GrantPc → Prop
  | .insert _ _ _ => s.Consistent ∧ s.grant = none
  | .save g _ _ _ => s.Consistent ∧ s.grant = some g
  | .reread _ _ _ => s.Consistent ∧ ¬ s.revoked
  | .judge g => s.Consistent ∧ s.grant = some g
  | .user g => s.Consistent ∧ s.grant = some g ∧ g.isRevoked = false
  | .ensure m => s.Consistent ∧ s.grant = some m.grant ∧ m.grant.isRevoked = false
  | .gateway m existing => s.Consistent ∧ s.grant = some m.grant ∧ m.grant.isRevoked = false ∧
      existing = s.tokens.head?
  | .write m k => s.grant = some m.grant ∧ m.grant.isRevoked = false ∧ s.Owned k
  | .revokeSave g now => s.Consistent ∧ s.grant = some g ∧ 0 < now
  | .disable k => s.Owned k ∧ s.gatewayId = k ∧ s.revoked
  | .disableUpdate x => s.Owned x.id ∧ s.gatewayId = x.id ∧ s.revoked ∧ x.status ≠ .enabled
  | _ => s.Consistent

section

variable {lib : GrantLib} {name : String} {tick : GrantTick} {s s' : GrantDB} {call : GrantCall}
  {pc pc' : GrantPc}

variable {g : UserAgentGrant}

theorem revoked_of_some (hg : s.grant = some g) (h : g.isRevoked = true) : s.revoked := by
  intro g' hg'
  obtain rfl : g = g' := Option.some.inj (hg.symm.trans hg')
  exact h

theorem not_revoked_of_some (hg : s.grant = some g) (h : g.isRevoked = false) : ¬ s.revoked := by
  intro hall
  rw [hall g hg] at h
  cases h

theorem gatewayId_of_some (hg : s.grant = some g) : s.gatewayId = g.gatewayTokenId := by
  simp only [GrantDB.gatewayId, hg]

theorem consistent_of_owned (hg : s.grant = some g) (hrevoked : g.isRevoked = false)
    (hown : s.Owned g.gatewayTokenId) : s.Consistent :=
  ⟨by rw [gatewayId_of_some hg]; exact hown, fun h => absurd h (not_revoked_of_some hg hrevoked)⟩

theorem GrantDB.Settled.consistent {k : Nat} (h : s.Settled) (hown : s.Owned k) :
    s.Consistent := by
  refine ⟨⟨hown.ids, hown.fresh, hown.next, hown.older, ?_⟩, fun _ => h.disabled⟩
  intro x hx henabled
  exact absurd henabled (h.disabled x (List.mem_of_mem_head? hx))

theorem settled_of_disableUpdate {x : GatewayToken} (hown : s.Owned x.id) (hrevoked : s.revoked)
    (hx : x.status ≠ .enabled) : (s.updateToken x).Settled := by
  refine ⟨hrevoked, ?_⟩
  intro w hw henabled
  obtain ⟨z, hz, rfl⟩ := List.mem_map.mp hw
  split at henabled
  · exact hx henabled
  · rename_i hid
    exact hid (hown.status hz henabled).2

theorem saveGrant_revoked {now : Int} (hnow : 0 < now) :
    (s.saveGrant { g with revokedAt := now }).revoked := by
  rintro g' ⟨⟩
  simpa [UserAgentGrant.isRevoked] using hnow

/-- **One step of the only call**, with a statement that goes through. -/
theorem GrantStep.fact (h : GrantStep lib name tick s call pc s' pc') (hnow : 0 < tick.now)
    (hfails : tick.fails = false) (hf : s.Fact pc) :
    s'.Fact pc' ∧ (pc' = .revoked → s'.Settled) := by
  have hafter : ∀ {s₁ : GrantDB} {k : Nat}, s₁.Settled → s₁.Owned k →
      s₁.Fact call.afterRevoke ∧ (call.afterRevoke = .revoked → s₁.Settled) := by
    intro s₁ k hsettled hown
    refine ⟨?_, fun _ => hsettled⟩
    cases call <;> exact hsettled.consistent hown
  cases h with
  | fail hover hhalf =>
    have hc : s.Consistent := by
      cases pc with
      | write | disable | disableUpdate =>
        rw [hhalf rfl] at hfails
        cases hfails
      | insert | save | reread | judge | user | ensure | gateway | revokeSave => exact hf.1
      | failed | granted | revoked => cases hover
      | _ => exact hf
    exact ⟨hc, nofun⟩
  | issue hhash => exact ⟨hf, nofun⟩
  | refresh => exact ⟨hf, nofun⟩
  | revokeStart => exact ⟨hf, nofun⟩
  | logout => exact ⟨hf, nofun⟩
  | upsertNone hg => exact ⟨⟨hf, hg⟩, nofun⟩
  | upsertSome hg => exact ⟨⟨hf, hg⟩, nofun⟩
  | insert hfresh hg =>
    have hown : s.Owned 0 := by simpa [GrantDB.gatewayId, hg] using hf.1.owned
    exact ⟨⟨consistent_of_owned rfl rfl ((hown.saveGrant _).note _),
      not_revoked_of_some rfl rfl⟩, nofun⟩
  | @save _ token hash expiresAt g hfresh =>
    have hown : s.Owned g.gatewayTokenId := by
      rw [← gatewayId_of_some hf.2]
      exact hf.1.owned
    exact ⟨⟨consistent_of_owned rfl rfl ((hown.saveGrant _).note _),
      not_revoked_of_some rfl rfl⟩, nofun⟩
  | reread hg =>
    refine ⟨⟨hf.1, hg, ?_⟩, nofun⟩
    by_contra hrevoked
    exact hf.2 (revoked_of_some hg (by simpa using hrevoked))
  | find hg => exact ⟨⟨hf, hg⟩, nofun⟩
  | expired hrevoked => exact ⟨hf.1, nofun⟩
  | accept hrevoked hvalid => exact ⟨⟨hf.1, hf.2, hrevoked⟩, nofun⟩
  | user hhash => exact ⟨hf, nofun⟩
  | ensure hex => exact ⟨⟨hf.1, hf.2.1, hf.2.2, hex hfails⟩, nofun⟩
  | @keep _ m x henabled =>
    obtain ⟨hc, hg, hrevoked, hx⟩ := hf
    have hid := hc.owned.newest x hx.symm henabled
    exact ⟨⟨hg, hrevoked, hid ▸ hc.owned⟩, nofun⟩
  | @renew _ m x henabled =>
    obtain ⟨hc, hg, hrevoked, hx⟩ := hf
    have hid := hc.owned.newest x hx.symm henabled
    have hown : s.Owned x.id := hid ▸ hc.owned
    refine ⟨⟨hg, hrevoked, hown.updateToken (fun _ => ⟨rfl, ?_⟩)⟩, nofun⟩
    intro y hy
    obtain rfl : x = y := Option.some.inj (hx.trans hy)
    rfl
  | @mint _ m existing hex =>
    obtain ⟨hc, hg, hrevoked, rfl⟩ := hf
    have hnone : s.allDisabled := fun x hx henabled =>
      hex x (hc.owned.status hx henabled).1 henabled
    exact ⟨⟨hg, hrevoked, hc.owned.insertToken hnone _ _⟩, nofun⟩
  | rotate hfresh =>
    obtain ⟨hg, hrevoked, hown⟩ := hf
    exact ⟨consistent_of_owned rfl hrevoked ((hown.saveGrant _).note _), nofun⟩
  | same hrot hk =>
    obtain ⟨hg, hrevoked, hown⟩ := hf
    exact ⟨consistent_of_owned hg hrevoked (hk ▸ hown), nofun⟩
  | point hrot =>
    obtain ⟨hg, hrevoked, hown⟩ := hf
    exact ⟨consistent_of_owned rfl hrevoked (hown.saveGrant _), nofun⟩
  | sign => exact ⟨hf, nofun⟩
  | device => exact ⟨hf, nofun⟩
  | deviceNone hg =>
    have hown : s.Owned 0 := by
      have hc : s.Consistent := hf
      simpa [GrantDB.gatewayId, hg] using hc.owned
    have hnone : s.revoked := by
      intro g hg'
      rw [hg] at hg'
      cases hg'
    exact ⟨hf, fun _ => ⟨hnone, hown.allDisabled_zero⟩⟩
  | already hg hrevoked =>
    have hc : s.Consistent := hf
    have hrev := revoked_of_some hg hrevoked
    exact hafter ⟨hrev, hc.revoked hrev⟩ hc.owned
  | revoke hg hrevoked => exact ⟨⟨hf, hg, hnow⟩, nofun⟩
  | @revokeSave _ now g hpos =>
    obtain ⟨hc, hg, hpos'⟩ := hf
    have hown : s.Owned g.gatewayTokenId := by
      rw [← gatewayId_of_some hg]
      exact hc.owned
    exact ⟨⟨hown.saveGrant _, rfl, saveGrant_revoked hpos'⟩, nofun⟩
  | @revokeLast _ now g hzero =>
    obtain ⟨hc, hg, hpos'⟩ := hf
    have hown : s.Owned 0 := by
      rw [← hzero, ← gatewayId_of_some hg]
      exact hc.owned
    have hsaved : (s.saveGrant { g with revokedAt := now }).Owned 0 := hown.saveGrant _
    exact hafter ⟨saveGrant_revoked hpos', hsaved.allDisabled_zero⟩ hsaved
  | @disableNone _ k hx =>
    obtain ⟨hown, -, hrevoked⟩ := hf
    refine hafter ⟨hrevoked, hown.allDisabled ?_⟩ hown
    intro x hmem hid
    have := List.find?_eq_none.mp hx x hmem
    simp [hid] at this
  | @disable _ k x hx =>
    obtain ⟨hown, hgate, hrevoked⟩ := hf
    obtain rfl : x.id = k := by simpa using List.find?_some hx
    exact ⟨⟨hown, hgate, hrevoked, nofun⟩, nofun⟩
  | @disableUpdate _ x =>
    obtain ⟨hown, -, hrevoked, hx⟩ := hf
    have hown' : (s.updateToken x).Owned x.id :=
      hown.updateToken (fun henabled => absurd henabled hx)
    exact hafter (settled_of_disableUpdate hown hrevoked hx) hown'

end

/-! ## Runs up to the revoke -/

/-- The call has begun and not returned. -/
def GrantPc.underWay (pc : GrantPc) : Bool := pc != .start && !pc.over

/-- A call begins only while no other call on the grant is under way, and its
statements go through. -/
def oneAtATime : Sched.Guard GrantDB GrantThread GrantTick :=
  fun c i tick => tick.fails = false ∧ ∀ t ∈ c.threads[i]?, t.pc = .start →
    ∀ x ∈ c.threads, x.pc.underWay = false

instance (c : Sched.Conf GrantDB GrantThread) (i : Nat) (tick : GrantTick) :
    Decidable (oneAtATime c i tick) :=
  inferInstanceAs (Decidable (tick.fails = false ∧ ∀ t ∈ c.threads[i]?, t.pc = .start →
    ∀ x ∈ c.threads, x.pc.underWay = false))

structure GrantInv (c : Sched.Conf GrantDB GrantThread) : Prop where
  alone : Sched.AtMostOne (fun t : GrantThread => t.pc.underWay = true) c
  facts : ∀ t ∈ c.threads, t.pc.underWay = true → c.store.Fact t.pc
  between : (∀ t ∈ c.threads, t.pc.underWay = false) → c.store.Consistent

theorem GrantInv.start {db : GrantDB} (hdb : db.Consistent) (calls : List GrantCall) :
    GrantInv (db.start calls) := by
  have hidle : ∀ t ∈ (db.start calls).threads, t.pc.underWay = false := by
    intro t ht
    obtain ⟨call, -, rfl⟩ := List.mem_map.mp ht
    rfl
  refine ⟨?_, ?_, fun _ => hdb⟩
  · rintro i j ⟨t, ht, hway⟩ -
    rw [hidle t (List.mem_of_getElem? ht)] at hway
    cases hway
  · intro t ht hway
    rw [hidle t ht] at hway
    cases hway

theorem GrantStep.not_over (h : GrantStep lib name tick s call pc s' pc') : pc.over = false := by
  cases h with
  | fail hover hhalf => exact hover
  | _ => rfl

/-- What the mover knows: what its last step has left it with, or what holds
between calls. -/
theorem GrantInv.mover {c : Sched.Conf GrantDB GrantThread} {i : Nat} (h : GrantInv c)
    (hguard : oneAtATime c i tick) (hi : c.threads[i]? = some ⟨call, pc⟩)
    (hs : GrantStep lib name tick c.store call pc s' pc') : c.store.Fact pc := by
  by_cases hstart : pc = .start
  · subst hstart
    exact h.between (hguard.2 _ hi rfl)
  · refine h.facts _ (List.mem_of_getElem? hi) ?_
    simp [GrantPc.underWay, hs.not_over, hstart]

theorem GrantInv.step {c : Sched.Conf GrantDB GrantThread} {i : Nat} {t t' : GrantThread}
    (h : GrantInv c) (hguard : oneAtATime c i tick) (hi : c.threads[i]? = some t)
    (hn : (grantMachine lib name).next tick c.store t = some (s', t')) :
    GrantInv ⟨s', c.threads.set i t'⟩ ∧
      (t'.pc = .revoked → s'.Settled ∧ ∀ x ∈ c.threads.set i t', x.pc.underWay = false) := by
  obtain ⟨hcall, hnow, hs⟩ := grantMachine_next hn
  obtain ⟨call, pc⟩ := t
  obtain ⟨call', pc'⟩ := t'
  obtain rfl : call' = call := hcall
  have hs : GrantStep lib name tick c.store call' pc s' pc' := hs
  obtain ⟨hfact, hsettled⟩ := hs.fact hnow hguard.1 (h.mover hguard hi hs)
  -- the mover is alone, whether it was under way or has just begun
  have hothers : ∀ {j : Nat} {x : GrantThread}, j ≠ i → c.threads[j]? = some x →
      x.pc.underWay = false := by
    intro j x hne hj
    by_cases hstart : pc = .start
    · subst hstart
      exact hguard.2 _ hi rfl x (List.mem_of_getElem? hj)
    · have hway : pc.underWay = true := by simp [GrantPc.underWay, hs.not_over, hstart]
      by_contra hx
      exact hne (h.alone j i ⟨x, hj, by simpa using hx⟩ ⟨_, hi, hway⟩)
  have hall : ∀ x ∈ c.threads.set i ⟨call', pc'⟩, x = ⟨call', pc'⟩ ∨ x.pc.underWay = false := by
    intro x hx
    obtain ⟨j, hj⟩ := List.mem_iff_getElem?.mp hx
    rcases Sched.threads_set_cases hj with ⟨-, rfl⟩ | ⟨hne, hj'⟩
    · exact Or.inl rfl
    · exact Or.inr (hothers hne hj')
  have hmem : (⟨call', pc'⟩ : GrantThread) ∈ c.threads.set i ⟨call', pc'⟩ :=
    List.mem_set (List.getElem?_eq_some_iff.mp hi).1 _
  refine ⟨⟨?_, ?_, ?_⟩, ?_⟩
  · intro a b ha hb
    rcases ha.of_set with ⟨rfl, -⟩ | ⟨hane, x, hx, hway⟩
    · rcases hb.of_set with ⟨rfl, -⟩ | ⟨hbne, x, hx, hway⟩
      · rfl
      · rw [hothers hbne hx] at hway
        cases hway
    · rw [hothers hane hx] at hway
      cases hway
  · intro x hx hway
    rcases hall x hx with rfl | hout
    · exact hfact
    · rw [hout] at hway
      cases hway
  · intro hout
    have hpc' : pc'.underWay = false := hout _ hmem
    cases pc' with
    | start | failed | granted | revoked => exact hfact
    | _ => cases hpc'
  · rintro rfl
    refine ⟨hsettled rfl, ?_⟩
    intro x hx
    rcases hall x hx with rfl | hout
    · rfl
    · exact hout

/-! ## Runs from there on -/

/-- No `IssueAgentTokens` begins. -/
def noIssueBegins : Sched.Guard GrantDB GrantThread GrantTick :=
  fun c i _ => ∀ t ∈ c.threads[i]?, ¬ (t.call = .issueAgentTokens ∧ t.pc = .start)

instance (c : Sched.Conf GrantDB GrantThread) (i : Nat) (tick : GrantTick) :
    Decidable (noIssueBegins c i tick) :=
  inferInstanceAs (Decidable
    (∀ t ∈ c.threads[i]?, ¬ (t.call = .issueAgentTokens ∧ t.pc = .start)))

/-- The call has not got past reading that the grant is revoked. -/
def GrantPc.harmless : GrantPc → Bool
  | .start | .find | .device | .revoke | .failed | .granted | .revoked => true
  | .judge g => g.isRevoked
  | _ => false

/-- On a settled grant a call that has read nothing else changes nothing and gets
nothing. -/
theorem GrantStep.harmless (h : GrantStep lib name tick s call pc s' pc') (hpc : pc.harmless = true)
    (hissue : ¬ (call = .issueAgentTokens ∧ pc = .start)) (hs : s.Settled) :
    s' = s ∧ pc'.harmless = true ∧ pc' ≠ .granted := by
  have hafter : call.afterRevoke.harmless = true ∧ call.afterRevoke ≠ .granted := by
    cases call <;> exact ⟨rfl, nofun⟩
  cases h with
  | fail hover hhalf => exact ⟨rfl, rfl, nofun⟩
  | issue hhash => exact absurd ⟨rfl, rfl⟩ hissue
  | refresh => exact ⟨rfl, rfl, nofun⟩
  | revokeStart => exact ⟨rfl, rfl, nofun⟩
  | logout => exact ⟨rfl, rfl, nofun⟩
  | find hg => exact ⟨rfl, hs.revoked _ hg, nofun⟩
  | @expired _ g hrevoked =>
    have hpc : g.isRevoked = true := hpc
    rw [hpc] at hrevoked
    cases hrevoked
  | @accept _ g hrevoked hvalid =>
    have hpc : g.isRevoked = true := hpc
    rw [hpc] at hrevoked
    cases hrevoked
  | device => exact ⟨rfl, rfl, nofun⟩
  | deviceNone hg => exact ⟨rfl, rfl, nofun⟩
  | already hg hrevoked => exact ⟨rfl, hafter⟩
  | revoke hg hrevoked =>
    rw [hs.revoked _ hg] at hrevoked
    cases hrevoked
  | _ => cases hpc

/-- What holds after a revoke: the grant is settled, the calls have read nothing
else, and nobody has been granted tokens since `c₁`. -/
structure RevokedSince (c₁ c : Sched.Conf GrantDB GrantThread) : Prop where
  settled : c.store.Settled
  harmless : ∀ t ∈ c.threads, t.pc.harmless = true
  granted : ∀ (j : Nat) (t : GrantThread), c.threads[j]? = some t → t.pc = .granted →
    c₁.threads[j]? = some t

theorem RevokedSince.step {c₁ c : Sched.Conf GrantDB GrantThread} {i : Nat} {t t' : GrantThread}
    (h : RevokedSince c₁ c) (hguard : noIssueBegins c i tick) (hi : c.threads[i]? = some t)
    (hn : (grantMachine lib name).next tick c.store t = some (s', t')) :
    RevokedSince c₁ ⟨s', c.threads.set i t'⟩ := by
  obtain ⟨hcall, -, hs⟩ := grantMachine_next hn
  obtain ⟨rfl, hpc', hgranted⟩ :=
    hs.harmless (h.harmless t (List.mem_of_getElem? hi)) (hguard t hi) h.settled
  refine ⟨h.settled, Sched.forall_threads_set h.harmless hpc', ?_⟩
  intro j x hj hx
  rcases Sched.threads_set_cases hj with ⟨-, rfl⟩ | ⟨hne, hj'⟩
  · exact absurd hx hgranted
  · exact h.granted j x hj' hx

/-- `validateAgentGrantUsable`: an access token of the grant is accepted. -/
def GrantDB.usable (s : GrantDB) (now : Int) : Bool :=
  s.grant.any (fun g => !g.isRevoked && !g.isRefreshExpired now)

theorem GrantDB.Settled.not_usable (h : s.Settled) (now : Int) : s.usable now = false := by
  unfold GrantDB.usable
  cases hg : s.grant with
  | none => rfl
  | some g => simp [h.revoked g hg]

theorem GrantDB.Settled.not_accepts (h : s.Settled) (lib : GrantLib) (token : String) (now : Int) :
    s.accepts lib token now = false := by
  unfold GrantDB.accepts
  cases hg : s.grant with
  | none => rfl
  | some g => simp [h.revoked g hg]

/-- **A revoke is effective.** Let the calls on the grant run one at a time up to
the step with which a revoke returns. From then on, in every continuation in which
no `IssueAgentTokens` begins: the grant is revoked, no refresh token and no access
token of it is accepted, nobody is granted tokens, and no gateway token of it is
enabled. -/
theorem revoke_effective (lib : GrantLib) (name : String) {db : GrantDB} (hdb : db.Consistent)
    (calls : List GrantCall) {c c₁ c₂ : Sched.Conf GrantDB GrantThread} {i : Nat}
    {tick : GrantTick}
    (hrun : Sched.Steps (grantMachine lib name) oneAtATime (db.start calls) c)
    (hguard : oneAtATime c i tick) (hstep : c.stepAt (grantMachine lib name) i tick = some c₁)
    (hreturns : ∃ t, c₁.threads[i]? = some t ∧ t.pc = .revoked)
    (hlater : Sched.Steps (grantMachine lib name) noIssueBegins c₁ c₂) :
    (∀ g, c₂.store.grant = some g → g.isRevoked = true) ∧
      (∀ token now, c₂.store.accepts lib token now = false) ∧
      (∀ now, c₂.store.usable now = false) ∧
      (∀ (j : Nat) (t : GrantThread), c₂.threads[j]? = some t → t.pc = .granted →
        c₁.threads[j]? = some t) ∧
      (∀ x ∈ c₂.store.tokens, x.status ≠ .enabled) := by
  have hinv : GrantInv c :=
    Sched.Steps.invariant (.start hdb calls) (fun hI hok hi hn => (hI.step hok hi hn).1) hrun
  obtain ⟨t, s', t', hi, hn, rfl⟩ := Sched.stepAt_eq_some hstep
  have hrevoked : t'.pc = .revoked := by
    obtain ⟨x, hx, hpc⟩ := hreturns
    rw [List.getElem?_set_self (List.getElem?_eq_some_iff.mp hi).1] at hx
    obtain rfl := Option.some.inj hx
    exact hpc
  obtain ⟨hsettled, hidle⟩ := (hinv.step hguard hi hn).2 hrevoked
  have hfirst : RevokedSince ⟨s', c.threads.set i t'⟩ ⟨s', c.threads.set i t'⟩ := by
    refine ⟨hsettled, ?_, fun j x hj _ => hj⟩
    intro x hx
    have hout := hidle x hx
    cases hpc : x.pc with
    | start | failed | granted | revoked => rfl
    | _ =>
      rw [hpc] at hout
      cases hout
  have hlast : RevokedSince ⟨s', c.threads.set i t'⟩ c₂ :=
    Sched.Steps.invariant hfirst (fun hI hok hi hn => hI.step hok hi hn) hlater
  exact ⟨hlast.settled.revoked, hlast.settled.not_accepts lib, hlast.settled.not_usable,
    hlast.granted, hlast.settled.disabled⟩

theorem grantDemo_consistent : grantDemo.Consistent := by
  refine ⟨⟨by decide, by decide, by decide, by decide, ?_⟩, ?_⟩
  · rintro x ⟨⟩ -
    rfl
  · intro h
    cases h _ rfl

/-- A revoke with nobody else at work, and a refresh after it. -/
theorem refresh_after_revoke_refused :
    ∃ c₁ c₂, Sched.Steps (grantMachine plainGrantLib "agent:1:dev") noIssueBegins c₁ c₂ ∧
      c₂.threads.map GrantThread.pc = [.revoked, .failed] ∧
      ∀ x ∈ c₂.store.tokens, x.status ≠ .enabled := by
  have hrun : ∃ c, Sched.Steps (grantMachine plainGrantLib "agent:1:dev") oneAtATime
        (grantDemo.start [.revokeUserAgentGrant, .refreshAgentTokens "r0"]) c ∧
      oneAtATime c 0 (grantDemoTick "r1") ∧
      ∃ c₁ ∈ c.stepAt (grantMachine plainGrantLib "agent:1:dev") 0 (grantDemoTick "r1"),
        (∃ t ∈ c₁.threads[0]?, t.pc = .revoked) ∧
        ∃ c₂ ∈ Sched.run (grantMachine plainGrantLib "agent:1:dev") noIssueBegins c₁
            (List.replicate 3 (1, grantDemoTick "r1")),
          c₂.threads.map GrantThread.pc = [.revoked, .failed] :=
    Sched.exists_of_run (List.replicate 4 (0, grantDemoTick "r1")) (by decide)
  obtain ⟨c, hrun, hguard, c₁, hstep, hreturns, c₂, hlater, hlast⟩ := hrun
  have hlater := Sched.steps_of_run hlater
  exact ⟨c₁, c₂, hlater, hlast,
    (revoke_effective plainGrantLib "agent:1:dev" grantDemo_consistent _ hrun hguard hstep
      hreturns hlater).2.2.2.2⟩

/-- A refresh that has read the grant before the revoke writes it back without
the revocation after the revoke has returned: the grant is not revoked, the
refresh has been granted tokens, and the new refresh token is accepted. -/
theorem refresh_undoes_revoke :
    ∃ c c₁ c₂, Sched.Steps (grantMachine plainGrantLib "agent:1:dev") Sched.free
        (grantDemo.start [.revokeUserAgentGrant, .refreshAgentTokens "r0"]) c ∧
      c.stepAt (grantMachine plainGrantLib "agent:1:dev") 0 (grantDemoTick "r1") = some c₁ ∧
      (c₁.threads.map GrantThread.pc)[0]? = some .revoked ∧
      Sched.Steps (grantMachine plainGrantLib "agent:1:dev") noIssueBegins c₁ c₂ ∧
      ¬ (∀ g, c₂.store.grant = some g → g.isRevoked = true) ∧
      ¬ (∀ token now, c₂.store.accepts plainGrantLib token now = false) ∧
      ¬ (∀ x ∈ c₂.store.tokens, x.status ≠ .enabled) := by
  have hrun : ∃ c, Sched.Steps (grantMachine plainGrantLib "agent:1:dev") Sched.free
        (grantDemo.start [.revokeUserAgentGrant, .refreshAgentTokens "r0"]) c ∧
      ∃ c₁ ∈ c.stepAt (grantMachine plainGrantLib "agent:1:dev") 0 (grantDemoTick "r1"),
        (c₁.threads.map GrantThread.pc)[0]? = some .revoked ∧
        ∃ c₂ ∈ Sched.run (grantMachine plainGrantLib "agent:1:dev") noIssueBegins c₁
            (List.replicate 6 (1, grantDemoTick "r1")),
          (∃ g ∈ c₂.store.grant, g.isRevoked = false) ∧
          c₂.store.accepts plainGrantLib "r1" 1000 = true ∧
          ∃ x ∈ c₂.store.tokens, x.status = .enabled :=
    Sched.exists_of_run ([1, 1, 0, 0, 0, 0].map (·, grantDemoTick "r1")) (by decide)
  obtain ⟨c, hrun, c₁, hstep, hfirst, c₂, hlater, ⟨g, hg, hnot⟩, haccepts, x, hx, hen⟩ := hrun
  refine ⟨c, c₁, c₂, hrun, hstep, hfirst, Sched.steps_of_run hlater, ?_, ?_, ?_⟩
  · intro hall
    rw [hall g hg] at hnot
    cases hnot
  · intro hall
    rw [hall] at haccepts
    cases haccepts
  · exact fun hall => hall x hx hen

end YouBox
