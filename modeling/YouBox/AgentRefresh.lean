import YouBox.AgentGrant

/-!
# Refresh tokens of an agent grant

A refresh reads the hash of the refresh token, checks the token it was given
against it, and in the end writes the hash of a new one, with the rest of the row
as it was read. So two calls may both have read the hash of one token, and each
of them then rotates it.

A token value is *matching* while it answers to the stored hash. Where every
write of a grant that was read earlier finds the hash it had read
(`hashUnchanged`), accepting a value is taking it out of the matching ones; new
values are random, and match nothing that was handed out before.
-/

namespace YouBox

/-- Random tokens do not collide under the password hash: what answers to the
hash of a value is that value. -/
def NoCollision (lib : GrantLib) : Prop :=
  ∀ salt token hash, lib.password2Hash salt token = some hash →
    ∀ v, lib.validatePasswordAndHash v hash = true → v = token

/-- `findGrantByRefreshToken` would accept the value. -/
def GrantDB.accepts (lib : GrantLib) (s : GrantDB) (token : String) (now : Int) : Bool :=
  s.grant.any (fun g => !g.isRevoked && !g.isRefreshExpired now &&
    lib.validatePasswordAndHash token g.refreshTokenHash)

/-- The value answers to the stored hash. -/
def GrantDB.matching (lib : GrantLib) (token : String) (s : GrantDB) : Prop :=
  ∃ g, s.grant = some g ∧ lib.validatePasswordAndHash token g.refreshTokenHash = true

/-- The value has been a refresh token of the grant. -/
def GrantDB.issued (token : String) (s : GrantDB) : Prop := token ∈ s.written

/-- The stored hash is that of a token that was written. -/
def GrantDB.Hashed (lib : GrantLib) (s : GrantDB) : Prop :=
  ∀ g, s.grant = some g →
    ∃ token ∈ s.written, ∃ salt, lib.password2Hash salt token = some g.refreshTokenHash

/-- The call has rotated the value it was given. -/
def GrantThread.rotated (token : String) (t : GrantThread) : Prop :=
  match t.call, t.pc with
  | .refreshAgentTokens v, .sign => trimSpace v = token
  | .refreshAgentTokens v, .granted => trimSpace v = token
  | _, _ => False

/-- The call has accepted the value and returned new tokens for it. -/
def GrantThread.acceptedToken (token : String) (t : GrantThread) : Prop :=
  match t.call, t.pc with
  | .refreshAgentTokens v, .granted => trimSpace v = token
  | _, _ => False

/-- The grant a call has read and is about to write back. -/
def GrantPc.writingBack : GrantPc → Option UserAgentGrant
  | .write m _ => some m.grant
  | .revokeSave g _ => some g
  | _ => none

/-- A grant that was read is written back only while the hash is as it was read. -/
def hashUnchanged : Sched.Guard GrantDB GrantThread GrantTick :=
  fun c i _ => ∀ t ∈ c.threads[i]?, ∀ g ∈ t.pc.writingBack,
    c.store.grant.map UserAgentGrant.refreshTokenHash = some g.refreshTokenHash

instance (c : Sched.Conf GrantDB GrantThread) (i : Nat) (tick : GrantTick) :
    Decidable (hashUnchanged c i tick) :=
  inferInstanceAs (Decidable (∀ t ∈ c.threads[i]?, ∀ g ∈ t.pc.writingBack,
    c.store.grant.map UserAgentGrant.refreshTokenHash = some g.refreshTokenHash))

/-! ## The invariant -/

/-- `hash` is a hash of `token`. -/
def HashOf (lib : GrantLib) (token hash : String) : Prop :=
  ∃ salt, lib.password2Hash salt token = some hash

def RefreshOk (lib : GrantLib) (t : GrantThread) : Prop :=
  match t.pc with
  | .upsert token hash _ | .insert token hash _ | .save _ token hash _ =>
    t.call.rotates = false ∧ HashOf lib token hash
  | .user g => ∀ v, t.call = .refreshAgentTokens v →
      lib.validatePasswordAndHash (trimSpace v) g.refreshTokenHash = true
  | .ensure m | .gateway m _ | .write m _ => ∀ v, t.call = .refreshAgentTokens v →
      HashOf lib m.token m.hash ∧
        lib.validatePasswordAndHash (trimSpace v) m.grant.refreshTokenHash = true
  | .reread _ _ _ => t.call.rotates = false
  | _ => True

structure RefreshInv (lib : GrantLib) (c : Sched.Conf GrantDB GrantThread) : Prop where
  hashed : c.store.Hashed lib
  calls : ∀ t ∈ c.threads, RefreshOk lib t

section

variable {lib : GrantLib} {name : String} {tick : GrantTick} {s s' : GrantDB} {call : GrantCall}
  {pc pc' : GrantPc}

theorem refreshOk_of_rotates {m : Mint} (h : call.rotates = false) :
    RefreshOk lib ⟨call, .ensure m⟩ := by
  rintro v rfl
  cases h

theorem afterRevoke_ok (call : GrantCall) : RefreshOk lib ⟨call, call.afterRevoke⟩ := by
  cases call <;> trivial

theorem GrantStep.refreshOk (h : GrantStep lib name tick s call pc s' pc')
    (hok : RefreshOk lib ⟨call, pc⟩) : RefreshOk lib ⟨call, pc'⟩ := by
  cases h with
  | issue hhash => exact ⟨rfl, tick.salt, hhash⟩
  | upsertNone hg => exact hok
  | upsertSome hg => exact hok
  | insert hfresh hg => exact hok.1
  | save hfresh => exact hok.1
  | reread hg => exact refreshOk_of_rotates hok
  | accept hrevoked hvalid =>
    rintro v ⟨⟩
    exact hvalid
  | user hhash =>
    intro v hv
    exact ⟨⟨tick.salt, hhash⟩, hok v hv⟩
  | ensure hex => exact hok
  | keep hen => exact hok
  | renew hen => exact hok
  | mint hex => exact hok
  | already hg hrevoked => exact afterRevoke_ok call
  | revokeLast hzero => exact afterRevoke_ok call
  | disableNone hx => exact afterRevoke_ok call
  | disableUpdate => exact afterRevoke_ok call
  | _ => trivial

/-- What a step does to the stored hash: it stays, or it becomes that of a value
that was never written before. -/
theorem GrantStep.hash (h : GrantStep lib name tick s call pc s' pc')
    (hok : RefreshOk lib ⟨call, pc⟩)
    (hback : ∀ g ∈ pc.writingBack,
      s.grant.map UserAgentGrant.refreshTokenHash = some g.refreshTokenHash) :
    (s'.grant.map UserAgentGrant.refreshTokenHash = s.grant.map UserAgentGrant.refreshTokenHash ∧
        s'.written = s.written) ∨
      ∃ token hash, token ∉ s.written ∧ HashOf lib token hash ∧
        s'.grant.map UserAgentGrant.refreshTokenHash = some hash ∧
        s'.written = token :: s.written := by
  cases h with
  | insert hfresh hg => exact Or.inr ⟨_, _, hfresh, hok.2, rfl, rfl⟩
  | save hfresh => exact Or.inr ⟨_, _, hfresh, hok.2, rfl, rfl⟩
  | rotate hfresh => exact Or.inr ⟨_, _, hfresh, (hok _ rfl).1, rfl, rfl⟩
  | point hrot => exact Or.inl ⟨(hback _ rfl).symm, rfl⟩
  | revokeSave hpos => exact Or.inl ⟨(hback _ rfl).symm, rfl⟩
  | revokeLast hzero => exact Or.inl ⟨(hback _ rfl).symm, rfl⟩
  | _ => exact Or.inl ⟨rfl, rfl⟩

theorem matching_iff {token : String} :
    s.matching lib token ↔ ∃ hash, s.grant.map UserAgentGrant.refreshTokenHash = some hash ∧
      lib.validatePasswordAndHash token hash = true := by
  constructor
  · rintro ⟨g, hg, hvalid⟩
    exact ⟨g.refreshTokenHash, by simp [hg], hvalid⟩
  · rintro ⟨hash, hmap, hvalid⟩
    obtain ⟨g, hg, rfl⟩ := Option.map_eq_some_iff.mp hmap
    exact ⟨g, hg, hvalid⟩

theorem GrantDB.Hashed.iff :
    s.Hashed lib ↔ ∀ hash, s.grant.map UserAgentGrant.refreshTokenHash = some hash →
      ∃ token ∈ s.written, HashOf lib token hash := by
  constructor
  · intro h hash hmap
    obtain ⟨g, hg, rfl⟩ := Option.map_eq_some_iff.mp hmap
    exact h g hg
  · intro h g hg
    exact h g.refreshTokenHash (by simp [hg])

theorem GrantDB.Hashed.issued {token : String} (h : s.Hashed lib) (hlib : NoCollision lib)
    (hmatch : s.matching lib token) : s.issued token := by
  obtain ⟨hash, hmap, hvalid⟩ := matching_iff.mp hmatch
  obtain ⟨token', hmem, salt, hhash⟩ := GrantDB.Hashed.iff.mp h hash hmap
  obtain rfl := hlib salt token' hash hhash token hvalid
  exact hmem

theorem GrantStep.hashed (h : GrantStep lib name tick s call pc s' pc')
    (hok : RefreshOk lib ⟨call, pc⟩)
    (hback : ∀ g ∈ pc.writingBack,
      s.grant.map UserAgentGrant.refreshTokenHash = some g.refreshTokenHash)
    (hhashed : s.Hashed lib) : s'.Hashed lib := by
  rw [GrantDB.Hashed.iff] at hhashed ⊢
  rcases h.hash hok hback with ⟨hsame, hwritten⟩ | ⟨token, hash, -, hhash, hnew, hwritten⟩
  · rw [hsame, hwritten]
    exact hhashed
  · rintro hash' hmap
    obtain rfl : hash = hash' := Option.some.inj (hnew.symm.trans hmap)
    exact ⟨token, by simp [hwritten], hhash⟩

theorem GrantStep.spendStep (h : GrantStep lib name tick s call pc s' pc')
    (hlib : NoCollision lib) (hok : RefreshOk lib ⟨call, pc⟩)
    (hback : ∀ g ∈ pc.writingBack,
      s.grant.map UserAgentGrant.refreshTokenHash = some g.refreshTokenHash)
    (hhashed : s.Hashed lib) (k : String) :
    Sched.SpendStep GrantDB.issued (GrantDB.matching lib) GrantThread.rotated k
      s ⟨call, pc⟩ s' ⟨call, pc'⟩ := by
  have hchange := h.hash hok hback
  have hagain : s.issued k → s'.matching lib k → s.matching lib k := by
    intro hissued hmatch
    obtain ⟨hash', hmap, hvalid⟩ := matching_iff.mp hmatch
    rcases hchange with ⟨hsame, -⟩ | ⟨token, hash, hfresh, ⟨salt, hhash⟩, hnew, -⟩
    · exact matching_iff.mpr ⟨hash', hsame ▸ hmap, hvalid⟩
    · obtain rfl : hash = hash' := Option.some.inj (hnew.symm.trans hmap)
      obtain rfl := hlib salt token hash hhash k hvalid
      exact absurd hissued hfresh
  refine ⟨?_, hagain, ?_⟩
  · intro hissued
    unfold GrantDB.issued at hissued ⊢
    rcases hchange with ⟨-, hwritten⟩ | ⟨token, hash, -, -, -, hwritten⟩
    · rw [hwritten]
      exact hissued
    · rw [hwritten]
      exact List.mem_cons_of_mem _ hissued
  · intro hrotated
    cases h with
    | @rotate v m j hfresh =>
      obtain rfl : trimSpace v = k := hrotated
      obtain ⟨⟨salt, hhash⟩, hvalid⟩ := hok v rfl
      have hmatch : s.matching lib (trimSpace v) :=
        matching_iff.mpr ⟨_, hback _ rfl, hvalid⟩
      have hissued := hhashed.issued hlib hmatch
      refine Or.inr ⟨hissued, hmatch, ?_⟩
      rintro ⟨g, hg, hvalid'⟩
      obtain rfl := Option.some.inj hg
      have heq := hlib salt m.token m.hash hhash _ hvalid'
      exact hfresh (heq ▸ hissued)
    | same hrot hk =>
      cases call with
      | refreshAgentTokens v => cases hrot
      | _ => cases hrotated
    | point hrot =>
      cases call with
      | refreshAgentTokens v => cases hrot
      | _ => cases hrotated
    | sign => exact Or.inl (by cases call <;> exact hrotated)
    | issue | refresh | revokeStart | logout | accept => cases hrotated
    | _ => cases call <;> cases hrotated

end

theorem RefreshInv.step {lib : GrantLib} {name : String} {c : Sched.Conf GrantDB GrantThread}
    {i : Nat} {tick : GrantTick} {t t' : GrantThread} {s' : GrantDB} (h : RefreshInv lib c)
    (hguard : hashUnchanged c i tick) (hi : c.threads[i]? = some t)
    (hn : (grantMachine lib name).next tick c.store t = some (s', t')) :
    RefreshInv lib ⟨s', c.threads.set i t'⟩ := by
  obtain ⟨hcall, -, hs⟩ := grantMachine_next hn
  obtain ⟨call, pc⟩ := t
  obtain ⟨call', pc'⟩ := t'
  obtain rfl : call' = call := hcall
  have hok := h.calls _ (List.mem_of_getElem? hi)
  exact ⟨hs.hashed hok (hguard _ hi) h.hashed,
    Sched.forall_threads_set h.calls (hs.refreshOk hok)⟩

/-- **A refresh token is used at most once**, and at most one is valid at a time,
in every run in which a grant that was read is written back only while its hash
is as it was read. -/
theorem refreshToken_used_at_most_once {lib : GrantLib} (hlib : NoCollision lib) (name : String)
    {db : GrantDB} (hdb : db.Hashed lib) (calls : List GrantCall)
    {c : Sched.Conf GrantDB GrantThread}
    (hrun : Sched.Steps (grantMachine lib name) hashUnchanged (db.start calls) c) :
    (∀ token, Sched.AtMostOne (GrantThread.acceptedToken token) c) ∧
      ∀ v w now, c.store.accepts lib v now = true → c.store.accepts lib w now = true → v = w := by
  have hstart : ∀ t ∈ (db.start calls).threads, t.pc = .start := by
    intro t ht
    obtain ⟨call, -, rfl⟩ := List.mem_map.mp ht
    rfl
  have hinv : ∀ token, RefreshInv lib c ∧ Sched.SpendInv GrantDB.issued (GrantDB.matching lib)
      GrantThread.rotated token c := by
    intro token
    refine Sched.Steps.invariant (I := fun c => RefreshInv lib c ∧
      Sched.SpendInv GrantDB.issued (GrantDB.matching lib) GrantThread.rotated token c)
      ⟨⟨hdb, ?_⟩, .init ?_⟩ ?_ hrun
    · intro t ht
      simp only [RefreshOk, hstart t ht]
    · intro t ht
      obtain ⟨call, -, rfl⟩ := List.mem_map.mp ht
      cases call <;> exact not_false
    · rintro c i tick t s' t' ⟨hI, hspend⟩ hguard hi hn
      refine ⟨hI.step hguard hi hn, hspend.step hi ?_⟩
      obtain ⟨hcall, -, hs⟩ := grantMachine_next hn
      obtain ⟨call, pc⟩ := t
      obtain ⟨call', pc'⟩ := t'
      obtain rfl : call' = call := hcall
      exact hs.spendStep hlib (hI.calls _ (List.mem_of_getElem? hi)) (hguard _ hi) hI.hashed token
  constructor
  · have hrotated : ∀ {token : String} {t : GrantThread}, t.acceptedToken token →
        t.rotated token := by
      rintro token ⟨call, pc⟩ h
      cases call <;> cases pc <;> first | exact h | cases h
    rintro token i j ⟨t, ht, hacc⟩ ⟨x, hx, haccx⟩
    exact (hinv token).2.alone i j ⟨t, ht, hrotated hacc⟩ ⟨x, hx, hrotated haccx⟩
  · intro v w now hv hw
    have hhashed := (hinv v).1.hashed
    obtain ⟨g, hg, hvg⟩ := (Option.any_eq_true _ _).mp hv
    obtain ⟨g', hg', hwg⟩ := (Option.any_eq_true _ _).mp hw
    obtain rfl : g = g' := Option.some.inj (hg.symm.trans hg')
    obtain ⟨token, -, salt, hhash⟩ := hhashed g hg
    simp only [Bool.and_eq_true] at hvg hwg
    exact (hlib salt token _ hhash v hvg.2).trans (hlib salt token _ hhash w hwg.2).symm

/-- Values are their own hashes here. -/
def plainGrantLib : GrantLib := ⟨fun _ token => some token, fun v hash => v == hash⟩

theorem plainGrantLib_noCollision : NoCollision plainGrantLib := by
  intro salt token hash hhash v hv
  obtain rfl : token = hash := Option.some.inj hhash
  exact eq_of_beq hv

/-- A grant with its gateway token, whose refresh token is `r0`. -/
def grantDemo : GrantDB :=
  ⟨some ⟨1, "r0", 0, 1, 0, 0⟩, [⟨1, .enabled, 0, "agent:1:dev"⟩], 2, ["r0"]⟩

theorem grantDemo_hashed : grantDemo.Hashed plainGrantLib := by
  rintro g ⟨⟩
  exact ⟨"r0", List.mem_singleton.mpr rfl, 0, rfl⟩

def grantDemoTick (token : String) : GrantTick := ⟨⟨false, 1000⟩, true, some token, 0, true⟩

/-- One refresh after the other with the same token: the second is refused. -/
theorem second_refresh_refused :
    ∃ c, Sched.Steps (grantMachine plainGrantLib "agent:1:dev") hashUnchanged
        (grantDemo.start [.refreshAgentTokens "r0", .refreshAgentTokens "r0"]) c ∧
      c.threads.map GrantThread.pc = [.granted, .failed] ∧
      Sched.AtMostOne (GrantThread.acceptedToken "r0") c :=
  Sched.exists_of_run_and ([0, 0, 0, 0, 0, 0, 0, 0, 1, 1, 1].map (·, grantDemoTick "r1"))
    (by decide) fun c hrun _ =>
    (refreshToken_used_at_most_once plainGrantLib_noCollision _ grantDemo_hashed _ hrun).1 "r0"

/-- Two refreshes with the same token that both read the grant before either
writes it: both return new tokens. -/
theorem refreshToken_used_twice :
    ∃ c, Sched.Steps (grantMachine plainGrantLib "agent:1:dev") Sched.free
        (grantDemo.start [.refreshAgentTokens "r0", .refreshAgentTokens "r0"]) c ∧
      ¬ Sched.AtMostOne (GrantThread.acceptedToken "r0") c := by
  let won : GrantThread := ⟨.refreshAgentTokens "r0", .granted⟩
  have hrun : ∃ c, Sched.Steps (grantMachine plainGrantLib "agent:1:dev") Sched.free
        (grantDemo.start [.refreshAgentTokens "r0", .refreshAgentTokens "r0"]) c ∧
      c.threads = [won, won] := Sched.exists_of_run
    ([0, 0, 1, 1, 0, 0, 0, 0, 0, 0].map (·, grantDemoTick "r1") ++
      [1, 1, 1, 1, 1, 1].map (·, grantDemoTick "r2")) (by decide)
  obtain ⟨c, hrun, hthreads⟩ := hrun
  have hwon : won.acceptedToken "r0" := by
    show trimSpace "r0" = "r0"
    decide
  refine ⟨c, hrun, fun hone => ?_⟩
  have h01 := hone 0 1 ⟨won, by rw [hthreads]; rfl, hwon⟩ ⟨won, by rw [hthreads]; rfl, hwon⟩
  cases h01

end YouBox
