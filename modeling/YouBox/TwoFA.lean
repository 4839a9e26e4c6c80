import YouBox.BackupCodes

/-!
# Guessing second factors

`ValidateTOTPAndUpdateUsage` and `ValidateBackupCodeAndUpdateUsage` over the
two-factor record of one user, any number of calls interleaved, each on a record
it has loaded earlier. A call reads the record, checks that the record it has is
not locked, compares the code, and writes the record back as a whole, with the
failure counted or with the counter reset.

Time is the clock of the server in nanoseconds, and never runs backwards.

Within `LockoutDuration` at most `MaxFailAttempts` wrong codes are compared as
long as the attempts do not overlap (`oneByOne`): a call compares its code only
while nobody is between a comparison and the write of its outcome, on a record
that is the stored one. The counter then bounds the wrong codes of the period
(`Accounted`), and the fifth failure locks the record to the period's end.
-/

namespace YouBox

def maxFailAttempts : Nat := 5

/-- `LockoutDuration`, 300 seconds. -/
def lockoutDuration : Int := 300 * 10 ^ 9

/-- The row of `two_fas` of the user. -/
structure TwoFA where
  id : Nat
  userId : Nat
  secret : String
  isEnabled : Bool
  failedAttempts : Nat
  lockedUntil : Option Int
  lastUsedAt : Option Int
deriving DecidableEq

namespace TwoFA

def isLocked (t : TwoFA) (now : Int) : Bool :=
  match t.lockedUntil with
  | none => false
  | some until_ => now < until_

/-- `IncrementFailedAttempts`, up to its `Update`. -/
def incrementFailedAttempts (t : TwoFA) (now : Int) : TwoFA :=
  { t with
    failedAttempts := t.failedAttempts + 1
    lockedUntil :=
      if maxFailAttempts ≤ t.failedAttempts + 1 then some (now + lockoutDuration)
      else t.lockedUntil }

/-- What a correct code does to the record. -/
def recordUse (t : TwoFA) (now : Int) : TwoFA :=
  { t with failedAttempts := 0, lockedUntil := none, lastUsedAt := some now }

end TwoFA

/-- What the codes are checked with: `totp.Validate` besides what backup codes
need. -/
structure TwoFALib extends BackupLib where
  totpValidate : String → String → Int → Bool

/-- `strings.ReplaceAll(code, " ", "")` -/
def cleanTOTP (code : String) : String := String.ofList (code.toList.filter (· ≠ ' '))

/-- `ValidateTOTPCode`; `none` where the code is not compared with the secret. -/
def TwoFALib.validateTOTPCode (lib : TwoFALib) (secret code : String) (now : Int) : Option Bool :=
  if (cleanTOTP code).utf8ByteSize == 6 then some (lib.totpValidate (cleanTOTP code) secret now)
  else none

/-- The record, the user's backup codes, and the time of the last step. -/
structure TwoFADB where
  twoFA : TwoFA
  backup : BackupDB
  clock : Int

/-- gorm's `Save` of a backup code. -/
def BackupDB.save (s : BackupDB) (bc : TwoFABackupCode) : BackupDB :=
  if s.live bc.id then s.update bc else s.upsert bc

inductive TwoFACall where
  | validateTOTPAndUpdateUsage (code : String)
  | validateBackupCodeAndUpdateUsage (code : String)

/-- When a code was compared, and whether it was the right one. -/
abbrev Verdict := Option (Int × Bool)

/-- Where a call stands; `t` is its record in memory. -/
inductive TwoFAPc where
  | load
  | check (t : TwoFA)
  /-- about to compare a TOTP code -/
  | judge (t : TwoFA)
  /-- about to read the unused backup codes -/
  | find (t : TwoFA)
  /-- about to compare a backup code with the rows read -/
  | compare (t : TwoFA) (rows : List TwoFABackupCode)
  /-- about to save the backup code that matched -/
  | mark (t : TwoFA) (bc : TwoFABackupCode) (v : Verdict)
  | wrong (t : TwoFA) (v : Verdict)
  | right (t : TwoFA) (v : Verdict)
  /-- about to write the record -/
  | update (t : TwoFA) (v : Verdict)
  | done (v : Verdict)
deriving DecidableEq

structure TwoFAThread where
  call : TwoFACall
  pc : TwoFAPc

section

variable (lib : TwoFALib)

/-- After the lock check: a code of the wrong form is an error for the backup
codes and a wrong code for TOTP. -/
def TwoFACall.unlocked (t : TwoFA) : TwoFACall → TwoFAPc
  | .validateTOTPAndUpdateUsage _ => .judge t
  | .validateBackupCodeAndUpdateUsage code =>
    if lib.validateBackupCode code then .find t else .done none

def TwoFACall.code : TwoFACall → String
  | .validateTOTPAndUpdateUsage code | .validateBackupCodeAndUpdateUsage code => code

def TwoFACall.next (call : TwoFACall) (tick : Tick) (s : TwoFADB) :
    TwoFAPc → Option (TwoFADB × TwoFAPc)
  | .load => some (s, if tick.fails then .done none else .check s.twoFA)
  | .check t => some (s, if t.isLocked tick.now then .done none else call.unlocked lib t)
  | .judge t =>
    some (s, match lib.validateTOTPCode t.secret call.code tick.now with
      | none => .wrong t none
      | some false => .wrong t (some (tick.now, false))
      | some true => .right t (some (tick.now, true)))
  | .find t =>
    some (s, if tick.fails then .done none else .compare t (s.backup.unused t.userId))
  | .compare t rows =>
    some (s, match rows.find? (fun bc =>
        lib.validatePasswordAndHash (lib.normalizeBackupCode call.code) bc.codeHash) with
      | none => .wrong t (some (tick.now, false))
      | some bc =>
        .mark t { bc with isUsed := true, usedAt := some tick.now } (some (tick.now, true)))
  | .mark t bc v =>
    if tick.fails then some (s, .done v)
    else some ({ s with backup := s.backup.save bc }, .right t v)
  | .wrong t v => some (s, .update (t.incrementFailedAttempts tick.now) v)
  | .right t v => some (s, .update (t.recordUse tick.now) v)
  -- a failed write is logged, and the call returns as if it had gone through
  | .update t v => some (if tick.fails then s else { s with twoFA := t }, .done v)
  | .done _ => none

def twoFAMachine : Sched.Machine TwoFADB TwoFAThread Tick where
  next tick s t :=
    if tick.now < s.clock then none
    else (t.call.next lib tick s t.pc).map
      (fun p => ({ p.1 with clock := tick.now }, { t with pc := p.2 }))

end

/-- Any number of calls about to load the record. -/
def TwoFADB.start (db : TwoFADB) (calls : List TwoFACall) : Sched.Conf TwoFADB TwoFAThread :=
  ⟨db, calls.map (fun call => ⟨call, .load⟩)⟩

/-! ## What is counted -/

/-- The comparison a call has made. -/
def TwoFAPc.verdict : TwoFAPc → Verdict
  | .mark _ _ v | .wrong _ v | .right _ v | .update _ v | .done v => v
  | _ => none

/-- The period of `LockoutDuration` that starts at `T`. -/
def inPeriod (T at_ : Int) : Bool := decide (T ≤ at_) && decide (at_ < T + lockoutDuration)

/-- The call has compared a code of this kind in the period. -/
def TwoFAThread.compared (T : Int) (correct : Bool) (t : TwoFAThread) : Bool :=
  match t.pc.verdict with
  | none => false
  | some (at_, ok) => ok == correct && inPeriod T at_

/-- How many wrong codes have been compared in the period. -/
def wrongCodes (T : Int) (c : Sched.Conf TwoFADB TwoFAThread) : Int :=
  (c.threads.map (fun t => if t.compared T false then 1 else 0)).sum

/-! ## Attempts that do not overlap -/

/-- The call has compared its code and not written the outcome yet. -/
def TwoFAPc.deciding : TwoFAPc → Bool
  | .mark _ _ _ | .wrong _ _ | .right _ _ | .update _ _ => true
  | _ => false

/-- The record on which a call is about to compare its code. -/
def TwoFAPc.comparing : TwoFAPc → Option TwoFA
  | .judge t | .compare t _ => some t
  | _ => none

def TwoFAPc.updating : TwoFAPc → Bool
  | .update _ _ => true
  | _ => false

/-- A code is compared only while no other call has a comparison it has not
written yet, and on the counter and lock that are stored; writes go through. -/
def oneByOne : Sched.Guard TwoFADB TwoFAThread Tick :=
  fun c i tick => ∀ t ∈ c.threads[i]?,
    (∀ r ∈ t.pc.comparing, (∀ x ∈ c.threads, x.pc.deciding = false) ∧
      r.failedAttempts = c.store.twoFA.failedAttempts ∧
      r.lockedUntil = c.store.twoFA.lockedUntil) ∧
    (t.pc.updating = true → tick.fails = false)

instance (c : Sched.Conf TwoFADB TwoFAThread) (i : Nat) (tick : Tick) :
    Decidable (oneByOne c i tick) :=
  inferInstanceAs (Decidable (∀ t ∈ c.threads[i]?,
    (∀ r ∈ t.pc.comparing, (∀ x ∈ c.threads, x.pc.deciding = false) ∧
      r.failedAttempts = c.store.twoFA.failedAttempts ∧
      r.lockedUntil = c.store.twoFA.lockedUntil) ∧
    (t.pc.updating = true → tick.fails = false)))

/-! ## What one step does -/

/-- The record on which a call has passed the lock check. -/
def TwoFAPc.passed : TwoFAPc → Option TwoFA
  | .judge t | .find t | .compare t _ => some t
  | _ => none

inductive TwoFAStep (now : Int) (fails : Bool) (s : TwoFADB) :
    TwoFAPc → TwoFADB → TwoFAPc → Prop
  | plain {pc pc'} : pc.deciding = false → pc'.deciding = false → pc'.verdict = none →
      pc.verdict = none →
      (∀ t ∈ pc'.passed, t ∈ pc.passed ∨ t.isLocked now = false) →
      TwoFAStep now fails s pc s pc'
  | wrong {pc t v} : pc.comparing = some t → pc.passed = some t → (v = none ∨ v = some (now, false)) →
      TwoFAStep now fails s pc s (.wrong t v)
  | right {pc t} : pc.comparing = some t → TwoFAStep now fails s pc s (.right t (some (now, true)))
  | mark {pc t bc} : pc.comparing = some t →
      TwoFAStep now fails s pc s (.mark t bc (some (now, true)))
  | marked {t bc v} :
      TwoFAStep now fails s (.mark t bc v) { s with backup := s.backup.save bc } (.right t v)
  | markFails {t bc v} : TwoFAStep now fails s (.mark t bc v) s (.done v)
  | increment {t v} :
      TwoFAStep now fails s (.wrong t v) s (.update (t.incrementFailedAttempts now) v)
  | reset {t v} : TwoFAStep now fails s (.right t v) s (.update (t.recordUse now) v)
  | update {t v} : fails = false →
      TwoFAStep now fails s (.update t v) { s with twoFA := t } (.done v)
  | updateFails {t v} : fails = true → TwoFAStep now fails s (.update t v) s (.done v)

variable {tick : Tick} {s s' : TwoFADB} {pc pc' : TwoFAPc}

variable {T : Int} {c : Sched.Conf TwoFADB TwoFAThread} {lib : TwoFALib} {t' : TwoFAThread}

theorem twoFAStep_of_next {call : TwoFACall} (h : call.next lib tick s pc = some (s', pc')) :
    TwoFAStep tick.now tick.fails s pc s' pc' := by
  cases pc with
  | load =>
    simp only [TwoFACall.next] at h
    cases h
    split
    · exact .plain rfl rfl rfl rfl nofun
    · exact .plain rfl rfl rfl rfl nofun
  | check t =>
    simp only [TwoFACall.next] at h
    cases h
    split
    · exact .plain rfl rfl rfl rfl nofun
    · rename_i hlocked
      have hlocked : t.isLocked tick.now = false := by simpa using hlocked
      cases call with
      | validateTOTPAndUpdateUsage code =>
        refine .plain rfl rfl rfl rfl ?_
        rintro r ⟨⟩
        exact Or.inr hlocked
      | validateBackupCodeAndUpdateUsage code =>
        simp only [TwoFACall.unlocked]
        split
        · refine .plain rfl rfl rfl rfl ?_
          rintro r ⟨⟩
          exact Or.inr hlocked
        · exact .plain rfl rfl rfl rfl nofun
  | judge t =>
    simp only [TwoFACall.next] at h
    cases h
    split
    · exact .wrong rfl rfl (Or.inl rfl)
    · exact .wrong rfl rfl (Or.inr rfl)
    · exact .right rfl
  | find t =>
    simp only [TwoFACall.next] at h
    cases h
    split
    · exact .plain rfl rfl rfl rfl nofun
    · exact .plain rfl rfl rfl rfl (fun r hr => Or.inl hr)
  | compare t rows =>
    simp only [TwoFACall.next] at h
    cases h
    split
    · exact .wrong rfl rfl (Or.inr rfl)
    · exact .mark rfl
  | mark t bc v =>
    simp only [TwoFACall.next] at h
    split at h
    · cases h; exact .markFails
    · cases h; exact .marked
  | wrong t v =>
    simp only [TwoFACall.next] at h
    cases h
    exact .increment
  | right t v =>
    simp only [TwoFACall.next] at h
    cases h
    exact .reset
  | update t v =>
    simp only [TwoFACall.next] at h
    cases h
    cases hf : tick.fails with
    | true => exact .updateFails rfl
    | false => exact .update rfl
  | done v => cases h

theorem twoFAMachine_next {t : TwoFAThread} (h : (twoFAMachine lib).next tick s t = some (s', t')) :
    ∃ s₁, TwoFAStep tick.now tick.fails s t.pc s₁ t'.pc ∧ s' = { s₁ with clock := tick.now } ∧
      s.clock ≤ tick.now := by
  simp only [twoFAMachine] at h
  split at h
  · cases h
  · rename_i hclock
    simp only [Option.map_eq_some_iff, Prod.mk.injEq] at h
    obtain ⟨⟨s₁, pc'⟩, hn, rfl, rfl⟩ := h
    exact ⟨s₁, twoFAStep_of_next hn, rfl, by omega⟩

/-! ## The account of a period -/

/-- What is known, in the middle of an attempt, of the wrong codes `n` compared so
far in the period and the stored record `r`. -/
def TwoFAPc.Owes (T : Int) (n : Int) (r : TwoFA) : TwoFAPc → Prop
  | .wrong t _ => n ≤ r.failedAttempts + 1 ∧ t.failedAttempts = r.failedAttempts
  | .update t _ => n ≤ t.failedAttempts ∧
      (1 ≤ n → maxFailAttempts ≤ t.failedAttempts →
        ∃ u, t.lockedUntil = some u ∧ T + lockoutDuration ≤ u)
  | .mark _ _ _ | .right _ _ => n ≤ 0
  | _ => True

/-- The counter accounts for the wrong codes of the period, and once it is full
the record is locked to the period's end. -/
structure Accounted (T : Int) (c : Sched.Conf TwoFADB TwoFAThread) : Prop where
  deciding : ∀ t ∈ c.threads, t.pc.Owes T (wrongCodes T c) c.store.twoFA
  counter : (∀ t ∈ c.threads, t.pc.deciding = false) →
    wrongCodes T c ≤ c.store.twoFA.failedAttempts ∧
    (1 ≤ wrongCodes T c → maxFailAttempts ≤ c.store.twoFA.failedAttempts →
      ∃ u, c.store.twoFA.lockedUntil = some u ∧ T + lockoutDuration ≤ u)

structure GuessInv (T : Int) (c : Sched.Conf TwoFADB TwoFAThread) : Prop where
  alone : Sched.AtMostOne (fun t : TwoFAThread => t.pc.deciding = true) c
  past : ∀ t ∈ c.threads, ∀ v ∈ t.pc.verdict, v.1 ≤ c.store.clock
  passed : ∀ t ∈ c.threads, ∀ r ∈ t.pc.passed, r.isLocked c.store.clock = false
  bound : (∀ t ∈ c.threads, t.compared T true = false) →
    wrongCodes T c ≤ maxFailAttempts ∧ (c.store.clock < T + lockoutDuration → Accounted T c)

theorem verdict_of_comparing {t : TwoFA} (h : pc.comparing = some t) :
    pc.verdict = none := by
  cases pc <;> first | rfl | cases h

variable {fails : Bool} {now : Int} {i : Nat}

theorem TwoFAStep.verdict (h : TwoFAStep now fails s pc s' pc') :
    pc'.verdict = pc.verdict ∨ (pc.verdict = none ∧ ∃ ok, pc'.verdict = some (now, ok)) := by
  cases h with
  | plain hd hd' hv' hv hp => exact Or.inl (hv'.trans hv.symm)
  | wrong hc hp hv =>
    rcases hv with rfl | rfl
    · exact Or.inl (verdict_of_comparing hc).symm
    · exact Or.inr ⟨verdict_of_comparing hc, false, rfl⟩
  | right hc => exact Or.inr ⟨verdict_of_comparing hc, true, rfl⟩
  | mark hc => exact Or.inr ⟨verdict_of_comparing hc, true, rfl⟩
  | _ => exact Or.inl rfl

theorem isLocked_mono {t : TwoFA} {a b : Int} (hab : a ≤ b) (h : t.isLocked a = false) :
    t.isLocked b = false := by
  unfold TwoFA.isLocked at h ⊢
  cases hl : t.lockedUntil with
  | none => rfl
  | some u =>
    simp only [hl, decide_eq_false_iff_not] at h ⊢
    omega

theorem owes_of_not_deciding {n : Int} {r : TwoFA} (h : pc.deciding = false) : pc.Owes T n r := by
  cases pc with
  | mark | wrong | right | update => cases h
  | _ => trivial

theorem GuessInv.begun (h : GuessInv T c) (hpos : 1 ≤ wrongCodes T c) : T ≤ c.store.clock := by
  by_contra hbefore
  have hzero : wrongCodes T c = 0 := by
    refine List.sum_eq_zero ?_
    intro x hx
    obtain ⟨t, ht, rfl⟩ := List.mem_map.mp hx
    refine if_neg ?_
    cases hv : t.pc.verdict with
    | none => simp [TwoFAThread.compared, hv]
    | some v =>
      have hpast := h.past t ht v (by rw [hv]; rfl)
      have hout : ¬ T ≤ v.1 := by omega
      simp [TwoFAThread.compared, hv, inPeriod, hout]
  omega

theorem wrongCodes_set {t : TwoFAThread} (hi : c.threads[i]? = some t) :
    wrongCodes T ⟨s', c.threads.set i t'⟩ = wrongCodes T c -
      (if t.compared T false then 1 else 0) + (if t'.compared T false then 1 else 0) :=
  Sched.sum_threads_set (fun t : TwoFAThread => if t.compared T false then 1 else 0) t' hi

theorem wrongCodes_set_eq {t : TwoFAThread} (hi : c.threads[i]? = some t)
    (h : t'.compared T false = t.compared T false) :
    wrongCodes T ⟨s', c.threads.set i t'⟩ = wrongCodes T c := by
  rw [wrongCodes_set hi, h]
  omega

theorem compared_of_verdict_eq {b : Bool} {t : TwoFAThread} (h : t'.pc.verdict = t.pc.verdict) :
    t'.compared T b = t.compared T b := by
  simp only [TwoFAThread.compared, h]

section

variable {T now : Int} {fails : Bool} {c : Sched.Conf TwoFADB TwoFAThread} {i : Nat}
  {t t' : TwoFAThread} {s₁ : TwoFADB}

theorem GuessInv.others (h : GuessInv T c) (hi : c.threads[i]? = some t)
    (hdec : t.pc.deciding = true ∨ ∀ x ∈ c.threads, x.pc.deciding = false) {j : Nat}
    {x : TwoFAThread} (hne : j ≠ i) (hj : c.threads[j]? = some x) : x.pc.deciding = false := by
  rcases hdec with hdec | hdec
  · by_contra hx
    exact hne (h.alone j i ⟨x, hj, by simpa using hx⟩ ⟨t, hi, hdec⟩)
  · exact hdec x (List.mem_of_getElem? hj)

/-- The account after a step of the only call in the middle of an attempt, or of
one that begins its own. -/
theorem GuessInv.accounted_of_mover (h : GuessInv T c) (hi : c.threads[i]? = some t)
    (hdec : t.pc.deciding = true ∨ ∀ x ∈ c.threads, x.pc.deciding = false)
    (howes : t'.pc.Owes T (wrongCodes T ⟨s₁, c.threads.set i t'⟩) s₁.twoFA)
    (hcounter : t'.pc.deciding = false →
      wrongCodes T ⟨s₁, c.threads.set i t'⟩ ≤ s₁.twoFA.failedAttempts ∧
      (1 ≤ wrongCodes T ⟨s₁, c.threads.set i t'⟩ → maxFailAttempts ≤ s₁.twoFA.failedAttempts →
        ∃ u, s₁.twoFA.lockedUntil = some u ∧ T + lockoutDuration ≤ u)) :
    Accounted T ⟨{ s₁ with clock := now }, c.threads.set i t'⟩ := by
  have hmem : t' ∈ c.threads.set i t' :=
    List.mem_set (List.getElem?_eq_some_iff.mp hi).1 t'
  refine ⟨?_, fun hout => hcounter (hout t' hmem)⟩
  intro x hx
  obtain ⟨j, hj⟩ := List.mem_iff_getElem?.mp hx
  rcases Sched.threads_set_cases hj with ⟨-, rfl⟩ | ⟨hne, hj'⟩
  · exact howes
  · exact owes_of_not_deciding (h.others hi hdec hne hj')

theorem Accounted.plain (h : Accounted T c) (hi : c.threads[i]? = some t)
    (hdec : t.pc.deciding = false) (hdec' : t'.pc.deciding = false)
    (hverdict : t'.pc.verdict = t.pc.verdict) :
    Accounted T ⟨{ c.store with clock := now }, c.threads.set i t'⟩ := by
  have hn : wrongCodes T ⟨{ c.store with clock := now }, c.threads.set i t'⟩ = wrongCodes T c :=
    wrongCodes_set_eq hi (compared_of_verdict_eq hverdict)
  constructor
  · rw [hn]
    exact Sched.forall_threads_set h.deciding (owes_of_not_deciding hdec')
  · intro hout
    rw [hn]
    refine h.counter ?_
    intro x hx
    obtain ⟨j, hj⟩ := List.mem_iff_getElem?.mp hx
    by_cases hij : j = i
    · subst hij
      obtain rfl : t = x := Option.some.inj (hi.symm.trans hj)
      exact hdec
    · refine hout x (List.mem_iff_getElem?.mpr ⟨j, ?_⟩)
      rw [List.getElem?_set_ne (fun hji => hij hji.symm)]
      exact hj

theorem wrongCodes_first {ok : Bool} (hi : c.threads[i]? = some t) (hnone : t.pc.verdict = none)
    (hverdict : t'.pc.verdict = some (now, ok)) :
    wrongCodes T ⟨s₁, c.threads.set i t'⟩ =
      wrongCodes T c + if ok = false ∧ inPeriod T now = true then 1 else 0 := by
  rw [wrongCodes_set hi]
  cases ok <;> simp [TwoFAThread.compared, hnone, hverdict]

/-- A wrong code that is compared in the period is one of the first
`MaxFailAttempts`: otherwise the record would be locked. -/
theorem GuessInv.room {r : TwoFA} (h : GuessInv T c) (ht : t ∈ c.threads)
    (hpassed : t.pc.passed = some r) (hclear : ∀ x ∈ c.threads, x.pc.deciding = false)
    (hlock : r.lockedUntil = c.store.twoFA.lockedUntil)
    (hacc : Accounted T c) (hclock : c.store.clock < T + lockoutDuration) :
    wrongCodes T c < maxFailAttempts := by
  obtain ⟨hcount, hlocked⟩ := hacc.counter hclear
  by_contra hfull
  have hmax : (maxFailAttempts : Int) = 5 := rfl
  obtain ⟨u, hu, hend⟩ := hlocked (by omega) (by omega)
  have hunlocked := h.passed t ht r hpassed
  simp only [TwoFA.isLocked, hlock, hu, decide_eq_false_iff_not] at hunlocked
  omega

variable {s' : TwoFADB}

theorem GuessInv.past_step (h : GuessInv T c) (hi : c.threads[i]? = some t)
    (hclock : c.store.clock ≤ now) (hs : TwoFAStep now fails c.store t.pc s' t'.pc) :
    ∀ x ∈ c.threads.set i t', ∀ v ∈ x.pc.verdict, v.1 ≤ now := by
  have hold : ∀ x ∈ c.threads, ∀ v ∈ x.pc.verdict, v.1 ≤ now :=
    fun x hx v hv => Int.le_trans (h.past x hx v hv) hclock
  refine Sched.forall_threads_set hold ?_
  intro v hv
  rcases hs.verdict with hsame | ⟨-, ok, hnew⟩
  · exact hold t (List.mem_of_getElem? hi) v (hsame ▸ hv)
  · rw [hnew] at hv
    obtain rfl : (now, ok) = v := Option.some.inj hv
    exact Int.le_refl _

theorem GuessInv.passed_step (h : GuessInv T c) (hi : c.threads[i]? = some t)
    (hclock : c.store.clock ≤ now) (hs : TwoFAStep now fails c.store t.pc s' t'.pc) :
    ∀ x ∈ c.threads.set i t', ∀ r ∈ x.pc.passed, r.isLocked now = false := by
  have hold : ∀ x ∈ c.threads, ∀ r ∈ x.pc.passed, r.isLocked now = false :=
    fun x hx r hr => isLocked_mono hclock (h.passed x hx r hr)
  refine Sched.forall_threads_set hold ?_
  intro r hr
  obtain ⟨call, pc⟩ := t
  obtain ⟨call', pc'⟩ := t'
  have hs : TwoFAStep now fails c.store pc s' pc' := hs
  cases hs with
  | plain hd hd' hv' hv hp =>
    rcases hp r hr with hwas | hunlocked
    · exact hold ⟨call, pc⟩ (List.mem_of_getElem? hi) r hwas
    · exact hunlocked
  | _ => cases hr

theorem GuessInv.bound_right (h : GuessInv T c) (hi : c.threads[i]? = some t)
    (hnone : t.pc.verdict = none) (hverdict : t'.pc.verdict = some (now, true))
    (hidle : ∀ x ∈ c.threads, x.pc.deciding = false) (hout : inPeriod T now = false)
    (hclock : c.store.clock ≤ now) (hle : wrongCodes T c ≤ maxFailAttempts)
    (hmover : (∃ r v, t'.pc = .right r v) ∨ ∃ r bc v, t'.pc = .mark r bc v) :
    wrongCodes T ⟨{ c.store with clock := now }, c.threads.set i t'⟩ ≤ maxFailAttempts ∧
      (now < T + lockoutDuration →
        Accounted T ⟨{ c.store with clock := now }, c.threads.set i t'⟩) := by
  have hcount : ∀ s₁ : TwoFADB,
      wrongCodes T ⟨s₁, c.threads.set i t'⟩ = wrongCodes T c := by
    intro s₁
    rw [wrongCodes_first hi hnone hverdict]
    simp
  refine ⟨by rw [hcount]; exact hle, fun hnow => ?_⟩
  have hbefore : now < T := by
    simp only [inPeriod, hnow, decide_true, Bool.and_true, decide_eq_false_iff_not] at hout
    omega
  have hzero : wrongCodes T c ≤ 0 := by
    by_contra hpos
    have := h.begun (by omega)
    omega
  refine h.accounted_of_mover hi (Or.inr hidle) ?_ ?_
  · rw [hcount]
    rcases hmover with ⟨r, v, hpc⟩ | ⟨r, bc, v, hpc⟩
    · rw [hpc]; exact hzero
    · rw [hpc]; exact hzero
  · rcases hmover with ⟨r, v, hpc⟩ | ⟨r, bc, v, hpc⟩
    · rw [hpc]; nofun
    · rw [hpc]; nofun

theorem GuessInv.bound_step (h : GuessInv T c) (hi : c.threads[i]? = some t)
    (hclock : c.store.clock ≤ now) (hclear : ∀ r ∈ t.pc.comparing, (∀ x ∈ c.threads, x.pc.deciding =
      false) ∧ r.failedAttempts = c.store.twoFA.failedAttempts ∧ r.lockedUntil =
      c.store.twoFA.lockedUntil) (hwrites : t.pc.updating = true → fails = false)
    (hs : TwoFAStep now fails c.store t.pc s' t'.pc)
    (hright : ∀ x ∈ c.threads.set i t', x.compared T true = false) :
    wrongCodes T ⟨{ s' with clock := now }, c.threads.set i t'⟩ ≤ maxFailAttempts ∧
      (now < T + lockoutDuration →
        Accounted T ⟨{ s' with clock := now }, c.threads.set i t'⟩) := by
  obtain ⟨call, pc⟩ := t
  obtain ⟨call', pc'⟩ := t'
  have hs : TwoFAStep now fails c.store pc s' pc' := hs
  have hmem := List.mem_of_getElem? hi
  have hmem' : (⟨call', pc'⟩ : TwoFAThread) ∈ c.threads.set i ⟨call', pc'⟩ :=
    List.mem_set (List.getElem?_eq_some_iff.mp hi).1 _
  -- no right code before the step either
  have hright₀ : ∀ x ∈ c.threads, x.compared T true = false := by
    intro x hx
    obtain ⟨j, hj⟩ := List.mem_iff_getElem?.mp hx
    by_cases hij : j = i
    · subst hij
      obtain rfl : (⟨call, pc⟩ : TwoFAThread) = x := Option.some.inj (hi.symm.trans hj)
      rcases hs.verdict with hsame | ⟨hnone, -⟩
      · rw [← hright _ hmem']
        exact (compared_of_verdict_eq hsame).symm
      · simp [TwoFAThread.compared, hnone]
    · refine hright x (List.mem_iff_getElem?.mpr ⟨j, ?_⟩)
      rw [List.getElem?_set_ne (fun hji => hij hji.symm)]
      exact hj
  obtain ⟨hle, hacc⟩ := h.bound hright₀
  have hsame : ∀ {s₁ : TwoFADB}, pc'.verdict = pc.verdict →
      wrongCodes T ⟨s₁, c.threads.set i ⟨call', pc'⟩⟩ = wrongCodes T c :=
    fun hv => wrongCodes_set_eq hi (compared_of_verdict_eq hv)
  have hbegun := h.begun
  cases hs with
  | plain hd hd' hv' hv hp =>
    have hverdict := hv'.trans hv.symm
    refine ⟨by rw [hsame hverdict]; exact hle, fun hnow => ?_⟩
    exact (hacc (by omega)).plain hi hd hd' hverdict
  | @wrong _ r v hc hpassed hv =>
    obtain ⟨hidle, hfailed, hlock⟩ := hclear r hc
    have hcount : ∀ s₁ : TwoFADB, wrongCodes T ⟨s₁, c.threads.set i ⟨call', .wrong r v⟩⟩ =
        wrongCodes T c + if v = some (now, false) ∧ inPeriod T now = true then 1 else 0 := by
      intro s₁
      rcases hv with rfl | rfl
      · rw [hsame (verdict_of_comparing hc).symm]
        simp
      · rw [wrongCodes_first hi (verdict_of_comparing hc) rfl]
        simp
    by_cases hnow : now < T + lockoutDuration
    · have hacc := hacc (by omega)
      have hroom := h.room hmem hpassed hidle hlock hacc (by omega)
      have hcounter := (hacc.counter hidle).1
      have hle' : ∀ s₁ : TwoFADB, wrongCodes T ⟨s₁, c.threads.set i ⟨call', .wrong r v⟩⟩ ≤
          wrongCodes T c + 1 := by
        intro s₁
        rw [hcount]
        split <;> omega
      refine ⟨Int.le_trans (hle' _) (by omega), fun _ => ?_⟩
      refine h.accounted_of_mover hi (Or.inr hidle) ?_ nofun
      exact ⟨Int.le_trans (hle' _) (by omega), hfailed⟩
    · refine ⟨?_, fun hlt => absurd hlt hnow⟩
      have hout : inPeriod T now = false := by simp [inPeriod, hnow]
      rw [hcount, hout]
      simpa using hle
  | @right _ r hc =>
    obtain ⟨hidle, -, -⟩ := hclear r hc
    have hout : inPeriod T now = false := by
      simpa [TwoFAThread.compared, TwoFAPc.verdict] using hright _ hmem'
    exact h.bound_right hi (verdict_of_comparing hc) rfl hidle hout hclock hle
      (Or.inl ⟨r, _, rfl⟩)
  | @mark _ r bc hc =>
    obtain ⟨hidle, -, -⟩ := hclear r hc
    have hout : inPeriod T now = false := by
      simpa [TwoFAThread.compared, TwoFAPc.verdict] using hright _ hmem'
    exact h.bound_right hi (verdict_of_comparing hc) rfl hidle hout hclock hle
      (Or.inr ⟨r, bc, _, rfl⟩)
  | @marked r bc v =>
    refine ⟨by rw [hsame rfl]; exact hle, fun hnow => ?_⟩
    refine h.accounted_of_mover hi (Or.inl rfl) ?_ nofun
    rw [hsame rfl]
    have hzero : wrongCodes T c ≤ 0 := (hacc (by omega)).deciding _ hmem
    exact hzero
  | @markFails r bc v =>
    refine ⟨by rw [hsame rfl]; exact hle, fun hnow => ?_⟩
    refine h.accounted_of_mover hi (Or.inl rfl) trivial ?_
    rw [hsame rfl]
    have hzero : wrongCodes T c ≤ 0 := (hacc (by omega)).deciding _ hmem
    exact fun _ => ⟨by omega, fun hpos => by omega⟩
  | @increment r v =>
    refine ⟨by rw [hsame rfl]; exact hle, fun hnow => ?_⟩
    refine h.accounted_of_mover hi (Or.inl rfl) ?_ nofun
    rw [hsame rfl]
    obtain ⟨hcount, hsame⟩ := (hacc (by omega)).deciding _ hmem
    refine ⟨?_, fun hpos hfull => ?_⟩
    · simp only [TwoFA.incrementFailedAttempts]
      omega
    · refine ⟨now + lockoutDuration, ?_, ?_⟩
      · simp only [TwoFA.incrementFailedAttempts] at hfull ⊢
        exact if_pos hfull
      · have := hbegun hpos
        omega
  | @reset r v =>
    refine ⟨by rw [hsame rfl]; exact hle, fun hnow => ?_⟩
    refine h.accounted_of_mover hi (Or.inl rfl) ?_ nofun
    rw [hsame rfl]
    have hzero : wrongCodes T c ≤ 0 := (hacc (by omega)).deciding _ hmem
    exact ⟨hzero, fun hpos => by omega⟩
  | @update r v hf =>
    refine ⟨by rw [hsame rfl]; exact hle, fun hnow => ?_⟩
    refine h.accounted_of_mover hi (Or.inl rfl) trivial ?_
    rw [hsame rfl]
    exact fun _ => (hacc (by omega)).deciding _ hmem
  | @updateFails r v hf =>
    rw [hwrites rfl] at hf
    cases hf

end

/-! ## Every run -/

theorem TwoFAStep.enter (h : TwoFAStep now fails s pc s' pc') (hdec : pc'.deciding = true) :
    pc.deciding = true ∨ pc.comparing.isSome = true := by
  cases h with
  | plain hd hd' hv' hv hp =>
    rw [hd'] at hdec
    cases hdec
  | wrong hc hp hv => exact Or.inr (by rw [hc]; rfl)
  | right hc => exact Or.inr (by rw [hc]; rfl)
  | mark hc => exact Or.inr (by rw [hc]; rfl)
  | _ => exact Or.inl rfl

theorem GuessInv.step {t : TwoFAThread} (h : GuessInv T c) (hguard : oneByOne c i tick)
    (hi : c.threads[i]? = some t) (hn : (twoFAMachine lib).next tick c.store t = some (s', t')) :
    GuessInv T ⟨s', c.threads.set i t'⟩ := by
  obtain ⟨s₁, hs, rfl, hclock⟩ := twoFAMachine_next hn
  obtain ⟨hclear, hwrites⟩ := hguard t hi
  refine ⟨?_, h.past_step hi hclock hs, h.passed_step hi hclock hs,
    h.bound_step hi hclock hclear hwrites hs⟩
  have hexclusive : Sched.Exclusive (fun t : TwoFAThread => t.pc.comparing.isSome = true)
      (fun t : TwoFAThread => t.pc.deciding = true) c i tick := by
    rintro x hx hcomparing j ⟨y, hy, hdec⟩
    obtain rfl : t = x := Option.some.inj (hi.symm.trans hx)
    obtain ⟨r, hr⟩ := Option.isSome_iff_exists.mp hcomparing
    rw [(hclear r hr).1 y (List.mem_of_getElem? hy)] at hdec
    cases hdec
  exact Sched.atMostOne_step h.alone hexclusive hi hs.enter

theorem GuessInv.start (T : Int) (db : TwoFADB) (calls : List TwoFACall) :
    GuessInv T (db.start calls) := by
  have hpc : ∀ t ∈ (db.start calls).threads, t.pc = .load := by
    intro t ht
    obtain ⟨call, -, rfl⟩ := List.mem_map.mp ht
    rfl
  have hzero : wrongCodes T (db.start calls) = 0 := by
    refine List.sum_eq_zero ?_
    intro x hx
    obtain ⟨t, ht, rfl⟩ := List.mem_map.mp hx
    simp [TwoFAThread.compared, TwoFAPc.verdict, hpc t ht]
  refine ⟨?_, ?_, ?_, fun _ => ⟨?_, fun _ => ⟨?_, fun _ => ⟨?_, ?_⟩⟩⟩⟩
  · rintro i j ⟨t, ht, hdec⟩ -
    rw [hpc t (List.mem_of_getElem? ht)] at hdec
    cases hdec
  · intro t ht v hv
    rw [hpc t ht] at hv
    cases hv
  · intro t ht r hr
    rw [hpc t ht] at hr
    cases hr
  · rw [hzero]
    exact Int.natCast_nonneg _
  · intro t ht
    rw [hpc t ht]
    trivial
  · rw [hzero]
    exact Int.natCast_nonneg _
  · rw [hzero]
    intro hpos
    omega

/-- **Guessing is bounded** as long as attempts do not overlap: at most
`MaxFailAttempts` wrong codes are compared in any period of `LockoutDuration` in
which no right code is. -/
theorem twoFA_guesses_bounded (lib : TwoFALib) (db : TwoFADB) (calls : List TwoFACall)
    {c : Sched.Conf TwoFADB TwoFAThread}
    (hrun : Sched.Steps (twoFAMachine lib) oneByOne (db.start calls) c) (T : Int)
    (hright : ∀ t ∈ c.threads, t.compared T true = false) :
    wrongCodes T c ≤ maxFailAttempts := by
  have hinv : GuessInv T c :=
    Sched.Steps.invariant (.start T db calls) (fun hI hguard hi hn => hI.step hguard hi hn) hrun
  exact (hinv.bound hright).1

/-- The code is its own secret here. -/
def demoTwoFALib : TwoFALib :=
  { plainLib with totpValidate := fun code secret _ => code == secret }

def demoTwoFA : TwoFADB :=
  ⟨⟨1, 7, "314159", true, 0, none, none⟩, ⟨[], 1, fun _ => false⟩, 0⟩

/-- Six guesses, one after the other. -/
def guesses : List TwoFACall := List.replicate 6 (.validateTOTPAndUpdateUsage "000000")

/-- Of six guesses one after the other, the sixth is not compared. -/
theorem sixth_guess_refused :
    ∃ c, Sched.Steps (twoFAMachine demoTwoFALib) oneByOne (demoTwoFA.start guesses) c ∧
      c.threads.map TwoFAThread.pc = List.replicate 5 (.done (some (1, false))) ++ [.done none] ∧
      wrongCodes 0 c ≤ maxFailAttempts := by
  refine Sched.exists_of_run_and
    (((List.range 5).flatMap (fun i => List.replicate 5 i) ++ [5, 5]).map (·, ⟨false, 1⟩))
    (by decide) fun c hrun hpcs =>
      twoFA_guesses_bounded demoTwoFALib demoTwoFA guesses hrun 0 fun t ht => ?_
  have hmem : t.pc ∈ c.threads.map TwoFAThread.pc := List.mem_map_of_mem ht
  rw [hpcs] at hmem
  rcases List.mem_append.mp hmem with hmem | hmem
  · simp [TwoFAThread.compared, List.eq_of_mem_replicate hmem, TwoFAPc.verdict]
  · simp [TwoFAThread.compared, List.mem_singleton.mp hmem, TwoFAPc.verdict]

/-- Six guesses that all load the record before any of them writes it: all six
are compared at once. -/
theorem six_guesses_compared :
    ∃ c, Sched.Steps (twoFAMachine demoTwoFALib) Sched.free (demoTwoFA.start guesses) c ∧
      (∀ t ∈ c.threads, t.compared 0 true = false) ∧ ¬ wrongCodes 0 c ≤ maxFailAttempts :=
  Sched.exists_of_run ((List.replicate 5 (List.range 6)).flatten.map (·, ⟨false, 1⟩)) (by decide)

end YouBox
