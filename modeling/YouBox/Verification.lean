import Mathlib.Data.List.AList

/-!
# Verification codes

The map of the codes that are mailed to confirm an address or to reset a password. A code
stands under its purpose and key until it is deleted, or until a registration finds more
than `verificationMapMaxSize` of them and sweeps out the expired ones.

A sweep takes no code that is still accepted, and a code for one purpose is worth nothing
for the other: what is accepted follows from the history of the calls alone. The proof
counts in the map only the codes that are still good (`good`).
-/

namespace YouBox.Verification

/-- A code and when it was registered, in nanoseconds of the monotonic clock. -/
structure VerificationValue where
  code : String
  time : Nat

inductive Purpose where
  | emailVerification
  | passwordReset
deriving DecidableEq

def Purpose.text : Purpose → String
  | .emailVerification => "v"
  | .passwordReset => "r"

def verificationMapMaxSize : Nat := 10

def verificationValidMinutes : Nat := 10

def expired (now : Nat) (value : VerificationValue) : Bool :=
  verificationValidMinutes * 60 ≤ (now - value.time) / 1000000000

abbrev VerificationMap := AList fun _ : String => VerificationValue

def removeExpiredPairs (now : Nat) (m : VerificationMap) : VerificationMap :=
  m.keys.foldl (fun m key => if (m.lookup key).any (expired now) then m.erase key else m) m

structure Codes where
  now : Nat
  verificationMap : VerificationMap

/-- A call that changes the map, or time that passes. `pause` is what passes in a
registration before the sweep reads the clock again. -/
inductive Call where
  | register (key code : String) (purpose : Purpose) (pause : Nat)
  | deleteKey (key : String) (purpose : Purpose)
  | pass (elapsed : Nat)

namespace Codes

def registerVerificationCodeWithKey (c : Codes) (key code : String) (purpose : Purpose)
    (pause : Nat) : Codes :=
  let m := c.verificationMap.insert (purpose.text ++ key) ⟨code, c.now⟩
  ⟨c.now + pause,
    if m.keys.length > verificationMapMaxSize then removeExpiredPairs (c.now + pause) m else m⟩

def verifyCodeWithKey (c : Codes) (key code : String) (purpose : Purpose) : Bool :=
  match c.verificationMap.lookup (purpose.text ++ key) with
  | none => false
  | some value => !expired c.now value && code == value.code

def call (c : Codes) : Call → Codes
  | .register key code purpose pause => c.registerVerificationCodeWithKey key code purpose pause
  | .deleteKey key purpose => { c with
      verificationMap := c.verificationMap.erase (purpose.text ++ key) }
  | .pass elapsed => { c with now := c.now + elapsed }

end Codes

/-- The map after the calls of a history, the last one first. -/
def run (now : Nat) : List Call → Codes
  | [] => ⟨now, ∅⟩
  | x :: history => (run now history).call x

/-- What the last call for this purpose and key left. -/
def lastCode (now : Nat) (key : String) (purpose : Purpose) :
    List Call → Option VerificationValue
  | [] => none
  | .register k code p _ :: history =>
    if (p, k) = (purpose, key) then some ⟨code, (run now history).now⟩
    else lastCode now key purpose history
  | .deleteKey k p :: history =>
    if (p, k) = (purpose, key) then none else lastCode now key purpose history
  | .pass _ :: history => lastCode now key purpose history

/-! ## Sweeps -/

/-- What is left of an entry when expired codes are not counted. -/
def good (now : Nat) (value : Option VerificationValue) : Option VerificationValue :=
  value.filter fun v => !expired now v

variable {now later : Nat} {v : VerificationValue}

theorem good_eq_some_iff {value : Option VerificationValue} :
    good now value = some v ↔ value = some v ∧ expired now v = false := by
  simp [good]

theorem expired_later (hle : now ≤ later) (h : expired now v = true) : expired later v = true := by
  simp only [expired, decide_eq_true_eq] at h ⊢
  omega

theorem good_good (hle : now ≤ later) (value : Option VerificationValue) :
    good later (good now value) = good later value := by
  rw [good, good, Option.filter_filter]
  congr 1
  funext v
  by_cases h : expired now v = true
  · simp [h, expired_later hle h]
  · simp [h]

theorem lookup_sweep (now : Nat) (ks : List String) (m : VerificationMap) (k : String) :
    (ks.foldl (fun m key => if (m.lookup key).any (expired now) then m.erase key else m)
      m).lookup k = if k ∈ ks then good now (m.lookup k) else m.lookup k := by
  induction ks generalizing m with
  | nil => simp
  | cons key ks ih =>
    rw [List.foldl_cons, ih]
    by_cases hk : k = key
    · subst hk
      rcases hv : m.lookup k with - | v
      · simp [hv, good]
      · by_cases hx : expired now v = true <;> simp [hv, hx, good, Option.filter_some]
    · rw [apply_ite (AList.lookup k), AList.lookup_erase_ne hk, ite_self]
      simp [hk]

theorem lookup_removeExpiredPairs (now : Nat) (m : VerificationMap) (k : String) :
    (removeExpiredPairs now m).lookup k = good now (m.lookup k) := by
  rw [removeExpiredPairs, lookup_sweep]
  refine ite_eq_left_iff.mpr fun hk => ?_
  rw [AList.lookup_eq_none.mpr hk]
  rfl

theorem text_append_inj {p q : Purpose} {k k' : String} :
    p.text ++ k = q.text ++ k' ↔ (p, k) = (q, k') := by
  rw [← String.toList_inj]
  cases p <;> cases q <;> simp [Purpose.text, String.toList_inj]

theorem lookup_register (c : Codes) (k code : String) (p : Purpose) (pause : Nat) (key : String) :
    good (c.now + pause) ((c.registerVerificationCodeWithKey k code p pause).verificationMap.lookup
      key) = good (c.now + pause) ((c.verificationMap.insert (p.text ++ k) ⟨code, c.now⟩).lookup
        key) := by
  unfold Codes.registerVerificationCodeWithKey
  dsimp only
  split
  · rw [lookup_removeExpiredPairs, good_good le_rfl]
  · rfl

/-- The codes in the map that are good are the last ones of their purposes and keys. -/
theorem good_lookup_run (now : Nat) (key : String) (purpose : Purpose) (history : List Call) :
    good (run now history).now ((run now history).verificationMap.lookup (purpose.text ++ key))
      = good (run now history).now (lastCode now key purpose history) := by
  induction history with
  | nil => rfl
  | cons x history ih =>
    cases x with
    | register k code p pause =>
      rw [run, Codes.call, lastCode]
      show good ((run now history).now + pause) _ = good ((run now history).now + pause) _
      rw [lookup_register]
      by_cases hx : (p, k) = (purpose, key)
      · rw [text_append_inj.mpr hx, AList.lookup_insert, if_pos hx]
      · rw [AList.lookup_insert_ne fun h => hx (text_append_inj.mp h).symm, if_neg hx,
          ← good_good (Nat.le_add_right _ _), ih, good_good (Nat.le_add_right _ _)]
    | deleteKey k p =>
      rw [run, Codes.call, lastCode]
      by_cases hx : (p, k) = (purpose, key)
      · rw [text_append_inj.mpr hx, AList.lookup_erase, if_pos hx]
      · rw [AList.lookup_erase_ne fun h => hx (text_append_inj.mp h).symm, if_neg hx]
        exact ih
    | pass elapsed =>
      show good ((run now history).now + elapsed) _ = good ((run now history).now + elapsed) _
      rw [← good_good (Nat.le_add_right _ _), run, Codes.call, ih,
        good_good (Nat.le_add_right _ _)]
      rfl

/-- A code is accepted if and only if the last call for its purpose and key registered it,
less than ten minutes ago. -/
theorem accepted_iff_last_registered (now : Nat) (history : List Call) (key code : String)
    (purpose : Purpose) :
    (run now history).verifyCodeWithKey key code purpose = true ↔
      ∃ t, lastCode now key purpose history = some ⟨code, t⟩ ∧
        (run now history).now - t < 600 * 1000000000 := by
  have accepted : (run now history).verifyCodeWithKey key code purpose = true ↔
      ∃ t, good (run now history).now
        ((run now history).verificationMap.lookup (purpose.text ++ key)) = some ⟨code, t⟩ := by
    unfold Codes.verifyCodeWithKey
    rcases (run now history).verificationMap.lookup (purpose.text ++ key) with - | ⟨c, t⟩
    · simp [good]
    · simp [good_eq_some_iff]
      tauto
  rw [accepted, good_lookup_run]
  refine exists_congr fun t => ?_
  rw [good_eq_some_iff, expired, decide_eq_false_iff_not]
  show _ ∧ ¬ 10 * 60 ≤ ((run now history).now - t) / 1000000000 ↔ _
  refine and_congr_right fun _ => ?_
  omega

end YouBox.Verification
