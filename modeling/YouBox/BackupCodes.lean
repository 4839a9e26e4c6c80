import YouBox.TopUp

/-!
# Two-factor backup codes

`ValidateBackupCode` and `CreateBackupCodes`, one statement a step, any number
of them interleaved, over the table of backup codes of all users.

Using a code is a SELECT of the unused rows, a hash check, and a gorm `Save` of
the row that matched. `Save` is an UPDATE of the whole row by its primary key,
restricted to rows that are not soft-deleted; where that finds nothing it is an
INSERT that overwrites on conflict. So a row that was used or replaced in the
meantime is written all the same, and the call returns true.

`CreateBackupCodes` is a transaction: it soft-deletes the rows of its user, whose
locks it keeps until it ends, and what it has written becomes visible when it
commits (the primary keys of the new rows are drawn there).

What a code needs is that `Save` meets the row as it was read, unused and not
deleted (`freshSave`): then using a row is taking it out of `available`, and the
rule for things spent once applies.
-/

namespace YouBox

/-! ## Code formats -/

/-- What the codes are checked with: `unicode.ToUpper`, and bcrypt, whose hashes
depend on a salt. -/
structure BackupLib where
  toUpper : Char → Char
  password2Hash : Nat → String → Option String
  validatePasswordAndHash : String → String → Bool

namespace BackupLib

variable (lib : BackupLib)

/-- `strings.ToUpper(strings.ReplaceAll(code, "-", ""))` -/
def cleanCode (code : String) : String :=
  String.ofList ((code.toList.filter (· ≠ '-')).map lib.toUpper)

/-- `common.ValidateBackupCode`: eight bytes, all of them letters or digits. -/
def validateBackupCode (code : String) : Bool :=
  (lib.cleanCode code).utf8ByteSize == 8 &&
    (lib.cleanCode code).toList.all
      (fun c => (decide ('A' ≤ c) && decide (c ≤ 'Z')) || (decide ('0' ≤ c) && decide (c ≤ '9')))

/-- `common.NormalizeBackupCode`; the codes that are validated or generated have
one byte a character. -/
def normalizeBackupCode (code : String) : String :=
  if (lib.cleanCode code).utf8ByteSize == 8 then
    String.ofList ((lib.cleanCode code).toList.take 4 ++ '-' :: (lib.cleanCode code).toList.drop 4)
  else code

def hashBackupCode (salt : Nat) (code : String) : Option String :=
  lib.password2Hash salt (lib.normalizeBackupCode code)

end BackupLib

/-! ## Rows -/

/-- A row of `two_fa_backup_codes`; `deleted` is gorm's soft delete. -/
structure TwoFABackupCode where
  id : Nat
  userId : Nat
  codeHash : String
  isUsed : Bool
  usedAt : Option Int
  deleted : Bool
deriving DecidableEq

/-- The table as committed, and the row locks taken. -/
structure BackupDB where
  rows : List TwoFABackupCode
  nextId : Nat
  lock : Nat → Bool

namespace BackupDB

/-- `WHERE user_id = ? AND is_used = false` -/
def unused (s : BackupDB) (userId : Nat) : List TwoFABackupCode :=
  s.rows.filter (fun r => r.userId = userId && !r.isUsed && !r.deleted)

/-- There is a row with this primary key, unused and not deleted. -/
def available (id : Nat) (s : BackupDB) : Bool :=
  s.rows.any (fun r => r.id = id && !r.isUsed && !r.deleted)

/-- The UPDATE of `Save` finds its row. -/
def live (s : BackupDB) (id : Nat) : Bool :=
  s.rows.any (fun r => r.id = id && !r.deleted)

def update (s : BackupDB) (bc : TwoFABackupCode) : BackupDB :=
  { s with rows := s.rows.map (fun r => if r.id = bc.id && !r.deleted then bc else r) }

/-- `INSERT … ON CONFLICT (id) DO UPDATE`, of all columns. -/
def upsert (s : BackupDB) (bc : TwoFABackupCode) : BackupDB :=
  if s.rows.any (fun r => r.id = bc.id) then
    { s with rows := s.rows.map (fun r => if r.id = bc.id then bc else r) }
  else { s with rows := s.rows ++ [bc] }

def setLocks (s : BackupDB) (ids : List Nat) (b : Bool) : BackupDB :=
  { s with lock := fun id => if id ∈ ids then b else s.lock id }

/-- The rows the soft delete of `CreateBackupCodes` writes. -/
def liveIds (s : BackupDB) (userId : Nat) : List Nat :=
  (s.rows.filter (fun r => r.userId = userId && !r.deleted)).map TwoFABackupCode.id

/-- What a committed `CreateBackupCodes` has written. -/
def replace (s : BackupDB) (userId : Nat) (ids : List Nat) (hashes : List String) : BackupDB :=
  { s with
    rows := s.rows.map (fun r => if r.id ∈ ids then { r with deleted := true } else r) ++
      hashes.mapIdx (fun k hash => ⟨s.nextId + k, userId, hash, false, none, false⟩)
    nextId := s.nextId + hashes.length }

end BackupDB

/-! ## One call -/

inductive BackupCall where
  | validateBackupCode (userId : Nat) (code : String)
  | createBackupCodes (userId : Nat) (codes : List String)

/-- Where a call stands: the first group is `ValidateBackupCode`, the second
`CreateBackupCodes`, whose `ids` are the rows it has deleted. -/
inductive BackupPc where
  | start
  | read
  | check (rows : List TwoFABackupCode)
  | save (bc : TwoFABackupCode)
  | upsert (bc : TwoFABackupCode)
  /-- returned true, nil -/
  | accepted (bc : TwoFABackupCode)
  /-- returned false, nil -/
  | rejected
  | delete
  | insert (ids : List Nat) (codes hashes : List String)
  | rollback (ids : List Nat)
  | replaced (ids : List Nat)
  /-- returned an error -/
  | failed
deriving DecidableEq

structure BackupThread where
  call : BackupCall
  pc : BackupPc

/-- What a step finds outside of the database: whether its statement fails, the
time, and the salt of a hash. -/
structure BackupTick extends Tick where
  salt : Nat

section

variable (lib : BackupLib)

def validateStep (userId : Nat) (code : String) (tick : BackupTick) (s : BackupDB) :
    BackupPc → Option (BackupDB × BackupPc)
  | .start => some (s, if lib.validateBackupCode code then .read else .failed)
  | .read => some (s, if tick.fails then .failed else .check (s.unused userId))
  | .check rows =>
    match rows.find? (fun bc =>
        lib.validatePasswordAndHash (lib.normalizeBackupCode code) bc.codeHash) with
    | none => some (s, .rejected)
    | some bc => some (s, .save { bc with isUsed := true, usedAt := some tick.now })
  | .save bc =>
    if tick.fails then some (s, .failed)
    else if s.lock bc.id then none
    else if s.live bc.id then some (s.update bc, .accepted bc)
    else some (s, .upsert bc)
  | .upsert bc =>
    if tick.fails then some (s, .failed)
    else if s.lock bc.id then none
    else some (s.upsert bc, .accepted bc)
  | _ => none

def createStep (userId : Nat) (codes : List String) (tick : BackupTick) (s : BackupDB) :
    BackupPc → Option (BackupDB × BackupPc)
  | .start => some (s, .delete)
  | .delete =>
    if tick.fails then some (s, .rollback [])
    else if (s.liveIds userId).any s.lock then none
    else some (s.setLocks (s.liveIds userId) true, .insert (s.liveIds userId) codes [])
  | .insert ids (code :: codes) hashes =>
    match lib.hashBackupCode tick.salt code with
    | none => some (s, .rollback ids)
    | some hash =>
      some (s, if tick.fails then .rollback ids else .insert ids codes (hashes ++ [hash]))
  | .insert ids [] hashes =>
    if tick.fails then some (s.setLocks ids false, .failed)
    else some ((s.replace userId ids hashes).setLocks ids false, .replaced ids)
  | .rollback ids => some (s.setLocks ids false, .failed)
  | _ => none

def BackupCall.next (tick : BackupTick) (s : BackupDB) (pc : BackupPc) :
    BackupCall → Option (BackupDB × BackupPc)
  | .validateBackupCode userId code => validateStep lib userId code tick s pc
  | .createBackupCodes userId codes => createStep lib userId codes tick s pc

def backupMachine : Sched.Machine BackupDB BackupThread BackupTick where
  next tick s t := (t.call.next lib tick s t.pc).map (fun p => (p.1, { t with pc := p.2 }))

end

/-- A table as the database keeps it: the primary keys below the counter. -/
structure BackupTable where
  rows : List TwoFABackupCode
  nextId : Nat
  fresh : ∀ r ∈ rows, r.id < nextId

/-- Any number of calls about to start, on a table nobody has locked. -/
def BackupTable.start (db : BackupTable) (calls : List BackupCall) :
    Sched.Conf BackupDB BackupThread :=
  ⟨⟨db.rows, db.nextId, fun _ => false⟩, calls.map (fun call => ⟨call, .start⟩)⟩

/-! ## What is spent -/

/-- The call has returned true on account of the row `id`. -/
def BackupThread.uses (id : Nat) (t : BackupThread) : Prop :=
  match t.pc with
  | .accepted bc => bc.id = id
  | _ => False

/-- The row a call is about to save. -/
def BackupPc.saving : BackupPc → Option TwoFABackupCode
  | .save bc => some bc
  | _ => none

/-- A row is saved only while it is as it was read: unused, and not replaced. -/
def freshSave : Sched.Guard BackupDB BackupThread BackupTick :=
  fun c i _ => ∀ t ∈ c.threads[i]?, ∀ bc ∈ t.pc.saving, c.store.available bc.id = true

instance (c : Sched.Conf BackupDB BackupThread) (i : Nat) (tick : BackupTick) :
    Decidable (freshSave c i tick) :=
  inferInstanceAs (Decidable
    (∀ t ∈ c.threads[i]?, ∀ bc ∈ t.pc.saving, c.store.available bc.id = true))

/-- The rows a transaction has deleted. -/
def BackupPc.deleting : BackupPc → List Nat
  | .insert ids _ _ | .rollback ids => ids
  | _ => []

/-- The call has neither matched a row nor replaced any. -/
def BackupPc.quiet : BackupPc → Bool
  | .save _ | .upsert _ | .accepted _ | .replaced _ => false
  | _ => true

inductive BackupStep (s : BackupDB) : BackupPc → BackupDB → BackupPc → Prop
  | idle {pc pc' lock} : pc'.quiet = true → pc'.deleting ⊆ pc.deleting →
      BackupStep s pc { s with lock := lock } pc'
  | check {rows} {bc : TwoFABackupCode} : bc.isUsed = true → BackupStep s (.check rows) s (.save bc)
  | save {bc} : BackupStep s (.save bc) (s.update bc) (.accepted bc)
  | missing {bc} : s.live bc.id = false → BackupStep s (.save bc) s (.upsert bc)
  | upsert {bc} : BackupStep s (.upsert bc) (s.upsert bc) (.accepted bc)
  | delete {userId codes lock} :
      BackupStep s .delete { s with lock := lock } (.insert (s.liveIds userId) codes [])
  | replace {userId ids hashes lock} :
      BackupStep s (.insert ids [] hashes) { s.replace userId ids hashes with lock := lock }
        (.replaced ids)

theorem BackupStep.still {s : BackupDB} {pc pc' : BackupPc} (hquiet : pc'.quiet = true)
    (hids : pc'.deleting ⊆ pc.deleting) : BackupStep s pc s pc' :=
  .idle hquiet hids

theorem backupStep_of_validate {lib : BackupLib} {userId : Nat} {code : String} {tick : BackupTick}
    {s s' : BackupDB} {pc pc' : BackupPc}
    (h : validateStep lib userId code tick s pc = some (s', pc')) : BackupStep s pc s' pc' := by
  cases pc with
  | start =>
    cases h
    split
    · exact .still rfl (List.nil_subset _)
    · exact .still rfl (List.nil_subset _)
  | read =>
    cases h
    split
    · exact .still rfl (List.nil_subset _)
    · exact .still rfl (List.nil_subset _)
  | check rows =>
    simp only [validateStep] at h
    split at h
    · cases h; exact .still rfl (List.nil_subset _)
    · cases h; exact .check rfl
  | save bc =>
    simp only [validateStep] at h
    split at h
    · cases h; exact .still rfl (List.nil_subset _)
    · split at h
      · cases h
      · split at h
        · cases h; exact .save
        · rename_i hlive
          cases h
          exact .missing (by simpa using hlive)
  | upsert bc =>
    simp only [validateStep] at h
    split at h
    · cases h; exact .still rfl (List.nil_subset _)
    · split at h
      · cases h
      · cases h; exact .upsert
  | accepted | rejected | delete | insert | rollback | replaced | failed => cases h

theorem backupStep_of_create {lib : BackupLib} {userId : Nat} {codes : List String}
    {tick : BackupTick} {s s' : BackupDB} {pc pc' : BackupPc}
    (h : createStep lib userId codes tick s pc = some (s', pc')) : BackupStep s pc s' pc' := by
  cases pc with
  | start =>
    cases h
    exact .still rfl (List.nil_subset _)
  | delete =>
    simp only [createStep] at h
    split at h
    · cases h; exact .still rfl (List.nil_subset _)
    · split at h
      · cases h
      · cases h; exact .delete
  | insert ids left hashes =>
    cases left with
    | nil =>
      simp only [createStep] at h
      split at h
      · cases h; exact .idle rfl (List.nil_subset _)
      · cases h; exact .replace
    | cons code left =>
      simp only [createStep] at h
      split at h
      · cases h; exact .still rfl (List.Subset.refl _)
      · cases h
        split
        · exact .still rfl (List.Subset.refl _)
        · exact .still rfl (List.Subset.refl _)
  | rollback ids =>
    cases h
    exact .idle rfl (List.nil_subset _)
  | read | check | save | upsert | accepted | rejected | replaced | failed => cases h

theorem backupMachine_next {lib : BackupLib} {tick : BackupTick} {s s' : BackupDB}
    {t t' : BackupThread} (h : (backupMachine lib).next tick s t = some (s', t')) :
    BackupStep s t.pc s' t'.pc := by
  simp only [backupMachine, Option.map_eq_some_iff, Prod.mk.injEq] at h
  obtain ⟨⟨s₁, pc'⟩, hn, rfl, rfl⟩ := h
  cases hcall : t.call with
  | validateBackupCode userId code =>
    rw [hcall] at hn
    exact backupStep_of_validate hn
  | createBackupCodes userId codes =>
    rw [hcall] at hn
    exact backupStep_of_create hn

/-! ## Every run -/

theorem available_iff {id : Nat} {s : BackupDB} :
    s.available id = true ↔ ∃ r ∈ s.rows, r.id = id ∧ r.isUsed = false ∧ r.deleted = false := by
  simp [BackupDB.available, and_assoc]

theorem live_of_available {id : Nat} {s : BackupDB} (h : s.available id = true) :
    s.live id = true := by
  obtain ⟨r, hr, hid, -, hdel⟩ := available_iff.mp h
  simp only [BackupDB.live, List.any_eq_true]
  exact ⟨r, hr, by simp [hid, hdel]⟩

theorem available_update {id : Nat} {s : BackupDB} {bc : TwoFABackupCode} (hused : bc.isUsed = true)
    (h : (s.update bc).available id = true) : s.available id = true ∧ id ≠ bc.id := by
  obtain ⟨r, hr, hid, hunused, hdel⟩ := available_iff.mp h
  obtain ⟨r₀, hr₀, rfl⟩ := List.mem_map.mp hr
  split at hunused
  · rw [hused] at hunused
    cases hunused
  · rename_i hne
    rw [if_neg hne] at hid hdel
    refine ⟨available_iff.mpr ⟨r₀, hr₀, hid, hunused, hdel⟩, ?_⟩
    rintro rfl
    simp [hid, hdel] at hne

theorem available_replace {id userId : Nat} {ids : List Nat} {hashes : List String} {s : BackupDB}
    {lock : Nat → Bool} (hid : id < s.nextId)
    (h : BackupDB.available id { s.replace userId ids hashes with lock := lock } = true) :
    s.available id = true := by
  obtain ⟨r, hr, hrid, hunused, hdel⟩ := available_iff.mp h
  rcases List.mem_append.mp hr with hr | hr
  · obtain ⟨r₀, hr₀, rfl⟩ := List.mem_map.mp hr
    split at hdel
    · cases hdel
    · rename_i hkeep
      rw [if_neg hkeep] at hrid hunused
      exact available_iff.mpr ⟨r₀, hr₀, hrid, hunused, hdel⟩
  · obtain ⟨k, hk, rfl⟩ := List.mem_mapIdx.mp hr
    simp only at hrid
    omega

theorem not_available_replace {id userId : Nat} {ids : List Nat} {hashes : List String}
    {s : BackupDB} {lock : Nat → Bool} (hid : id < s.nextId) (hmem : id ∈ ids) :
    ¬ BackupDB.available id { s.replace userId ids hashes with lock := lock } = true := by
  intro h
  obtain ⟨r, hr, hrid, -, hdel⟩ := available_iff.mp h
  rcases List.mem_append.mp hr with hr | hr
  · obtain ⟨r₀, -, rfl⟩ := List.mem_map.mp hr
    split at hdel
    · cases hdel
    · rename_i hkeep
      rw [if_neg hkeep] at hrid
      exact hkeep (hrid ▸ hmem)
  · obtain ⟨k, hk, rfl⟩ := List.mem_mapIdx.mp hr
    simp only at hrid
    omega

/-- What is known of a call at each point in a run that meets `freshSave`. -/
def BackupOk (s : BackupDB) (pc : BackupPc) : Prop :=
  match pc with
  | .save bc => bc.isUsed = true
  | .upsert _ => False
  | .insert ids _ _ | .rollback ids => ∀ id ∈ ids, id < s.nextId
  | .replaced ids => ∀ id ∈ ids, id < s.nextId ∧ ¬ s.available id = true
  | _ => True

structure BackupInv (c : Sched.Conf BackupDB BackupThread) : Prop where
  fresh : ∀ r ∈ c.store.rows, r.id < c.store.nextId
  calls : ∀ t ∈ c.threads, BackupOk c.store t.pc

theorem BackupDB.lt_of_available {s : BackupDB} (hfresh : ∀ r ∈ s.rows, r.id < s.nextId) {id : Nat}
    (h : s.available id = true) : id < s.nextId := by
  obtain ⟨r, hr, rfl, -, -⟩ := available_iff.mp h
  exact hfresh r hr

section

variable {s s' : BackupDB} {pc pc' : BackupPc}

theorem BackupStep.nextId_le (h : BackupStep s pc s' pc') (hok : BackupOk s pc) :
    s.nextId ≤ s'.nextId := by
  cases h with
  | replace => exact Nat.le_add_right _ _
  | upsert => exact (hok : False).elim
  | _ => exact Nat.le_refl _

theorem BackupStep.again (h : BackupStep s pc s' pc') (hok : BackupOk s pc) {id : Nat}
    (hid : id < s.nextId) (havail : s'.available id = true) : s.available id = true := by
  cases h with
  | save => exact (available_update hok havail).1
  | upsert => exact (hok : False).elim
  | replace => exact available_replace hid havail
  | _ => exact havail

theorem BackupStep.fresh (h : BackupStep s pc s' pc') (hok : BackupOk s pc)
    (hsave : ∀ bc ∈ pc.saving, s.available bc.id = true)
    (hfresh : ∀ r ∈ s.rows, r.id < s.nextId) : ∀ r ∈ s'.rows, r.id < s'.nextId := by
  cases h with
  | @save bc =>
    intro r hr
    obtain ⟨r₀, hr₀, rfl⟩ := List.mem_map.mp hr
    split
    · exact BackupDB.lt_of_available hfresh (hsave bc rfl)
    · exact hfresh r₀ hr₀
  | upsert => exact (hok : False).elim
  | replace =>
    intro r hr
    rcases List.mem_append.mp hr with hr | hr
    · obtain ⟨r₀, hr₀, rfl⟩ := List.mem_map.mp hr
      have hlt := hfresh r₀ hr₀
      split
      · exact Nat.lt_add_right _ hlt
      · exact Nat.lt_add_right _ hlt
    · obtain ⟨k, hk, rfl⟩ := List.mem_mapIdx.mp hr
      simp only [BackupDB.replace]
      omega
  | _ => exact hfresh

theorem BackupStep.mover (h : BackupStep s pc s' pc') (hok : BackupOk s pc)
    (hsave : ∀ bc ∈ pc.saving, s.available bc.id = true)
    (hfresh : ∀ r ∈ s.rows, r.id < s.nextId) : BackupOk s' pc' := by
  cases h with
  | @idle pc pc' lock hquiet hids =>
    have hdeleting : ∀ id ∈ pc'.deleting, id < s.nextId := by
      intro id hmem
      have hmem := hids hmem
      cases pc with
      | insert ids codes hashes => exact hok id hmem
      | rollback ids => exact hok id hmem
      | _ => cases hmem
    cases pc' with
    | insert ids codes hashes => exact hdeleting
    | rollback ids => exact hdeleting
    | save bc | upsert bc | accepted bc | replaced ids => cases hquiet
    | _ => trivial
  | check hused => exact hused
  | save => trivial
  | @missing bc hlive =>
    rw [live_of_available (hsave bc rfl)] at hlive
    cases hlive
  | upsert => exact (hok : False).elim
  | delete =>
    intro id hmem
    obtain ⟨r, hr, rfl⟩ := List.mem_map.mp hmem
    exact hfresh r (List.mem_filter.mp hr).1
  | replace =>
    intro id hmem
    have hlt := hok id hmem
    exact ⟨Nat.lt_add_right _ hlt, not_available_replace hlt hmem⟩

theorem BackupStep.others (h : BackupStep s pc s' pc') (hok : BackupOk s pc) {x : BackupPc}
    (hx : BackupOk s x) : BackupOk s' x := by
  have hle := h.nextId_le hok
  cases x with
  | insert ids codes hashes => exact fun id hmem => Nat.lt_of_lt_of_le (hx id hmem) hle
  | rollback ids => exact fun id hmem => Nat.lt_of_lt_of_le (hx id hmem) hle
  | replaced ids =>
    intro id hmem
    obtain ⟨hlt, hgone⟩ := hx id hmem
    exact ⟨Nat.lt_of_lt_of_le hlt hle, fun havail => hgone (h.again hok hlt havail)⟩
  | _ => exact hx

theorem BackupStep.spendStep {call call' : BackupCall} (h : BackupStep s pc s' pc')
    (hok : BackupOk s pc) (hsave : ∀ bc ∈ pc.saving, s.available bc.id = true)
    (hfresh : ∀ r ∈ s.rows, r.id < s.nextId) (id : Nat) :
    Sched.SpendStep (fun id (s : BackupDB) => id < s.nextId) (fun id s => s.available id = true)
      BackupThread.uses id s ⟨call, pc⟩ s' ⟨call', pc'⟩ := by
  refine ⟨fun hlt => Nat.lt_of_lt_of_le hlt (h.nextId_le hok), h.again hok, ?_⟩
  intro huses
  cases h with
  | @idle pc pc' lock hquiet hids => cases pc' <;> first | exact (huses : False).elim | cases hquiet
  | @save bc =>
    obtain rfl : bc.id = id := huses
    have havail := hsave bc rfl
    refine Or.inr ⟨BackupDB.lt_of_available hfresh havail, havail, fun hstill => ?_⟩
    exact (available_update hok hstill).2 rfl
  | upsert => exact (hok : False).elim
  | _ => exact (huses : False).elim

end

theorem BackupInv.step {lib : BackupLib} {c : Sched.Conf BackupDB BackupThread} {i : Nat}
    {tick : BackupTick} {t t' : BackupThread} {s' : BackupDB} (h : BackupInv c)
    (hguard : freshSave c i tick) (hi : c.threads[i]? = some t)
    (hn : (backupMachine lib).next tick c.store t = some (s', t')) :
    BackupInv ⟨s', c.threads.set i t'⟩ := by
  have hs := backupMachine_next hn
  have hok := h.calls t (List.mem_of_getElem? hi)
  have hsave := hguard t hi
  exact ⟨hs.fresh hok hsave h.fresh,
    Sched.forall_threads_set (fun x hx => hs.others hok (h.calls x hx))
      (hs.mover hok hsave h.fresh)⟩

theorem BackupInv.start (db : BackupTable) (calls : List BackupCall) :
    BackupInv (db.start calls) := by
  refine ⟨db.fresh, ?_⟩
  intro t ht
  obtain ⟨call, -, rfl⟩ := List.mem_map.mp ht
  trivial

/-- The row `id` is one a `CreateBackupCodes` call has replaced. -/
def Replaced (id : Nat) (c : Sched.Conf BackupDB BackupThread) : Prop :=
  ∃ t ∈ c.threads, ∃ ids, t.pc = .replaced ids ∧ id ∈ ids

/-- **A backup code is accepted at most once**, and not after it has been
replaced, in every run in which each `Save` meets its row as it was read. -/
theorem validateBackupCode_accepts_once (lib : BackupLib) (db : BackupTable)
    (calls : List BackupCall) {c : Sched.Conf BackupDB BackupThread}
    (hrun : Sched.Steps (backupMachine lib) freshSave (db.start calls) c) (id : Nat) :
    Sched.AtMostOne (BackupThread.uses id) c ∧
      (Replaced id c → ∀ c', Sched.Steps (backupMachine lib) freshSave c c' →
        ∀ i, Sched.Inside (BackupThread.uses id) c' i →
          Sched.Inside (BackupThread.uses id) c i) := by
  have hspend : ∀ {c : Sched.Conf BackupDB BackupThread} {i : Nat} {tick : BackupTick}
      {t t' : BackupThread} {s' : BackupDB}, BackupInv c → freshSave c i tick →
      c.threads[i]? = some t → (backupMachine lib).next tick c.store t = some (s', t') →
      Sched.SpendStep (fun id (s : BackupDB) => id < s.nextId)
        (fun id s => s.available id = true) BackupThread.uses id c.store t s' t' := by
    intro c i tick t t' s' hinv hguard hi hn
    exact (backupMachine_next hn).spendStep (hinv.calls t (List.mem_of_getElem? hi))
      (hguard t hi) hinv.fresh id
  obtain ⟨hinv, honce⟩ : BackupInv c ∧
      Sched.SpendInv (fun id (s : BackupDB) => id < s.nextId)
        (fun id s => s.available id = true) BackupThread.uses id c := by
    refine Sched.Steps.invariant (I := fun c => BackupInv c ∧
      Sched.SpendInv (fun id (s : BackupDB) => id < s.nextId)
        (fun id s => s.available id = true) BackupThread.uses id c) ⟨.start db calls, .init ?_⟩
      (fun hI hguard hi hn => ⟨hI.1.step hguard hi hn, hI.2.step hi (hspend hI.1 hguard hi hn)⟩)
      hrun
    intro t ht
    obtain ⟨call, -, rfl⟩ := List.mem_map.mp ht
    exact not_false
  refine ⟨honce.alone, ?_⟩
  rintro ⟨t, ht, ids, hpc, hmem⟩ c' hlater
  have hgone : id < c.store.nextId ∧ ¬ c.store.available id = true := by
    have hok := hinv.calls t ht
    rw [hpc] at hok
    exact hok id hmem
  have hlast := Sched.Steps.invariant (I := fun c' => BackupInv c' ∧
      Sched.Gone (fun id (s : BackupDB) => id < s.nextId)
        (fun id s => s.available id = true) BackupThread.uses id c c')
    ⟨hinv, hgone, fun _ hin => hin⟩
    (fun hI hguard hi hn => ⟨hI.1.step hguard hi hn, hI.2.step hi (hspend hI.1 hguard hi hn)⟩)
    hlater
  exact hlast.2.old

/-- Codes are their own hashes here, so that distinct codes never match. -/
def plainLib : BackupLib :=
  ⟨Char.toUpper, fun _ code => some code, fun code hash => code == hash⟩

/-- One user with one unused code. -/
def backupDemo : BackupTable :=
  ⟨[⟨1, 7, "ABCD-EFGH", false, none, false⟩], 2, by decide⟩

def backupDemoTick : BackupTick := ⟨⟨false, 1000⟩, 0⟩

/-- Two logins with the same code, one after the other, and a regeneration: the
first is accepted, the second is not. -/
theorem backupDemo_second_rejected :
    ∃ c, Sched.Steps (backupMachine plainLib) freshSave
        (backupDemo.start [.validateBackupCode 7 "abcd-efgh", .validateBackupCode 7 "abcdefgh",
          .createBackupCodes 7 ["WXYZ-0123"]]) c ∧
      (∃ bc, bc.id = 1 ∧ c.threads.map BackupThread.pc = [.accepted bc, .rejected, .replaced [1]]) ∧
      Sched.AtMostOne (BackupThread.uses 1) c := by
  have hrun : ∃ c, Sched.Steps (backupMachine plainLib) freshSave
        (backupDemo.start [.validateBackupCode 7 "abcd-efgh", .validateBackupCode 7 "abcdefgh",
          .createBackupCodes 7 ["WXYZ-0123"]]) c ∧
      c.threads.map BackupThread.pc =
        [.accepted ⟨1, 7, "ABCD-EFGH", true, some 1000, false⟩, .rejected, .replaced [1]] :=
    Sched.exists_of_run ([0, 0, 0, 0, 1, 1, 1, 2, 2, 2, 2].map (·, backupDemoTick)) (by decide)
  obtain ⟨c, hrun, hpcs⟩ := hrun
  exact ⟨c, hrun, ⟨_, rfl, hpcs⟩,
    (validateBackupCode_accepts_once plainLib backupDemo _ hrun 1).1⟩

/-- Two logins with the same code that both read it before either saves it, and a
third that saves after the codes have been replaced: all of them return true. -/
theorem backupCode_accepted_thrice :
    ∃ c₁ c₂, Sched.Steps (backupMachine plainLib) Sched.free
        (backupDemo.start [.validateBackupCode 7 "ABCD-EFGH", .validateBackupCode 7 "ABCD-EFGH",
          .validateBackupCode 7 "ABCD-EFGH", .createBackupCodes 7 ["WXYZ-0123"]]) c₁ ∧
      Sched.Steps (backupMachine plainLib) Sched.free c₁ c₂ ∧
      ¬ Sched.AtMostOne (BackupThread.uses 1) c₁ ∧
      Replaced 1 c₁ ∧ ¬ Sched.Inside (BackupThread.uses 1) c₁ 2 ∧
      Sched.Inside (BackupThread.uses 1) c₂ 2 := by
  let used : TwoFABackupCode := ⟨1, 7, "ABCD-EFGH", true, some 1000, false⟩
  have hrun : ∃ c₁, Sched.Steps (backupMachine plainLib) Sched.free
        (backupDemo.start [.validateBackupCode 7 "ABCD-EFGH", .validateBackupCode 7 "ABCD-EFGH",
          .validateBackupCode 7 "ABCD-EFGH", .createBackupCodes 7 ["WXYZ-0123"]]) c₁ ∧
      (∀ i ∈ [0, 1], ∃ t ∈ c₁.threads[i]?, t.pc = .accepted used) ∧
      (∃ t ∈ c₁.threads, t.pc = .replaced [1]) ∧ (∃ t ∈ c₁.threads[2]?, t.pc = .save used) ∧
      ∃ c₂ ∈ Sched.run (backupMachine plainLib) Sched.free c₁
          (List.replicate 2 (2, backupDemoTick)),
        ∃ t ∈ c₂.threads[2]?, t.pc = .accepted used := Sched.exists_of_run
    ([0, 0, 0, 1, 1, 1, 2, 2, 2, 0, 1, 3, 3, 3, 3].map (·, backupDemoTick)) (by decide)
  obtain ⟨c₁, hrun, hboth, ⟨t, ht, hreplaced⟩, ⟨t', ht', hsave⟩, c₂, hlater, hlast⟩ := hrun
  have huses : ∀ {c : Sched.Conf BackupDB BackupThread} {i : Nat},
      (∃ t ∈ c.threads[i]?, t.pc = .accepted used) → Sched.Inside (BackupThread.uses 1) c i := by
    rintro c i ⟨t, ht, hpc⟩
    exact ⟨t, ht, by simp only [BackupThread.uses, hpc]; rfl⟩
  refine ⟨c₁, c₂, hrun, Sched.steps_of_run hlater, ?_, ?_, ?_, huses hlast⟩
  · intro hone
    have h01 := hone 0 1 (huses (hboth 0 (by decide))) (huses (hboth 1 (by decide)))
    cases h01
  · exact ⟨t, ht, [1], hreplaced, List.mem_singleton.mpr rfl⟩
  · rintro ⟨t, ht, hin⟩
    obtain rfl : t' = t := Option.some.inj (ht'.symm.trans ht)
    simp only [BackupThread.uses, hsave] at hin

end YouBox
