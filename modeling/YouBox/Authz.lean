import Mathlib

/-!
# Permission overrides

An administrator has what the role `admin` has, except for the permissions a rule of the
user's own allows or denies. `SetUserPermissions` replaces the user's rules of each resource
it is given, and stores only what differs from the role.

What `Can` answers depends only on whether the user's and the role's rules for the
permission hold an allow and a deny (`explicit_congr`). Setting permissions exchanges exactly
the user's rules of the resources given (`set_same`, `set_given`), and the role's rules, with
which it compares, are not among them.
-/

namespace YouBox.Authz

/-! ## Permissions and roles -/

structure Permission where
  resource : String
  action : String

structure ActionDefinition where
  action : String
  defaultRoles : List String

structure ResourceDefinition where
  resource : String
  actions : List ActionDefinition

def registry : List ResourceDefinition :=
  [⟨"channel", [⟨"read", ["admin"]⟩, ⟨"operate", ["admin"]⟩, ⟨"write", ["admin"]⟩,
    ⟨"sensitive_write", []⟩, ⟨"secret_view", []⟩]⟩]

def isKnownResource (resource : String) : Bool := registry.any fun known => known.resource == resource

def catalogActions (resource : String) : List ActionDefinition :=
  ((registry.find? fun known => known.resource == resource).map (·.actions)).getD []

def isKnownPermission (permission : Permission) : Bool :=
  registry.any fun known => known.resource == permission.resource &&
    known.actions.any fun a => a.action == permission.action

/-- The two built-in roles, with whether they are superusers. -/
def builtInRoles : List (String × Bool) := [("root", true), ("admin", false)]

def isSuperuserRole (roleKey : String) : Bool :=
  ((builtInRoles.find? fun spec => spec.1 == roleKey).map (·.2)).getD false

def roleAdminUser : Int := 10

def roleRootUser : Int := 100

def resolveSubjectRoles (systemRole : Int) : List String :=
  if roleRootUser ≤ systemRole then ["root"]
  else if roleAdminUser ≤ systemRole then ["admin"]
  else []

def managedRoleKey : String := "admin"

def userSubject (userId : Int) : String := "user:" ++ userId.repr

def roleSubject (roleKey : String) : String := "role:" ++ roleKey

/-- A map from resources to maps from actions, in the order it is iterated over. -/
structure PermissionsMap where
  entries : List (String × (String → Option Bool))
  keys : (entries.map Prod.fst).Nodup

/-! ## The enforcer -/

/-- A rule `p`. -/
structure Policy where
  sub : String
  obj : String
  act : String
  eft : String
deriving DecidableEq

def effectAllow : String := "allow"

def effectDeny : String := "deny"

def policyEffect (policy : Policy) : String := if policy.eft = "" then effectAllow else policy.eft

/-- A filter value, which lets everything through when it is empty. -/
def passes (value field : String) : Bool := value == "" || field == value

def getFilteredPolicy (e : List Policy) (sub obj act : String) : List Policy :=
  e.filter fun p => passes sub p.sub && passes obj p.obj && passes act p.act

def removeFilteredPolicy (e : List Policy) (sub obj : String) : List Policy :=
  e.filter fun p => !(passes sub p.sub && passes obj p.obj)

def addAbsent {α : Type} [DecidableEq α] (l : List α) (x : α) : List α :=
  if x ∈ l then l else l ++ [x]

def addPolicy (e : List Policy) (p : Policy) : List Policy := addAbsent e p

/-! ## Answers -/

/-- The loop of `explicitSubjectEffect`. -/
def scanEffects : Bool → List Policy → Option String
  | hasAllow, [] => if hasAllow then some effectAllow else none
  | hasAllow, p :: rest =>
    if policyEffect p = effectDeny then some effectDeny
    else scanEffects (hasAllow || policyEffect p == effectAllow) rest

def explicitSubjectEffect (e : List Policy) (subject : String) (permission : Permission) :
    Option String :=
  scanEffects false (getFilteredPolicy e subject permission.resource permission.action)

def roleBaselineAllows (e : List Policy) (roleKey : String) (permission : Permission) : Bool :=
  explicitSubjectEffect e (roleSubject roleKey) permission == some effectAllow

def can (e : List Policy) (userId systemRole : Int) (permission : Permission) : Bool :=
  let roles := resolveSubjectRoles systemRole
  if roles = [] then false
  else if roles.any isSuperuserRole then true
  else if !isKnownPermission permission then false
  else match explicitSubjectEffect e (userSubject userId) permission with
    | some effect => effect == effectAllow
    | none => roles.any fun role => roleBaselineAllows e role permission

def capabilities (e : List Policy) (userId systemRole : Int) : PermissionsMap where
  entries := registry.map fun resource => (resource.resource, fun action =>
    if resource.actions.any (·.action == action)
    then some (can e userId systemRole ⟨resource.resource, action⟩) else none)
  keys := by simp [registry]

/-! ## Setting permissions -/

def userOverridePolicies (e : List Policy) (resource : String) (actions : String → Option Bool) :
    List (String × String) :=
  ((catalogActions resource).filterMap fun a =>
    match actions a.action with
    | none => none
    | some desired =>
      if desired = roleBaselineAllows e managedRoleKey ⟨resource, a.action⟩ then none
      else some (a.action, if desired then effectAllow else effectDeny)).mergeSort
    fun x y => decide (x.1 ≤ y.1)

/-- The rules of the user that `userOverridePolicies` asks for. -/
def overrideRules (e : List Policy) (userId : Int) (entry : String × (String → Option Bool)) :
    List Policy :=
  (userOverridePolicies e entry.1 entry.2).map fun p => ⟨userSubject userId, entry.1, p.1, p.2⟩

def setEntry (userId : Int) (e : List Policy) (entry : String × (String → Option Bool)) :
    List Policy :=
  if !isKnownResource entry.1 then e
  else
    let removed := removeFilteredPolicy e (userSubject userId) entry.1
    (overrideRules removed userId entry).foldl addPolicy removed

def setUserPermissions (e : List Policy) (userId : Int) (permissions : PermissionsMap) :
    List Policy :=
  permissions.entries.foldl (setEntry userId) e

structure CasbinRule where
  ptype : String
  v0 : String
  v1 : String
  v2 : String
  v3 : String
  v4 : String
  v5 : String
deriving DecidableEq

def newRule (ptype : String) (p : Policy) : CasbinRule := ⟨ptype, p.sub, p.obj, p.act, p.eft, "", ""⟩

/-- `OnConflict{DoNothing: true}` under the unique index over all columns. -/
def createRule (rows : List CasbinRule) (rule : CasbinRule) : List CasbinRule :=
  addAbsent rows rule

/-- The enforcer is only read. -/
def setEntryInTx (e : List Policy) (userId : Int) (rows : List CasbinRule)
    (entry : String × (String → Option Bool)) : List CasbinRule :=
  if !isKnownResource entry.1 then rows
  else
    ((overrideRules e userId entry).map (newRule "p")).foldl createRule
      (rows.filter fun r => !(r.ptype == "p" && r.v0 == userSubject userId && r.v1 == entry.1))

def setUserPermissionsInTx (e : List Policy) (rows : List CasbinRule) (userId : Int)
    (permissions : PermissionsMap) : List CasbinRule :=
  permissions.entries.foldl (setEntryInTx e userId) rows

/-! ## What an answer depends on -/

variable {systemRole u v : Int} {e e' : List Policy} {permission : Permission}

theorem userSubject_inj (h : userSubject u = userSubject v) : u = v :=
  Int.repr_injective ((String.append_right_inj "user:").mp h)

theorem roleSubject_ne_userSubject (roleKey : String) (u : Int) :
    roleSubject roleKey ≠ userSubject u := by
  intro h
  have hhead := congrArg (fun s => s.toList.head?) h
  simp [roleSubject, userSubject] at hhead

theorem userSubject_ne_empty (u : Int) : userSubject u ≠ "" := by
  simp [userSubject]

theorem roleSubject_ne_empty (roleKey : String) : roleSubject roleKey ≠ "" := by
  simp [roleSubject]

theorem passes_eq {value field : String} (h : value ≠ "") :
    passes value field = (field == value) := by
  simp [passes, h]

theorem registry_named : ∀ known ∈ registry, known.resource ≠ "" ∧
    (known.actions.map (·.action)).Nodup ∧ ∀ a ∈ known.actions, a.action ≠ "" := by
  decide

theorem isKnownResource_ne {resource : String} (h : isKnownResource resource = true) :
    resource ≠ "" := by
  obtain ⟨known, hknown, heq⟩ := List.any_eq_true.mp h
  exact beq_iff_eq.mp heq ▸ (registry_named known hknown).1

theorem isKnownPermission_iff :
    isKnownPermission permission = true ↔ isKnownResource permission.resource = true ∧
      ∃ a ∈ catalogActions permission.resource, a.action = permission.action := by
  unfold isKnownPermission isKnownResource catalogActions
  by_cases h : "channel" = permission.resource
  · simp [registry, h]
  · simp [registry, h]

theorem isKnownPermission_ne (h : isKnownPermission permission = true) :
    permission.resource ≠ "" ∧ permission.action ≠ "" := by
  obtain ⟨known, hknown, heq⟩ := List.any_eq_true.mp h
  obtain ⟨hresource, haction⟩ := Bool.and_eq_true_iff.mp heq
  obtain ⟨a, ha, hname⟩ := List.any_eq_true.mp haction
  obtain ⟨hne, _, hactions⟩ := registry_named known hknown
  exact ⟨beq_iff_eq.mp hresource ▸ hne, beq_iff_eq.mp hname ▸ hactions a ha⟩

/-- A rule of the subject for the permission has the effect. -/
def hasEffect (e : List Policy) (subject : String) (permission : Permission) (effect : String) :
    Bool :=
  e.any fun p => p.sub == subject && p.obj == permission.resource && p.act == permission.action &&
    policyEffect p == effect

theorem hasEffect_iff {subject effect : String} :
    hasEffect e subject permission effect = true ↔ ∃ p ∈ e, p.sub = subject ∧
      p.obj = permission.resource ∧ p.act = permission.action ∧ policyEffect p = effect := by
  simp [hasEffect, and_assoc]

theorem scanEffects_eq (hasAllow : Bool) (l : List Policy) : scanEffects hasAllow l =
    if l.any fun p => policyEffect p == effectDeny then some effectDeny
    else if hasAllow || l.any fun p => policyEffect p == effectAllow then some effectAllow
    else none := by
  induction l generalizing hasAllow with
  | nil => simp [scanEffects]
  | cons p rest ih =>
    rw [scanEffects]
    by_cases hdeny : policyEffect p = effectDeny
    · simp [hdeny]
    · simp [hdeny, ih, or_assoc]

section Effects

variable {e e' : List Policy} {subject : String} {permission : Permission}
  (hsubject : subject ≠ "") (hresource : permission.resource ≠ "")
  (haction : permission.action ≠ "")

include hsubject hresource haction

theorem explicit_eq : explicitSubjectEffect e subject permission =
      if hasEffect e subject permission effectDeny then some effectDeny
      else if hasEffect e subject permission effectAllow then some effectAllow
      else none := by
  have hfilter : ∀ effect, ((getFilteredPolicy e subject permission.resource
      permission.action).any fun p => policyEffect p == effect)
        = hasEffect e subject permission effect := by
    intro effect
    simp only [getFilteredPolicy, hasEffect, List.any_filter, passes_eq hsubject,
      passes_eq hresource, passes_eq haction]
  rw [explicitSubjectEffect, scanEffects_eq, hfilter, hfilter, Bool.false_or]

theorem explicit_congr
    (h : ∀ p : Policy, p.sub = subject → p.obj = permission.resource → (p ∈ e ↔ p ∈ e')) :
    explicitSubjectEffect e subject permission = explicitSubjectEffect e' subject permission := by
  have heffect : ∀ effect, hasEffect e subject permission effect
      = hasEffect e' subject permission effect := by
    intro effect
    rw [Bool.eq_iff_iff, hasEffect_iff, hasEffect_iff]
    exact exists_congr fun p => and_congr_left fun hp => h p hp.1 hp.2.1
  simp only [explicit_eq hsubject hresource haction, heffect]

end Effects

theorem can_congr (h : ∀ p : Policy, (p.sub = userSubject u ∨ ∃ role, p.sub = roleSubject role) →
      p.obj = permission.resource → (p ∈ e ↔ p ∈ e')) :
    can e u systemRole permission = can e' u systemRole permission := by
  unfold can
  by_cases hknown : isKnownPermission permission = true
  · obtain ⟨hresource, haction⟩ := isKnownPermission_ne hknown
    have huser := explicit_congr (userSubject_ne_empty u) hresource haction
      fun p hp => h p (.inl hp)
    have hrole : ∀ role, roleBaselineAllows e role permission = roleBaselineAllows e' role permission :=
      fun role => by
        rw [roleBaselineAllows, roleBaselineAllows,
          explicit_congr (roleSubject_ne_empty role) hresource haction
            fun p hp => h p (.inr ⟨role, hp⟩)]
    simp only [huser, hrole]
  · simp [hknown]

/-- What an administrator may do: what the user's own rules say, and else the role's. -/
theorem can_admin (hknown : isKnownPermission permission = true) :
    can e u roleAdminUser permission =
      match explicitSubjectEffect e (userSubject u) permission with
      | some effect => effect == effectAllow
      | none => roleBaselineAllows e managedRoleKey permission := by
  have hroles : resolveSubjectRoles roleAdminUser = ["admin"] := by decide
  have hsuper : isSuperuserRole "admin" = false := by decide
  simp [can, hroles, hsuper, hknown, managedRoleKey]

/-! ## What setting permissions stores -/

abbrev Entry := String × (String → Option Bool)

variable {e : List Policy} {u : Int} {q : Policy} {entry : Entry}

theorem mem_removeFilteredPolicy {obj : String} (hobj : obj ≠ "") :
    q ∈ removeFilteredPolicy e (userSubject u) obj ↔
      q ∈ e ∧ (q.sub = userSubject u → q.obj ≠ obj) := by
  simp [removeFilteredPolicy, passes_eq, userSubject_ne_empty, hobj, imp_iff_not_or]

theorem mem_foldl_addAbsent {α : Type} [DecidableEq α] {x : α} (l : List α) {s : List α} :
    x ∈ l.foldl addAbsent s ↔ x ∈ s ∨ x ∈ l := by
  induction l generalizing s with
  | nil => simp
  | cons y rest ih =>
    have hadd : x ∈ addAbsent s y ↔ x ∈ s ∨ x = y := by
      unfold addAbsent
      split_ifs with hmem
      · exact (or_iff_left_of_imp fun heq => heq ▸ hmem).symm
      · rw [List.mem_append, List.mem_singleton]
    rw [List.foldl_cons, ih, hadd, List.mem_cons, or_assoc]

theorem mem_overrideRules : q ∈ overrideRules e u entry ↔
    ∃ a ∈ catalogActions entry.1, ∃ desired, entry.2 a.action = some desired ∧
      desired ≠ roleBaselineAllows e managedRoleKey ⟨entry.1, a.action⟩ ∧
      q = ⟨userSubject u, entry.1, a.action, if desired then effectAllow else effectDeny⟩ := by
  simp only [overrideRules, userOverridePolicies, List.mem_map, List.mem_mergeSort,
    List.mem_filterMap]
  constructor
  · rintro ⟨p, ⟨a, ha, hp⟩, rfl⟩
    split at hp
    · cases hp
    · rename_i desired hdesired
      by_cases hbase : desired = roleBaselineAllows e managedRoleKey ⟨entry.1, a.action⟩
      · rw [if_pos hbase] at hp
        cases hp
      · rw [if_neg hbase] at hp
        obtain rfl := Option.some.inj hp
        exact ⟨a, ha, desired, hdesired, hbase, rfl⟩
  · rintro ⟨a, ha, desired, hdesired, hbase, rfl⟩
    exact ⟨(a.action, if desired then effectAllow else effectDeny),
      ⟨a, ha, by simp only [hdesired, if_neg hbase]⟩, rfl⟩

theorem mem_overrideRules_congr (hknown : isKnownResource entry.1 = true)
    (h : ∀ p : Policy, (∃ role, p.sub = roleSubject role) → (p ∈ e ↔ p ∈ e')) :
    q ∈ overrideRules e u entry ↔ q ∈ overrideRules e' u entry := by
  rw [mem_overrideRules, mem_overrideRules]
  refine exists_congr fun a => and_congr_right fun ha => ?_
  have hpermission : isKnownPermission ⟨entry.1, a.action⟩ = true :=
    isKnownPermission_iff.mpr ⟨hknown, a, ha, rfl⟩
  obtain ⟨hresource, haction⟩ := isKnownPermission_ne hpermission
  rw [roleBaselineAllows, roleBaselineAllows, explicit_congr (roleSubject_ne_empty managedRoleKey)
    hresource haction fun p hp _ => h p ⟨_, hp⟩]

theorem role_ne_user (h : ∃ role, q.sub = roleSubject role) : q.sub ≠ userSubject u := by
  obtain ⟨role, hrole⟩ := h
  exact hrole ▸ roleSubject_ne_userSubject role u

theorem overrideRules_own (h : q ∈ overrideRules e u entry) :
    q.sub = userSubject u ∧ q.obj = entry.1 := by
  obtain ⟨a, _, desired, _, _, rfl⟩ := mem_overrideRules.mp h
  exact ⟨rfl, rfl⟩

/-- The entry replaces the rule `q`. -/
def Replaces (u : Int) (q : Policy) (entry : Entry) : Prop :=
  isKnownResource entry.1 = true ∧ q.sub = userSubject u ∧ q.obj = entry.1

theorem mem_setEntry : (Replaces u q entry → (q ∈ setEntry u e entry ↔ q ∈ overrideRules e u entry)) ∧
    (¬ Replaces u q entry → (q ∈ setEntry u e entry ↔ q ∈ e)) := by
  unfold setEntry Replaces
  by_cases hknown : isKnownResource entry.1 = true
  · have hobj := isKnownResource_ne hknown
    have hrules : q ∈ overrideRules (removeFilteredPolicy e (userSubject u) entry.1) u entry
        ↔ q ∈ overrideRules e u entry :=
      mem_overrideRules_congr hknown fun p hp => by
        rw [mem_removeFilteredPolicy hobj]
        exact and_iff_left fun hsub => absurd hsub (role_ne_user hp)
    have hown := @overrideRules_own e u q entry
    simp only [hknown, Bool.not_true, Bool.false_eq_true, if_false, true_and]
    change (_ → (q ∈ List.foldl addAbsent _ _ ↔ _)) ∧ (_ → (q ∈ List.foldl addAbsent _ _ ↔ _))
    rw [mem_foldl_addAbsent, hrules, mem_removeFilteredPolicy hobj]
    tauto
  · simp [hknown]

theorem newRule_inj {p : Policy} : newRule "p" p = newRule "p" q ↔ p = q := by
  cases p
  cases q
  simp [newRule]

theorem mem_setEntryInTx {rows : List CasbinRule} :
    (Replaces u q entry →
      (newRule "p" q ∈ setEntryInTx e u rows entry ↔ q ∈ overrideRules e u entry)) ∧
    (¬ Replaces u q entry →
      (newRule "p" q ∈ setEntryInTx e u rows entry ↔ newRule "p" q ∈ rows)) := by
  unfold setEntryInTx Replaces
  by_cases hknown : isKnownResource entry.1 = true
  · have hown := @overrideRules_own e u q entry
    have hkept : newRule "p" q ∈ rows.filter (fun r =>
        !(r.ptype == "p" && r.v0 == userSubject u && r.v1 == entry.1)) ↔
          newRule "p" q ∈ rows ∧ (q.sub = userSubject u → q.obj ≠ entry.1) := by
      simp [newRule, imp_iff_not_or]
    simp only [hknown, Bool.not_true, Bool.false_eq_true, if_false, true_and]
    change (_ → (newRule "p" q ∈ List.foldl addAbsent _ _ ↔ _)) ∧
      (_ → (newRule "p" q ∈ List.foldl addAbsent _ _ ↔ _))
    simp only [mem_foldl_addAbsent, List.mem_map, hkept, newRule_inj, exists_eq_right]
    tauto
  · simp [hknown]

/-! ## A whole map -/

section Fold

variable {σ : Type} {step : σ → Entry → σ} (member kept : σ → Prop) (hits : Entry → Prop)
  {own : Entry → Prop} {entries : List Entry} {s : σ}

theorem foldl_miss (hmiss : ∀ s x, ¬ hits x → (member (step s x) ↔ member s))
    (h : ∀ x ∈ entries, ¬ hits x) : member (entries.foldl step s) ↔ member s := by
  induction entries generalizing s with
  | nil => rfl
  | cons x rest ih =>
    rw [List.foldl_cons, ih fun y hy => h y (List.mem_cons_of_mem x hy),
      hmiss s x (h x List.mem_cons_self)]

theorem foldl_hit (hmiss : ∀ s x, ¬ hits x → (member (step s x) ↔ member s))
    (hhit : ∀ s x, kept s → hits x → (member (step s x) ↔ own x))
    (hkeep : ∀ s x, kept s → kept (step s x)) (hs : kept s) (hentry : entry ∈ entries)
    (h : hits entry) (honly : ∀ x ∈ entries, hits x → x = entry) :
    member (entries.foldl step s) ↔ own entry := by
  induction entries generalizing s with
  | nil => cases hentry
  | cons x rest ih =>
    rw [List.foldl_cons]
    by_cases hrest : entry ∈ rest
    · exact ih (hkeep s x hs) hrest fun y hy => honly y (List.mem_cons_of_mem x hy)
    · obtain rfl := (List.mem_cons.mp hentry).resolve_right hrest
      rw [foldl_miss member hits hmiss fun y hy hyhit => ?_, hhit s entry hs h]
      exact hrest (honly y (List.mem_cons_of_mem entry hy) hyhit ▸ hy)

end Fold

theorem replaces_only {p : PermissionsMap} (hentry : entry ∈ p.entries)
    (h : Replaces u q entry) : ∀ x ∈ p.entries, Replaces u q x → x = entry := fun _ hx hxr =>
  List.inj_on_of_nodup_map p.keys hx hentry (hxr.2.2.symm.trans h.2.2)

variable {p : PermissionsMap} {rows : List CasbinRule}

theorem set_same (h : ∀ entry ∈ p.entries, ¬ Replaces u q entry) :
    q ∈ setUserPermissions e u p ↔ q ∈ e :=
  foldl_miss (q ∈ ·) (Replaces u q) (fun _ _ => mem_setEntry.2) h

theorem set_given (hentry : entry ∈ p.entries) (h : Replaces u q entry) :
    q ∈ setUserPermissions e u p ↔ q ∈ overrideRules e u entry :=
  foldl_hit (q ∈ ·) (fun s => ∀ p : Policy, (∃ role, p.sub = roleSubject role) → (p ∈ s ↔ p ∈ e))
    (Replaces u q)
    (fun _ _ => mem_setEntry.2)
    (fun _ _ hs hx => (mem_setEntry.1 hx).trans (mem_overrideRules_congr hx.1 hs))
    (fun _ _ hs p hp => (mem_setEntry.2 fun hx => role_ne_user hp hx.2.1).trans (hs p hp))
    (fun _ _ => Iff.rfl) hentry h (replaces_only hentry h)

/-- The table and the enforcer come to agree on the rules of the resources given, and go on
agreeing on the others. -/
theorem inTx_same_rules (h : (newRule "p" q ∈ rows ↔ q ∈ e) ∨
      ∃ entry ∈ p.entries, Replaces u q entry) :
    newRule "p" q ∈ setUserPermissionsInTx e rows u p ↔ q ∈ setUserPermissions e u p := by
  by_cases hgiven : ∃ entry ∈ p.entries, Replaces u q entry
  · obtain ⟨entry, hentry, hreplaces⟩ := hgiven
    rw [set_given hentry hreplaces]
    exact foldl_hit (newRule "p" q ∈ ·) (fun _ => True) (Replaces u q)
      (fun _ _ => mem_setEntryInTx.2) (fun _ _ _ => mem_setEntryInTx.1) (fun _ _ _ => trivial)
      trivial hentry hreplaces (replaces_only hentry hreplaces)
  · have hnot : ∀ entry ∈ p.entries, ¬ Replaces u q entry :=
      fun entry hentry hreplaces => hgiven ⟨entry, hentry, hreplaces⟩
    rw [set_same hnot, ← h.resolve_right hgiven]
    exact foldl_miss (newRule "p" q ∈ ·) (Replaces u q) (fun _ _ => mem_setEntryInTx.2) hnot

/-! ## What may be done afterwards -/

theorem can_other (h : v ≠ u ∨
      ∀ entry ∈ p.entries, isKnownResource entry.1 = true → entry.1 ≠ permission.resource) :
    can (setUserPermissions e u p) v systemRole permission = can e v systemRole permission := by
  refine can_congr fun q hq hobj => set_same fun entry hentry hreplaces => ?_
  obtain ⟨hknown, hsub, heq⟩ := hreplaces
  rcases hq with hq | hq
  · rcases h with h | h
    · exact h (userSubject_inj (hq.symm.trans hsub))
    · exact h entry hentry hknown (heq.symm.trans hobj)
  · exact role_ne_user hq hsub

theorem can_given (hentry : entry ∈ p.entries) (hknown : isKnownResource entry.1 = true)
    {a : ActionDefinition} (ha : a ∈ catalogActions entry.1) :
    can (setUserPermissions e u p) u roleAdminUser ⟨entry.1, a.action⟩
      = (entry.2 a.action).getD (roleBaselineAllows e managedRoleKey ⟨entry.1, a.action⟩) := by
  have hpermission : isKnownPermission ⟨entry.1, a.action⟩ = true :=
    isKnownPermission_iff.mpr ⟨hknown, a, ha, rfl⟩
  obtain ⟨hresource, haction⟩ := isKnownPermission_ne hpermission
  have hbase : roleBaselineAllows (setUserPermissions e u p) managedRoleKey ⟨entry.1, a.action⟩
      = roleBaselineAllows e managedRoleKey ⟨entry.1, a.action⟩ := by
    rw [roleBaselineAllows, roleBaselineAllows,
      explicit_congr (roleSubject_ne_empty managedRoleKey) hresource haction fun q hq _ =>
        set_same fun _ _ hreplaces => role_ne_user ⟨_, hq⟩ hreplaces.2.1]
  have heffect : ∀ effect, hasEffect (setUserPermissions e u p) (userSubject u)
      ⟨entry.1, a.action⟩ effect = true ↔ ∃ desired, entry.2 a.action = some desired ∧
        desired ≠ roleBaselineAllows e managedRoleKey ⟨entry.1, a.action⟩ ∧
        (if desired then effectAllow else effectDeny) = effect := by
    intro effect
    rw [hasEffect_iff]
    constructor
    · rintro ⟨q, hq, hsub, hobj, hact, rfl⟩
      rw [set_given hentry ⟨hknown, hsub, hobj⟩, mem_overrideRules] at hq
      obtain ⟨b, _, desired, hdesired, hne, rfl⟩ := hq
      have hname : b.action = a.action := hact
      rw [hname] at hdesired hne
      refine ⟨desired, hdesired, hne, ?_⟩
      cases desired <;> rfl
    · rintro ⟨desired, hdesired, hne, rfl⟩
      refine ⟨⟨userSubject u, entry.1, a.action, if desired then effectAllow else effectDeny⟩,
        ?_, rfl, rfl, rfl, ?_⟩
      · rw [set_given hentry ⟨hknown, rfl, rfl⟩, mem_overrideRules]
        exact ⟨a, ha, desired, hdesired, hne, rfl⟩
      · cases desired <;> rfl
  rw [can_admin hpermission, explicit_eq (userSubject_ne_empty u) hresource haction, hbase]
  generalize roleBaselineAllows e managedRoleKey ⟨entry.1, a.action⟩ = baseline at heffect
  cases hgiven : entry.2 a.action with
  | none => simp [heffect, hgiven]
  | some desired =>
    cases desired <;> cases baseline <;> simp [heffect, hgiven, effectAllow, effectDeny]

theorem can_of_admin (h : can e v roleAdminUser permission = can e' v roleAdminUser permission)
    (systemRole : Int) : can e v systemRole permission = can e' v systemRole permission := by
  by_cases hroot : roleRootUser ≤ systemRole
  · have hsuper : isSuperuserRole "root" = true := by decide
    simp [can, resolveSubjectRoles, hroot, hsuper]
  · by_cases hadmin : roleAdminUser ≤ systemRole
    · have hsame : resolveSubjectRoles systemRole = resolveSubjectRoles roleAdminUser := by
        rw [resolveSubjectRoles, if_neg hroot, if_pos hadmin]
        rfl
      unfold can at h ⊢
      rwa [hsame]
    · simp [can, resolveSubjectRoles, hroot, hadmin]

theorem can_capabilities (v systemRole : Int) (permission : Permission) :
    can (setUserPermissions e u (capabilities e u roleAdminUser)) v systemRole permission
      = can e v systemRole permission := by
  by_cases hv : v = u
  · subst hv
    refine can_of_admin ?_ systemRole
    by_cases hpermission : isKnownPermission permission = true
    · obtain ⟨hknown, a, ha, haction⟩ := isKnownPermission_iff.mp hpermission
      obtain ⟨known, hmem, heq⟩ := List.any_eq_true.mp hpermission
      obtain ⟨hresource, hcatalog⟩ := Bool.and_eq_true_iff.mp heq
      obtain ⟨resource, action⟩ := permission
      obtain rfl := beq_iff_eq.mp hresource
      subst haction
      rw [can_given (p := capabilities e v roleAdminUser) (List.mem_map.mpr ⟨known, hmem, rfl⟩)
        hknown ha]
      change (if (known.actions.any (·.action == a.action)) = true then _ else none).getD _ = _
      rw [if_pos hcatalog, Option.getD_some]
    · simp [can, hpermission]
  · exact can_other (.inl hv)

/-- Overrides take effect exactly: a permission that is given has the value given or else the
role's, nothing else changes, what an administrator has may be given back, and in a
transaction the same rules are stored. -/
theorem overrides_exact (e : List Policy) (rows : List CasbinRule) (u : Int) (p : PermissionsMap) :
    (∀ entry ∈ p.entries, isKnownResource entry.1 = true → ∀ a ∈ catalogActions entry.1,
      can (setUserPermissions e u p) u roleAdminUser ⟨entry.1, a.action⟩
        = (entry.2 a.action).getD (roleBaselineAllows e managedRoleKey ⟨entry.1, a.action⟩)) ∧
    (∀ v systemRole permission, (v ≠ u ∨ ∀ entry ∈ p.entries, isKnownResource entry.1 = true →
        entry.1 ≠ permission.resource) →
      can (setUserPermissions e u p) v systemRole permission = can e v systemRole permission) ∧
    (∀ v systemRole permission,
      can (setUserPermissions e u (capabilities e u roleAdminUser)) v systemRole permission
        = can e v systemRole permission) ∧
    ∀ q : Policy, q.sub = userSubject u → ((newRule "p" q ∈ rows ↔ q ∈ e) ∨
        ∃ entry ∈ p.entries, isKnownResource entry.1 = true ∧ q.obj = entry.1) →
      (newRule "p" q ∈ setUserPermissionsInTx e rows u p ↔ q ∈ setUserPermissions e u p) :=
  ⟨fun _ hentry hknown _ ha => can_given hentry hknown ha,
    fun _ _ _ h => can_other h,
    can_capabilities,
    fun _ hsub h => inTx_same_rules (h.imp_right fun ⟨entry, hentry, hknown, hobj⟩ =>
      ⟨entry, hentry, hknown, hsub, hobj⟩)⟩

end YouBox.Authz
