import YouBox.SubLife

/-!
# Group upgrades and their end

A purchase may move the user to the plan's group; the subscription then
remembers the group the user came from, unless the user was in the plan's group
already. When it ends the user goes back to that group, unless another upgraded
subscription is active.

So whoever ends *last* decides, and going back to where it all began takes the
one that moved the user out of there. `GroupFits` is the condition: only a user
who is in the original group is moved, and the subscription that moved the user
is the last upgraded one to end. `group_upgrade_undone` gives the result for
every run under it. Without it, overlapping upgrades leave the user in a group
that nothing pays for any more (`overlap_keeps_group`).
-/

namespace YouBox

/-! ## Trimmed names -/

theorem trimSpace_empty : trimSpace "" = "" := by decide

attribute [local irreducible] trimSpace

theorem trimSpace_trimSpace (s : String) : trimSpace (trimSpace s) = trimSpace s := by
  have hfix : ∀ l : List Char,
      ((l.dropWhile isSpace).rdropWhile isSpace).dropWhile isSpace
        = (l.dropWhile isSpace).rdropWhile isSpace := by
    intro l
    cases hr : (l.dropWhile isSpace).rdropWhile isSpace with
    | nil => rfl
    | cons x rest =>
      -- what is left starts where the text without leading blanks starts
      obtain ⟨tail, htail⟩ := List.rdropWhile_prefix isSpace (l := l.dropWhile isSpace)
      rw [hr] at htail
      have hhead := List.head?_dropWhile_not isSpace l
      rw [← htail] at hhead
      have hx : isSpace x = false := by simpa using hhead
      simp [hx]
  have hlist : ∀ t : String, (trimSpace t).toList
      = (t.toList.dropWhile isSpace).rdropWhile isSpace := by
    intro t
    simp only [trimSpace, String.toList_ofList, List.rdropWhile]
  apply String.toList_injective
  rw [hlist (trimSpace s), hlist s, hfix, List.rdropWhile_idempotent]

/-! ## Runs -/

inductive GroupOp where
  | purchase (userId : Nat) (plan : SubscriptionPlan)
  | expireDue (limit : Int) (visited : List Nat)
  | invalidate (id : Nat)
  | delete (id : Nat)

/-- One operation at a time. -/
def SubStore.live (cal : Calendar) (s : SubStore) (op : Int × GroupOp) : SubStore :=
  match op.2 with
  | .purchase userId plan =>
    match createUserSubscriptionFromPlan cal op.1 userId plan s with
    | .error _ => s
    | .ok s' => s'
  | .expireDue limit visited => expireDueSubscriptions op.1 limit visited s
  | .invalidate id =>
    match adminInvalidateUserSubscription op.1 id s with
    | .error _ => s
    | .ok s' => s'
  | .delete id =>
    match adminDeleteUserSubscription op.1 id s with
    | .error _ => s
    | .ok s' => s'

/-- The user is in `g₀` whenever no active subscription with an upgrade group
is left. -/
def UpgradeUndone (u : Nat) (g₀ : String) (s : SubStore) : Prop :=
  (∀ x ∈ s.subs, x.userId = u → x.status = .active → x.upgradeGroup = "") → s.groups u = g₀

/-- An active subscription of the user that moved them to the group they are in. -/
def MovedHere (u : Nat) (s : SubStore) (x : UserSubscription) : Prop :=
  x.userId = u ∧ x.status = .active ∧ x.upgradeGroup = s.groups u ∧ x.prevUserGroup ≠ ""

/-- An upgraded subscription of the user is active and has not ended. -/
def anyActiveUpgraded (now : Int) (u : Nat) (subs : List UserSubscription) : Bool :=
  subs.any (fun x => x.userId == u && x.status == .active && now < x.endTime
    && x.upgradeGroup != "")

/-- If the one that moved the user expires, no upgraded one is left active, and
of the expired ones the last to end moved the user where they are. -/
def ExpiryFits (now : Int) (u : Nat) (s : SubStore) : Prop :=
  (∃ x ∈ s.subs, MovedHere u s x ∧ expires now x = true) →
    anyActiveUpgraded now u (expireRows now u s.subs) = false ∧
      ∃ l ∈ lastExpired u (expireRows now u s.subs), l.upgradeGroup = s.groups u ∧
        l.prevUserGroup ≠ ""

/-- A subscription that the administrator ends either did not move the user
where they are, or is the last upgraded one active. -/
def EndFits (now : Int) (u id : Nat) (s : SubStore) : Prop :=
  ∀ sub ∈ findSub s.subs id, MovedHere u s sub → otherActiveUpgraded now sub s.subs = false

/-- Plans have no downgrade group; a purchase moves the user only from the
original group; and whatever moved the user ends last. -/
def GroupFits (u : Nat) (g₀ : String) (s : SubStore) (op : Int × GroupOp) : Prop :=
  match op.2 with
  | .purchase userId plan => userId = u → trimSpace plan.downgradeGroup = "" ∧
      (movesGroup plan.trimGroups (s.groups u) = true → s.groups u = g₀)
  | .expireDue _ _ => ExpiryFits op.1 u s
  | .invalidate id => EndFits op.1 u id s
  | .delete id => EndFits op.1 u id s

instance (u : Nat) (g₀ : String) (s : SubStore) : Decidable (UpgradeUndone u g₀ s) :=
  inferInstanceAs (Decidable (_ → _))

instance (u : Nat) (s : SubStore) (x : UserSubscription) : Decidable (MovedHere u s x) :=
  inferInstanceAs (Decidable (_ ∧ _))

instance (now : Int) (u : Nat) (s : SubStore) : Decidable (ExpiryFits now u s) :=
  inferInstanceAs (Decidable (_ → _))

instance (now : Int) (u id : Nat) (s : SubStore) : Decidable (EndFits now u id s) :=
  inferInstanceAs (Decidable (∀ sub ∈ findSub s.subs id, _))

instance (u : Nat) (g₀ : String) (s : SubStore) :
    (op : Int × GroupOp) → Decidable (GroupFits u g₀ s op)
  | (_, .purchase _ _) => inferInstanceAs (Decidable (_ → _))
  | (now, .expireDue _ _) => inferInstanceAs (Decidable (ExpiryFits now u s))
  | (now, .invalidate id) => inferInstanceAs (Decidable (EndFits now u id s))
  | (now, .delete id) => inferInstanceAs (Decidable (EndFits now u id s))

/-! ## What the rows of a user say -/

/-- What every subscription of the user says about groups: it names no group to
go down to, and if it moved the user it did so from `g₀`, to another group. -/
structure GroupRow (g₀ : String) (x : UserSubscription) : Prop where
  noDowngrade : trimSpace x.downgradeGroup = ""
  trimmed : trimSpace x.upgradeGroup = x.upgradeGroup
  moved : x.prevUserGroup = "" ∨ (x.prevUserGroup = g₀ ∧ x.upgradeGroup ≠ g₀)

/-- A name that `strings.TrimSpace` leaves alone, and that says something. -/
def GroupName (g : String) : Prop := g ≠ "" ∧ trimSpace g = g

variable {cal : Calendar} {now : Int} {id u v : Nat} {g₀ : String} {s : SubStore}

/-- Where the end of such a subscription sends the user: back to `g₀` if it
moved them where they are, and nowhere otherwise. -/
theorem GroupRow.target {x : UserSubscription} (h : GroupRow g₀ x) (hg : GroupName g₀)
    (current : String) :
    downgradeTarget x current =
      if current = x.upgradeGroup ∧ x.prevUserGroup ≠ "" then g₀ else "" := by
  unfold downgradeTarget
  rw [if_neg (by simp [h.noDowngrade]), h.trimmed]
  by_cases hcur : current = x.upgradeGroup
  · rcases h.moved with hprev | ⟨hprev, -⟩
    · simp [hcur, hprev, trimSpace_empty]
    · simp [hcur, hprev, hg.1, hg.2]
  · simp [hcur]

theorem GroupRow.expiredTarget {x : UserSubscription} (h : GroupRow g₀ x) (hg : GroupName g₀)
    {current : String} (hcur : current ≠ "") :
    expiredTarget x current =
      if current = x.upgradeGroup ∧ x.prevUserGroup ≠ "" then g₀ else "" := by
  unfold YouBox.expiredTarget
  split
  · rename_i hnone
    rw [if_neg]
    rintro ⟨rfl, hprev⟩
    rcases hnone.2 with hup | hpr
    · exact hcur (h.trimmed.symm.trans hup)
    · rcases h.moved with hm | ⟨hm, -⟩
      · exact hprev hm
      · rw [hm, hg.2] at hpr
        exact hg.1 hpr
  · exact h.target hg current

theorem SubStore.moveTo_groups_ne (s : SubStore) (hne : u ≠ v) (target : String) :
    (s.moveTo v target).groups u = s.groups u := by
  unfold SubStore.moveTo
  split
  · rfl
  · exact Function.update_of_ne hne _ _

theorem SubStore.moveTo_subs (s : SubStore) (u : Nat) (target : String) :
    (s.moveTo u target).subs = s.subs ∧ (s.moveTo u target).nextId = s.nextId := by
  unfold SubStore.moveTo
  split
  · exact ⟨rfl, rfl⟩
  · exact ⟨rfl, rfl⟩

theorem SubStore.moveTo_groups (s : SubStore) (u : Nat) (target : String) :
    (s.moveTo u target).groups u = if target = "" then s.groups u else target := by
  unfold SubStore.moveTo
  by_cases ht : target = ""
  · simp [ht]
  · by_cases hc : target = s.groups u
    · simp [hc]
    · simp [ht, hc, SubStore.setGroup]

/-! ## The invariant -/

structure GroupInv (u : Nat) (g₀ : String) (s : SubStore) : Prop where
  ids : (s.subs.map (·.id)).Nodup
  fresh : ∀ x ∈ s.subs, x.id < s.nextId
  rows : ∀ x ∈ s.subs, x.userId = u → GroupRow g₀ x
  named : s.groups u ≠ ""
  home : s.groups u = g₀ ∨ ∃ m ∈ s.subs, MovedHere u s m

theorem GroupInv.undone (h : GroupInv u g₀ s) : UpgradeUndone u g₀ s := by
  intro hnone
  rcases h.home with hhome | ⟨m, hm, hu, hact, hup, -⟩
  · exact hhome
  · exact absurd (hup.symm.trans (hnone m hm hu hact)) h.named

theorem GroupInv.purchase {plan : SubscriptionPlan} (h : GroupInv u g₀ s)
    (hok : GroupFits u g₀ s (now, .purchase v plan)) :
    GroupInv u g₀ (s.live cal (now, .purchase v plan)) := by
  simp only [SubStore.live]
  cases hc : createUserSubscriptionFromPlan cal now v plan s with
  | error e => exact h
  | ok s' =>
    simp only [createUserSubscriptionFromPlan] at hc
    split at hc
    · cases hc
    split at hc
    · cases hc
    split at hc
    · cases hc
    rename_i endUnix hend
    cases hc
    have hids : ((s.nextId :: s.subs.map (·.id))).Nodup := by
      refine List.nodup_cons.mpr ⟨?_, h.ids⟩
      intro hmem
      obtain ⟨x, hx, hid⟩ := List.mem_map.mp hmem
      have := h.fresh x hx
      omega
    have hfresh : ∀ x ∈ s.subs, x.id < s.nextId + 1 := fun x hx => by
      have := h.fresh x hx
      omega
    cases hmoves : movesGroup plan.trimGroups (s.groups v) with
    | false =>
      -- the user's group stays, and the new row remembers none
      refine ⟨hids, ?_, ?_, h.named, ?_⟩
      · intro x hx
        rcases List.mem_cons.mp hx with rfl | hx
        · exact Nat.lt_succ_self _
        · exact hfresh x hx
      · intro x hx hxu
        rcases List.mem_cons.mp hx with rfl | hx
        · exact ⟨by
            have hdown := (hok hxu).1
            exact (congrArg trimSpace hdown).trans trimSpace_empty,
            trimSpace_trimSpace _, Or.inl rfl⟩
        · exact h.rows x hx hxu
      · rcases h.home with hhome | ⟨m, hm, hmv⟩
        · exact Or.inl hhome
        · exact Or.inr ⟨m, List.mem_cons_of_mem _ hm, hmv⟩
    | true =>
      simp only [movesGroup, Bool.and_eq_true, bne_iff_ne, ne_eq] at hmoves
      by_cases hvu : v = u
      · subst hvu
        have hdown := (hok rfl).1
        have hhome : s.groups v = g₀ := (hok rfl).2 (by simp [movesGroup, hmoves])
        refine ⟨hids, ?_, ?_, ?_, ?_⟩
        · intro x hx
          rcases List.mem_cons.mp hx with rfl | hx
          · exact Nat.lt_succ_self _
          · exact hfresh x hx
        · intro x hx hxu
          rcases List.mem_cons.mp hx with rfl | hx
          · exact ⟨(congrArg trimSpace hdown).trans trimSpace_empty, trimSpace_trimSpace _,
              Or.inr ⟨hhome, fun heq => hmoves.2 (hhome.trans heq.symm)⟩⟩
          · exact h.rows x hx hxu
        · simpa [SubStore.setGroup] using hmoves.1
        · refine Or.inr ⟨_, List.mem_cons_self, rfl, rfl, ?_, ?_⟩
          · simp [SubStore.setGroup, subscriptionFromPlan]
          · exact h.named
      · have hgroup : Function.update s.groups v plan.trimGroups.upgradeGroup u
            = s.groups u := Function.update_of_ne (fun heq => hvu heq.symm) _ _
        refine ⟨hids, ?_, ?_, ?_, ?_⟩
        · intro x hx
          rcases List.mem_cons.mp hx with rfl | hx
          · exact Nat.lt_succ_self _
          · exact hfresh x hx
        · intro x hx hxu
          rcases List.mem_cons.mp hx with rfl | hx
          · exact absurd hxu hvu
          · exact h.rows x hx hxu
        · exact fun heq => h.named (hgroup.symm.trans heq)
        · rcases h.home with hhome | ⟨m, hm, hmu, hact, hup, hprev⟩
          · exact Or.inl (hgroup.trans hhome)
          · exact Or.inr ⟨m, List.mem_cons_of_mem _ hm, hmu, hact, hup.trans hgroup.symm, hprev⟩

/-! ## The administrator ends a subscription -/

theorem downgrade_subs (now : Int) (sub : UserSubscription) (s : SubStore) :
    (downgradeUserGroupForSubscription now sub s).subs = s.subs ∧
      (downgradeUserGroupForSubscription now sub s).nextId = s.nextId := by
  unfold downgradeUserGroupForSubscription
  split
  · exact ⟨rfl, rfl⟩
  · split
    · exact ⟨rfl, rfl⟩
    · exact s.moveTo_subs _ _

variable {subs : List UserSubscription} {sub : UserSubscription}

theorem downgrade_group (now : Int) (s : SubStore) (hg : GroupName g₀)
    (hrow : sub.userId = u → GroupRow g₀ sub) (hnamed : s.groups u ≠ "") :
    (downgradeUserGroupForSubscription now sub s).groups u =
      if sub.userId = u ∧ otherActiveUpgraded now sub s.subs = false ∧
        s.groups u = sub.upgradeGroup ∧ sub.prevUserGroup ≠ "" then g₀ else s.groups u := by
  unfold downgradeUserGroupForSubscription
  by_cases hu : sub.userId = u
  · subst hu
    have hrow := hrow rfl
    rw [hrow.noDowngrade, hrow.trimmed]
    split
    · rename_i hup
      rw [if_neg]
      rintro ⟨-, -, hcur, -⟩
      exact hnamed (hcur.trans hup.2)
    · split
      · rename_i hother
        rw [if_neg]
        rintro ⟨-, hfalse, -⟩
        rw [hother] at hfalse
        cases hfalse
      · rename_i hother
        have hother : otherActiveUpgraded now sub s.subs = false := by simpa using hother
        rw [SubStore.moveTo_groups, hrow.target hg]
        by_cases hmoved : s.groups sub.userId = sub.upgradeGroup ∧ sub.prevUserGroup ≠ ""
        · rw [if_pos hmoved, if_neg hg.1, if_pos ⟨rfl, hother, hmoved⟩]
        · rw [if_neg hmoved, if_pos rfl, if_neg (fun hc => hmoved hc.2.2)]
  · have hother : ¬ (sub.userId = u ∧ otherActiveUpgraded now sub s.subs = false ∧
        s.groups u = sub.upgradeGroup ∧ sub.prevUserGroup ≠ "") := fun hc => hu hc.1
    rw [if_neg hother]
    split
    · rfl
    · split
      · rfl
      · exact s.moveTo_groups_ne (fun heq => hu heq.symm) _

/-- The store after a subscription has ended keeps the invariant, if the others
are all still there and the user's group went where `downgrade_group` says. -/
theorem GroupInv.ended {s' : SubStore} (h : GroupInv u g₀ s) (hg : GroupName g₀)
    (hfind : findSub s.subs id = some sub) (hok : EndFits now u id s)
    (hids : (s'.subs.map (·.id)).Nodup) (hfresh : ∀ x ∈ s'.subs, x.id < s'.nextId)
    (hrows : ∀ x ∈ s'.subs, x.userId = u → GroupRow g₀ x)
    (hkeep : ∀ x ∈ s.subs, x.id ≠ sub.id → x ∈ s'.subs)
    (hgroup : s'.groups u = if sub.userId = u ∧ otherActiveUpgraded now sub s.subs = false ∧
        s.groups u = sub.upgradeGroup ∧ sub.prevUserGroup ≠ "" then g₀ else s.groups u) :
    GroupInv u g₀ s' := by
  have hnamed : s'.groups u ≠ "" := by
    rw [hgroup]
    split
    · exact hg.1
    · exact h.named
  refine ⟨hids, hfresh, hrows, hnamed, ?_⟩
  split at hgroup
  · exact Or.inl hgroup
  · rename_i hstay
    rcases h.home with hhome | ⟨m, hm, hmu, hact, hup, hprev⟩
    · exact Or.inl (hgroup.trans hhome)
    · -- the one that moved the user is not the one that ended
      have hne : m.id ≠ sub.id := by
        intro heq
        have hfm := findSub_of_mem h.ids hm
        rw [heq, findSub_id hfind, hfind] at hfm
        cases hfm
        exact hstay ⟨hmu, hok sub hfind ⟨hmu, hact, hup, hprev⟩, hup.symm, hprev⟩
      exact Or.inr ⟨m, hkeep m hm hne, hmu, hact, hup.trans hgroup.symm, hprev⟩

theorem otherActiveUpgraded_saveSub (now : Int) (row : UserSubscription)
    (subs : List UserSubscription) :
    otherActiveUpgraded now row (saveSub subs row) = otherActiveUpgraded now row subs := by
  unfold otherActiveUpgraded saveSub
  rw [List.any_map]
  congr 1
  funext x
  simp only [Function.comp_apply]
  by_cases hx : x.id = row.id
  · simp [hx]
  · simp [hx]

theorem GroupInv.invalidate (h : GroupInv u g₀ s) (hg : GroupName g₀)
    (hok : GroupFits u g₀ s (now, .invalidate id)) :
    GroupInv u g₀ (s.live cal (now, .invalidate id)) := by
  simp only [SubStore.live, adminInvalidateUserSubscription]
  by_cases hid : id = 0
  · rw [if_pos hid]
    exact h
  rw [if_neg hid]
  cases hfind : findSub s.subs id with
  | none => exact h
  | some sub =>
    simp only
    generalize hrow : ({ sub with status := .cancelled, endTime := now } : UserSubscription) = row
    have hsame : row.id = sub.id ∧ row.userId = sub.userId ∧
        row.upgradeGroup = sub.upgradeGroup ∧ row.prevUserGroup = sub.prevUserGroup ∧
        row.downgradeGroup = sub.downgradeGroup := by
      rw [← hrow]
      exact ⟨rfl, rfl, rfl, rfl, rfl⟩
    obtain ⟨hrid, hru, hrup, hrprev, hrdown⟩ := hsame
    have hgr : row.userId = u → GroupRow g₀ row := by
      intro hu
      have hsub := h.rows sub (findSub_mem hfind) (hru.symm.trans hu)
      exact ⟨by rw [hrdown]; exact hsub.noDowngrade, by rw [hrup]; exact hsub.trimmed,
        by rw [hrup, hrprev]; exact hsub.moved⟩
    obtain ⟨hsubs, hnext⟩ := downgrade_subs now row { s with subs := saveSub s.subs row }
    have hmem : ∀ x ∈ saveSub s.subs row, x = row ∨ x ∈ s.subs := by
      intro x hx
      obtain ⟨y, hy, rfl⟩ := List.mem_map.mp hx
      split
      · exact Or.inl rfl
      · exact Or.inr hy
    refine h.ended hg hfind hok ?_ ?_ ?_ ?_ ?_
    · rw [hsubs, saveSub_ids]
      exact h.ids
    · rw [hsubs, hnext]
      intro x hx
      rcases hmem x hx with rfl | hx
      · rw [hrid]
        exact h.fresh sub (findSub_mem hfind)
      · exact h.fresh x hx
    · rw [hsubs]
      intro x hx hxu
      rcases hmem x hx with rfl | hx
      · exact hgr hxu
      · exact h.rows x hx hxu
    · rw [hsubs]
      intro x hx hne
      refine List.mem_map.mpr ⟨x, hx, if_neg ?_⟩
      rw [hrid]
      exact hne
    · have hdown := downgrade_group now { s with subs := saveSub s.subs row } hg hgr h.named
      have hother : otherActiveUpgraded now row s.subs = otherActiveUpgraded now sub s.subs := by
        simp only [otherActiveUpgraded, hru, hrid]
      rw [otherActiveUpgraded_saveSub, hother, hru, hrup, hrprev] at hdown
      exact hdown

theorem GroupInv.delete (h : GroupInv u g₀ s) (hg : GroupName g₀)
    (hok : GroupFits u g₀ s (now, .delete id)) : GroupInv u g₀ (s.live cal (now, .delete id)) := by
  simp only [SubStore.live, adminDeleteUserSubscription]
  by_cases hid : id = 0
  · rw [if_pos hid]
    exact h
  rw [if_neg hid]
  cases hfind : findSub s.subs id with
  | none => exact h
  | some sub =>
    simp only
    obtain ⟨hsubs, hnext⟩ := downgrade_subs now sub s
    have hrow : sub.userId = u → GroupRow g₀ sub := h.rows sub (findSub_mem hfind)
    have hgroup := downgrade_group now s hg hrow h.named
    generalize downgradeUserGroupForSubscription now sub s = left at hsubs hnext hgroup ⊢
    have hmem : ∀ x ∈ left.subs.filter (fun x => x.id != id), x ∈ s.subs := by
      intro x hx
      rw [hsubs] at hx
      exact (List.mem_filter.mp hx).1
    refine h.ended hg hfind hok ?_ ?_ ?_ ?_ hgroup
    · rw [hsubs]
      exact h.ids.sublist (List.filter_sublist.map _)
    · simp only [hnext]
      exact fun x hx => h.fresh x (hmem x hx)
    · exact fun x hx => h.rows x (hmem x hx)
    · intro x hx hne
      rw [findSub_id hfind] at hne
      rw [hsubs]
      exact List.mem_filter.mpr ⟨hx, by simpa using hne⟩

/-! ## Subscriptions expire -/

/-- The row after the UPDATE of `expireUser`. -/
def expireRow (now : Int) (v : Nat) (x : UserSubscription) : UserSubscription :=
  if x.userId == v && expires now x then { x with status := .expired } else x

theorem expireRows_eq (now : Int) (v : Nat) (subs : List UserSubscription) :
    expireRows now v subs = subs.map (expireRow now v) := rfl

theorem expireRow_cases (now : Int) (v : Nat) (x : UserSubscription) :
    expireRow now v x = x ∨
      (x.userId = v ∧ expires now x = true ∧ expireRow now v x = { x with status := .expired }) := by
  unfold expireRow
  split
  · rename_i hdue
    simp only [Bool.and_eq_true, beq_iff_eq] at hdue
    exact Or.inr ⟨hdue.1, hdue.2, rfl⟩
  · exact Or.inl rfl

theorem expireRow_same (now : Int) (v : Nat) (x : UserSubscription) :
    (expireRow now v x).id = x.id ∧ (expireRow now v x).userId = x.userId ∧
      (expireRow now v x).upgradeGroup = x.upgradeGroup ∧
      (expireRow now v x).prevUserGroup = x.prevUserGroup ∧
      (expireRow now v x).downgradeGroup = x.downgradeGroup := by
  rcases expireRow_cases now v x with h | ⟨-, -, h⟩
  · rw [h]
    exact ⟨rfl, rfl, rfl, rfl, rfl⟩
  · rw [h]
    exact ⟨rfl, rfl, rfl, rfl, rfl⟩

theorem expireRow_other {x : UserSubscription} (h : x.userId ≠ v) : expireRow now v x = x := by
  rcases expireRow_cases now v x with hx | ⟨hv, -, -⟩
  · exact hx
  · exact absurd hv h

theorem expireUser_rows (now : Int) (s : SubStore) (v : Nat) :
    (expireUser now s v).subs = expireRows now v s.subs ∧
      (expireUser now s v).nextId = s.nextId := by
  unfold expireUser
  simp only
  split
  · exact ⟨rfl, rfl⟩
  · split
    · exact ⟨rfl, rfl⟩
    · exact SubStore.moveTo_subs _ _ _

theorem expireUser_groups_ne (now : Int) (s : SubStore) (hne : u ≠ v) :
    (expireUser now s v).groups u = s.groups u := by
  unfold expireUser
  simp only
  split
  · rfl
  · split
    · rfl
    · exact SubStore.moveTo_groups_ne _ hne _

theorem lastExpired_mem {l : UserSubscription} (h : lastExpired u subs = some l) :
    l ∈ subs ∧ l.userId = u := by
  unfold lastExpired at h
  have hmem := List.mem_of_mem_head? h
  rw [List.mem_insertionSort, List.mem_filter] at hmem
  simp only [Bool.and_eq_true, beq_iff_eq] at hmem
  exact ⟨hmem.1, hmem.2.1.1⟩

theorem expireRows_groupRow (now : Int) (v : Nat) (h : ∀ x ∈ subs, x.userId = u → GroupRow g₀ x) :
    ∀ x ∈ expireRows now v subs, x.userId = u → GroupRow g₀ x := by
  intro x hx hxu
  obtain ⟨y, hy, rfl⟩ := List.mem_map.mp hx
  obtain ⟨-, hyu, hup, hprev, hdown⟩ := expireRow_same now v y
  have hrow := h y hy (hyu.symm.trans hxu)
  exact ⟨(congrArg trimSpace hdown).trans hrow.noDowngrade,
    (congrArg trimSpace hup).trans (hrow.trimmed.trans hup.symm), by
      rcases hrow.moved with hm | ⟨hm, hne⟩
      · exact Or.inl (hprev.trans hm)
      · exact Or.inr ⟨hprev.trans hm, fun heq => hne (hup.symm.trans heq)⟩⟩

theorem expireUser_eq (now : Int) (s : SubStore) (u : Nat) :
    expireUser now s u =
      if anyActiveUpgraded now u (expireRows now u s.subs) then
        { s with subs := expireRows now u s.subs }
      else
        match lastExpired u (expireRows now u s.subs) with
        | none => { s with subs := expireRows now u s.subs }
        | some sub => SubStore.moveTo { s with subs := expireRows now u s.subs } u
            (expiredTarget sub (s.groups u)) := rfl

/-- What the expiry task does to the group of the user it visits, once no
upgraded subscription is active: what the last one to end says. -/
theorem expireUser_group (now : Int) (hg : GroupName g₀)
    (hrows : ∀ x ∈ s.subs, x.userId = u → GroupRow g₀ x) (hnamed : s.groups u ≠ "") :
    (expireUser now s u).groups u =
      if anyActiveUpgraded now u (expireRows now u s.subs) = false ∧
        (∃ l, lastExpired u (expireRows now u s.subs) = some l ∧ s.groups u = l.upgradeGroup ∧
          l.prevUserGroup ≠ "") then g₀ else s.groups u := by
  have hrows' := expireRows_groupRow now u hrows
  cases hact : anyActiveUpgraded now u (expireRows now u s.subs) with
  | true =>
    rw [if_neg (fun hc => nomatch hc.1)]
    rw [expireUser_eq, if_pos hact]
  | false =>
    cases hl : lastExpired u (expireRows now u s.subs) with
    | none =>
      rw [if_neg (by rintro ⟨-, l, hnone, -⟩; cases hnone)]
      rw [expireUser_eq, if_neg (by simp [hact]), hl]
    | some l =>
      obtain ⟨hmem, hlu⟩ := lastExpired_mem hl
      have htarget := (hrows' l hmem hlu).expiredTarget hg hnamed
      rw [expireUser_eq, if_neg (by simp [hact]), hl]
      simp only
      rw [SubStore.moveTo_groups, htarget]
      by_cases hmoved : s.groups u = l.upgradeGroup ∧ l.prevUserGroup ≠ ""
      · rw [if_pos hmoved, if_neg hg.1, if_pos ⟨trivial, l, rfl, hmoved⟩]
      · rw [if_neg hmoved, if_pos rfl, if_neg]
        rintro ⟨-, l', hl', hmoved'⟩
        cases hl'
        exact hmoved hmoved'

theorem filter_expireRows (hne : u ≠ v) {p : UserSubscription → Bool}
    (hp : ∀ x, p x = true → x.userId = u) (subs : List UserSubscription) :
    (expireRows now v subs).filter p = subs.filter p := by
  induction subs with
  | nil => rfl
  | cons x rest ih =>
    rw [expireRows_eq, List.map_cons, List.filter_cons, List.filter_cons, ← expireRows_eq, ih]
    by_cases hxv : x.userId = v
    · have hout : ∀ y : UserSubscription, y.userId = v → p y = false := by
        intro y hy
        rw [← Bool.not_eq_true]
        exact fun hpy => hne ((hp y hpy).symm.trans hy)
      rw [hout _ ((expireRow_same now v x).2.1.trans hxv), hout x hxv]
      rfl
    · rw [expireRow_other hxv]

theorem lastExpired_expireRows (hne : u ≠ v) (subs : List UserSubscription) :
    lastExpired u (expireRows now v subs) = lastExpired u subs := by
  unfold lastExpired
  rw [filter_expireRows hne]
  intro x hx
  simp only [Bool.and_eq_true, beq_iff_eq] at hx
  exact hx.1.1

theorem anyActiveUpgraded_expireRows (hne : u ≠ v) (subs : List UserSubscription) :
    anyActiveUpgraded now u (expireRows now v subs) = anyActiveUpgraded now u subs := by
  have hany : ∀ (p : UserSubscription → Bool) (l : List UserSubscription),
      l.any p = (l.filter p).any p := by
    intro p l
    rw [List.any_filter]
    simp only [Bool.and_self]
  unfold anyActiveUpgraded
  rw [hany, filter_expireRows hne, ← hany]
  intro x hx
  simp only [Bool.and_eq_true, beq_iff_eq] at hx
  exact hx.1.1.1

theorem expireRows_comm (now : Int) (hne : u ≠ v) (subs : List UserSubscription) :
    expireRows now u (expireRows now v subs) = expireRows now v (expireRows now u subs) := by
  simp only [expireRows_eq, List.map_map]
  congr 1
  funext x
  simp only [Function.comp_apply]
  by_cases hxu : x.userId = u
  · have hxv : x.userId ≠ v := fun h => hne (hxu.symm.trans h)
    have hxv' : (expireRow now u x).userId ≠ v := by rwa [(expireRow_same now u x).2.1]
    rw [expireRow_other hxv, expireRow_other hxv']
  · have hxu' : (expireRow now v x).userId ≠ u := by rwa [(expireRow_same now v x).2.1]
    rw [expireRow_other hxu, expireRow_other hxu']

section Expiry

variable {now : Int} {u : Nat} {g₀ : String} {s : SubStore}

theorem GroupInv.expired_rows (h : GroupInv u g₀ s) (now : Int) (v : Nat) :
    (((expireUser now s v).subs).map (·.id)).Nodup ∧
      (∀ x ∈ (expireUser now s v).subs, x.id < (expireUser now s v).nextId) ∧
      (∀ x ∈ (expireUser now s v).subs, x.userId = u → GroupRow g₀ x) := by
  obtain ⟨hsubs, hnext⟩ := expireUser_rows now s v
  rw [hsubs, hnext]
  refine ⟨?_, ?_, expireRows_groupRow now v h.rows⟩
  · have hids : (expireRows now v s.subs).map (·.id) = s.subs.map (·.id) := by
      rw [expireRows_eq, List.map_map]
      exact List.map_congr_left (fun x _ => (expireRow_same now v x).1)
    rw [hids]
    exact h.ids
  · intro x hx
    obtain ⟨y, hy, rfl⟩ := List.mem_map.mp hx
    exact lt_of_eq_of_lt (expireRow_same now v y).1 (h.fresh y hy)

theorem GroupInv.expire_other (h : GroupInv u g₀ s) (hfits : ExpiryFits now u s) (hne : u ≠ v) :
    GroupInv u g₀ (expireUser now s v) ∧ ExpiryFits now u (expireUser now s v) := by
  obtain ⟨hids, hfresh, hrows⟩ := h.expired_rows now v
  have hsubs := (expireUser_rows now s v).1
  have hgroup := expireUser_groups_ne now s hne
  have hkeep : ∀ x : UserSubscription, x.userId = u →
      (x ∈ (expireUser now s v).subs ↔ x ∈ s.subs) := by
    intro x hxu
    rw [hsubs]
    constructor
    · intro hx
      obtain ⟨y, hy, rfl⟩ := List.mem_map.mp hx
      have hyu : y.userId ≠ v := by
        have hsame := (expireRow_same now v y).2.1
        exact fun hyv => hne (hxu.symm.trans (hsame.trans hyv))
      have hrow : expireRow now v y = y := expireRow_other hyu
      simp only [expireRow] at hrow
      rw [hrow]
      exact hy
    · intro hx
      exact List.mem_map.mpr ⟨x, hx, expireRow_other (fun hxv => hne (hxu.symm.trans hxv))⟩
  refine ⟨⟨hids, hfresh, hrows, by rw [hgroup]; exact h.named, ?_⟩, ?_⟩
  · rcases h.home with hhome | ⟨m, hm, hmu, hact, hup, hprev⟩
    · exact Or.inl (hgroup.trans hhome)
    · exact Or.inr ⟨m, (hkeep m hmu).mpr hm, hmu, hact, hup.trans hgroup.symm, hprev⟩
  · rintro ⟨x, hx, ⟨hxu, hact, hup, hprev⟩, hexp⟩
    rw [hsubs, expireRows_comm now hne, anyActiveUpgraded_expireRows hne,
      lastExpired_expireRows hne, hgroup]
    exact hfits ⟨x, (hkeep x hxu).mp hx, ⟨hxu, hact, hup.trans hgroup, hprev⟩, hexp⟩

theorem GroupInv.expire_self (h : GroupInv u g₀ s) (hg : GroupName g₀)
    (hfits : ExpiryFits now u s) :
    GroupInv u g₀ (expireUser now s u) ∧ ExpiryFits now u (expireUser now s u) := by
  obtain ⟨hids, hfresh, hrows⟩ := h.expired_rows now u
  have hsubs := (expireUser_rows now s u).1
  have hgroup := expireUser_group now hg h.rows h.named
  have hnamed : (expireUser now s u).groups u ≠ "" := by
    rw [hgroup]
    split
    · exact hg.1
    · exact h.named
  refine ⟨⟨hids, hfresh, hrows, hnamed, ?_⟩, ?_⟩
  · split at hgroup
    · exact Or.inl hgroup
    · rename_i hstay
      rcases h.home with hhome | ⟨m, hm, hmu, hact, hup, hprev⟩
      · exact Or.inl (hgroup.trans hhome)
      · rcases expireRow_cases now u m with hrow | ⟨-, hexp, -⟩
        · refine Or.inr ⟨m, ?_, hmu, hact, hup.trans hgroup.symm, hprev⟩
          rw [hsubs]
          exact List.mem_map.mpr ⟨m, hm, hrow⟩
        · -- whoever moved the user has expired: then the last to end sends them back
          obtain ⟨hnone, l, hl, hlup, hlprev⟩ := hfits ⟨m, hm, ⟨hmu, hact, hup, hprev⟩, hexp⟩
          exact absurd ⟨hnone, l, hl, hlup.symm, hlprev⟩ hstay
  · -- nothing is due any more
    rintro ⟨x, hx, ⟨hxu, hact, -, -⟩, hexp⟩
    rw [hsubs] at hx
    obtain ⟨y, hy, hyx⟩ := List.mem_map.mp hx
    have hyx : expireRow now u y = x := hyx
    rcases expireRow_cases now u y with hrow | ⟨-, -, hrow⟩
    · rw [hrow] at hyx
      subst hyx
      unfold expireRow at hrow
      rw [if_pos (by simp [hxu, hexp])] at hrow
      rw [← hrow] at hact
      cases hact
    · rw [hrow] at hyx
      rw [← hyx] at hact
      cases hact

theorem GroupInv.expireAll (hg : GroupName g₀) (users : List Nat) (h : GroupInv u g₀ s)
    (hfits : ExpiryFits now u s) : GroupInv u g₀ (users.foldl (expireUser now) s) := by
  induction users generalizing s with
  | nil => exact h
  | cons v rest ih =>
    by_cases hne : u = v
    · subst hne
      obtain ⟨h', hfits'⟩ := h.expire_self hg hfits
      exact ih h' hfits'
    · obtain ⟨h', hfits'⟩ := h.expire_other hfits hne
      exact ih h' hfits'

end Expiry

/-! ## Every run -/

theorem GroupInv.step {op : Int × GroupOp} (hg : GroupName g₀) (h : GroupInv u g₀ s)
    (hok : GroupFits u g₀ s op) : GroupInv u g₀ (s.live cal op) := by
  obtain ⟨now, op⟩ := op
  cases op with
  | purchase userId plan => exact h.purchase hok
  | expireDue limit visited => exact h.expireAll hg _ hok
  | invalidate id => exact h.invalidate hg hok
  | delete id => exact h.delete hg hok

/-- **Group upgrades are undone**, in every run from empty tables in which the
user is moved only from the original group and whatever moved them ends last. -/
theorem group_upgrade_undone (cal : Calendar) (u : Nat) (g₀ : String) (s : SubStore)
    (ops : List (Int × GroupOp)) (hg : GroupName g₀) (hs : s.subs = []) (hu : s.groups u = g₀)
    (h : Sched.Meets (SubStore.live cal) (GroupFits u g₀) s ops) :
    UpgradeUndone u g₀ (ops.foldl (SubStore.live cal) s) := by
  have hstart : GroupInv u g₀ s := by
    refine ⟨by rw [hs]; exact List.nodup_nil, ?_, ?_, by rw [hu]; exact hg.1, Or.inl hu⟩
    · rw [hs]; exact fun x hx => absurd hx List.not_mem_nil
    · rw [hs]; exact fun x hx => absurd hx List.not_mem_nil
  exact (Sched.Meets.invariant (fun s op hs hok => hs.step hg hok) hstart h).undone

/-- Two plans for the same month, one for each group. -/
def upgradePlan (id : Nat) (group : String) : SubscriptionPlan :=
  ⟨id, group, .day, 30, 0, 0, group, "", true, 1000, .never, 0⟩

def noSubscriptions : SubStore := ⟨[], [], fun _ => "default", 1⟩

attribute [local semireducible] trimSpace

/-- A user of `default` buys `vip` and then `svip`; when both have ended, the
first one first, the user is in `vip`. -/
theorem overlap_keeps_group :
    ¬ ∀ ops : List (Int × GroupOp),
      (∀ op ∈ ops, ∀ v plan, op.2 = .purchase v plan → plan.downgradeGroup = "") →
      UpgradeUndone 7 "default" (ops.foldl (SubStore.live flatCalendar) noSubscriptions) := by
  intro h
  have hrun := h [(100, .purchase 7 (upgradePlan 1 "vip")),
    (101, .purchase 7 (upgradePlan 2 "svip")), (102, .invalidate 1), (103, .invalidate 2)] (by
      intro op hop v plan hp
      simp only [List.mem_cons, List.not_mem_nil, or_false] at hop
      rcases hop with rfl | rfl | rfl | rfl <;> cases hp <;> rfl)
  revert hrun
  decide

/-- The second subscription for `vip` ends while the first one, which moved the
user there, is active; the first one brings the user back. -/
theorem single_upgrade_undone :
    UpgradeUndone 7 "default" ([(100, .purchase 7 (upgradePlan 1 "vip")),
      (101, .purchase 7 (upgradePlan 1 "vip")), (102, .invalidate 2),
      (2592101, .expireDue 0 [7])].foldl (SubStore.live flatCalendar) noSubscriptions) :=
  group_upgrade_undone flatCalendar 7 "default" noSubscriptions _
    ⟨by decide, by decide⟩ rfl rfl (by decide)

end YouBox
