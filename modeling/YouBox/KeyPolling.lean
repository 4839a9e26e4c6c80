import YouBox.ChannelRace

/-!
# Whose polling index is it

With the memory cache on, `GetNextEnabledKey` reads the polling index of the object
in the cache and moves the one of its receiver. Callers that have loaded the channel
themselves, for a specific channel or a polled task, so get the key that the cached
object points at and leave it pointing there. Calls on one channel exclude each
other, and a call is one step here.

`turn` is the list of enabled keys from a place on and round; a call returns its
head, and the next turn is the same list rotated by one (`turn_next`). So the
results of calls that move the index they read are the enabled keys one after
another (`selectAll_rounds`), and a call that moves another is followed by one with
the same result (`selectAll_repeats`). `polling_fair_iff` puts the two together.
-/

namespace YouBox.ChannelDB

/-! ## Turns -/

/-- The chosen numbers below `n`, from `s` on and round. -/
def turn (p : Nat → Bool) (n s : Nat) : List Nat := ((List.range n).rotate s).filter p

section Turns

variable {p : Nat → Bool} {n s e c : Nat}

theorem turn_zero : turn p n 0 = (List.range n).filter p := by rw [turn, List.rotate_zero]

theorem turn_mod : turn p n (s % n) = turn p n s := by
  have h := List.rotate_mod (List.range n) s
  rw [List.length_range] at h
  rw [turn, turn, h]

theorem turn_rotate (hs : s ≤ n) : ∃ c, turn p n s = (turn p n 0).rotate c := by
  refine ⟨(((List.range n).take s).filter p).length, ?_⟩
  have hlen : s ≤ (List.range n).length := hs.trans_eq List.length_range.symm
  have hwhole := List.rotate_append_length_eq (((List.range n).take s).filter p)
    (((List.range n).drop s).filter p)
  rw [← List.filter_append, List.take_append_drop] at hwhole
  rw [turn_zero, turn, List.rotate_eq_drop_append_take hlen, List.filter_append, hwhole]

theorem turn_nodup : (turn p n s).Nodup :=
  (List.nodup_rotate.mpr List.nodup_range).filter p

theorem turn_succ (he : e < n) (hp : p e = true) :
    (turn p n e).head? = some e ∧ turn p n (e + 1) = (turn p n e).rotate 1 := by
  obtain ⟨x, rest, hrest⟩ : ∃ x rest, (List.range n).rotate e = x :: rest := by
    refine List.exists_cons_of_ne_nil fun hnil => ?_
    rw [List.rotate_eq_nil_iff, List.range_eq_nil] at hnil
    omega
  have hx : ((List.range n).rotate e).head? = some e := by
    rw [List.head?_rotate (he.trans_eq List.length_range.symm), List.getElem?_range he]
  obtain rfl : x = e := by simpa [hrest] using hx
  have hnext : (List.range n).rotate (x + 1) = rest ++ [x] := by
    rw [← List.rotate_rotate, hrest, List.rotate_cons_succ, List.rotate_zero]
  have hturn : turn p n x = x :: rest.filter p := by rw [turn, hrest, List.filter_cons_of_pos hp]
  refine ⟨by rw [hturn]; rfl, ?_⟩
  rw [hturn, turn, hnext, List.rotate_cons_succ, List.rotate_zero, List.filter_append,
    List.filter_cons_of_pos hp, List.filter_nil]

theorem head?_rotate_mod {E : List Nat} (hne : E ≠ []) :
    (E.rotate c).head? = E[c % E.length]? := by
  rw [← List.rotate_mod, List.head?_rotate (Nat.mod_lt _ (List.length_pos_of_ne_nil hne))]

/-- Whatever place a turn is taken from, the next one is the same list rotated by one. -/
theorem turn_next (hturn : turn p n s = (turn p n 0).rotate c)
    (hhead : (turn p n s).head? = some e) : turn p n (e + 1) = (turn p n 0).rotate (c + 1) := by
  have hmem := List.mem_of_mem_head? hhead
  have hne : turn p n 0 ≠ [] := by
    rintro hnil
    rw [hturn, hnil, List.rotate_nil] at hmem
    cases hmem
  have hsound : e < n ∧ p e = true := by simpa [turn, List.mem_filter] using hmem
  obtain ⟨hself, hsucc⟩ := turn_succ hsound.1 hsound.2
  obtain ⟨d, hd⟩ := @turn_rotate p n e hsound.1.le
  have hlt : ∀ i, i % (turn p n 0).length < (turn p n 0).length := fun i =>
    Nat.mod_lt _ (List.length_pos_of_ne_nil hne)
  have hplace : d % (turn p n 0).length = c % (turn p n 0).length := by
    rw [hd, head?_rotate_mod hne] at hself
    rw [hturn, head?_rotate_mod hne] at hhead
    have hsame := hself.trans hhead.symm
    rw [List.getElem?_eq_getElem (hlt d), List.getElem?_eq_getElem (hlt c)] at hsame
    exact (turn_nodup.getElem_inj_iff).mp (Option.some.inj hsame)
  have hrotate : (turn p n 0).rotate d = (turn p n 0).rotate c := by
    rw [← List.rotate_mod, hplace, List.rotate_mod]
  rw [hsucc, hd, hrotate, List.rotate_rotate]

end Turns

/-! ## The selection -/

/-- The loaded objects of one channel, and the one that the cache holds. -/
structure ChannelPool where
  objects : Nat → Channel
  cached : Option Nat

namespace ChannelPool

def setPollingIndex (p : ChannelPool) (o : Nat) (index : Int) : ChannelPool :=
  { p with objects := fun o' =>
      if o' = o then (p.objects o').setPollingIndex index else p.objects o' }

/-- `CacheGetChannelInfo` with the memory cache on. -/
def cacheGetChannelInfo (p : ChannelPool) (id : Int) : Except String ChannelInfo :=
  match p.cached with
  | some o => .ok (p.objects o).channelInfo
  | none => .error ("渠道# " ++ toString id ++ "，已不存在")

end ChannelPool

/-- A selection on the object `self`; `draw` is the random number. -/
def getNextEnabledKey (raw : RawArray) (self draw : Nat) (p : ChannelPool) :
    Except String (String × Nat) × ChannelPool :=
  let ch := p.objects self
  if !ch.channelInfo.isMultiKey then (.ok (ch.key, 0), p)
  else if ch.getKeys raw = [] then (.error "no keys available", p)
  else
    let enabled := ch.enabledIdx raw
    if enabled = [] then (.error "no enabled keys", p)
    else
      let first := enabled.getD 0 0
      match ch.channelInfo.multiKeyMode with
      | .random =>
        let i := enabled.getD (draw % enabled.length) 0
        (.ok (ch.keyAt raw i, i), p)
      | .polling =>
        match p.cacheGetChannelInfo ch.id with
        | .error e => (.error e, p)
        | .ok info =>
          match ch.pollIdx raw info.multiKeyPollingIndex with
          | some i =>
            (.ok (ch.keyAt raw i, i),
              p.setPollingIndex self ((i + 1) % (ch.getKeys raw).length))
          | none => (.ok (ch.keyAt raw first, first), p)
      | .other => (.ok (ch.keyAt raw first, first), p)

/-- The receiver of a call and its random number. -/
structure KeyCall where
  self : Nat
  draw : Nat
deriving DecidableEq

/-- The results of calls one after another. -/
def selectAll (raw : RawArray) : List KeyCall → ChannelPool → List (Except String (String × Nat))
  | [], _ => []
  | call :: calls, p =>
    let r := getNextEnabledKey raw call.self call.draw p
    r.1 :: selectAll raw calls r.2

/-! ## What a selection promises -/

/-- An object of the channel: what selections read, but for the polling index. -/
structure SameKeys (ch o : Channel) : Prop where
  key : o.key = ch.key
  isMultiKey : o.channelInfo.isMultiKey = ch.channelInfo.isMultiKey
  mode : o.channelInfo.multiKeyMode = ch.channelInfo.multiKeyMode
  statuses : o.channelInfo.multiKeyStatusList = ch.channelInfo.multiKeyStatusList

def Sound (raw : RawArray) (ch : Channel) : Except String (String × Nat) → Prop
  | .ok (key, i) => (ch.getKeys raw)[i]? = some key ∧ ch.channelInfo.keyEnabled i = true
  | .error _ => ch.enabledIdx raw = []

/-- The enabled keys as results. -/
def eachEnabled (raw : RawArray) (ch : Channel) : List (Except String (String × Nat)) :=
  (ch.enabledIdx raw).map fun i => .ok (ch.keyAt raw i, i)

/-- As many consecutive results as there are enabled keys have each of them once. -/
def Fair (raw : RawArray) (ch : Channel) (results : List (Except String (String × Nat))) : Prop :=
  ∀ i, i + (ch.enabledIdx raw).length ≤ results.length →
    ((results.drop i).take (ch.enabledIdx raw).length).Perm (eachEnabled raw ch)

/-- The channel is in the cache, and every call but the last that could matter is made
on the object there. -/
def MovesWhatItReads (raw : RawArray) (ch : Channel) (p : ChannelPool) (calls : List KeyCall) :
    Prop :=
  ∃ a, p.cached = some a ∧ ((ch.enabledIdx raw).length ≤ 1 ∨
    calls.length < (ch.enabledIdx raw).length ∨ ∀ call ∈ calls.dropLast, call.self = a)

section Calls

variable {raw : RawArray} {ch : Channel} {p : ChannelPool} {a c : Nat}
  {r : Except String (String × Nat)}

namespace SameKeys

variable {o : Channel} (h : SameKeys ch o)
include h

theorem getKeys : o.getKeys raw = ch.getKeys raw := by rw [Channel.getKeys, Channel.getKeys, h.key]

theorem keyEnabled : o.channelInfo.keyEnabled = ch.channelInfo.keyEnabled := by
  funext i
  rw [ChannelInfo.keyEnabled, ChannelInfo.keyEnabled, h.statuses]

theorem keyAt : o.keyAt raw = ch.keyAt raw := by
  funext i
  rw [Channel.keyAt, Channel.keyAt, h.getKeys]

theorem enabledIdx : o.enabledIdx raw = ch.enabledIdx raw := by
  rw [Channel.enabledIdx, Channel.enabledIdx, h.getKeys, h.keyEnabled]

theorem pollIdx (ix : Int) : o.pollIdx raw ix = ch.pollIdx raw ix := by
  rw [Channel.pollIdx, Channel.pollIdx, h.getKeys, h.keyEnabled]

end SameKeys

theorem sound_enabled {i : Nat} (hi : i ∈ ch.enabledIdx raw) :
    Sound raw ch (.ok (ch.keyAt raw i, i)) := by
  obtain ⟨hlt, henabled⟩ := List.mem_filter.mp hi
  have hkey : i < (ch.getKeys raw).length := List.mem_range.mp hlt
  refine ⟨?_, henabled⟩
  rw [Channel.keyAt, List.getD_eq_getElem?_getD, List.getElem?_eq_getElem hkey, Option.getD_some]

theorem sound_of_mem (hr : r ∈ eachEnabled raw ch) : Sound raw ch r := by
  obtain ⟨i, hi, rfl⟩ := List.mem_map.mp hr
  exact sound_enabled hi

theorem length_eachEnabled : (eachEnabled raw ch).length = (ch.enabledIdx raw).length :=
  List.length_map _

theorem nodup_eachEnabled : (eachEnabled raw ch).Nodup := by
  refine (List.nodup_range.filter _).map fun i j hij => ?_
  exact (Prod.mk.inj (Except.ok.inj hij)).2

/-! ## One call -/

/-- Where the scan starts. -/
def startAt (n : Nat) (pollingIndex : Int) : Nat :=
  if pollingIndex < 0 || n ≤ pollingIndex then 0 else pollingIndex.toNat

theorem startAt_le (n : Nat) (ix : Int) : startAt n ix ≤ n := by
  unfold startAt
  split
  · exact Nat.zero_le n
  · rename_i hin
    simp only [Bool.or_eq_true, decide_eq_true_eq, not_or, not_lt, not_le] at hin
    omega

theorem startAt_natCast {m n : Nat} (h : m < n) : startAt n (m : Int) = m := by
  unfold startAt
  rw [if_neg (by simp; omega), Int.toNat_natCast]

theorem pollIdx_eq (ch : Channel) (ix : Int) :
    ch.pollIdx raw ix
      = (turn ch.channelInfo.keyEnabled (ch.getKeys raw).length
          (startAt (ch.getKeys raw).length ix)).head? := by
  rw [turn, List.head?_filter]
  have hround : ∀ n s, (List.range n).map (fun i => (s + i) % n) = (List.range n).rotate s := by
    intro n s
    refine List.ext_getElem (by simp) fun i _ _ => ?_
    simp [List.getElem_rotate, Nat.add_comm]
  exact congrArg _ (hround _ _)

/-- The objects are of the channel, the cache holds `a`, and its index leaves the enabled
keys rotated by `c`. -/
structure Polls (raw : RawArray) (ch : Channel) (a : Nat) (p : ChannelPool) (c : Nat) : Prop where
  alike : ∀ o, SameKeys ch (p.objects o)
  cached : p.cached = some a
  place : turn ch.channelInfo.keyEnabled (ch.getKeys raw).length
    (startAt (ch.getKeys raw).length (p.objects a).channelInfo.multiKeyPollingIndex)
      = (ch.enabledIdx raw).rotate c

theorem polls_start (halike : ∀ o, SameKeys ch (p.objects o)) (hcached : p.cached = some a) :
    ∃ c, Polls raw ch a p c := by
  obtain ⟨c, hc⟩ := @turn_rotate ch.channelInfo.keyEnabled _ _ (startAt_le
    (ch.getKeys raw).length (p.objects a).channelInfo.multiKeyPollingIndex)
  rw [turn_zero] at hc
  exact ⟨c, halike, hcached, hc⟩

theorem setPollingIndex_alike (halike : ∀ o, SameKeys ch (p.objects o)) (o : Nat) (ix : Int) :
    ∀ o', SameKeys ch ((p.setPollingIndex o ix).objects o') := by
  intro o'
  obtain ⟨hkey, hmulti, hmode, hstatuses⟩ := halike o'
  unfold ChannelPool.setPollingIndex
  dsimp only
  split
  · exact ⟨hkey, hmulti, hmode, hstatuses⟩
  · exact ⟨hkey, hmulti, hmode, hstatuses⟩

section Polling

variable (hmulti : ch.channelInfo.isMultiKey = true)
  (hmode : ch.channelInfo.multiKeyMode = .polling) (hne : ch.enabledIdx raw ≠ [])
include hmulti hmode hne

/-- A call returns the key whose turn it is, and moves on when its receiver is the
object in the cache. -/
theorem polls_call (h : Polls raw ch a p c) (self draw : Nat) :
    (eachEnabled raw ch)[c % (ch.enabledIdx raw).length]?
        = some (getNextEnabledKey raw self draw p).1 ∧
      Polls raw ch a (getNextEnabledKey raw self draw p).2 (if self = a then c + 1 else c) := by
  have hself := h.alike self
  have hlt : c % (ch.enabledIdx raw).length < (ch.enabledIdx raw).length :=
    Nat.mod_lt _ (List.length_pos_of_ne_nil hne)
  obtain ⟨i, hi⟩ : ∃ i, (ch.enabledIdx raw)[c % (ch.enabledIdx raw).length]? = some i :=
    ⟨_, List.getElem?_eq_getElem hlt⟩
  have hhead : ((ch.enabledIdx raw).rotate c).head? = some i := by rw [head?_rotate_mod hne, hi]
  have hkeys : ch.getKeys raw ≠ [] := by
    intro hnil
    exact hne (by rw [Channel.enabledIdx, hnil]; rfl)
  have hpoll : (p.objects self).pollIdx raw (p.objects a).channelInfo.multiKeyPollingIndex
      = some i := by
    rw [hself.pollIdx, pollIdx_eq, h.place, hhead]
  have hcall : getNextEnabledKey raw self draw p = (.ok (ch.keyAt raw i, i),
      p.setPollingIndex self (((i + 1) % (ch.getKeys raw).length : Nat) : Int)) := by
    simp [getNextEnabledKey, hself.isMultiKey, hmulti, hself.getKeys, hkeys, hself.enabledIdx,
      hne, hself.mode, hmode, ChannelPool.cacheGetChannelInfo, h.cached, hpoll, hself.keyAt]
  rw [hcall]
  refine ⟨by rw [eachEnabled, List.getElem?_map, hi]; rfl,
    setPollingIndex_alike h.alike _ _, h.cached, ?_⟩
  by_cases hmoves : self = a
  · subst hmoves
    have hmod : (i + 1) % (ch.getKeys raw).length < (ch.getKeys raw).length :=
      Nat.mod_lt _ (List.length_pos_of_ne_nil hkeys)
    have hplace := h.place
    rw [Channel.enabledIdx, ← turn_zero] at hplace hhead ⊢
    simp only [ChannelPool.setPollingIndex, Channel.setPollingIndex, if_true]
    rw [startAt_natCast hmod, turn_mod]
    exact turn_next hplace (hplace ▸ hhead)
  · rw [if_neg hmoves, ← h.place]
    simp only [ChannelPool.setPollingIndex, if_neg (Ne.symm hmoves)]

end Polling

theorem call_sound (halike : ∀ o, SameKeys ch (p.objects o))
    (hmulti : ch.channelInfo.isMultiKey = true)
    (hcached : ch.channelInfo.multiKeyMode = .polling → ch.enabledIdx raw ≠ [] →
      p.cached ≠ none) (self draw : Nat) :
    Sound raw ch (getNextEnabledKey raw self draw p).1 ∧
      (∀ o, SameKeys ch ((getNextEnabledKey raw self draw p).2.objects o)) ∧
      (getNextEnabledKey raw self draw p).2.cached = p.cached := by
  have hself := halike self
  by_cases hne : ch.enabledIdx raw = []
  · unfold getNextEnabledKey
    dsimp only
    rw [hself.isMultiKey, hmulti, hself.enabledIdx, if_neg (by simp), if_pos hne]
    split
    · exact ⟨hne, halike, rfl⟩
    · exact ⟨hne, halike, rfl⟩
  have hkeys : ch.getKeys raw ≠ [] := by
    intro hnil
    exact hne (by rw [Channel.enabledIdx, hnil]; rfl)
  have hget : ∀ i < (ch.enabledIdx raw).length,
      Sound raw ch (.ok (ch.keyAt raw ((ch.enabledIdx raw).getD i 0),
        (ch.enabledIdx raw).getD i 0)) := by
    intro i hi
    rw [List.getD_eq_getElem?_getD, List.getElem?_eq_getElem hi]
    exact sound_enabled (List.getElem_mem hi)
  have hpos : 0 < (ch.enabledIdx raw).length := List.length_pos_of_ne_nil hne
  cases hmode : ch.channelInfo.multiKeyMode with
  | random =>
    have hcall : getNextEnabledKey raw self draw p
        = (.ok (ch.keyAt raw ((ch.enabledIdx raw).getD (draw % (ch.enabledIdx raw).length) 0),
            (ch.enabledIdx raw).getD (draw % (ch.enabledIdx raw).length) 0), p) := by
      simp [getNextEnabledKey, hself.isMultiKey, hmulti, hself.getKeys, hkeys,
        hself.enabledIdx, hne, hself.mode, hmode, hself.keyAt]
    rw [hcall]
    exact ⟨hget _ (Nat.mod_lt _ hpos), halike, rfl⟩
  | other =>
    have hcall : getNextEnabledKey raw self draw p
        = (.ok (ch.keyAt raw ((ch.enabledIdx raw).getD 0 0), (ch.enabledIdx raw).getD 0 0),
            p) := by
      simp [getNextEnabledKey, hself.isMultiKey, hmulti, hself.getKeys, hkeys,
        hself.enabledIdx, hne, hself.mode, hmode, hself.keyAt]
    rw [hcall]
    exact ⟨hget 0 hpos, halike, rfl⟩
  | polling =>
    obtain ⟨a, ha⟩ := Option.ne_none_iff_exists'.mp (hcached hmode hne)
    obtain ⟨c, hc⟩ := polls_start halike ha
    obtain ⟨hresult, hnext⟩ := polls_call hmulti hmode hne hc self draw
    exact ⟨sound_of_mem (List.mem_of_getElem? hresult), hnext.alike,
      hnext.cached.trans ha.symm⟩

/-! ## Calls one after another -/

theorem selectAll_sound (halike : ∀ o, SameKeys ch (p.objects o))
    (hmulti : ch.channelInfo.isMultiKey = true)
    (hcached : ch.channelInfo.multiKeyMode = .polling → ch.enabledIdx raw ≠ [] →
      p.cached ≠ none) (calls : List KeyCall) : ∀ r ∈ selectAll raw calls p, Sound raw ch r := by
  induction calls generalizing p with
  | nil => exact fun _ hr => nomatch hr
  | cons call calls ih =>
    obtain ⟨hsound, hnext, hkept⟩ := call_sound halike hmulti hcached call.self call.draw
    rw [selectAll]
    rintro r (_ | ⟨_, hr⟩)
    · exact hsound
    · exact ih hnext (hkept ▸ hcached) r hr

theorem length_selectAll (calls : List KeyCall) (p : ChannelPool) :
    (selectAll raw calls p).length = calls.length := by
  induction calls generalizing p with
  | nil => rfl
  | cons call calls ih => rw [selectAll, List.length_cons, List.length_cons, ih]

section Polling

variable (hmulti : ch.channelInfo.isMultiKey = true)
  (hmode : ch.channelInfo.multiKeyMode = .polling) (hne : ch.enabledIdx raw ≠ [])
include hmulti hmode hne

theorem selectAll_rounds (h : Polls raw ch a p c) (calls : List KeyCall)
    (hmoves : (ch.enabledIdx raw).length ≤ 1 ∨ ∀ call ∈ calls.dropLast, call.self = a) (i : Nat)
    (hi : i < calls.length) :
    (selectAll raw calls p)[i]?
      = (eachEnabled raw ch)[(c + i) % (ch.enabledIdx raw).length]? := by
  induction calls generalizing p c i with
  | nil => exact absurd hi (Nat.not_lt_zero i)
  | cons call calls ih =>
    obtain ⟨hresult, hnext⟩ := polls_call hmulti hmode hne h call.self call.draw
    rw [selectAll]
    cases i with
    | zero => exact hresult.symm
    | succ i =>
      rw [List.length_cons, Nat.succ_lt_succ_iff] at hi
      have hlater : (ch.enabledIdx raw).length ≤ 1 ∨ ∀ call ∈ calls.dropLast, call.self = a :=
        hmoves.imp_right fun hall x hx => hall x (by
          rw [List.dropLast_cons_of_ne_nil (List.ne_nil_of_length_pos (by omega))]
          exact List.mem_cons_of_mem call hx)
      rw [List.getElem?_cons_succ, ih hnext hlater i hi]
      congr 1
      rcases hmoves with hone | hall
      · have hpos := List.length_pos_of_ne_nil hne
        rw [show (ch.enabledIdx raw).length = 1 by omega, Nat.mod_one, Nat.mod_one]
      · have hself : call.self = a := hall call (by
          rw [List.dropLast_cons_of_ne_nil (List.ne_nil_of_length_pos (by omega))]
          exact List.mem_cons_self)
        rw [if_pos hself, Nat.add_right_comm, Nat.add_assoc]

theorem selectAll_repeats (h : Polls raw ch a p c) {calls : List KeyCall} {call : KeyCall}
    (hcall : call ∈ calls.dropLast) (hself : call.self ≠ a) :
    ∃ i, i + 1 < calls.length ∧
      (selectAll raw calls p)[i]? = (selectAll raw calls p)[i + 1]? := by
  induction calls generalizing p c with
  | nil => cases hcall
  | cons first calls ih =>
    obtain ⟨second, later, rfl⟩ : ∃ second later, calls = second :: later := by
      refine List.exists_cons_of_ne_nil ?_
      rintro rfl
      cases hcall
    rw [List.dropLast_cons_cons, List.mem_cons] at hcall
    obtain ⟨hresult, hnext⟩ := polls_call hmulti hmode hne h first.self first.draw
    rcases hcall with rfl | hlater
    · rw [if_neg hself] at hnext
      have hagain := (polls_call hmulti hmode hne hnext second.self second.draw).1
      exact ⟨0, by simp, hresult.symm.trans hagain⟩
    · obtain ⟨i, hi, hsame⟩ := ih hnext hlater
      exact ⟨i + 1, Nat.succ_lt_succ hi, hsame⟩

theorem fair_of_moves (h : Polls raw ch a p c) (calls : List KeyCall)
    (hmoves : (ch.enabledIdx raw).length ≤ 1 ∨ ∀ call ∈ calls.dropLast, call.self = a) :
    Fair raw ch (selectAll raw calls p) := by
  intro i hi
  rw [length_selectAll] at hi
  suffices hwindow : ((selectAll raw calls p).drop i).take (ch.enabledIdx raw).length
      = (eachEnabled raw ch).rotate (c + i) by
    rw [hwindow]
    exact List.rotate_perm _ _
  refine List.ext_getElem? fun j => ?_
  by_cases hj : j < (ch.enabledIdx raw).length
  · rw [List.getElem?_take_of_lt hj, List.getElem?_drop,
      selectAll_rounds hmulti hmode hne h calls hmoves (i + j) (by omega),
      List.getElem?_rotate (hj.trans_eq length_eachEnabled.symm), length_eachEnabled,
      Nat.add_comm j, Nat.add_assoc]
  · rw [List.getElem?_eq_none (by simp; omega),
      List.getElem?_eq_none (by rw [List.length_rotate, length_eachEnabled]; omega)]

end Polling

theorem not_fair_of_repeat {results : List (Except String (String × Nat))} {i : Nat}
    (hmany : 2 ≤ (ch.enabledIdx raw).length)
    (hlen : (ch.enabledIdx raw).length ≤ results.length) (hi : i + 1 < results.length)
    (hsame : results[i]? = results[i + 1]?) : ¬ Fair raw ch results := by
  intro hfair
  -- a window that has both, as far to the left as its end allows
  obtain ⟨j, hj, hji, hij⟩ : ∃ j, j + (ch.enabledIdx raw).length ≤ results.length ∧ j ≤ i ∧
      i + 1 < j + (ch.enabledIdx raw).length :=
    ⟨min i (results.length - (ch.enabledIdx raw).length), by omega, by omega, by omega⟩
  have hnodup := (hfair j hj).nodup_iff.mpr nodup_eachEnabled
  have hget : ∀ d, d < (ch.enabledIdx raw).length →
      ((results.drop j).take (ch.enabledIdx raw).length)[d]? = results[j + d]? := fun d hd => by
    rw [List.getElem?_take_of_lt hd, List.getElem?_drop]
  have heq := hget (i - j) (by omega)
  have heq' := hget (i - j + 1) (by omega)
  rw [show j + (i - j) = i by omega] at heq
  rw [show j + (i - j + 1) = i + 1 by omega] at heq'
  have := (List.getElem?_inj (by simp; omega) hnodup).mp (heq.trans (hsame.trans heq'.symm))
  omega

/-- The results are sound, and fair in polling mode, exactly when the calls that could
matter move the index of the object in the cache. -/
theorem polling_fair_iff (hmulti : ch.channelInfo.isMultiKey = true)
    (halike : ∀ o, SameKeys ch (p.objects o)) (calls : List KeyCall) :
    ((∀ r ∈ selectAll raw calls p, Sound raw ch r) ∧
        (ch.channelInfo.multiKeyMode = .polling → Fair raw ch (selectAll raw calls p))) ↔
      (ch.channelInfo.multiKeyMode = .polling → ch.enabledIdx raw ≠ [] → calls ≠ [] →
        MovesWhatItReads raw ch p calls) := by
  constructor
  · rintro ⟨hsound, hfair⟩ hmode hne hcalls
    obtain ⟨first, later, rfl⟩ := List.exists_cons_of_ne_nil hcalls
    cases hcached : p.cached with
    | none =>
      have hself := halike first.self
      have hkeys : ch.getKeys raw ≠ [] := by
        intro hnil
        exact hne (by rw [Channel.enabledIdx, hnil]; rfl)
      refine absurd (hsound _ List.mem_cons_self) ?_
      simp [getNextEnabledKey, hself.isMultiKey, hmulti, hself.getKeys, hkeys,
        hself.enabledIdx, hne, hself.mode, hmode, ChannelPool.cacheGetChannelInfo, hcached,
        Sound]
    | some a =>
      obtain ⟨c, hc⟩ := polls_start halike hcached
      refine ⟨a, hcached, ?_⟩
      by_contra hnot
      simp only [not_or, not_le, not_lt, not_forall] at hnot
      obtain ⟨hmany, hlen, call, hcall, hself⟩ := hnot
      obtain ⟨i, hi, hsame⟩ := selectAll_repeats hmulti hmode hne hc hcall hself
      rw [← @length_selectAll raw _ p] at hi hlen
      exact not_fair_of_repeat hmany hlen hi hsame (hfair hmode)
  · intro hmoves
    by_cases hcalls : calls = []
    · subst hcalls
      refine ⟨fun _ hr => (nomatch hr), fun _ i hi => ?_⟩
      have hnil : ch.enabledIdx raw = [] := List.length_eq_zero_iff.mp (by
        simp only [selectAll, List.length_nil] at hi
        omega)
      simp [eachEnabled, hnil]
    refine ⟨selectAll_sound halike hmulti (fun hmode hne hnone => ?_) calls, fun hmode => ?_⟩
    · obtain ⟨a, ha, -⟩ := hmoves hmode hne hcalls
      rw [hnone] at ha
      cases ha
    by_cases hne : ch.enabledIdx raw = []
    · intro i _
      simp [eachEnabled, hne]
    obtain ⟨a, ha, hcases⟩ := hmoves hmode hne hcalls
    obtain ⟨c, hc⟩ := polls_start halike ha
    rcases hcases with hone | hshort | hall
    · exact fair_of_moves hmulti hmode hne hc calls (Or.inl hone)
    · intro i hi
      rw [length_selectAll] at hi
      omega
    · exact fair_of_moves hmulti hmode hne hc calls (Or.inr hall)

end Calls

/-! ## Two keys -/

/-- Two objects of a channel of two keys, the first of them in the cache. -/
def loadedTwice : ChannelPool := ⟨fun _ => twoKeys none, some 0⟩

/-- Two selections on the object that is not in the cache return the same key. -/
theorem loaded_object_repeats :
    (∀ o, SameKeys (twoKeys none) (loadedTwice.objects o)) ∧
      selectAll (fun _ => none) [⟨1, 0⟩, ⟨1, 0⟩] loadedTwice
        = [.ok ("sk-a", 0), .ok ("sk-a", 0)] ∧
      ¬ Fair (fun _ => none) (twoKeys none)
        (selectAll (fun _ => none) [⟨1, 0⟩, ⟨1, 0⟩] loadedTwice) := by
  have hresults : selectAll (fun _ => none) [⟨1, 0⟩, ⟨1, 0⟩] loadedTwice
      = [.ok ("sk-a", 0), .ok ("sk-a", 0)] := rfl
  have hkeys : (twoKeys none).enabledIdx (fun _ => none) = [0, 1] := rfl
  refine ⟨fun _ => ⟨rfl, rfl, rfl, rfl⟩, hresults, fun hfair => ?_⟩
  rw [hresults] at hfair
  have hnodup := (hfair 0 (by rw [hkeys]; rfl)).nodup_iff.mpr nodup_eachEnabled
  rw [hkeys] at hnodup
  simp at hnodup

/-- On the object in the cache they are sound and fair. -/
theorem cached_object_fair :
    (∀ r ∈ selectAll (fun _ => none) [⟨0, 0⟩, ⟨0, 0⟩] loadedTwice,
        Sound (fun _ => none) (twoKeys none) r) ∧
      Fair (fun _ => none) (twoKeys none)
        (selectAll (fun _ => none) [⟨0, 0⟩, ⟨0, 0⟩] loadedTwice) := by
  have h := (@polling_fair_iff (fun _ => none) (twoKeys none) loadedTwice rfl
    (fun _ => ⟨rfl, rfl, rfl, rfl⟩) [⟨0, 0⟩, ⟨0, 0⟩]).mpr
    fun _ _ _ => ⟨0, rfl, Or.inr (Or.inr (by simp))⟩
  exact ⟨h.1, h.2 rfl⟩

end YouBox.ChannelDB
