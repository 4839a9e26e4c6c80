import Mathlib

/-!
# Numbered items, written piece by piece

A writer names an item by a key and appends a piece of text to it. The
first piece of an item opens it under the next free number; pieces of
different items may come in any order. In the end every open item is
closed.

`marks` is the stream this makes and `order` the keys by their numbers.
Read at one number, the stream is the life of one item: opened, its
pieces in order, closed with the text they add up to (`at_life`). An
empty piece opens an item but leaves no mark of its own.

An item keeps its number because `order` only grows at the end
(`idxOf_order`); that is the one fact the inductions rest on.
-/

namespace YouBox.Interleave

variable {κ : Type}

inductive Mark (κ : Type) where
  | opened (key : κ)
  | wrote (key : κ) (piece : String)
  | finished (key : κ)
  | closed (key : κ) (text : String)

def Mark.map {ι : Type} (f : κ → ι) : Mark κ → Mark ι
  | .opened key => .opened (f key)
  | .wrote key piece => .wrote (f key) piece
  | .finished key => .finished (f key)
  | .closed key text => .closed (f key) text

/-! ## The keys in order of first occurrence -/

variable [DecidableEq κ]

def note (seen : List κ) (key : κ) : List κ :=
  if key ∈ seen then seen else seen ++ [key]

def order (seen : List κ) : List (κ × String) → List κ
  | [] => seen
  | w :: rest => order (note seen w.1) rest

theorem note_eq_append (seen : List κ) (key : κ) : ∃ more, note seen key = seen ++ more := by
  unfold note
  split
  · exact ⟨[], by simp⟩
  · exact ⟨[key], rfl⟩

variable {seen : List κ} {key k : κ} {ws : List (κ × String)} {keys : List κ}

@[simp] theorem mem_note : k ∈ note seen key ↔ k ∈ seen ∨ k = key := by
  unfold note
  split <;> simp_all

theorem note_nodup (key : κ) (hseen : seen.Nodup) : (note seen key).Nodup := by
  unfold note
  split
  · exact hseen
  · rename_i hnew
    exact List.nodup_append.2 ⟨hseen, List.nodup_singleton key, by
      rintro a ha b hb rfl
      exact hnew (List.mem_singleton.1 hb ▸ ha)⟩

theorem idxOf_note_self (hnew : key ∉ seen) :
    (note seen key).idxOf key = seen.length := by
  rw [note, if_neg hnew, List.idxOf_append_of_notMem hnew]
  simp

theorem order_append (seen : List κ) (ws more : List (κ × String)) :
    order seen (ws ++ more) = order (order seen ws) more := by
  induction ws generalizing seen with
  | nil => rfl
  | cons w rest ih => exact ih (note seen w.1)

@[simp] theorem mem_order :
    k ∈ order seen ws ↔ k ∈ seen ∨ k ∈ ws.map (·.1) := by
  induction ws generalizing seen with
  | nil => simp [order]
  | cons w rest ih => simp only [order, ih, mem_note, List.map_cons, List.mem_cons, or_assoc]

theorem order_nodup (ws : List (κ × String)) (hseen : seen.Nodup) :
    (order seen ws).Nodup := by
  induction ws generalizing seen with
  | nil => exact hseen
  | cons w rest ih => exact ih (note_nodup w.1 hseen)

theorem order_eq_append (seen : List κ) (ws : List (κ × String)) :
    ∃ more, order seen ws = seen ++ more := by
  induction ws generalizing seen with
  | nil => exact ⟨[], by simp [order]⟩
  | cons w rest ih =>
    obtain ⟨more, hmore⟩ := ih (note seen w.1)
    obtain ⟨head, hhead⟩ := note_eq_append seen w.1
    exact ⟨head ++ more, by rw [order, hmore, hhead, List.append_assoc]⟩

theorem idxOf_order (ws : List (κ × String)) (hk : k ∈ seen) :
    (order seen ws).idxOf k = seen.idxOf k := by
  obtain ⟨more, hmore⟩ := order_eq_append seen ws
  rw [hmore, List.idxOf_append_of_mem hk]

/-! ## The marks -/

/-- The pieces written to one item, the empty ones left out. -/
def piecesOf (key : κ) (ws : List (κ × String)) : List String :=
  ((ws.filter fun w => w.1 = key).map (·.2)).filter (· ≠ "")

def textOf (key : κ) (ws : List (κ × String)) : String :=
  String.join (piecesOf key ws)

def pieceMarks (n : Nat) (key : κ) (piece : String) : List (Nat × Mark κ) :=
  if piece = "" then [] else [(n, .wrote key piece)]

def openMarks (seen : List κ) (key : κ) : List (Nat × Mark κ) :=
  if key ∈ seen then [] else [(seen.length, .opened key)]

def marks (seen : List κ) : List (κ × String) → List (Nat × Mark κ)
  | [] => []
  | w :: rest =>
    openMarks seen w.1 ++ pieceMarks ((note seen w.1).idxOf w.1) w.1 w.2 ++
      marks (note seen w.1) rest

theorem marks_append (seen : List κ) (ws more : List (κ × String)) :
    marks seen (ws ++ more) = marks seen ws ++ marks (order seen ws) more := by
  induction ws generalizing seen with
  | nil => rfl
  | cons w rest ih => simp only [List.cons_append, marks, order, ih, List.append_assoc]

/-- `keys` closed one after the other. -/
def closing (seen : List κ) (text : κ → String) (keys : List κ) : List (Nat × Mark κ) :=
  keys.flatMap fun k => [(seen.idxOf k, .finished k), (seen.idxOf k, .closed k (text k))]

theorem textOf_append (key : κ) (ws more : List (κ × String)) :
    textOf key (ws ++ more) = textOf key ws ++ textOf key more := by
  simp [textOf, piecesOf, String.join_append]

theorem textOf_of_notMem (hkey : key ∉ ws.map (·.1)) :
    textOf key ws = "" := by
  have hnone : ws.filter (fun w => w.1 = key) = [] := by
    rw [List.filter_eq_nil_iff]
    intro w hw
    have hne : w.1 ≠ key := fun h => hkey (h ▸ List.mem_map_of_mem hw)
    simpa using hne
  simp [textOf, piecesOf, hnone]

theorem textOf_single_self (key : κ) (piece : String) : textOf key [(key, piece)] = piece := by
  by_cases hpiece : piece = "" <;> simp [textOf, piecesOf, hpiece]

theorem textOf_single_of_ne (piece : String) (hne : k ≠ key) :
    textOf k [(key, piece)] = "" := by
  simp [textOf, piecesOf, Ne.symm hne]

/-! ## One item's marks -/

/-- What the stream says under one number. -/
def at_ (n : Nat) (ms : List (Nat × Mark κ)) : List (Mark κ) :=
  (ms.filter fun m => m.1 = n).map (·.2)

omit [DecidableEq κ] in
theorem at_append (n : Nat) (ms more : List (Nat × Mark κ)) :
    at_ n (ms ++ more) = at_ n ms ++ at_ n more := by
  simp [at_]

omit [DecidableEq κ] in
theorem at_single (n : Nat) (m : Nat × Mark κ) :
    at_ n [m] = if m.1 = n then [m.2] else [] := by
  by_cases hm : m.1 = n <;> simp [at_, hm]

/-- The number an item is opened under is its number ever after. -/
theorem at_openMarks (seen : List κ) (w : κ × String) (rest : List (κ × String)) (k : κ) :
    at_ ((order seen (w :: rest)).idxOf k) (openMarks seen w.1)
      = if k = w.1 ∧ w.1 ∉ seen then [.opened w.1] else [] := by
  unfold openMarks
  by_cases hseen : w.1 ∈ seen
  · simp [hseen, at_]
  · have hself : (order seen (w :: rest)).idxOf w.1 = seen.length := by
      rw [order, idxOf_order rest (mem_note.2 (.inr rfl)), idxOf_note_self hseen]
    have hmem : w.1 ∈ order seen (w :: rest) := by simp
    rw [← hself, if_neg hseen, at_single]
    simp [hseen, List.idxOf_inj hmem, eq_comm (a := k)]

theorem at_pieceMarks (seen : List κ) (w : κ × String) (rest : List (κ × String)) (k : κ) :
    at_ ((order seen (w :: rest)).idxOf k) (pieceMarks ((note seen w.1).idxOf w.1) w.1 w.2)
      = if k = w.1 ∧ w.2 ≠ "" then [.wrote w.1 w.2] else [] := by
  unfold pieceMarks
  by_cases hpiece : w.2 = ""
  · simp [hpiece, at_]
  · have hself := idxOf_order rest (mem_note.2 (.inr rfl) : w.1 ∈ note seen w.1)
    have hmem : w.1 ∈ order seen (w :: rest) := by simp
    rw [← hself, ← order, if_neg hpiece, at_single]
    simp [hpiece, List.idxOf_inj hmem, eq_comm (a := k)]

theorem at_marks (hk : k ∈ order seen ws) :
    at_ ((order seen ws).idxOf k) (marks seen ws)
      = (if k ∈ seen then [] else [.opened k]) ++ (piecesOf k ws).map (.wrote k) := by
  induction ws generalizing seen with
  | nil =>
    have hseen : k ∈ seen := hk
    simp [marks, at_, piecesOf, hseen]
  | cons w rest ih =>
    simp only [marks, at_append, at_openMarks, at_pieceMarks]
    rw [order, ih hk]
    by_cases hkey : k = w.1
    · -- this write opens the item or finds it open
      subst hkey
      by_cases hpiece : w.2 = "" <;> by_cases hseen : w.1 ∈ seen <;>
        simp [piecesOf, hpiece, hseen]
    · simp [piecesOf, hkey, Ne.symm hkey]

theorem marks_lt {m : Nat × Mark κ} (hm : m ∈ marks seen ws) : m.1 < (order seen ws).length := by
  induction ws generalizing seen with
  | nil => cases hm
  | cons w rest ih =>
    obtain ⟨more, hmore⟩ := order_eq_append (note seen w.1) rest
    have hself : (note seen w.1).idxOf w.1 < (note seen w.1).length :=
      List.idxOf_lt_length_of_mem (mem_note.2 (.inr rfl))
    have hle : (note seen w.1).length ≤ (order seen (w :: rest)).length := by
      rw [order, hmore, List.length_append]
      omega
    simp only [marks, List.mem_append] at hm
    rcases hm with (hopen | hpiece) | hrest
    · unfold openMarks at hopen
      split at hopen
      · cases hopen
      · rename_i hnew
        obtain rfl := List.mem_singleton.1 hopen
        rw [note, if_neg hnew, List.length_append, List.length_singleton] at hle
        exact hle
    · unfold pieceMarks at hpiece
      split at hpiece
      · cases hpiece
      · obtain rfl := List.mem_singleton.1 hpiece
        exact Nat.lt_of_lt_of_le hself hle
    · exact ih hrest

theorem at_closing (text : κ → String) (hkeys : keys.Nodup) (hseen : ∀ key ∈ keys, key ∈ seen)
    (hk : k ∈ keys) :
    at_ (seen.idxOf k) (closing seen text keys) = [.finished k, .closed k (text k)] := by
  induction keys with
  | nil => cases hk
  | cons key rest ih =>
    have hrest := (List.nodup_cons.1 hkeys).2
    have hkey := hseen key List.mem_cons_self
    have hsub : ∀ key ∈ rest, key ∈ seen := fun key h => hseen key (List.mem_cons_of_mem _ h)
    rw [closing, List.flatMap_cons, at_append]
    rcases List.mem_cons.1 hk with rfl | hmem
    · have hnone : at_ (seen.idxOf k) (closing seen text rest) = [] := by
        rw [at_, closing, List.map_eq_nil_iff, List.filter_eq_nil_iff]
        rintro ⟨n, m⟩ hm
        obtain ⟨key, hkeyrest, hpair⟩ := List.mem_flatMap.1 hm
        have hne : key ≠ k := fun h => (List.nodup_cons.1 hkeys).1 (h ▸ hkeyrest)
        have hn : n = seen.idxOf key := by
          rcases List.mem_cons.1 hpair with h | h
          · exact congrArg Prod.fst h
          · exact congrArg Prod.fst (List.mem_singleton.1 h)
        simpa [hn, List.idxOf_inj (hsub key hkeyrest)] using hne
      rw [closing] at hnone
      rw [hnone]
      simp [at_]
    · have hne : key ≠ k := fun h => (List.nodup_cons.1 hkeys).1 (h ▸ hmem)
      have hidx : seen.idxOf key ≠ seen.idxOf k := fun h => hne ((List.idxOf_inj hkey).1 h)
      have hself : at_ (seen.idxOf k)
          [(seen.idxOf key, .finished key), (seen.idxOf key, .closed key (text key))] = [] := by
        simp [at_, hidx]
      rw [hself]
      exact ih hrest hsub hmem

theorem closing_lt {text : κ → String} (hseen : ∀ key ∈ keys, key ∈ seen) {m : Nat × Mark κ}
    (hm : m ∈ closing seen text keys) : m.1 < seen.length := by
  obtain ⟨key, hkey, hpair⟩ := List.mem_flatMap.1 hm
  have hlt := List.idxOf_lt_length_of_mem (hseen key hkey)
  rcases List.mem_cons.1 hpair with rfl | hlast
  · exact hlt
  · obtain rfl := List.mem_singleton.1 hlast
    exact hlt

/-- The life of an item, when `keys` are the items in the order in which
they are closed. -/
theorem at_life {n : Nat} (hkeys : keys.Nodup) (hmem : ∀ key, key ∈ keys ↔ key ∈ order [] ws)
    (hn : (order [] ws)[n]? = some k) :
    at_ n (marks [] ws ++ closing (order [] ws) (fun key => textOf key ws) keys)
      = .opened k :: (piecesOf k ws).map (.wrote k) ++ [.finished k, .closed k (textOf k ws)] := by
  obtain ⟨hlt, hget⟩ := List.getElem?_eq_some_iff.1 hn
  have hk : k ∈ order [] ws := hget ▸ List.getElem_mem hlt
  have hidx : n = (order [] ws).idxOf k := by
    rw [← hget, (order_nodup ws List.nodup_nil).idxOf_getElem]
  rw [hidx, at_append, at_marks hk,
    at_closing _ hkeys (fun key h => (hmem key).1 h) ((hmem k).2 hk)]
  simp

end YouBox.Interleave
