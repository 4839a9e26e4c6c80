import Mathlib

/-!
# Splitting a text outside its brackets

A splitter that counts brackets and cuts wherever the count is zero and the
separator stands: how expressions are taken apart without parsing them. It knows
nothing of string literals, so brackets and separators in them count.

`pieces_cases` is all that a run of the splitter can be: nothing is cut, or the
first cut is at a separator with the count at zero. From it:

- `pieces_joinWith_iff`: joined texts come apart again exactly if no text is cut
  and the brackets of every text but the last balance (`Splits`);
- `lockstep`: let the trimmed parts of a text be told apart from the joined texts
  by nothing that follows them (`Determines`); then the text is the joined one and
  was cut where it was joined. This is how one shows that a reader has read what
  was written, and not something else that looks the same.
-/

namespace YouBox

namespace TopSplit

variable {α : Type*}

/-! ## Joining and trimming -/

def joinWith (sep : List α) : List (List α) → List α
  | [] => []
  | [t] => t
  | t :: u :: ts => t ++ sep ++ joinWith sep (u :: ts)

@[simp] theorem joinWith_singleton (sep t : List α) : joinWith sep [t] = t := rfl

theorem joinWith_cons {sep t : List α} {ts : List (List α)} (h : ts ≠ []) :
    joinWith sep (t :: ts) = t ++ sep ++ joinWith sep ts := by
  cases ts with
  | nil => exact absurd rfl h
  | cons u ts => rfl

theorem prefix_joinWith (sep t : List α) (ts : List (List α)) : t <+: joinWith sep (t :: ts) := by
  cases ts with
  | nil => exact List.prefix_rfl
  | cons u ts =>
    rw [joinWith, List.append_assoc]
    exact List.prefix_append _ _

theorem joinWith_ne_nil {sep : List α} {ts : List (List α)} (hts : ts ≠ [])
    (hne : ∀ t ∈ ts, t ≠ []) : joinWith sep ts ≠ [] := by
  obtain ⟨t, us, rfl⟩ := List.exists_cons_of_ne_nil hts
  exact (prefix_joinWith sep t us).ne_nil (hne t List.mem_cons_self)

def trimBy (space : α → Bool) (s : List α) : List α :=
  ((s.dropWhile space).reverse.dropWhile space).reverse

section Trim

variable {space : α → Bool}

/-- What is trimmed is space. -/
theorem trimBy_spec (space : α → Bool) (s : List α) :
    ∃ pre post, s = pre ++ trimBy space s ++ post ∧ (∀ x ∈ pre, space x = true)
      ∧ ∀ x ∈ post, space x = true := by
  refine ⟨s.takeWhile space, ((s.dropWhile space).reverse.takeWhile space).reverse, ?_, ?_, ?_⟩
  · rw [trimBy, List.append_assoc, ← List.reverse_append, List.takeWhile_append_dropWhile,
      List.reverse_reverse, List.takeWhile_append_dropWhile]
  · intro x hx
    exact List.mem_takeWhile_imp hx
  · intro x hx
    exact List.mem_takeWhile_imp (List.mem_reverse.mp hx)

theorem trimBy_eq_self {s : List α} (hhead : ∀ x ∈ s.head?, space x = false)
    (hlast : ∀ x ∈ s.getLast?, space x = false) : trimBy space s = s := by
  have hdrop : ∀ {l : List α}, (∀ x ∈ l.head?, space x = false) → l.dropWhile space = l := by
    intro l hl
    cases l with
    | nil => rfl
    | cons a l => simp [hl a rfl]
  rw [trimBy, hdrop hhead, hdrop (by simpa using hlast), List.reverse_reverse]

theorem not_space_getLast_trimBy (s : List α) :
    ∀ x ∈ (trimBy space s).getLast?, space x = false := by
  intro x hx
  rw [trimBy, List.getLast?_reverse, Option.mem_def] at hx
  have h := List.head?_dropWhile_not space (s.dropWhile space).reverse
  rw [hx] at h
  simpa using h

theorem not_space_head_trimBy (s : List α) : ∀ x ∈ (trimBy space s).head?, space x = false := by
  intro x hx
  rw [trimBy, List.head?_reverse, Option.mem_def] at hx
  -- what is left of the reversed text ends as all of it does
  obtain ⟨pre, hpre⟩ := List.dropWhile_suffix (p := space) (l := (s.dropWhile space).reverse)
  have hlast : (s.dropWhile space).reverse.getLast? = some x := by
    rw [← hpre, List.getLast?_append, hx]
    rfl
  have h := List.head?_dropWhile_not space s
  rw [← List.getLast?_reverse, hlast] at h
  simpa using h

theorem trimBy_trimBy (s : List α) : trimBy space (trimBy space s) = trimBy space s :=
  trimBy_eq_self (not_space_head_trimBy s) (not_space_getLast_trimBy s)

theorem mem_getLast?_joinWith {sep : List α} {ts : List (List α)} (hne : ∀ t ∈ ts, t ≠ []) {x : α}
    (hx : x ∈ (joinWith sep ts).getLast?) : ∃ t ∈ ts, x ∈ t.getLast? := by
  induction ts with
  | nil => cases hx
  | cons t ts ih =>
    by_cases hts : ts = []
    · subst hts
      exact ⟨t, List.mem_cons_self, hx⟩
    · have hjoin : joinWith sep ts ≠ [] :=
        joinWith_ne_nil hts (fun u hu => hne u (List.mem_cons_of_mem t hu))
      rw [joinWith_cons hts, List.getLast?_append,
        List.getLast?_eq_getLast_of_ne_nil hjoin] at hx
      obtain ⟨u, hu, hxu⟩ := ih (fun u hu => hne u (List.mem_cons_of_mem t hu))
        (by rw [List.getLast?_eq_getLast_of_ne_nil hjoin]; exact hx)
      exact ⟨u, List.mem_cons_of_mem t hu, hxu⟩

/-- What is joined of texts that start and end with something else needs no
trimming. -/
theorem trimBy_joinWith {sep : List α} {ts : List (List α)}
    (hhead : ∀ t ∈ ts, ∃ c t', t = c :: t' ∧ space c = false)
    (hlast : ∀ t ∈ ts, ∀ x ∈ t.getLast?, space x = false) :
    trimBy space (joinWith sep ts) = joinWith sep ts := by
  refine trimBy_eq_self ?_ ?_
  · intro x hx
    cases ts with
    | nil => cases hx
    | cons t ts =>
      obtain ⟨c, t', rfl, hc⟩ := hhead t List.mem_cons_self
      obtain ⟨r, hr⟩ := prefix_joinWith sep (c :: t') ts
      rw [← hr] at hx
      obtain rfl : c = x := by simpa using hx
      exact hc
  · intro x hx
    have hne : ∀ t ∈ ts, t ≠ [] := by
      intro t ht
      obtain ⟨c, t', rfl, -⟩ := hhead t ht
      exact List.cons_ne_nil c t'
    obtain ⟨t, ht, hxt⟩ := mem_getLast?_joinWith hne hx
    exact hlast t ht x hxt

/-- A text that starts with something else is trimmed at its end only. -/
theorem trimBy_of_head {s : List α} {c : α} (hc : space c = false) :
    ∃ post, c :: s = trimBy space (c :: s) ++ post ∧ (∀ x ∈ post, space x = true)
      ∧ trimBy space (c :: s) ≠ [] := by
  obtain ⟨pre, post, hs, hpre, hpost⟩ := trimBy_spec space (c :: s)
  have hnil : pre = [] := by
    cases pre with
    | nil => rfl
    | cons a pre =>
      have hac : c = a := by
        simpa using congrArg List.head? hs
      have ha := hpre a List.mem_cons_self
      rw [← hac, hc] at ha
      cases ha
  subst hnil
  refine ⟨post, by simpa using hs, hpost, ?_⟩
  intro hempty
  rw [hempty] at hs
  have hmem : c ∈ post := by
    have : c :: s = post := by simpa using hs
    rw [← this]
    exact List.mem_cons_self
  have := hpost c hmem
  rw [hc] at this
  cases this

end Trim

/-! ## The splitter -/

variable [DecidableEq α] (opening closing : α) (sep : List α)

def shift (c : α) : Int :=
  if c = opening then 1 else if c = closing then -1 else 0

def depth (s : List α) : Int := (s.map (shift opening closing)).sum

/-- The texts between the cuts; the first argument counts what is left to skip of
a separator, the second the open brackets. -/
def pieces : Nat → Int → List α → List (List α)
  | _, _, [] => [[]]
  | k + 1, d, _ :: cs => pieces k d cs
  | 0, d, c :: cs =>
    let d := d + shift opening closing c
    if d = 0 ∧ sep <+: c :: cs then [] :: pieces (sep.length - 1) d cs
    else (pieces 0 d cs).modifyHead (c :: ·)

/-- The splitter does not cut inside the text. -/
def uncut : Int → List α → Bool
  | _, [] => true
  | d, c :: cs =>
    let d := d + shift opening closing c
    decide (¬ (d = 0 ∧ sep <+: c :: cs)) && uncut d cs

/-- Space, then something else, and no brackets. -/
structure IsSeparator (space : α → Bool) : Prop where
  plain : ∀ x ∈ sep, x ≠ opening ∧ x ≠ closing
  shape : ∃ b q rest, sep = b :: q :: rest ∧ space b = true ∧ space q = false

/-- No text is cut, and the brackets of every text but the last balance. -/
structure Splits (ts : List (List α)) : Prop where
  uncut : ∀ t ∈ ts, uncut opening closing sep 0 t = true
  balanced : ∀ t ∈ ts.dropLast, depth opening closing t = 0

section

variable {opening closing : α} {sep : List α} {space : α → Bool}

theorem depth_cons (c : α) (s : List α) :
    depth opening closing (c :: s) = shift opening closing c + depth opening closing s := by
  simp [depth]

theorem pieces_skip (u : List α) (d : Int) (s : List α) :
    pieces opening closing sep u.length d (u ++ s) = pieces opening closing sep 0 d s := by
  induction u with
  | nil => rfl
  | cons a u ih => exact ih

theorem uncut_cons {d : Int} {c : α} {cs : List α} :
    uncut opening closing sep d (c :: cs) = true
      ↔ ¬ (d + shift opening closing c = 0 ∧ sep <+: c :: cs)
        ∧ uncut opening closing sep (d + shift opening closing c) cs = true := by
  rw [uncut, Bool.and_eq_true, decide_eq_true_eq]

/-- At a cut: the separator is passed over, at the same count. -/
theorem pieces_cut (hsep : IsSeparator opening closing sep space) (v : List α) :
    pieces opening closing sep 0 0 (sep ++ v) = [] :: pieces opening closing sep 0 0 v := by
  obtain ⟨b, q, rest, rfl, -, -⟩ := hsep.shape
  have hb : shift opening closing b = 0 := by
    obtain ⟨ho, hc⟩ := hsep.plain b List.mem_cons_self
    simp [shift, ho, hc]
  have hskip : pieces opening closing (b :: q :: rest) (q :: rest).length 0 (q :: rest ++ v)
      = pieces opening closing (b :: q :: rest) 0 0 v := pieces_skip (q :: rest) 0 v
  simp only [List.cons_append, pieces, hb, Int.add_zero] at hskip ⊢
  rw [if_pos ⟨trivial, v, rfl⟩]
  exact congrArg ([] :: ·) hskip

/-- **Everything a run of the splitter can be**: nothing is cut, or the first cut
is at a separator where the count is zero. -/
theorem pieces_cases (hsep : IsSeparator opening closing sep space) (d : Int) (s : List α) :
    (uncut opening closing sep d s = true ∧ pieces opening closing sep 0 d s = [s])
      ∨ ∃ u v, s = u ++ sep ++ v ∧ uncut opening closing sep d u = true
        ∧ d + depth opening closing u = 0
        ∧ pieces opening closing sep 0 d s = u :: pieces opening closing sep 0 0 v := by
  induction s generalizing d with
  | nil => exact Or.inl ⟨rfl, rfl⟩
  | cons c cs ih =>
    by_cases hcut : d + shift opening closing c = 0 ∧ sep <+: c :: cs
    · -- the separator stands here
      obtain ⟨hzero, v, hv⟩ := hcut
      have hc : shift opening closing c = 0 := by
        have hmem : c ∈ sep := by
          obtain ⟨b, q, rest, rfl, -, -⟩ := hsep.shape
          rw [← (List.cons.inj hv).1]
          exact List.mem_cons_self
        obtain ⟨ho, hcl⟩ := hsep.plain c hmem
        simp [shift, ho, hcl]
      obtain rfl : d = 0 := by omega
      refine Or.inr ⟨[], v, by simpa using hv.symm, rfl, by simp [depth], ?_⟩
      rw [← hv]
      exact pieces_cut hsep v
    · have hgo : pieces opening closing sep 0 d (c :: cs)
          = (pieces opening closing sep 0 (d + shift opening closing c) cs).modifyHead
            (c :: ·) := by
        simp only [pieces]
        rw [if_neg hcut]
      rcases ih (d + shift opening closing c) with
        ⟨huncut, hpieces⟩ | ⟨u, v, rfl, hu, hz, hpieces⟩
      · refine Or.inl ⟨uncut_cons.mpr ⟨hcut, huncut⟩, ?_⟩
        rw [hgo, hpieces]
        rfl
      · refine Or.inr ⟨c :: u, v, by simp, ?_, ?_, ?_⟩
        · refine uncut_cons.mpr ⟨?_, hu⟩
          rintro ⟨hzero, hpre⟩
          refine hcut ⟨hzero, hpre.trans ?_⟩
          exact ⟨sep ++ v, by simp⟩
        · rw [depth_cons]
          omega
        · rw [hgo, hpieces]
          rfl

/-- A text that is not cut, and ends with nothing the separator could start
with, is cut off by the separator after it. -/
theorem pieces_append (hsep : IsSeparator opening closing sep space) {d : Int} {t v : List α}
    (hend : ∀ x ∈ t.getLast?, x ∉ sep) (huncut : uncut opening closing sep d t = true)
    (hdepth : d + depth opening closing t = 0) :
    pieces opening closing sep 0 d (t ++ sep ++ v) = t :: pieces opening closing sep 0 0 v := by
  induction t generalizing d with
  | nil =>
    obtain rfl : d = 0 := by simpa [depth] using hdepth
    exact pieces_cut hsep v
  | cons c t ih =>
    obtain ⟨hhere, hrest⟩ := uncut_cons.mp huncut
    have hno : ¬ (d + shift opening closing c = 0 ∧ sep <+: c :: (t ++ sep ++ v)) := by
      rintro ⟨hzero, hpre⟩
      -- a separator that does not fit into the text would start with all of it
      have hpre' : sep <+: (c :: t) ++ (sep ++ v) := by simpa using hpre
      rcases List.prefix_or_prefix_of_prefix hpre' (List.prefix_append (c :: t) _) with h | h
      · exact hhere ⟨hzero, h⟩
      · have hlast : (c :: t).getLast (List.cons_ne_nil c t) ∈ sep :=
          h.subset (List.getLast_mem _)
        exact hend _ (List.getLast?_eq_getLast_of_ne_nil (List.cons_ne_nil c t)) hlast
    have hend' : ∀ x ∈ t.getLast?, x ∉ sep := by
      intro x hx
      refine hend x ?_
      cases t with
      | nil => cases hx
      | cons a t => rw [List.getLast?_cons_cons]; exact hx
    rw [depth_cons] at hdepth
    simp only [List.cons_append, pieces]
    rw [if_neg hno, ih hend' hrest (by omega)]
    rfl

theorem pieces_ne_nil (hsep : IsSeparator opening closing sep space) (d : Int) (s : List α) :
    pieces opening closing sep 0 d s ≠ [] := by
  rcases pieces_cases hsep d s with ⟨-, h⟩ | ⟨u, v, -, -, -, h⟩
  · rw [h]
    exact List.cons_ne_nil _ _
  · rw [h]
    exact List.cons_ne_nil _ _

theorem pieces_of_uncut {d : Int} {s : List α} (h : uncut opening closing sep d s = true) :
    pieces opening closing sep 0 d s = [s] := by
  induction s generalizing d with
  | nil => rfl
  | cons c cs ih =>
    obtain ⟨hno, hrest⟩ := uncut_cons.mp h
    simp only [pieces]
    rw [if_neg hno, ih hrest]
    rfl

/-- **Joined texts come apart again** exactly if they split. -/
theorem pieces_joinWith_iff (hsep : IsSeparator opening closing sep space) {ts : List (List α)}
    (hne : ts ≠ []) (hend : ∀ t ∈ ts, ∀ x ∈ t.getLast?, x ∉ sep) :
    pieces opening closing sep 0 0 (joinWith sep ts) = ts ↔ Splits opening closing sep ts := by
  induction ts with
  | nil => exact absurd rfl hne
  | cons t ts ih =>
    have hend' : ∀ t ∈ ts, ∀ x ∈ t.getLast?, x ∉ sep :=
      fun u hu => hend u (List.mem_cons_of_mem t hu)
    by_cases hts : ts = []
    · subst hts
      constructor
      · intro hpieces
        refine ⟨?_, by simp⟩
        rcases pieces_cases hsep 0 t with ⟨huncut, -⟩ | ⟨u, v, -, -, -, h⟩
        · simpa using huncut
        · rw [joinWith_singleton, h] at hpieces
          exact absurd (List.cons.inj hpieces).2 (pieces_ne_nil hsep 0 v)
      · intro h
        exact pieces_of_uncut (h.uncut t List.mem_cons_self)
    · have hlast : (t :: ts).dropLast = t :: ts.dropLast := by
        cases ts with
        | nil => exact absurd rfl hts
        | cons u ts => rfl
      rw [joinWith_cons hts]
      constructor
      · intro hpieces
        rcases pieces_cases hsep 0 (t ++ sep ++ joinWith sep ts) with
          ⟨-, h⟩ | ⟨u, v, hs, huncut, hz, h⟩
        · rw [h] at hpieces
          exact absurd (List.cons.inj hpieces).2.symm hts
        · rw [h] at hpieces
          obtain ⟨rfl, hrest⟩ := List.cons.inj hpieces
          obtain rfl : joinWith sep ts = v := by simpa using hs
          have hsplits := (ih hts hend').mp hrest
          refine ⟨?_, ?_⟩
          · intro x hx
            rcases List.mem_cons.mp hx with rfl | hx
            · exact huncut
            · exact hsplits.uncut x hx
          · rw [hlast]
            intro x hx
            rcases List.mem_cons.mp hx with rfl | hx
            · simpa using hz
            · exact hsplits.balanced x hx
      · intro h
        have hzero : (0 : Int) + depth opening closing t = 0 := by
          rw [h.balanced t (by rw [hlast]; exact List.mem_cons_self)]
          rfl
        rw [pieces_append hsep (hend t List.mem_cons_self) (h.uncut t List.mem_cons_self) hzero]
        refine congrArg (t :: ·) ((ih hts hend').mpr ⟨?_, ?_⟩)
        · exact fun x hx => h.uncut x (List.mem_cons_of_mem t hx)
        · exact fun x hx => h.balanced x (by rw [hlast]; exact List.mem_cons_of_mem t hx)

/-! ## Reading what was written -/

/-- The parts of a text: its pieces, trimmed, without those that are empty. -/
def parts (opening closing : α) (sep : List α) (space : α → Bool) (s : List α) : List (List α) :=
  ((pieces opening closing sep 0 0 s).map (trimBy space)).filter (fun p => p ≠ [])

theorem trimBy_of_mem_parts {s p : List α} (h : p ∈ parts opening closing sep space s) :
    trimBy space p = p := by
  obtain ⟨hmem, -⟩ := List.mem_filter.mp h
  obtain ⟨t, -, rfl⟩ := List.mem_map.mp hmem
  exact trimBy_trimBy t

theorem ne_nil_of_mem_parts {s p : List α} (h : p ∈ parts opening closing sep space s) :
    p ≠ [] := by
  simpa using (List.mem_filter.mp h).2

/-- Where the pieces are trimmed texts, they are the parts. -/
theorem parts_of_pieces {s : List α} {ts : List (List α)}
    (h : pieces opening closing sep 0 0 s = ts) (htrim : ∀ t ∈ ts, trimBy space t = t)
    (hne : ∀ t ∈ ts, t ≠ []) : parts opening closing sep space s = ts := by
  rw [parts, h, List.map_congr_left htrim, List.map_id'', List.filter_eq_self.mpr]
  · intro t ht
    simpa using hne t ht
  · exact fun _ => rfl

/-- Nothing that follows the two can make a difference between them. -/
def Determines (a t : List α) : Prop :=
  ∀ X, a <+: X → t <+: X → a = t

omit [DecidableEq α] in
/-- Between a text and what follows it there is no more space than there is. -/
theorem no_gap {post Z X : List α} {b q z : α} {rest Z' : List α}
    (hpost : ∀ x ∈ post, space x = true) (hz : space z = true) (hZ : Z = z :: Z')
    (hq : space q = false) (h : post ++ Z <+: X) (hX : b :: q :: rest <+: X) : post = [] := by
  cases post with
  | nil => rfl
  | cons w post =>
    obtain ⟨Y, rfl⟩ := hX
    have hsecond : ∃ x Y', post ++ Z = x :: Y' ∧ space x = true := by
      cases post with
      | nil => exact ⟨z, Z', hZ, hz⟩
      | cons x post =>
        exact ⟨x, post ++ Z, rfl, hpost x (List.mem_cons_of_mem w List.mem_cons_self)⟩
    obtain ⟨x, Y', hxY, hx⟩ := hsecond
    rw [List.cons_append, hxY, List.cons_append, List.cons_append, List.cons_prefix_cons,
      List.cons_prefix_cons] at h
    rw [h.2.1, hq] at hx
    cases hx

theorem parts_of_uncut {s : List α} (h : pieces opening closing sep 0 0 s = [s])
    (hs : trimBy space s ≠ []) : parts opening closing sep space s = [trimBy space s] := by
  simp [parts, h, hs]

theorem parts_of_cut {s u v : List α}
    (h : pieces opening closing sep 0 0 s = u :: pieces opening closing sep 0 0 v)
    (hu : trimBy space u ≠ []) :
    parts opening closing sep space s = trimBy space u :: parts opening closing sep space v := by
  simp [parts, h, hu]

/-- The first part of a text that starts with something else than space: it comes
first in the text, after it there is only space, and the rest is the text's end
or what follows the first separator. -/
theorem parts_first (hsep : IsSeparator opening closing sep space) {c : α} {s : List α}
    (hc : space c = false) {a : List α} {as : List (List α)}
    (hparts : parts opening closing sep space (c :: s) = a :: as) :
    ∃ post, (∀ x ∈ post, space x = true) ∧
      ((c :: s = a ++ post ∧ as = [] ∧ pieces opening closing sep 0 0 (c :: s) = [c :: s])
        ∨ ∃ v, c :: s = a ++ post ++ sep ++ v ∧ parts opening closing sep space v = as
          ∧ pieces opening closing sep 0 0 (c :: s)
            = (a ++ post) :: pieces opening closing sep 0 0 v) := by
  rcases pieces_cases hsep 0 (c :: s) with ⟨-, hpieces⟩ | ⟨u, v, hs, -, -, hpieces⟩
  · obtain ⟨post, hpost, hspace, hne⟩ := trimBy_of_head (s := s) hc
    rw [parts_of_uncut hpieces hne] at hparts
    obtain ⟨rfl, rfl⟩ := List.cons.inj hparts
    exact ⟨post, hspace, Or.inl ⟨hpost, rfl, hpieces⟩⟩
  · -- the separator starts with space, so the first piece is not empty
    obtain ⟨u', rfl⟩ : ∃ u', u = c :: u' := by
      cases u with
      | nil =>
        obtain ⟨b, q, rest, rfl, hb, -⟩ := hsep.shape
        obtain rfl : c = b := by simpa using congrArg List.head? hs
        rw [hc] at hb
        cases hb
      | cons x u =>
        obtain rfl : c = x := by simpa using congrArg List.head? hs
        exact ⟨u, rfl⟩
    obtain ⟨post, hpost, hspace, hne⟩ := trimBy_of_head (s := u') hc
    rw [parts_of_cut hpieces hne] at hparts
    obtain ⟨rfl, hrest⟩ := List.cons.inj hparts
    refine ⟨post, hspace, Or.inr ⟨v, ?_, hrest, ?_⟩⟩
    · rw [← hpost]
      exact hs
    · rw [← hpost]
      exact hpieces

/-- **The lockstep rule.** Where the parts of a text are as many as the joined
texts and each is determined by the one at its place, the text is the joined one,
cut where it was joined. The `tail` is what follows both; it cannot be taken for
a separator. -/
theorem lockstep (hsep : IsSeparator opening closing sep space) {b q : α} {tail rest : List α}
    (htail : tail = b :: q :: rest) (hb : space b = true) (hq : space q = false) (hqs : q ∉ sep)
    {ts as : List (List α)} {s X : List α} (hdet : List.Forall₂ Determines as ts) (hne : ts ≠ [])
    (hstart : ∀ t ∈ ts, ∃ c t', t = c :: t' ∧ space c = false)
    (hparts : parts opening closing sep space s = as)
    (hs : s ++ tail <+: X) (hts : joinWith sep ts ++ tail <+: X) :
    s = joinWith sep ts ∧ pieces opening closing sep 0 0 s = ts := by
  induction hdet generalizing s X with
  | nil => exact absurd rfl hne
  | @cons a t as ts hat hdet ih =>
    obtain ⟨c, t', rfl, hc⟩ := hstart t List.mem_cons_self
    obtain ⟨b', q', rest', rfl, hb', hq'⟩ := hsep.shape
    have hfirst : c :: t' <+: X :=
      (prefix_joinWith _ (c :: t') ts).trans ((List.prefix_append _ _).trans hts)
    -- both texts start with the same character
    obtain ⟨s', rfl⟩ : ∃ s', s = c :: s' := by
      cases s with
      | nil =>
        simp [parts, pieces, trimBy] at hparts
      | cons x s =>
        obtain ⟨Y, rfl⟩ := hfirst
        rw [List.cons_append, List.cons_append, List.cons_prefix_cons] at hs
        exact ⟨s, by rw [hs.1]⟩
    obtain ⟨post, hspace, hcases⟩ := parts_first hsep hc hparts
    have ha : a <+: X := by
      refine List.IsPrefix.trans ?_ hs
      rcases hcases with ⟨heq, -, -⟩ | ⟨v, heq, -, -⟩
      · rw [heq, List.append_assoc]
        exact List.prefix_append _ _
      · rw [heq, List.append_assoc, List.append_assoc, List.append_assoc]
        exact List.prefix_append _ _
    obtain rfl : a = c :: t' := hat X ha hfirst
    obtain ⟨Y, rfl⟩ := hfirst
    by_cases hnil : ts = []
    · -- the last text: nothing but the tail follows
      subst hnil
      obtain rfl : as = [] := by cases hdet; rfl
      have hY : tail <+: Y := by simpa using hts
      rcases hcases with ⟨heq, -, hpieces⟩ | ⟨v, heq, -, hpieces⟩
      · have hgap : post ++ tail <+: Y := by
          rw [heq, List.append_assoc] at hs
          exact (List.prefix_append_right_inj _).mp hs
        obtain rfl : post = [] := no_gap hspace hb htail hq hgap (htail ▸ hY)
        rw [List.append_nil] at heq
        exact ⟨heq, by rw [hpieces, heq]⟩
      · have hgap : post ++ (b' :: q' :: rest' ++ v ++ tail) <+: Y := by
          rw [heq] at hs
          refine (List.prefix_append_right_inj (c :: t')).mp ?_
          simpa [List.append_assoc] using hs
        obtain rfl : post = [] := no_gap hspace hb' rfl hq hgap (htail ▸ hY)
        obtain ⟨W, rfl⟩ := hY
        rw [htail] at hgap
        simp only [List.nil_append, List.cons_append, List.cons_prefix_cons] at hgap
        exact absurd (hgap.2.1 ▸ List.mem_cons_of_mem _ List.mem_cons_self) hqs
    · have hY : b' :: q' :: rest' ++ (joinWith (b' :: q' :: rest') ts ++ tail) <+: Y := by
        rw [joinWith_cons hnil] at hts
        refine (List.prefix_append_right_inj (c :: t')).mp ?_
        simpa [List.append_assoc] using hts
      rcases hcases with ⟨-, has, -⟩ | ⟨v, heq, hrest, hpieces⟩
      · -- one part only, but more texts
        rw [has] at hdet
        exact absurd (by cases hdet; rfl) hnil
      · have hgap : post ++ (b' :: q' :: rest' ++ (v ++ tail)) <+: Y := by
          rw [heq] at hs
          refine (List.prefix_append_right_inj (c :: t')).mp ?_
          simpa [List.append_assoc] using hs
        obtain rfl : post = [] := no_gap hspace hb' rfl hq' hgap
          ((List.prefix_append (b' :: q' :: rest') _).trans hY)
        obtain ⟨W, rfl⟩ := (List.prefix_append (b' :: q' :: rest') _).trans hY
        rw [List.nil_append] at hgap
        obtain ⟨hv, hp⟩ := ih hnil (fun x hx => hstart x (List.mem_cons_of_mem _ hx)) hrest
          ((List.prefix_append_right_inj _).mp hgap) ((List.prefix_append_right_inj _).mp hY)
        rw [joinWith_cons hnil]
        refine ⟨by rw [heq, hv, List.append_nil], ?_⟩
        rw [hpieces, hp, List.append_nil]

/-! ## Nothing is lost -/

/-- The pieces, joined again, are the text. -/
theorem joinWith_pieces (hsep : IsSeparator opening closing sep space) (s : List α) :
    joinWith sep (pieces opening closing sep 0 0 s) = s := by
  induction hn : s.length using Nat.strongRecOn generalizing s with
  | ind n ih =>
    rcases pieces_cases hsep 0 s with ⟨-, hpieces⟩ | ⟨u, v, rfl, -, -, hpieces⟩
    · rw [hpieces, joinWith_singleton]
    · obtain ⟨b, q, rest, hshape, -, -⟩ := hsep.shape
      have hlt : v.length < n := by
        rw [← hn, hshape]
        simp only [List.length_append, List.length_cons]
        omega
      rw [hpieces, joinWith_cons (pieces_ne_nil hsep 0 v), ih _ hlt v rfl]

omit [DecidableEq α] in
theorem length_joinWith {ts : List (List α)} (hne : ts ≠ []) :
    (joinWith sep ts).length + sep.length = (ts.map (fun t => t.length + sep.length)).sum := by
  induction ts with
  | nil => exact absurd rfl hne
  | cons t ts ih =>
    by_cases hts : ts = []
    · subst hts
      simp
    · rw [joinWith_cons hts, List.map_cons, List.sum_cons, ← ih hts]
      simp only [List.length_append]
      omega

theorem count_joinWith {x : α} (hx : x ∉ sep) (ts : List (List α)) :
    (joinWith sep ts).count x = (ts.map (List.count x)).sum := by
  induction ts with
  | nil => rfl
  | cons t ts ih =>
    by_cases hts : ts = []
    · subst hts
      simp
    · rw [joinWith_cons hts, List.count_append, List.count_append, ih,
        List.count_eq_zero.mpr hx, List.map_cons, List.sum_cons]
      rfl

omit [DecidableEq α] in
theorem length_trimBy_le (s : List α) : (trimBy space s).length ≤ s.length := by
  obtain ⟨pre, post, hs, -, -⟩ := trimBy_spec space s
  have hlen := congrArg List.length hs
  simp only [List.length_append] at hlen
  omega

omit [DecidableEq α] in
theorem trimBy_eq_self_of_length {s : List α} (h : s.length ≤ (trimBy space s).length) :
    trimBy space s = s := by
  obtain ⟨pre, post, hs, -, -⟩ := trimBy_spec space s
  have hlen := congrArg List.length hs
  simp only [List.length_append] at hlen
  obtain rfl := List.length_eq_zero_iff.mp (show pre.length = 0 by omega)
  obtain rfl := List.length_eq_zero_iff.mp (show post.length = 0 by omega)
  simpa using hs.symm

theorem count_trimBy {x : α} (hx : space x = false) (s : List α) :
    (trimBy space s).count x = s.count x := by
  obtain ⟨pre, post, hs, hpre, hpost⟩ := trimBy_spec space s
  have hno : ∀ l : List α, (∀ y ∈ l, space y = true) → l.count x = 0 := by
    intro l hl
    refine List.count_eq_zero.mpr (fun hmem => ?_)
    have := hl x hmem
    rw [hx] at this
    cases this
  have hcount := congrArg (List.count x) hs
  simp only [List.count_append, hno pre hpre, hno post hpost] at hcount
  omega

/-- The parts of a text are not longer than it. -/
theorem length_parts_le (hsep : IsSeparator opening closing sep space) (s : List α) :
    ((parts opening closing sep space s).map (fun p => p.length + sep.length)).sum
      ≤ s.length + sep.length := by
  have hfilter : ∀ ts : List (List α),
      (((ts.map (trimBy space)).filter (fun p => p ≠ [])).map
          (fun p => p.length + sep.length)).sum
        ≤ (ts.map (fun t => t.length + sep.length)).sum := by
    intro ts
    induction ts with
    | nil => exact Nat.le_refl 0
    | cons t ts ih =>
      have hlen : (trimBy space t).length ≤ t.length := length_trimBy_le t
      rw [List.map_cons, List.map_cons, List.sum_cons, List.filter_cons]
      split
      · rw [List.map_cons, List.sum_cons]
        omega
      · omega
  calc ((parts opening closing sep space s).map (fun p => p.length + sep.length)).sum
      ≤ ((pieces opening closing sep 0 0 s).map (fun t => t.length + sep.length)).sum := hfilter _
    _ = (joinWith sep (pieces opening closing sep 0 0 s)).length + sep.length :=
        (length_joinWith (pieces_ne_nil hsep 0 s)).symm
    _ = s.length + sep.length := by rw [joinWith_pieces hsep]

/-- A character that is neither space nor part of the separator stays. -/
theorem count_parts (hsep : IsSeparator opening closing sep space) {x : α}
    (hspace : space x = false) (hx : x ∉ sep) (s : List α) :
    ((parts opening closing sep space s).map (List.count x)).sum = s.count x := by
  have hfilter : ∀ ts : List (List α),
      (((ts.map (trimBy space)).filter (fun p => p ≠ [])).map (List.count x)).sum
        = (ts.map (List.count x)).sum := by
    intro ts
    induction ts with
    | nil => rfl
    | cons t ts ih =>
      have hcount := count_trimBy hspace t
      rw [List.map_cons, List.map_cons, List.sum_cons, List.filter_cons]
      split
      · rw [List.map_cons, List.sum_cons, ih, hcount]
      · rename_i hempty
        have hnil : trimBy space t = [] := by simpa using hempty
        rw [hnil, List.count_nil] at hcount
        rw [ih, ← hcount, Nat.zero_add]
  rw [parts, hfilter, ← count_joinWith hx, joinWith_pieces hsep]

end

end TopSplit

end YouBox
