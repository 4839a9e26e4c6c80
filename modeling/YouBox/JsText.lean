import YouBox.TopSplit

/-!
# JavaScript strings

Strings as sequences of UTF-16 code units, with what a program needs that writes
expressions as text and reads them back by regular expressions: `trim`,
`JSON.stringify` and `JSON.parse` of string literals, and the building blocks of
anchored patterns.

A string literal ends at its first quote that is not escaped, whatever follows
(`scanLiteral_some`). So of two literals that start at one place of a text, both
are the same (`literal_determined`).
-/

namespace YouBox

/-- UTF-16 code units. -/
abbrev JsString := List UInt16

/-- An ASCII text. -/
def js (s : String) : JsString := s.toList.map (fun c => c.toNat.toUInt16)

namespace JsText

variable {s : JsString} {u : UInt16} {c r X p q k : JsString}

variable {v : JsString} {P : UInt16 → Prop}

theorem forall_units [DecidablePred P] (h : s.all (fun u => decide (P u)) = true) :
    ∀ u ∈ s, P u := by
  simpa using h

theorem forall_head [DecidablePred P] (h : s.head?.all (fun u => decide (P u)) = true) :
    ∀ u ∈ s.head?, P u := by
  simpa [Option.all_eq_true] using h

def quote : UInt16 := 0x22

def backslash : UInt16 := 0x5c

def isLineTerminator (u : UInt16) : Bool := u ∈ [0x0a, 0x0d, 0x2028, 0x2029]

/-- What `trim` removes. -/
def isWhiteSpace (u : UInt16) : Bool :=
  u ∈ [0x09, 0x0a, 0x0b, 0x0c, 0x0d, 0x20, 0xa0, 0x1680, 0x2028, 0x2029, 0x202f, 0x205f, 0x3000,
      0xfeff]
    || (0x2000 ≤ u && u ≤ 0x200a)

def trim (s : JsString) : JsString := TopSplit.trimBy isWhiteSpace s

/-! ## String literals -/

def hexDigit (n : Nat) : UInt16 := if n < 10 then (48 + n).toUInt16 else (87 + n).toUInt16

def unicodeEscape (u : UInt16) : JsString :=
  [backslash, 0x75, hexDigit (u.toNat / 4096), hexDigit (u.toNat / 256 % 16),
    hexDigit (u.toNat / 16 % 16), hexDigit (u.toNat % 16)]

def isHighSurrogate (u : UInt16) : Bool := 0xd800 ≤ u && u ≤ 0xdbff

def isLowSurrogate (u : UInt16) : Bool := 0xdc00 ≤ u && u ≤ 0xdfff

/-- The letter of a short escape. -/
def shortEscape (u : UInt16) : Option UInt16 :=
  if u = quote then some quote
  else if u = backslash then some backslash
  else if u = 8 then some 0x62
  else if u = 9 then some 0x74
  else if u = 10 then some 0x6e
  else if u = 12 then some 0x66
  else if u = 13 then some 0x72
  else none

def escapeUnit (u : UInt16) : JsString :=
  match shortEscape u with
  | some e => [backslash, e]
  | none =>
    if u < 32 || isHighSurrogate u || isLowSurrogate u then unicodeEscape u else [u]

/-- A surrogate that is not part of a pair is escaped. -/
def escape : JsString → JsString
  | [] => []
  | [u] => escapeUnit u
  | u :: v :: s =>
    if isHighSurrogate u && isLowSurrogate v then u :: v :: escape s
    else escapeUnit u ++ escape (v :: s)

/-- `JSON.stringify` of a string. -/
def stringify (s : JsString) : JsString := quote :: (escape s ++ [quote])

/-- What a short escape stands for; unlike `JSON.stringify`, `JSON.parse` knows
`\/`. -/
def unescapeUnit (e : UInt16) : Option UInt16 :=
  if e = quote then some quote
  else if e = backslash then some backslash
  else if e = 0x2f then some 0x2f
  else if e = 0x62 then some 8
  else if e = 0x74 then some 9
  else if e = 0x6e then some 10
  else if e = 0x66 then some 12
  else if e = 0x72 then some 13
  else none

def hexValue (u : UInt16) : Option Nat :=
  if 48 ≤ u ∧ u ≤ 57 then some (u.toNat - 48)
  else if 97 ≤ u ∧ u ≤ 102 then some (u.toNat - 87)
  else if 65 ≤ u ∧ u ≤ 70 then some (u.toNat - 55)
  else none

/-- Where a reader of a literal stands: `more` hexadecimal digits come after the
next one, those before it make `acc`. -/
inductive LiteralState where
  | text
  | escaped
  | hex (more acc : Nat)

/-- The string of a literal, from after its opening quote, and what follows the
closing one. -/
def readLiteral : LiteralState → JsString → Option (JsString × JsString)
  | _, [] => none
  | .text, u :: s =>
    if u = quote then some ([], s)
    else if u = backslash then readLiteral .escaped s
    else if u < 32 then none
    else (readLiteral .text s).map (fun p => (u :: p.1, p.2))
  | .escaped, u :: s =>
    if u = 0x75 then readLiteral (.hex 3 0) s
    else
      match unescapeUnit u with
      | none => none
      | some v => (readLiteral .text s).map (fun p => (v :: p.1, p.2))
  | .hex more acc, u :: s =>
    match hexValue u, more with
    | none, _ => none
    | some n, 0 =>
      (readLiteral .text s).map (fun p => ((acc * 16 + n).toUInt16 :: p.1, p.2))
    | some n, more + 1 => readLiteral (.hex more (acc * 16 + n)) s

/-- `JSON.parse` of a text that starts with a quote: nothing may follow. -/
def parseString (s : JsString) : Option JsString :=
  match s with
  | [] => none
  | u :: s =>
    if u = quote then
      match readLiteral .text s with
      | some (v, []) => some v
      | _ => none
    else none

/-- The pattern `(?:[^"\\]|\\.)*"`: what is between the quotes and what follows;
the flag says that a backslash came before. -/
def scanLiteral : Bool → JsString → Option (JsString × JsString)
  | _, [] => none
  | false, u :: s =>
    if u = quote then some ([], s)
    else (scanLiteral (u == backslash) s).map (fun p => (u :: p.1, p.2))
  | true, u :: s =>
    if isLineTerminator u then none
    else (scanLiteral false s).map (fun p => (u :: p.1, p.2))

theorem hexValue_hexDigit : ∀ n < 16, hexValue (hexDigit n) = some n := by decide

theorem readLiteral_unicodeEscape (u : UInt16) (s : JsString) :
    readLiteral .text (unicodeEscape u ++ s)
      = (readLiteral .text s).map (fun p => (u :: p.1, p.2)) := by
  have hu : u.toNat < 65536 := u.toNat_lt
  have h₁ := hexValue_hexDigit (u.toNat / 4096) (by omega)
  have h₂ := hexValue_hexDigit (u.toNat / 256 % 16) (Nat.mod_lt _ (by decide))
  have h₃ := hexValue_hexDigit (u.toNat / 16 % 16) (Nat.mod_lt _ (by decide))
  have h₄ := hexValue_hexDigit (u.toNat % 16) (Nat.mod_lt _ (by decide))
  have hsum : (((0 * 16 + u.toNat / 4096) * 16 + u.toNat / 256 % 16) * 16 + u.toNat / 16 % 16) * 16
      + u.toNat % 16 = u.toNat := by omega
  have hback : ((((0 * 16 + u.toNat / 4096) * 16 + u.toNat / 256 % 16) * 16
      + u.toNat / 16 % 16) * 16 + u.toNat % 16).toUInt16 = u := by
    rw [hsum]
    exact UInt16.ofNat_toNat
  simp only [unicodeEscape, List.cons_append, List.nil_append, readLiteral, h₁, h₂, h₃, h₄, hback]
  rfl

theorem unescapeUnit_shortEscape {e : UInt16} (h : shortEscape u = some e) :
    unescapeUnit e = some u ∧ e ≠ 0x75 ∧ isLineTerminator e = false := by
  unfold shortEscape at h
  repeat' split at h
  all_goals first
    | (obtain rfl := Option.some.inj h; subst_vars; decide)
    | cases h

theorem plain_of_shortEscape_none (h : shortEscape u = none) :
    u ≠ quote ∧ u ≠ backslash := by
  constructor
  · rintro rfl
    cases h
  · rintro rfl
    cases h

theorem readLiteral_plain (hq : u ≠ quote) (hb : u ≠ backslash) (hu : ¬ u < 32) (s : JsString) :
    readLiteral .text (u :: s) = (readLiteral .text s).map (fun p => (u :: p.1, p.2)) := by
  rw [readLiteral, if_neg hq, if_neg hb, if_neg hu]

theorem readLiteral_escapeUnit (u : UInt16) (s : JsString) :
    readLiteral .text (escapeUnit u ++ s)
      = (readLiteral .text s).map (fun p => (u :: p.1, p.2)) := by
  unfold escapeUnit
  cases hs : shortEscape u with
  | some e =>
    obtain ⟨hback, hne, -⟩ := unescapeUnit_shortEscape hs
    have hstep : readLiteral .text ([backslash, e] ++ s) = readLiteral .escaped (e :: s) := rfl
    simp only [hstep, readLiteral, if_neg hne, hback]
  | none =>
    obtain ⟨hq, hb⟩ := plain_of_shortEscape_none hs
    simp only
    split
    · exact readLiteral_unicodeEscape u s
    · rename_i hplain
      refine readLiteral_plain hq hb ?_ s
      intro hlt
      exact hplain (by simp [hlt])

theorem surrogate_ne (h : isHighSurrogate u = true ∨ isLowSurrogate u = true) {w : UInt16}
    (hw : w < 0xd800) : u ≠ w := by
  have hge : (0xd800 : UInt16) ≤ u := by
    rcases h with h | h
    · simp only [isHighSurrogate, Bool.and_eq_true, decide_eq_true_eq] at h
      exact h.1
    · simp only [isLowSurrogate, Bool.and_eq_true, decide_eq_true_eq] at h
      exact UInt16.le_trans (by decide) h.1
  rintro rfl
  exact absurd hw (UInt16.not_lt.mpr hge)

theorem surrogate_plain (h : isHighSurrogate u = true ∨ isLowSurrogate u = true) :
    u ≠ quote ∧ u ≠ backslash ∧ ¬ u < 32 := by
  refine ⟨surrogate_ne h (by decide), surrogate_ne h (by decide), ?_⟩
  intro hlt
  exact surrogate_ne h (UInt16.lt_trans hlt (by decide)) rfl

theorem readLiteral_escape (s r : JsString) :
    readLiteral .text (escape s ++ quote :: r) = some (s, r) := by
  induction s using escape.induct with
  | case1 => rfl
  | case2 u =>
    rw [escape, readLiteral_escapeUnit]
    rfl
  | case3 u v s hpair ih =>
    obtain ⟨hu, hv⟩ := Bool.and_eq_true_iff.mp hpair
    obtain ⟨hq, hb, hlt⟩ := surrogate_plain (Or.inl hu)
    obtain ⟨hq', hb', hlt'⟩ := surrogate_plain (Or.inr hv)
    rw [escape, if_pos hpair, List.cons_append, List.cons_append,
      readLiteral_plain hq hb hlt, readLiteral_plain hq' hb' hlt', ih]
    rfl
  | case4 u v s hpair ih =>
    rw [escape, if_neg hpair, List.append_assoc, readLiteral_escapeUnit, ih]
    rfl

theorem parseString_stringify (s : JsString) : parseString (stringify s) = some s := by
  have h := readLiteral_escape s []
  simp [stringify, parseString, h]

/-! ## Where a literal ends -/

def LiteralState.isEscaped : LiteralState → Bool
  | .escaped => true
  | _ => false

theorem unescapeUnit_not_lineTerminator {v : UInt16} (h : unescapeUnit u = some v) :
    isLineTerminator u = false := by
  unfold unescapeUnit at h
  repeat' split at h
  all_goals first
    | (subst_vars; decide)
    | cases h

theorem hexValue_plain {n : Nat} (h : hexValue u = some n) :
    u ≠ quote ∧ u ≠ backslash := by
  constructor
  · rintro rfl
    cases h
  · rintro rfl
    cases h

theorem scanLiteral_step (hq : u ≠ quote) (h : scanLiteral (u == backslash) s = some (c, r)) :
    scanLiteral false (u :: s) = some (u :: c, r) := by
  rw [scanLiteral, if_neg hq, h]
  rfl

theorem scanLiteral_escaped (hu : isLineTerminator u = false)
    (h : scanLiteral false s = some (c, r)) : scanLiteral true (u :: s) = some (u :: c, r) := by
  rw [scanLiteral, hu, h]
  rfl

theorem scanLiteral_of_readLiteral {st : LiteralState} (h : readLiteral st s = some (v, r)) :
    ∃ c, s = c ++ quote :: r ∧ scanLiteral st.isEscaped s = some (c, r) := by
  induction s generalizing st v with
  | nil => cases st <;> cases h
  | cons u s ih =>
    cases st with
    | text =>
      rw [readLiteral] at h
      split at h
      · rename_i hq
        obtain ⟨rfl, rfl⟩ := Prod.mk.inj (Option.some.inj h)
        refine ⟨[], by rw [hq]; rfl, ?_⟩
        show scanLiteral false (u :: s) = _
        rw [scanLiteral, if_pos hq]
      rename_i hq
      split at h
      · rename_i hb
        obtain ⟨c, hs, hscan⟩ := ih h
        refine ⟨u :: c, by rw [hs]; rfl, scanLiteral_step hq ?_⟩
        rw [beq_iff_eq.mpr hb]
        exact hscan
      rename_i hb
      split at h
      · cases h
      · obtain ⟨⟨w, r'⟩, hread, hp⟩ := Option.map_eq_some_iff.mp h
        cases hp
        obtain ⟨c, hs, hscan⟩ := ih hread
        refine ⟨u :: c, by rw [hs]; rfl, scanLiteral_step hq ?_⟩
        rw [beq_eq_false_iff_ne.mpr hb]
        exact hscan
    | escaped =>
      rw [readLiteral] at h
      split at h
      · rename_i hu
        obtain ⟨c, hs, hscan⟩ := ih h
        exact ⟨u :: c, by rw [hs]; rfl, scanLiteral_escaped (by rw [hu]; decide) hscan⟩
      · split at h
        · cases h
        · rename_i w hw
          obtain ⟨⟨w', r'⟩, hread, hp⟩ := Option.map_eq_some_iff.mp h
          cases hp
          obtain ⟨c, hs, hscan⟩ := ih hread
          exact ⟨u :: c, by rw [hs]; rfl,
            scanLiteral_escaped (unescapeUnit_not_lineTerminator hw) hscan⟩
    | hex more acc =>
      have hplain : ∀ {st' : LiteralState} {w : JsString}, st'.isEscaped = false →
          u ≠ quote ∧ u ≠ backslash → readLiteral st' s = some (w, r) →
          ∃ c, u :: s = c ++ quote :: r ∧ scanLiteral false (u :: s) = some (c, r) := by
        intro st' w hst hu hread
        obtain ⟨c, hs, hscan⟩ := ih hread
        rw [hst] at hscan
        refine ⟨u :: c, by rw [hs]; rfl, scanLiteral_step hu.1 ?_⟩
        rw [beq_eq_false_iff_ne.mpr hu.2]
        exact hscan
      cases hn : hexValue u with
      | none => simp only [readLiteral, hn] at h; cases h
      | some n =>
        cases more with
        | zero =>
          simp only [readLiteral, hn] at h
          obtain ⟨⟨w', r'⟩, hread, hp⟩ := Option.map_eq_some_iff.mp h
          cases hp
          exact hplain rfl (hexValue_plain hn) hread
        | succ more =>
          simp only [readLiteral, hn] at h
          exact hplain rfl (hexValue_plain hn) h

theorem scanLiteral_some {b : Bool} (h : scanLiteral b s = some (c, r)) :
    s = c ++ quote :: r ∧ ∀ x, scanLiteral b (c ++ quote :: x) = some (c, x) := by
  induction s generalizing b c with
  | nil => cases b <;> cases h
  | cons u s ih =>
    cases b with
    | false =>
      rw [scanLiteral] at h
      split at h
      · rename_i hq
        cases h
        exact ⟨by rw [hq]; rfl, fun x => by rw [List.nil_append, scanLiteral, if_pos rfl]⟩
      · rename_i hq
        obtain ⟨⟨c', r'⟩, hscan, hp⟩ := Option.map_eq_some_iff.mp h
        cases hp
        obtain ⟨hs, hall⟩ := ih hscan
        exact ⟨by rw [hs]; rfl, fun x => scanLiteral_step hq (hall x)⟩
    | true =>
      rw [scanLiteral] at h
      split at h
      · cases h
      · rename_i hu
        obtain ⟨⟨c', r'⟩, hscan, hp⟩ := Option.map_eq_some_iff.mp h
        cases hp
        obtain ⟨hs, hall⟩ := ih hscan
        exact ⟨by rw [hs]; rfl,
          fun x => scanLiteral_escaped (Bool.eq_false_iff.mpr hu) (hall x)⟩

/-- The text between the quotes of a literal. -/
def IsLiteral (c : JsString) : Prop :=
  ∀ x, scanLiteral false (c ++ quote :: x) = some (c, x)

theorem isLiteral_escape (s : JsString) : IsLiteral (escape s) := by
  obtain ⟨c, hs, hscan⟩ := scanLiteral_of_readLiteral (readLiteral_escape s [])
  obtain rfl : escape s = c := by simpa using hs
  exact (scanLiteral_some hscan).2

/-- **Two literals at one place are one.** -/
theorem literal_determined {c' : JsString} (h : IsLiteral c) (h' : IsLiteral c')
    (hX : c ++ [quote] <+: X) (hX' : c' ++ [quote] <+: X) : c = c' := by
  obtain ⟨x, rfl⟩ := hX
  obtain ⟨y, hy⟩ := hX'
  have hscan := h x
  have hscan' := h' y
  rw [show c' ++ quote :: y = c ++ quote :: x by simpa using hy] at hscan'
  exact (Prod.mk.inj (Option.some.inj (hscan.symm.trans hscan'))).1

theorem quote_notMem_escapeUnit (h : u ≠ quote) : quote ∉ escapeUnit u := by
  have hhex : ∀ n < 16, quote ≠ hexDigit n := by decide
  have hu := u.toNat_lt
  unfold escapeUnit
  cases hs : shortEscape u with
  | some e =>
    have he : quote ≠ e := by
      rintro rfl
      exact h (Option.some.inj (unescapeUnit_shortEscape hs).1).symm
    simp only [List.mem_cons, List.not_mem_nil, or_false, not_or]
    exact ⟨by decide, he⟩
  | none =>
    simp only
    split
    · simp only [unicodeEscape, List.mem_cons, List.not_mem_nil, or_false, not_or]
      exact ⟨by decide, by decide, hhex _ (by omega), hhex _ (by omega), hhex _ (by omega),
        hhex _ (by omega)⟩
    · simpa using h.symm

theorem quote_notMem_escape (h : quote ∉ s) : quote ∉ escape s := by
  induction s using escape.induct with
  | case1 => exact h
  | case2 u => exact quote_notMem_escapeUnit (fun hu => h (hu ▸ List.mem_cons_self))
  | case3 u v s hpair ih =>
    simp only [List.mem_cons, not_or] at h
    rw [escape, if_pos hpair]
    simp only [List.mem_cons, not_or]
    exact ⟨h.1, h.2.1, ih h.2.2⟩
  | case4 u v s hpair ih =>
    rw [List.mem_cons, not_or] at h
    rw [escape, if_neg hpair, List.mem_append, not_or]
    exact ⟨quote_notMem_escapeUnit (fun hu => h.1 hu.symm), ih h.2⟩

theorem length_escapeUnit_pos (u : UInt16) : 1 ≤ (escapeUnit u).length := by
  unfold escapeUnit
  split
  · exact Nat.le_add_left 1 1
  · split
    · exact Nat.le_add_left 1 5
    · exact Nat.le_refl 1

theorem length_le_length_escape (s : JsString) : s.length ≤ (escape s).length := by
  induction s using escape.induct with
  | case1 => exact Nat.le_refl 0
  | case2 u => exact length_escapeUnit_pos u
  | case3 u v s hpair ih =>
    rw [escape, if_pos hpair]
    simpa using ih
  | case4 u v s hpair ih =>
    have hu := length_escapeUnit_pos u
    rw [escape, if_neg hpair, List.length_append, List.length_cons]
    omega

theorem quote_notMem_of_escape_eq (h : escape s = s) : quote ∉ s := by
  induction s using escape.induct with
  | case1 => exact List.not_mem_nil
  | case2 u =>
    intro hmem
    obtain rfl : quote = u := by simpa using hmem
    cases h
  | case3 u v s hpair ih =>
    obtain ⟨hu, hv⟩ := Bool.and_eq_true_iff.mp hpair
    rw [escape, if_pos hpair] at h
    simp only [List.mem_cons, not_or]
    exact ⟨(surrogate_plain (Or.inl hu)).1.symm, (surrogate_plain (Or.inr hv)).1.symm,
      ih (List.cons.inj (List.cons.inj h).2).2⟩
  | case4 u v s hpair ih =>
    -- the escape is as long as the text, so nothing in it is escaped
    rw [escape, if_neg hpair] at h
    have hlen := congrArg List.length h
    have hrest := length_le_length_escape (v :: s)
    have hu := length_escapeUnit_pos u
    rw [List.length_append, List.length_cons] at hlen
    obtain ⟨w, hw⟩ : ∃ w, escapeUnit u = [w] := List.length_eq_one_iff.mp (by omega)
    rw [hw] at h
    obtain ⟨rfl, htail⟩ := List.cons.inj h
    simp only [List.mem_cons (a := quote) (b := w), not_or]
    refine ⟨?_, ih htail⟩
    rintro rfl
    cases hw

/-- The separators that `JSON.stringify` leaves as they are. -/
def hasSeparator (s : JsString) : Bool := s.any (fun u => u == 0x2028 || u == 0x2029)

theorem any_lineTerminator_escapeUnit (u : UInt16) :
    (escapeUnit u).any isLineTerminator = (u == 0x2028 || u == 0x2029) := by
  have hhex : ∀ n < 16, isLineTerminator (hexDigit n) = false := by decide
  have hu := u.toNat_lt
  unfold escapeUnit
  cases hs : shortEscape u with
  | some e =>
    have he := (unescapeUnit_shortEscape hs).2.2
    have hne : (u == 0x2028 || u == 0x2029) = false := by
      rw [Bool.or_eq_false_iff, beq_eq_false_iff_ne, beq_eq_false_iff_ne]
      constructor
      · rintro rfl
        cases hs
      · rintro rfl
        cases hs
    rw [hne, List.any_cons, List.any_cons, he]
    rfl
  | none =>
    simp only
    split
    · rename_i hcode
      have hne : (u == 0x2028 || u == 0x2029) = false := by
        rw [Bool.or_eq_false_iff, beq_eq_false_iff_ne, beq_eq_false_iff_ne]
        constructor
        · rintro rfl
          revert hcode
          decide
        · rintro rfl
          revert hcode
          decide
      rw [hne]
      have h₁ := hhex (u.toNat / 4096) (by omega)
      have h₂ := hhex (u.toNat / 256 % 16) (by omega)
      have h₃ := hhex (u.toNat / 16 % 16) (by omega)
      have h₄ := hhex (u.toNat % 16) (by omega)
      simp only [unicodeEscape, List.any_cons, List.any_nil, h₁, h₂, h₃, h₄]
      rfl
    · have hlf : u ≠ 0x0a := by
        rintro rfl
        cases hs
      have hcr : u ≠ 0x0d := by
        rintro rfl
        cases hs
      simp [isLineTerminator, hlf, hcr, Bool.beq_eq_decide_eq]

theorem any_lineTerminator_escape (s : JsString) :
    (escape s).any isLineTerminator = hasSeparator s := by
  have hsurrogate : ∀ {u : UInt16}, isHighSurrogate u = true ∨ isLowSurrogate u = true →
      isLineTerminator u = false ∧ (u == 0x2028 || u == 0x2029) = false := by
    intro u hu
    have hne : ∀ w ∈ [(0x0a : UInt16), 0x0d, 0x2028, 0x2029], u ≠ w := by
      have hlt : ∀ w ∈ [(0x0a : UInt16), 0x0d, 0x2028, 0x2029], w < 0xd800 :=
        forall_units (by decide)
      exact fun w hw => surrogate_ne hu (hlt w hw)
    refine ⟨?_, ?_⟩
    · rw [isLineTerminator, decide_eq_false_iff_not]
      exact fun hmem => hne u hmem rfl
    · rw [Bool.or_eq_false_iff, beq_eq_false_iff_ne, beq_eq_false_iff_ne]
      exact ⟨hne _ (by decide), hne _ (by decide)⟩
  induction s using escape.induct with
  | case1 => rfl
  | case2 u => rw [escape, any_lineTerminator_escapeUnit, hasSeparator]; simp
  | case3 u v s hpair ih =>
    obtain ⟨hu, hv⟩ := Bool.and_eq_true_iff.mp hpair
    obtain ⟨hu, hu'⟩ := hsurrogate (Or.inl hu)
    obtain ⟨hv, hv'⟩ := hsurrogate (Or.inr hv)
    rw [escape, if_pos hpair, List.any_cons, List.any_cons, ih, hu, hv]
    simp only [hasSeparator, List.any_cons, hu', hv']
  | case4 u v s hpair ih =>
    rw [escape, if_neg hpair, List.any_append, ih, any_lineTerminator_escapeUnit]
    rfl

/-! ## Anchored patterns

A pattern that starts at `^` takes its text from the left, and what is left is
matched by the rest of it. None of those here can match in two ways. -/

/-- A fixed text. -/
def expect : JsString → JsString → Option JsString
  | [], s => some s
  | _ :: _, [] => none
  | p :: ps, u :: s => if p = u then expect ps s else none

def untilQuote : JsString → Option (JsString × JsString)
  | [] => none
  | u :: s =>
    if u = quote then some ([], s)
    else (untilQuote s).map (fun p => (u :: p.1, p.2))

/-- The group `([^"]+)` with the quote that ends it. -/
def key (s : JsString) : Option (JsString × JsString) :=
  (untilQuote s).filter (fun p => p.1 ≠ [])

def isDigit (u : UInt16) : Bool := 48 ≤ u && u ≤ 57

/-- The class `[\d.eE+-]`. -/
def isNumberUnit (u : UInt16) : Bool := isDigit u || u ∈ js ".eE+-"

/-- The group `([\d.eE+-]+)`. -/
def number (s : JsString) : Option (JsString × JsString) :=
  match s.takeWhile isNumberUnit with
  | [] => none
  | n :: ns => some (n :: ns, s.dropWhile isNumberUnit)

/-- A group of alternatives, each with what it stands for. -/
def oneOf {β : Type} (table : List (JsString × β)) (s : JsString) : Option (β × JsString) :=
  table.findSome? fun entry => (expect entry.1 s).map (fun r => (entry.2, r))

/-- Nothing is left. -/
def ended (s : JsString) : Option Unit := if s = [] then some () else none

def IsKey (k : JsString) : Prop := k ≠ [] ∧ quote ∉ k

def IsNumber (n : JsString) : Prop := n ≠ [] ∧ ∀ u ∈ n, isNumberUnit u = true

theorem mem_of_isNumberUnit (h : isNumberUnit u = true) :
    u ∈ js "0123456789.eE+-" := by
  rw [isNumberUnit, Bool.or_eq_true] at h
  rcases h with hdigit | hsign
  · simp only [isDigit, Bool.and_eq_true, decide_eq_true_eq, UInt16.le_iff_toNat_le] at hdigit
    have hlow : 48 ≤ u.toNat := hdigit.1
    have hhigh : u.toNat ≤ 57 := hdigit.2
    have hmem : ∀ n < 10, (48 + n).toUInt16 ∈ js "0123456789.eE+-" := by decide
    have hu : (48 + (u.toNat - 48)).toUInt16 = u := by
      rw [Nat.add_sub_cancel' hlow]
      exact UInt16.ofNat_toNat
    rw [← hu]
    exact hmem _ (by omega)
  · have hsub : ∀ w ∈ js ".eE+-", w ∈ js "0123456789.eE+-" := forall_units (by decide)
    exact hsub u (by simpa using hsign)

theorem expect_eq_some_iff : expect p s = some r ↔ s = p ++ r := by
  induction p generalizing s with
  | nil => simp [expect]
  | cons a p ih =>
    cases s with
    | nil => simp [expect]
    | cons u s =>
      by_cases h : a = u
      · simp [expect, h, ih]
      · simp [expect, h, Ne.symm h]

theorem expect_append (p r : JsString) : expect p (p ++ r) = some r :=
  expect_eq_some_iff.mpr rfl

/-- Two texts that cannot start at one place. -/
def Clash (p q : JsString) : Prop := ¬ p <+: q ∧ ¬ q <+: p

instance (p q : JsString) : Decidable (Clash p q) := inferInstanceAs (Decidable (_ ∧ _))

theorem Clash.not_both (h : Clash p q) (hp : p <+: X) (hq : q <+: X) :
    False := by
  rcases List.prefix_or_prefix_of_prefix hp hq with hpq | hqp
  · exact h.1 hpq
  · exact h.2 hqp

theorem Clash.ne (h : Clash p q) (x y : JsString) : p ++ x ≠ q ++ y :=
  fun heq => h.not_both (List.prefix_append p x) ⟨y, heq.symm⟩

theorem expect_clash (h : Clash p q) (r : JsString) : expect p (q ++ r) = none := by
  cases he : expect p (q ++ r) with
  | none => rfl
  | some x => exact absurd (expect_eq_some_iff.mp he).symm (h.ne x r)

theorem oneOf_eq_some_iff {β : Type} {table : List (JsString × β)}
    (hclash : table.Pairwise (fun a b => Clash a.1 b.1)) {b : β} :
    oneOf table s = some (b, r) ↔ ∃ p, (p, b) ∈ table ∧ s = p ++ r := by
  induction table with
  | nil => simp [oneOf]
  | cons entry table ih =>
    obtain ⟨p₀, b₀⟩ := entry
    obtain ⟨hfirst, hrest⟩ := List.pairwise_cons.mp hclash
    have ih := ih hrest
    unfold oneOf at ih ⊢
    rw [List.findSome?_cons]
    cases he : expect p₀ s with
    | some r₀ =>
      obtain rfl := expect_eq_some_iff.mp he
      simp only [Option.map_some, Option.some.injEq, Prod.mk.injEq, List.mem_cons]
      constructor
      · rintro ⟨rfl, rfl⟩
        exact ⟨p₀, Or.inl ⟨rfl, rfl⟩, rfl⟩
      · rintro ⟨p, ⟨rfl, rfl⟩ | hmem, heq⟩
        · exact ⟨rfl, List.append_cancel_left heq⟩
        · exact absurd heq ((hfirst _ hmem).ne r₀ r)
    | none =>
      simp only [Option.map_none, ih, List.mem_cons, Prod.mk.injEq]
      constructor
      · rintro ⟨p, hmem, heq⟩
        exact ⟨p, Or.inr hmem, heq⟩
      · rintro ⟨p, ⟨rfl, rfl⟩ | hmem, rfl⟩
        · rw [expect_append] at he
          cases he
        · exact ⟨p, hmem, rfl⟩

theorem oneOf_map_eq_some_iff {β : Type} {text : β → JsString} {values : List β}
    (hclash : values.Pairwise (fun a b => Clash (text a) (text b))) {b : β} :
    oneOf (values.map (fun b => (text b, b))) s = some (b, r)
      ↔ b ∈ values ∧ s = text b ++ r := by
  rw [oneOf_eq_some_iff (List.pairwise_map.mpr hclash)]
  simp only [List.mem_map, Prod.mk.injEq]
  constructor
  · rintro ⟨p, ⟨b', hmem, rfl, rfl⟩, rfl⟩
    exact ⟨hmem, rfl⟩
  · rintro ⟨hmem, rfl⟩
    exact ⟨text b, ⟨b, hmem, rfl, rfl⟩, rfl⟩

theorem ended_eq_some_iff {x : Unit} : ended s = some x ↔ s = [] := by
  simp [ended]

theorem untilQuote_eq_some_iff :
    untilQuote s = some (k, r) ↔ quote ∉ k ∧ s = k ++ quote :: r := by
  induction s generalizing k with
  | nil => simp [untilQuote]
  | cons u s ih =>
    by_cases hu : u = quote
    · cases k with
      | nil => simp [untilQuote, hu]
      | cons a k =>
        simp only [untilQuote, if_pos hu, Option.some.injEq, Prod.mk.injEq, List.mem_cons,
          not_or, List.cons_append, List.cons.injEq]
        constructor
        · rintro ⟨h, -⟩
          cases h
        · rintro ⟨⟨h, -⟩, h', -⟩
          exact absurd (hu.symm.trans h') h
    · cases k with
      | nil => simp [untilQuote, hu]
      | cons a k =>
        simp only [untilQuote, if_neg hu, Option.map_eq_some_iff, Prod.mk.injEq, Prod.exists,
          List.mem_cons, not_or, List.cons_append, List.cons.injEq]
        constructor
        · rintro ⟨k', r', h, ⟨rfl, rfl⟩, rfl⟩
          obtain ⟨hk, hs⟩ := ih.mp h
          exact ⟨⟨Ne.symm hu, hk⟩, rfl, hs⟩
        · rintro ⟨⟨-, hk⟩, rfl, hs⟩
          exact ⟨k, r, ih.mpr ⟨hk, hs⟩, ⟨rfl, rfl⟩, rfl⟩

theorem key_eq_some_iff :
    key s = some (k, r) ↔ IsKey k ∧ s = k ++ quote :: r := by
  rw [key, Option.filter_eq_some_iff, untilQuote_eq_some_iff]
  simp only [IsKey, decide_eq_true_eq]
  tauto

theorem number_eq_some_iff {n : JsString} :
    number s = some (n, r)
      ↔ IsNumber n ∧ s = n ++ r ∧ ∀ u ∈ r.head?, isNumberUnit u = false := by
  constructor
  · intro h
    unfold number at h
    split at h
    · cases h
    · rename_i n₀ ns htake
      cases h
      refine ⟨⟨List.cons_ne_nil _ _, ?_⟩, ?_, ?_⟩
      · rw [← htake]
        exact fun u hu => List.mem_takeWhile_imp hu
      · rw [← htake]
        exact List.takeWhile_append_dropWhile.symm
      · have := List.head?_dropWhile_not isNumberUnit s
        intro u hu
        rw [Option.mem_def] at hu
        simpa [hu] using this
  · rintro ⟨⟨hne, hall⟩, rfl, hr⟩
    have htake : (n ++ r).takeWhile isNumberUnit = n := by
      rw [List.takeWhile_append_of_pos hall]
      cases r with
      | nil => simp
      | cons u r => simp [hr u rfl]
    have hdrop : (n ++ r).dropWhile isNumberUnit = r := by
      rw [List.dropWhile_append_of_pos hall]
      cases r with
      | nil => rfl
      | cons u r => simp [hr u rfl]
    rw [number, htake, hdrop]
    cases n with
    | nil => exact absurd rfl hne
    | cons n₀ ns => rfl

/-- The group `("(?:[^"\\]|\\.)*")`, its quotes included. -/
def literal (s : JsString) : Option (JsString × JsString) :=
  (expect [quote] s).bind fun s =>
    (scanLiteral false s).map (fun p => (quote :: (p.1 ++ [quote]), p.2))

theorem literal_eq_some_iff {l : JsString} :
    literal s = some (l, r) ↔ ∃ c, IsLiteral c ∧ l = quote :: (c ++ [quote]) ∧ s = l ++ r := by
  simp only [literal, Option.bind_eq_some_iff, expect_eq_some_iff, Option.map_eq_some_iff,
    Prod.mk.injEq, Prod.exists]
  constructor
  · rintro ⟨s, rfl, c, r', hscan, rfl, rfl⟩
    obtain ⟨rfl, hall⟩ := scanLiteral_some hscan
    exact ⟨c, hall, rfl, by simp⟩
  · rintro ⟨c, hc, rfl, rfl⟩
    exact ⟨c ++ quote :: r, by simp, c, r, hc r, rfl, rfl⟩

theorem isLiteral_of_parseString (h : parseString s = some v) :
    ∃ c, IsLiteral c ∧ s = quote :: (c ++ [quote]) := by
  unfold parseString at h
  split at h
  · cases h
  · split at h
    · rename_i u s hu
      split at h
      · rename_i w hread
        obtain ⟨c, hs, hscan⟩ := scanLiteral_of_readLiteral hread
        exact ⟨c, (scanLiteral_some hscan).2, by rw [hu, hs]⟩
      · cases h
    · cases h

theorem key_determined {k' r' : JsString} (hk : quote ∉ k) (hk' : quote ∉ k')
    (hX : k ++ quote :: r <+: X) (hX' : k' ++ quote :: r' <+: X) : k = k' := by
  obtain ⟨x, rfl⟩ := hX
  obtain ⟨y, hy⟩ := hX'
  have h : untilQuote (k ++ quote :: (r ++ x)) = some (k, r ++ x) :=
    untilQuote_eq_some_iff.mpr ⟨hk, rfl⟩
  have h' : untilQuote (k' ++ quote :: (r' ++ y)) = some (k', r' ++ y) :=
    untilQuote_eq_some_iff.mpr ⟨hk', rfl⟩
  rw [show k' ++ quote :: (r' ++ y) = k ++ quote :: (r ++ x) by simpa using hy] at h'
  exact (Prod.mk.inj (Option.some.inj (h.symm.trans h'))).1

/-! ## Numeric literals -/

/-- An optional unit of a class. -/
def dropOne (units : JsString) : JsString → JsString
  | [] => []
  | u :: s => if u ∈ units then s else u :: s

/-- The pattern `(?:[eE][+-]?\d+)?$`. -/
def isExponent : JsString → Bool
  | [] => true
  | u :: s =>
    let digits := dropOne (js "+-") s
    u ∈ js "eE" && digits ≠ [] && digits.all isDigit

/-- `NUMERIC_LITERAL_REGEX`, the pattern
`^-?(?:\d+\.?\d*|\.\d+)(?:[eE][+-]?\d+)?$`. -/
def isNumericLiteral (s : JsString) : Bool :=
  let s := dropOne (js "-") s
  let whole := s.takeWhile isDigit
  match s.dropWhile isDigit with
  | [] => whole ≠ []
  | u :: s =>
    if u ∈ js "." then
      (whole ≠ [] || s.takeWhile isDigit ≠ []) && isExponent (s.dropWhile isDigit)
    else whole ≠ [] && isExponent (u :: s)

theorem isNumberUnit_of_isDigit (h : isDigit u = true) : isNumberUnit u = true := by
  rw [isNumberUnit, h, Bool.true_or]

theorem isNumberUnit_dropOne (units : JsString) (hunits : ∀ u ∈ units, isNumberUnit u = true)
    (h : ∀ u ∈ dropOne units s, isNumberUnit u = true) : ∀ u ∈ s, isNumberUnit u = true := by
  cases s with
  | nil => exact h
  | cons a s =>
    rw [dropOne] at h
    split at h
    · rename_i ha
      exact List.forall_mem_cons.mpr ⟨hunits a ha, h⟩
    · exact h

theorem isNumberUnit_dropDigits (h : ∀ u ∈ s.dropWhile isDigit, isNumberUnit u = true) :
    ∀ u ∈ s, isNumberUnit u = true := by
  intro u hu
  rw [← List.takeWhile_append_dropWhile (p := isDigit) (l := s)] at hu
  rcases List.mem_append.mp hu with hu | hu
  · exact isNumberUnit_of_isDigit (List.mem_takeWhile_imp hu)
  · exact h u hu

theorem isNumberUnit_of_isExponent (h : isExponent s = true) :
    ∀ u ∈ s, isNumberUnit u = true := by
  cases s with
  | nil => intro u hu; cases hu
  | cons a s =>
    simp only [isExponent, Bool.and_eq_true, decide_eq_true_eq, List.all_eq_true] at h
    obtain ⟨⟨ha, -⟩, hdigits⟩ := h
    have hletters : ∀ u ∈ js "eE", isNumberUnit u = true := forall_units (by decide)
    have hsigns : ∀ u ∈ js "+-", isNumberUnit u = true := forall_units (by decide)
    exact List.forall_mem_cons.mpr ⟨hletters a ha, isNumberUnit_dropOne (js "+-") hsigns
      (fun u hu => isNumberUnit_of_isDigit (hdigits u hu))⟩

theorem isNumber_of_isNumericLiteral (h : isNumericLiteral s = true) :
    IsNumber s := by
  constructor
  · rintro rfl
    revert h
    decide
  · refine isNumberUnit_dropOne (js "-") (forall_units (by decide)) (isNumberUnit_dropDigits ?_)
    simp only [isNumericLiteral] at h
    split at h
    · rename_i hdrop
      rw [hdrop]
      intro u hu
      cases hu
    · rename_i a r hdrop
      rw [hdrop]
      split at h
      · rename_i ha
        have hpoint : ∀ u ∈ js ".", isNumberUnit u = true := forall_units (by decide)
        exact List.forall_mem_cons.mpr ⟨hpoint a ha,
          isNumberUnit_dropDigits (isNumberUnit_of_isExponent (Bool.and_eq_true_iff.mp h).2)⟩
      · exact isNumberUnit_of_isExponent (Bool.and_eq_true_iff.mp h).2

end JsText

end YouBox
