import Mathlib

/-!
# Bytes, words and nibbles

What a binary wire format is made of, independent of any format: 32-bit words
in network order (`be32`, `read32`), and bytes that pack two nibbles with
`x << 4 | y`. Reading is a partial inverse of writing in both directions:
`read32_be32` for the encoder's side, `be32_of_read32` for the decoder's.
-/

namespace YouBox

namespace Bytes

/-! ## Words -/

/-- The four bytes of a word, most significant first. -/
def be32 (w : UInt32) : List UInt8 :=
  [UInt8.ofNat (w.toNat / 2 ^ 24), UInt8.ofNat (w.toNat / 2 ^ 16),
    UInt8.ofNat (w.toNat / 2 ^ 8), UInt8.ofNat w.toNat]

def read32 : List UInt8 → Option (UInt32 × List UInt8)
  | a :: b :: c :: d :: rest =>
    some (UInt32.ofNat (a.toNat * 2 ^ 24 + b.toNat * 2 ^ 16 + c.toNat * 2 ^ 8 + d.toNat), rest)
  | _ => none

@[simp] theorem be32_length (w : UInt32) : (be32 w).length = 4 := rfl

@[simp] theorem read32_be32 (w : UInt32) (rest : List UInt8) :
    read32 (be32 w ++ rest) = some (w, rest) := by
  have hw := w.toNat_lt
  have hword : UInt32.ofNat ((w.toNat / 2 ^ 24) % 2 ^ 8 * 2 ^ 24
      + (w.toNat / 2 ^ 16) % 2 ^ 8 * 2 ^ 16 + (w.toNat / 2 ^ 8) % 2 ^ 8 * 2 ^ 8
      + w.toNat % 2 ^ 8) = w := by
    apply UInt32.toNat_inj.mp
    rw [UInt32.toNat_ofNat']
    omega
  simp only [be32, read32, List.cons_append, List.nil_append, UInt8.toNat_ofNat']
  rw [hword]

theorem be32_of_read32 {buf rest : List UInt8} {w : UInt32} (h : read32 buf = some (w, rest)) :
    buf = be32 w ++ rest := by
  match buf, h with
  | a :: b :: c :: d :: tail, h =>
    cases h
    have ha := a.toNat_lt
    have hb := b.toNat_lt
    have hc := c.toNat_lt
    have hd := d.toNat_lt
    have hn : (UInt32.ofNat (a.toNat * 2 ^ 24 + b.toNat * 2 ^ 16 + c.toNat * 2 ^ 8
        + d.toNat)).toNat
        = a.toNat * 2 ^ 24 + b.toNat * 2 ^ 16 + c.toNat * 2 ^ 8 + d.toNat := by
      rw [UInt32.toNat_ofNat']
      omega
    have hbyte : ∀ (x : UInt8) (n : Nat), n % 2 ^ 8 = x.toNat → UInt8.ofNat n = x := by
      intro x n hx
      apply UInt8.toNat_inj.mp
      rw [UInt8.toNat_ofNat']
      exact hx
    simp only [be32, List.cons_append, List.nil_append, hn]
    rw [hbyte a _ (by omega), hbyte b _ (by omega), hbyte c _ (by omega), hbyte d _ (by omega)]

/-! ## Nibbles -/

/-- `x << 4 | y`, in a byte. -/
def pack (x y : UInt8) : UInt8 := x <<< 4 ||| y

/-- A byte that fits in a nibble. -/
def Nibble (x : UInt8) : Prop := x < 16

instance (x : UInt8) : Decidable (Nibble x) := inferInstanceAs (Decidable (x < 16))

theorem forall_byte {p : UInt8 → Prop} (h : ∀ n : Fin 256, p (UInt8.ofFin n)) (x : UInt8) :
    p x := h x.toFin

theorem or_and (a b c : UInt8) : (a ||| b) &&& c = (a &&& c) ||| (b &&& c) := by
  apply UInt8.toNat_inj.mp
  simp only [UInt8.toNat_and, UInt8.toNat_or, Nat.and_or_distrib_right]

theorem pack_low_eq_iff (x y : UInt8) : pack x y &&& 15 = y ↔ Nibble y := by
  have hx : ∀ x : UInt8, (x <<< 4) &&& 15 = 0 := forall_byte (by decide +kernel)
  have hy : ∀ y : UInt8, y &&& 15 = y ↔ Nibble y := forall_byte (by decide +kernel)
  rw [pack, or_and, hx, UInt8.zero_or, hy]

theorem pack_high_eq_iff (x : UInt8) {y : UInt8} (hy : Nibble y) :
    pack x y >>> 4 = x ↔ Nibble x := by
  have hlow : ∀ y : UInt8, Nibble y → y >>> 4 = 0 := forall_byte (by decide +kernel)
  have hx : ∀ x : UInt8, (x <<< 4) >>> 4 = x ↔ Nibble x := forall_byte (by decide +kernel)
  rw [pack, UInt8.shiftRight_or, hlow y hy, UInt8.or_zero, hx]

/-- The upper nibble read in place, without the shift. -/
theorem pack_masked_eq_iff (x : UInt8) {y : UInt8} (hy : Nibble y) :
    pack x y &&& 240 = x ↔ x = 0 := by
  have hlow : ∀ y : UInt8, Nibble y → y &&& 240 = 0 := forall_byte (by decide +kernel)
  have hx : ∀ x : UInt8, (x <<< 4) &&& (240 : UInt8) = x ↔ x = 0 :=
    forall_byte (by decide +kernel)
  rw [pack, or_and, hlow y hy, UInt8.or_zero, hx]

end Bytes

end YouBox
