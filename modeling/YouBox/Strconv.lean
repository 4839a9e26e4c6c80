import Mathlib

/-!
# Numbers and truth values as text

What `strconv` prints is what it reads: `atoi_repr` for whole numbers and
`parseBool_formatBool` for truth values.
-/

namespace YouBox.Strconv

/-- A sign, where the text has one, and the rest; `-` makes it negative. -/
def signed : List Char → Bool × List Char
  | '-' :: cs => (true, cs)
  | '+' :: cs => (false, cs)
  | cs => (false, cs)

/-- `strconv.Atoi`, and `ParseInt` in base 10 to 64 bits. -/
def atoi (s : String) : Option Int :=
  let (negative, digits) := signed s.toList
  if digits.isEmpty || !digits.all Char.isDigit then none
  else
    let n : Int := Nat.ofDigitChars 10 digits 0
    let n := if negative then -n else n
    if -(2 ^ 63) ≤ n ∧ n < 2 ^ 63 then some n else none

/-- The number that `Atoi` returns, also beside an error: the nearest that fits, or zero
for a text that is no number. -/
def atoiValue (s : String) : Int :=
  let (negative, digits) := signed s.toList
  if digits.isEmpty || !digits.all Char.isDigit then 0
  else
    let n : Int := Nat.ofDigitChars 10 digits 0
    let n := if negative then -n else n
    max (-(2 ^ 63)) (min (2 ^ 63 - 1) n)

/-- `ParseUint`, which takes no sign. -/
def parseUint (s : String) : Option Nat :=
  if s.toList.isEmpty || !s.toList.all Char.isDigit then none
  else
    let n := Nat.ofDigitChars 10 s.toList 0
    if n < 2 ^ 64 then some n else none

def formatBool (b : Bool) : String := if b then "true" else "false"

def parseBool (s : String) : Option Bool :=
  if ["1", "t", "T", "true", "TRUE", "True"].contains s then some true
  else if ["0", "f", "F", "false", "FALSE", "False"].contains s then some false
  else none

@[simp] theorem parseBool_formatBool (b : Bool) : parseBool (formatBool b) = some b := by
  cases b <;> decide

theorem signed_toDigits (n : Nat) : signed (Nat.toDigits 10 n) = (false, Nat.toDigits 10 n) := by
  have hdigit : ∀ c ∈ Nat.toDigits 10 n, c.isDigit := fun c hc =>
    Nat.isDigit_of_mem_toDigits (by decide) (by decide) hc
  unfold signed
  split
  case h_1 cs heq => exact absurd (hdigit '-' (by simp [heq])) (by decide)
  case h_2 cs heq => exact absurd (hdigit '+' (by simp [heq])) (by decide)
  case h_3 => rfl

theorem toDigits_all_isDigit (n : Nat) : (Nat.toDigits 10 n).all Char.isDigit = true := by
  rw [List.all_eq_true]
  exact fun c hc => Nat.isDigit_of_mem_toDigits (by decide) (by decide) hc

theorem toDigits_isEmpty (n : Nat) : (Nat.toDigits 10 n).isEmpty = false := by
  simp [Nat.toDigits_ne_nil]

theorem atoi_repr {i : Int} (hlo : -(2 ^ 63) ≤ i) (hhi : i < 2 ^ 63) : atoi i.repr = some i := by
  cases i with
  | ofNat n =>
    simp only [atoi, Int.repr, Nat.toList_repr, signed_toDigits, toDigits_isEmpty,
      toDigits_all_isDigit, Nat.ofDigitChars_ten_toDigits]
    simpa using And.intro hlo hhi
  | negSucc n =>
    have hlist : (Int.negSucc n).repr.toList = '-' :: Nat.toDigits 10 (n + 1) := by
      simp [Int.repr, Nat.toList_repr]
    have hsigned : signed ('-' :: Nat.toDigits 10 (n + 1)) = (true, Nat.toDigits 10 (n + 1)) := rfl
    simp only [atoi, hlist, hsigned, toDigits_isEmpty, toDigits_all_isDigit,
      Nat.ofDigitChars_ten_toDigits]
    have hneg : -((n + 1 : Nat) : Int) = Int.negSucc n := rfl
    simp only [Bool.not_true, Bool.or_self, Bool.false_eq_true, if_false, if_true, hneg]
    rw [if_pos ⟨hlo, hhi⟩]

theorem parseUint_repr {n : Nat} (h : n < 2 ^ 64) : parseUint n.repr = some n := by
  simp only [parseUint, Nat.toList_repr, toDigits_isEmpty, toDigits_all_isDigit,
    Nat.ofDigitChars_ten_toDigits]
  simpa using h

end YouBox.Strconv
